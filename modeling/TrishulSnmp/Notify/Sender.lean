import TrishulSnmp.Enrichment
import TrishulSnmp.Notify.Handshake
import TrishulSnmp.Security.Community
import TrishulSnmp.Wire.Encodable

namespace TrishulSnmp.Notify

open Outcome Asn1 Mib Wire UsmModel

abbrev NotificationVarBindInput := Target × SnmpValue

def normalizeExplicitVarbinds (varbinds : List NotificationVarBindInput) (bundle : Option Resolver) :
    Except Error (List (OID × SnmpValue)) :=
  if varbinds.isEmpty then .ok []
  else do
    let oids ← normalizeTargets (varbinds.map Prod.fst) bundle
    return oids.zip (varbinds.map Prod.snd)

def isTimeTicks : SnmpValue → Bool
  | .timeTicksValue _ => true
  | _ => false

def isObjectIdentifier : SnmpValue → Bool
  | .objectIdentifierValue _ => true
  | _ => false

structure NotificationVarbinds where
  sysUptime : SnmpValue
  trapOid : SnmpValue
  extras : List (OID × SnmpValue)

def NotificationVarbinds.add (built : NotificationVarbinds) (varbind : OID × SnmpValue) : NotificationVarbinds :=
  if varbind.1 = sysUptimeInstanceOid ∧ isTimeTicks varbind.2 then { built with sysUptime := varbind.2 }
  else if varbind.1 = snmpTrapOidInstanceOid ∧ isObjectIdentifier varbind.2 then { built with trapOid := varbind.2 }
  else { built with extras := built.extras ++ [varbind] }

def buildNotificationVarbinds (notificationOid : OID) (varbinds : List NotificationVarBindInput) (uptime : ℤ)
    (bundle : Option Resolver) : Except Error (List (OID × SnmpValue)) :=
  if uptime < 0 then .error (.valueError "uptime cannot be negative")
  else do
    let normalizedExplicit ← normalizeExplicitVarbinds varbinds bundle
    let built := normalizedExplicit.foldl NotificationVarbinds.add {
      sysUptime := .timeTicksValue uptime
      trapOid := .objectIdentifierValue notificationOid
      extras := [] }
    return (sysUptimeInstanceOid, built.sysUptime) :: (snmpTrapOidInstanceOid, built.trapOid) :: built.extras

def encodeNotificationRawVarbinds (notificationOid : OID) (varbinds : List NotificationVarBindInput) (uptime : ℤ)
    (bundle : Option Resolver) : Except Error (List RawVarBind) := do
  let normalized ← buildNotificationVarbinds notificationOid varbinds uptime bundle
  return buildRawVarbinds normalized

def uptimeOverride : OID × SnmpValue → Option ℤ
  | (oid, .timeTicksValue ticks) => if oid = sysUptimeInstanceOid then some ticks else none
  | _ => none

def trapOidOverride : OID × SnmpValue → Option OID
  | (oid, .objectIdentifierValue named) => if oid = snmpTrapOidInstanceOid then some named else none
  | _ => none

def announcedUptime (explicit : List (OID × SnmpValue)) (uptime : ℤ) : ℤ :=
  (explicit.filterMap uptimeOverride).getLastD uptime

def announcedOid (explicit : List (OID × SnmpValue)) (notificationOid : OID) : OID :=
  (explicit.filterMap trapOidOverride).getLastD notificationOid

def otherVarbinds (explicit : List (OID × SnmpValue)) : List (OID × SnmpValue) :=
  explicit.filter fun varbind => uptimeOverride varbind = none ∧ trapOidOverride varbind = none

def announcedVarbinds (explicit : List (OID × SnmpValue)) (uptime : ℤ) (notificationOid : OID) :
    List (OID × SnmpValue) :=
  (sysUptimeInstanceOid, .timeTicksValue (announcedUptime explicit uptime)) ::
    (snmpTrapOidInstanceOid, .objectIdentifierValue (announcedOid explicit notificationOid)) :: otherVarbinds explicit

theorem announcedUptime_cons (varbind : OID × SnmpValue) (explicit : List (OID × SnmpValue)) (uptime : ℤ) :
    announcedUptime (varbind :: explicit) uptime = announcedUptime explicit ((uptimeOverride varbind).getD uptime) := by
  rw [announcedUptime, List.filterMap_cons]
  cases uptimeOverride varbind with
  | none => rfl
  | some ticks => exact List.getLastD_cons ..

theorem announcedOid_cons (varbind : OID × SnmpValue) (explicit : List (OID × SnmpValue)) (notificationOid : OID) :
    announcedOid (varbind :: explicit) notificationOid =
      announcedOid explicit ((trapOidOverride varbind).getD notificationOid) := by
  rw [announcedOid, List.filterMap_cons]
  cases trapOidOverride varbind with
  | none => rfl
  | some named => exact List.getLastD_cons ..

theorem uptimeOverride_eq_some_iff {varbind : OID × SnmpValue} {ticks : ℤ} :
    uptimeOverride varbind = some ticks ↔ varbind = (sysUptimeInstanceOid, .timeTicksValue ticks) := by
  obtain ⟨oid, value⟩ := varbind
  cases value <;> simp [uptimeOverride]

theorem trapOidOverride_eq_some_iff {varbind : OID × SnmpValue} {named : OID} :
    trapOidOverride varbind = some named ↔ varbind = (snmpTrapOidInstanceOid, .objectIdentifierValue named) := by
  obtain ⟨oid, value⟩ := varbind
  cases value <;> simp [trapOidOverride]

theorem add_of_no_override {varbind : OID × SnmpValue} (huptime : uptimeOverride varbind = none)
    (htrap : trapOidOverride varbind = none) (built : NotificationVarbinds) :
    built.add varbind = { built with extras := built.extras ++ [varbind] } := by
  obtain ⟨oid, value⟩ := varbind
  rw [NotificationVarbinds.add, if_neg, if_neg]
  · cases value <;> simp_all [trapOidOverride, isObjectIdentifier]
  · cases value <;> simp_all [uptimeOverride, isTimeTicks]

theorem foldl_add (explicit extras : List (OID × SnmpValue)) (uptime : ℤ) (notificationOid : OID) :
    explicit.foldl NotificationVarbinds.add ⟨.timeTicksValue uptime, .objectIdentifierValue notificationOid, extras⟩ =
      ⟨.timeTicksValue (announcedUptime explicit uptime),
        .objectIdentifierValue (announcedOid explicit notificationOid), extras ++ otherVarbinds explicit⟩ := by
  induction explicit generalizing uptime notificationOid extras with
  | nil => rw [otherVarbinds, List.filter_nil, List.append_nil]; rfl
  | cons varbind explicit ih =>
    rw [List.foldl_cons]
    cases huptime : uptimeOverride varbind with
    | some ticks =>
      obtain rfl := uptimeOverride_eq_some_iff.mp huptime
      have hadd : NotificationVarbinds.add ⟨.timeTicksValue uptime, .objectIdentifierValue notificationOid, extras⟩
          (sysUptimeInstanceOid, .timeTicksValue ticks) =
            ⟨.timeTicksValue ticks, .objectIdentifierValue notificationOid, extras⟩ := rfl
      rw [hadd, ih]
      simp [announcedUptime_cons, announcedOid_cons, otherVarbinds, huptime, trapOidOverride]
    | none =>
      cases htrap : trapOidOverride varbind with
      | some named =>
        obtain rfl := trapOidOverride_eq_some_iff.mp htrap
        have hadd : NotificationVarbinds.add ⟨.timeTicksValue uptime, .objectIdentifierValue notificationOid, extras⟩
            (snmpTrapOidInstanceOid, .objectIdentifierValue named) =
              ⟨.timeTicksValue uptime, .objectIdentifierValue named, extras⟩ := rfl
        rw [hadd, ih]
        simp [announcedUptime_cons, announcedOid_cons, otherVarbinds, uptimeOverride, htrap]
      | none =>
        rw [add_of_no_override huptime htrap, ih]
        simp [announcedUptime_cons, announcedOid_cons, otherVarbinds, huptime, htrap]

structure Sendable (value : SnmpValue) : Prop where
  codec : ∃ enc, encodeValue value = .ok enc ∧ decodeValue enc = .ok value
  printable : ∀ n ∈ value.shownIntegers, PyText.Printable n

def SendableVarbind (varbind : OID × SnmpValue) : Prop :=
  Sendable (.objectIdentifierValue varbind.1) ∧ Sendable varbind.2

theorem Sendable.preserved {value : SnmpValue} (h : Sendable value) : Asn1.Preserved value := by
  obtain ⟨enc, -, hdecode⟩ := h.codec
  obtain ⟨tag, content, -, hcontent⟩ := decodeValue_ok_iff.mp hdecode
  exact hcontent.encodable.2

theorem Sendable.wellFormed {oid : OID} (h : Sendable (.objectIdentifierValue oid)) : WellFormed oid := by
  obtain ⟨enc, -, hdecode⟩ := h.codec
  obtain ⟨tag, content, -, hcontent⟩ := decodeValue_ok_iff.mp hdecode
  cases hcontent with
  | objectIdentifier _ _ hoid => exact wellFormed_of_oidContent hoid

theorem Sendable.encodeOid {oid : OID} (h : Sendable (.objectIdentifierValue oid)) :
    ∃ content, Asn1.encodeOid oid = .ok content := by
  obtain ⟨enc, hencode, -⟩ := h.codec
  obtain ⟨content, hcontent, -⟩ := bind_ok_iff.mp hencode
  exact ⟨content, hcontent⟩

theorem timeTicks_encodes {ticks : ℤ} (h : 0 ≤ ticks) : ∃ enc, encodeValue (.timeTicksValue ticks) = .ok enc := by
  obtain ⟨n, rfl⟩ := Int.eq_ofNat_of_zero_le h
  obtain ⟨encoded, hencoded, -⟩ := encodeUnsignedInteger_toNat (BigEndian.ofNat ((BigEndian.bitLength n + 7) / 8) n)
  rw [BigEndian.toNat_ofNat _ n (BigEndian.lt_pow_octets n)] at hencoded
  exact ⟨_, by rw [encodeValue, hencoded]; rfl⟩

variable {explicit : List (OID × SnmpValue)} {notificationOid : OID} {uptime : ℤ}

structure Carried (varbind : OID × SnmpValue) : Prop where
  oid : Sendable (.objectIdentifierValue varbind.1)
  encodes : ∃ enc, encodeValue varbind.2 = .ok enc
  preserved : Asn1.Preserved varbind.2
  printable : ∀ n ∈ varbind.2.shownIntegers, PyText.Printable n

theorem SendableVarbind.carried {varbind : OID × SnmpValue} (h : SendableVarbind varbind) : Carried varbind := by
  obtain ⟨hoid, hvalue⟩ := h
  obtain ⟨enc, hencode, -⟩ := hvalue.codec
  exact ⟨hoid, ⟨enc, hencode⟩, hvalue.preserved, hvalue.printable⟩

theorem announcedUptime_mem (explicit : List (OID × SnmpValue)) (uptime : ℤ) :
    announcedUptime explicit uptime = uptime ∨
    (sysUptimeInstanceOid, .timeTicksValue (announcedUptime explicit uptime)) ∈ explicit := by
  induction explicit generalizing uptime with
  | nil => exact .inl rfl
  | cons varbind explicit ih =>
    rw [announcedUptime_cons]
    obtain h | h := ih ((uptimeOverride varbind).getD uptime)
    · rw [h]
      cases hover : uptimeOverride varbind with
      | none => exact .inl rfl
      | some ticks => exact .inr (uptimeOverride_eq_some_iff.mp hover ▸ List.mem_cons_self ..)
    · exact .inr (List.mem_cons_of_mem _ h)

theorem announcedOid_mem (explicit : List (OID × SnmpValue)) (notificationOid : OID) :
    announcedOid explicit notificationOid = notificationOid ∨
      (snmpTrapOidInstanceOid, .objectIdentifierValue (announcedOid explicit notificationOid)) ∈ explicit := by
  induction explicit generalizing notificationOid with
  | nil => exact .inl rfl
  | cons varbind explicit ih =>
    rw [announcedOid_cons]
    obtain h | h := ih ((trapOidOverride varbind).getD notificationOid)
    · rw [h]
      cases hover : trapOidOverride varbind with
      | none => exact .inl rfl
      | some named => exact .inr (trapOidOverride_eq_some_iff.mp hover ▸ List.mem_cons_self ..)
    · exact .inr (List.mem_cons_of_mem _ h)

theorem sendable_instance : Sendable (.objectIdentifierValue sysUptimeInstanceOid) ∧
    Sendable (.objectIdentifierValue snmpTrapOidInstanceOid) :=
  ⟨⟨⟨_, rfl, by decide +kernel⟩, by decide +kernel⟩, ⟨_, rfl, by decide +kernel⟩, by decide +kernel⟩

theorem carried_announced (hnotification : Sendable (.objectIdentifierValue notificationOid)) (hnonneg : 0 ≤ uptime)
    (hprintable : PyText.Printable uptime) (hexplicit : ∀ varbind ∈ explicit, SendableVarbind varbind) :
    ∀ varbind ∈ announcedVarbinds explicit uptime notificationOid, Carried varbind := by
  rw [announcedVarbinds, List.forall_mem_cons, List.forall_mem_cons]
  refine ⟨?_, ?_, fun varbind hmem => (hexplicit varbind (List.mem_of_mem_filter hmem)).carried⟩
  · obtain h | h := announcedUptime_mem explicit uptime
    · rw [h]
      exact ⟨sendable_instance.1, timeTicks_encodes hnonneg, trivial,
        by simpa [SnmpValue.shownIntegers] using hprintable⟩
    · exact (hexplicit _ h).carried
  · obtain h | h := announcedOid_mem explicit notificationOid
    · rw [h]
      exact SendableVarbind.carried ⟨sendable_instance.2, hnotification⟩
    · exact (hexplicit _ h).carried

theorem normalizeExplicit_sequences (h : ∀ varbind ∈ explicit, WellFormed varbind.1) (bundle : Option Resolver) :
    normalizeExplicitVarbinds (explicit.map fun (oid, value) => (.sequence oid (tupleText oid), value)) bundle =
      .ok explicit := by
  cases hexplicit : explicit with
  | nil => rfl
  | cons first rest =>
    have htargets : (explicit.map fun varbind => Target.sequence varbind.1 (tupleText varbind.1)).mapM
        (normalizeTarget bundle) = .ok (explicit.map Prod.fst) := by
      rw [List.mapM_map]
      exact mapM_eq_ok fun varbind hmem => normalizeTarget_sequence (h varbind hmem) bundle _
    have hne : explicit ≠ [] := by simp [hexplicit]
    rw [← hexplicit, normalizeExplicitVarbinds, normalizeTargets]
    simp only [List.isEmpty_map, List.isEmpty_iff, hne, List.map_eq_nil_iff, List.map_map, Function.comp_def, htargets,
      if_false, ok_bind]
    rw [List.zip_map', pure_ok_iff]
    exact List.map_id _

theorem encodeNotificationRawVarbinds_eq (h : ∀ varbind ∈ explicit, WellFormed varbind.1) (hnonneg : 0 ≤ uptime)
    (notificationOid : OID) (bundle : Option Resolver) :
    encodeNotificationRawVarbinds notificationOid
        (explicit.map fun (oid, value) => (.sequence oid (tupleText oid), value)) uptime bundle =
      .ok (buildRawVarbinds (announcedVarbinds explicit uptime notificationOid)) := by
  rw [encodeNotificationRawVarbinds, buildNotificationVarbinds, if_neg (by omega), normalizeExplicit_sequences h,
    ok_bind, foldl_add]
  rfl

structure Announces (event : NotificationEvent) (explicit : List (OID × SnmpValue)) (uptime : ℤ)
    (notificationOid : OID) :
    Prop where
  ticks : event.uptime = some (announcedUptime explicit uptime)
  named : event.notificationOid = some (announcedOid explicit notificationOid)
  pairs : event.varbinds.map (fun varbind => (varbind.oid, varbind.value)) =
    announcedVarbinds explicit uptime notificationOid

theorem Carried.wellFormedValue {varbind : OID × SnmpValue} (h : Carried varbind) {named : OID}
    (hvalue : varbind.2 = .objectIdentifierValue named) : WellFormed named := by
  have hpreserved := h.preserved
  obtain ⟨enc, hencode⟩ := h.encodes
  rw [hvalue] at hpreserved hencode
  refine ⟨?_, hpreserved⟩
  rintro rfl
  cases hencode

theorem wellFormed_of_carried {varbinds : List (OID × SnmpValue)} (h : ∀ varbind ∈ varbinds, Carried varbind) :
    WellFormedVarbinds (buildRawVarbinds varbinds) := by
  intro _ hraw
  obtain ⟨varbind, hmem, rfl⟩ := List.mem_map.mp hraw
  exact ⟨(h varbind hmem).oid.wellFormed, fun named => (h varbind hmem).wellFormedValue⟩

theorem printable_of_carried {varbinds : List (OID × SnmpValue)} (h : ∀ varbind ∈ varbinds, Carried varbind) :
    PrintableVarbinds (buildRawVarbinds varbinds) := by
  intro _ hraw
  obtain ⟨varbind, hmem, rfl⟩ := List.mem_map.mp hraw
  exact ⟨(h varbind hmem).oid.printable, (h varbind hmem).printable⟩

theorem encodable_of_carried {varbinds : List (OID × SnmpValue)} (h : ∀ varbind ∈ varbinds, Carried varbind) :
    ∀ varbind ∈ buildRawVarbinds varbinds, varbind.Encodable ∧ varbind.Preserved := by
  intro _ hraw
  obtain ⟨varbind, hmem, rfl⟩ := List.mem_map.mp hraw
  have hcarried := h varbind hmem
  exact ⟨⟨hcarried.oid.encodeOid, hcarried.encodes⟩, hcarried.oid.preserved, hcarried.preserved⟩

theorem pduTypeName?_eq {pduType : PduType} (htype : pduType = .snmpv2Trap ∨ pduType = .informRequest) :
    ∃ name, pduTypeName? pduType = some name := by
  obtain rfl | rfl := htype
  · exact ⟨_, rfl⟩
  · exact ⟨_, rfl⟩

theorem event_announces {pdu : Pdu} (htype : pdu.pduType = .snmpv2Trap ∨ pdu.pduType = .informRequest)
    (hvarbinds : pdu.varbinds = buildRawVarbinds (announcedVarbinds explicit uptime notificationOid))
    (hcarried : ∀ varbind ∈ announcedVarbinds explicit uptime notificationOid, Carried varbind) (requestId : ℤ)
    (community : Option String) (sourceAddress : Option SocketAddress) (bundle : Option MibRegistry) :
    ∃ event, notificationEventFromPdu pdu requestId community sourceAddress bundle = .ok event ∧
      Announces event explicit uptime notificationOid := by
  obtain ⟨name, hname⟩ := pduTypeName?_eq htype
  have hplain := notificationEventFromPdu_plain (hvarbinds ▸ wellFormed_of_carried hcarried)
    (hvarbinds ▸ printable_of_carried hcarried) requestId community sourceAddress bundle
  rw [plainEvent, hname, hvarbinds] at hplain
  obtain ⟨event, hevent, hfields⟩ := map_ok_iff.mp hplain
  refine ⟨event, hevent, ?_, ?_, ?_⟩
  · exact congrArg NotificationEvent.uptime hfields
  · exact congrArg NotificationEvent.notificationOid hfields
  · have h := congrArg (fun event => event.varbinds.map fun varbind => (varbind.oid, varbind.value)) hfields
    simp only [NotificationEvent.plain, plainVarbinds, buildRawVarbinds, List.map_map] at h
    refine h.trans ?_
    exact List.map_id _

def Arrives (crypto : Crypto) (data : Bytes) (user : Option UsmUser) (explicit : List (OID × SnmpValue)) (uptime : ℤ)
    (notificationOid : OID) : Prop :=
  ∀ bundle sourceAddress, ∃ event, decodeNotification crypto data bundle sourceAddress user = .ok event ∧
    Announces event explicit uptime notificationOid

def notificationPdu (pduType : PduType) (requestId : ℤ) (varbinds : List RawVarBind) : Pdu :=
  { pduType := pduType
    requestId := requestId
    errorStatus := 0
    errorIndex := 0
    varbinds := varbinds }

variable {pdu : Pdu}

theorem community_arrives (crypto : Crypto) (htype : pdu.pduType = .snmpv2Trap ∨ pdu.pduType = .informRequest)
    (hvarbinds : pdu.varbinds = buildRawVarbinds (announcedVarbinds explicit uptime notificationOid))
    (hcarried : ∀ varbind ∈ announcedVarbinds explicit uptime notificationOid, Carried varbind)
    (model : CommunityModel) :
    Yields (model.wrapPdu pdu) fun data => Arrives crypto data none explicit uptime notificationOid := by
  have hencodable := hvarbinds ▸ encodable_of_carried hcarried
  obtain ⟨data, hdata⟩ := (@encodeMessage_isOk_iff ⟨1, model.community, pdu⟩).mpr fun varbind hmem =>
    (hencodable varbind hmem).1
  refine .intro hdata fun hlen bundle sourceAddress => ?_
  have hdecode := decodeMessage_encodeMessage_preserved rfl (fun varbind hmem => (hencodable varbind hmem).2) hdata hlen
  obtain ⟨event, hevent, hannounces⟩ := event_announces htype hvarbinds hcarried pdu.requestId (some model.community)
    sourceAddress bundle
  refine ⟨event, ?_, hannounces⟩
  rw [decodeNotification, hdecode, ok_bind]
  exact hevent

theorem usm_arrives {crypto : Crypto} (hcrypto : crypto.Lawful)
    (htype : pdu.pduType = .snmpv2Trap ∨ pdu.pduType = .informRequest)
    (hvarbinds : pdu.varbinds = buildRawVarbinds (announcedVarbinds explicit uptime notificationOid))
    (hcarried : ∀ varbind ∈ announcedVarbinds explicit uptime notificationOid, Carried varbind) {model : UsmModel}
    (hsupported : model.user.Supported) {engine : UsmLocalEngine}
    (hengine : model.selectOutboundEngine pdu.pduType = .ok engine) (hrange : model.user.privOn → engine.InRange)
    {salt : Bytes} (hsalt : salt.length = 8) :
    Yields (encodeScopedPdu engine.engineId model.contextName pdu) fun _ =>
      Yields (model.unstampedMessage crypto salt (model.msgIdCounter + 1) engine pdu) fun _ =>
        ∃ data, (model.wrapPdu crypto salt pdu).1 = .ok data ∧
          Arrives crypto data (some model.user) explicit uptime notificationOid := by
  have hencodable := hvarbinds ▸ encodable_of_carried hcarried
  obtain ⟨encoded, hencode⟩ := encodePdu_isOk_iff.mpr fun varbind hmem => (hencodable varbind hmem).1
  obtain ⟨plain, hplain⟩ := encodeScopedPdu_isOk hencode engine.engineId model.contextName
  by_cases hfits : plain.length < lengthLimit
  · have hdecode := decodePdu_encodePdu_preserved (fun varbind hmem => (hencodable varbind hmem).2) hencode
      ((length_encoded_lt hencode hplain).trans hfits)
    have hwrapped := wrapped_accepted hcrypto hsupported hencode hdecode htype hengine hrange hsalt
    refine hwrapped.imp fun _ h => h.imp fun _ ⟨data, view, hdata, haccept, husername, _⟩ => ?_
    refine ⟨data, hdata, fun bundle sourceAddress => ?_⟩
    obtain ⟨event, hevent, hannounces⟩ :=
      event_announces htype hvarbinds hcarried pdu.requestId none sourceAddress bundle
    rw [decodeNotification, haccept, ok_bind]
    simp only [notificationEventFromV3Envelope, husername, Utf8.decode_encode, hevent, ok_bind]
    exact ⟨_, rfl, ⟨hannounces.ticks, hannounces.named, hannounces.pairs⟩⟩
  · exact .intro hplain fun hlen => absurd hlen hfits

theorem notification_round_trip (crypto : Crypto) (hcrypto : crypto.Lawful) (notificationOid : OID) (uptime : ℤ)
    (explicit : List (OID × SnmpValue)) (hnotification : Sendable (.objectIdentifierValue notificationOid))
    (hnonneg : 0 ≤ uptime) (hprintable : PyText.Printable uptime)
    (hexplicit : ∀ varbind ∈ explicit, SendableVarbind varbind) (senderBundle : Option Resolver) :
    ∃ raw, encodeNotificationRawVarbinds notificationOid
        (explicit.map fun (oid, value) => (.sequence oid (tupleText oid), value)) uptime senderBundle = .ok raw ∧
      ∀ pduType, pduType = .snmpv2Trap ∨ pduType = .informRequest → ∀ requestId : ℤ,
        (∀ model : CommunityModel, Yields (model.wrapPdu (notificationPdu pduType requestId raw)) fun data =>
          Arrives crypto data none explicit uptime notificationOid) ∧
        ∀ (model : UsmModel) (engine : UsmLocalEngine) (salt : Bytes), model.user.Supported →
          model.selectOutboundEngine pduType = .ok engine → (model.user.privOn → engine.InRange) → salt.length = 8 →
          Yields (encodeScopedPdu engine.engineId model.contextName (notificationPdu pduType requestId raw)) fun _ =>
            Yields (model.unstampedMessage crypto salt (model.msgIdCounter + 1) engine
              (notificationPdu pduType requestId raw)) fun _ =>
              ∃ data, (model.wrapPdu crypto salt (notificationPdu pduType requestId raw)).1 = .ok data ∧
                Arrives crypto data (some model.user) explicit uptime notificationOid := by
  have hcarried := carried_announced hnotification hnonneg hprintable hexplicit
  have hwell : ∀ varbind ∈ explicit, WellFormed varbind.1 := fun varbind hmem => (hexplicit varbind hmem).1.wellFormed
  refine ⟨_, encodeNotificationRawVarbinds_eq hwell hnonneg notificationOid senderBundle, ?_⟩
  intro pduType htype requestId
  refine ⟨fun model => community_arrives crypto htype rfl hcarried model, ?_⟩
  intro model engine salt hsupported hengine hrange hsalt
  exact usm_arrives hcrypto htype rfl hcarried hsupported hengine hrange hsalt

def sampleExplicit : List (OID × SnmpValue) := [
  (sysUptimeInstanceOid, .timeTicksValue 99),
  (sysUptimeInstanceOid, .integerValue 7),
  ([1, 3, 6, 1, 2, 1, 2, 2, 1, 1, 3], .integerValue 3)]

theorem notification_round_trip_sample :
    (∃ data, CommunityModel.wrapPdu ⟨"public"⟩ (notificationPdu .snmpv2Trap 5 (buildRawVarbinds
        (announcedVarbinds sampleExplicit 0 [1, 3, 6, 1, 6, 3, 1, 1, 5, 3]))) = .ok data ∧
      Arrives sampleCrypto data none sampleExplicit 0 [1, 3, 6, 1, 6, 3, 1, 1, 5, 3]) ∧
    ∃ data, (sampleNotifier.wrapPdu sampleCrypto sampleSalt (notificationPdu .informRequest 5 (buildRawVarbinds
        (announcedVarbinds sampleExplicit 0 [1, 3, 6, 1, 6, 3, 1, 1, 5, 3])))).1 = .ok data ∧
      Arrives sampleCrypto data (some sampleUser) sampleExplicit 0 [1, 3, 6, 1, 6, 3, 1, 1, 5, 3] := by
  have hsendable : Sendable (.objectIdentifierValue [1, 3, 6, 1, 6, 3, 1, 1, 5, 3]) :=
    ⟨⟨_, rfl, by decide +kernel⟩, by decide +kernel⟩
  have hexplicit : ∀ varbind ∈ sampleExplicit, SendableVarbind varbind := by
    simp only [sampleExplicit, List.forall_mem_cons]
    refine ⟨⟨sendable_instance.1, ?_⟩, ⟨sendable_instance.1, ?_⟩, ⟨?_, ?_⟩, by simp⟩
    all_goals exact ⟨⟨_, rfl, by decide +kernel⟩, by decide +kernel⟩
  obtain ⟨raw, hraw, h⟩ := notification_round_trip sampleCrypto sampleCrypto_lawful [1, 3, 6, 1, 6, 3, 1, 1, 5, 3] 0
    sampleExplicit hsendable le_rfl (by decide +kernel) hexplicit none
  obtain rfl : buildRawVarbinds (announcedVarbinds sampleExplicit 0 [1, 3, 6, 1, 6, 3, 1, 1, 5, 3]) = raw :=
    eq_of_ok (by decide +kernel) hraw
  refine ⟨((h .snmpv2Trap (.inl rfl) 5).1 ⟨"public"⟩).of_fits (by decide +kernel), ?_⟩
  have h := (h .informRequest (.inr rfl) 5).2 sampleNotifier sampleEngine sampleSalt (.inl (by decide)) (by decide)
    (by decide) rfl
  obtain ⟨_, -, h⟩ := h.of_fits (by decide +kernel)
  obtain ⟨_, -, data, hdata, harrives⟩ := h.of_fits (by decide +kernel)
  exact ⟨data, hdata, harrives⟩

end TrishulSnmp.Notify
