import TrishulSnmp.Notify.Failures
import TrishulSnmp.Notify.ScopedPdus
import TrishulSnmp.Security.Discovery

namespace TrishulSnmp

open Outcome Ber Asn1 Wire UsmModel

namespace Discovery

/-- Code that assigns to the fields of a model: what it has assigned before it raises stays. -/
abbrev Assigns := ExceptT Error (StateM UsmModel)

def parseResponse (data : Bytes) : Assigns Unit := do
  let view ← MonadExcept.ofExcept ((decodeV3Message data).mapError
    (Error.reworded "Engine discovery: invalid response: "))
  let (_, _, pduTag, _) ← MonadExcept.ofExcept
    ((peekScopedPdu view.msgDataBytes).mapError (Error.reworded "Engine discovery: cannot decode ScopedPDU: "))
  if pduTag ≠ reportPduTag then
    throw (.protocolError s!"Engine discovery: expected REPORT PDU ({hexOctet reportPduTag}), found {hexOctet pduTag}")
  else if view.usmParams.engineId = [] then
    throw (.protocolError "Engine discovery: REPORT contained empty engineID")
  else do
    modify fun model => { model with peerEngineId := view.usmParams.engineId }
    modify fun model => { model with peerEngineBoots := view.usmParams.engineBoots }
    modify fun model => { model with peerEngineTime := view.usmParams.engineTime }

def Assigns.from {α : Type} (code : Assigns α) (model : UsmModel) : Except Error α × UsmModel := code.run.run model

theorem from_ofExcept_bind {α β : Type} (x : Except Error α) (f : α → Assigns β) (model : UsmModel) :
    Assigns.from (MonadExcept.ofExcept x >>= f) model =
      match x with
      | .error e => (.error e, model)
      | .ok a => (f a).from model := by
  cases x with
  | error e => rfl
  | ok a => rfl

theorem parseResponse_from (model : UsmModel) (data : Bytes) :
    (parseResponse data).from model =
      match model.parseDiscoveryResponse data with
      | .error e => (.error e, model)
      | .ok found => (.ok (), found) := by
  rw [parseResponse, from_ofExcept_bind, UsmModel.parseDiscoveryResponse]
  cases (decodeV3Message data).mapError (Error.reworded "Engine discovery: invalid response: ") with
  | error e => rfl
  | ok view =>
    simp only [from_ofExcept_bind, ok_bind]
    cases (peekScopedPdu view.msgDataBytes).mapError (Error.reworded "Engine discovery: cannot decode ScopedPDU: ") with
    | error e => rfl
    | ok fields =>
      obtain ⟨engineId, contextName, tag, stop⟩ := fields
      simp only [ok_bind]
      split_ifs
      · rfl
      · rfl
      · rfl

theorem validateReportBody_failsOnly (body : Bytes) :
    FailsOnly (fun e => e.isProtocolError) (validateReportBody body) := by
  refine failsOnly_bind (decodeElement_failsOnly _ _ (integerContent_failsOnly _)) fun _ _ => ?_
  refine failsOnly_bind (decodeElement_failsOnly _ _ (integerContent_failsOnly _)) fun _ _ => ?_
  refine failsOnly_bind (decodeElement_failsOnly _ _ (integerContent_failsOnly _)) fun _ _ => ?_
  refine failsOnly_bind (decodeElement_failsOnly _ _ varbindListContent_failsOnly) fun _ _ => ?_
  exact expectEnd_failsOnly _ _

theorem peekScopedPdu_failsOnly (data : Bytes) : FailsOnly (fun e => e.isProtocolError) (peekScopedPdu data) := by
  refine failsOnly_bind (decodeTlv_failsOnly _ _) fun _ _ => ?_
  refine failsOnly_ite (fun _ => failsOnly_error rfl) fun _ => ?_
  refine failsOnly_bind (expectEnd_failsOnly _ _) fun _ _ => ?_
  refine failsOnly_bind (decodeTlv_failsOnly _ _) fun _ _ => ?_
  refine failsOnly_ite (fun _ => failsOnly_error rfl) fun _ => ?_
  refine failsOnly_bind (decodeTlv_failsOnly _ _) fun _ _ => ?_
  refine failsOnly_ite (fun _ => failsOnly_error rfl) fun _ => ?_
  refine failsOnly_bind (decodeTlv_failsOnly _ _) fun _ _ => ?_
  refine failsOnly_bind (expectEnd_failsOnly _ _) fun _ _ => ?_
  exact failsOnly_bind (validateReportBody_failsOnly _) fun _ _ => failsOnly_ok _

theorem reworded_failsOnly {α : Type} {x : Except Error α} (text : String)
    (h : FailsOnly (fun e => e.isProtocolError) x) :
    FailsOnly (fun e => e.isProtocolError) (x.mapError (Error.reworded text)) := by
  cases x with
  | ok a => exact failsOnly_ok a
  | error e =>
    have he := h e rfl
    apply failsOnly_error
    cases e <;> simp_all [Error.reworded, Error.isProtocolError]

theorem parseDiscoveryResponse_failsOnly (model : UsmModel) {data : Bytes} (h : ¬ HugeV3Number data) :
    FailsOnly (fun e => e.isProtocolError) (model.parseDiscoveryResponse data) := by
  refine failsOnly_bind (reworded_failsOnly _ (decodeV3Message_failsOnly h)) fun view _ => ?_
  refine failsOnly_bind (reworded_failsOnly _ (peekScopedPdu_failsOnly _)) fun fields _ => ?_
  refine failsOnly_ite (fun _ => failsOnly_error rfl) fun _ => ?_
  exact failsOnly_ite (fun _ => failsOnly_error rfl) fun _ => failsOnly_ok _

structure UsableReport (data : Bytes) (view : V3MessageView) : Prop where
  decoded : decodeV3Message data = .ok view
  plaintext : view.msgFlags &&& msgFlagPriv = 0
  engineId : view.usmParams.engineId ≠ []
  report : ∃ contextEngineId contextName body pdu,
    Notify.ScopedFields contextEngineId contextName reportPduTag body view.msgDataBytes ∧ PduBody OidContent pdu body

theorem usableReport_of_tells {data : Bytes} {engine : UsmLocalEngine} (h : tells data = some engine) :
    ∃ view, UsableReport data view ∧ engine = reportedEngine view := by
  obtain ⟨view, hreport, hengine⟩ := Option.bind_eq_some_iff.mp h
  split_ifs at hengine with hid
  obtain rfl := Option.some.inj hengine
  unfold report? at hreport
  split at hreport
  · cases hreport
  · rename_i view' hdecode
    split at hreport
    · cases hreport
    · rename_i contextEngineId contextName tag stop hpeek
      split_ifs at hreport with htag
      cases hreport
      obtain ⟨-, body, hfields, hbody⟩ := Notify.peekScopedPdu_iff.mp (htag ▸ hpeek)
      obtain ⟨pdu, hpdu⟩ := (Notify.validateReportBody_iff .response).mp hbody
      refine ⟨view, ⟨hdecode, ?_, hid, contextEngineId, contextName, body, pdu, hfields, (decodePduBody_iff.mp hpdu).2⟩,
        rfl⟩
      -- the scoped PDU is a SEQUENCE, which msgData is only where PRIV is clear
      obtain ⟨before, after, -, hlayout⟩ := decodeV3Message_iff.mp hdecode
      obtain ⟨content, hdata⟩ := hlayout.data_tag
      obtain ⟨content', hscoped, -⟩ := hfields
      have htags := congrArg Prod.fst (hdata.unique hscoped)
      rw [msgDataTag_eq] at htags
      by_contra hpriv
      rw [if_pos hpriv] at htags
      exact absurd htags (show octetStringTag ≠ sequenceTag by decide)

structure AllOrNothing (model : UsmModel) (data : Bytes) : Prop where
  raised : ∀ e after, (parseResponse data).from model = (.error e, after) → e.isProtocolError = true ∧ after = model
  returned : ∀ after, (parseResponse data).from model = (.ok (), after) →
    ∃ view, UsableReport data view ∧ after = Notify.knows model (reportedEngine view)

theorem discovery_all_or_nothing_iff (model : UsmModel) (data : Bytes) :
    AllOrNothing model data ↔ ¬ HugeV3Number data := by
  constructor
  · intro h hhuge
    obtain ⟨text, htext⟩ := decodeV3Message_huge hhuge
    have hraised : (parseResponse data).from model = (.error (.valueError text), model) := by
      rw [parseResponse_from, UsmModel.parseDiscoveryResponse, htext]
      rfl
    have := (h.raised _ _ hraised).1
    simp [Error.isProtocolError] at this
  · intro hhuge
    refine ⟨fun e after h => ?_, fun after h => ?_⟩
    · rw [parseResponse_from] at h
      split at h
      · rename_i raised hparse
        cases h
        exact ⟨parseDiscoveryResponse_failsOnly model hhuge _ hparse, rfl⟩
      · cases h
    · rw [parseResponse_from] at h
      split at h
      · cases h
      · rename_i found hparse
        cases h
        obtain ⟨engine, htells, rfl⟩ := parse_ok_iff.mp hparse
        obtain ⟨view, hview, rfl⟩ := usableReport_of_tells htells
        exact ⟨view, hview, rfl⟩

def hugeVersion : Bytes :=
  [0x30, 0x82, 6, 254, 2, 0x82, 6, 250, 0x7F] ++ List.replicate 1785 0xFF

theorem huge_version_escapes : ¬ AllOrNothing { user := sampleUser } hugeVersion := by
  have hraised : ((parseResponse hugeVersion).from { user := sampleUser }).1 =
      .error (.valueError ("Exceeds the limit (4300 digits) for integer string conversion; " ++
        "use sys.set_int_max_str_digits() to increase the limit")) := by
    decide +kernel
  rintro ⟨hall, -⟩
  generalize (parseResponse hugeVersion).from { user := sampleUser } = parsed at hraised hall
  have hprotocol := (hall _ parsed.2 (Prod.ext hraised rfl)).1
  cases hprotocol

section Usable

variable {crypto : Crypto} {model : UsmModel}

theorem stampAuth_isOk (hauth : model.user.authOn) {raw : Bytes} {view : V3MessageView}
    (hview : decodeV3Message raw = .ok view) (engineId : Bytes) :
    ∃ stamped, model.stampAuth crypto raw engineId = .ok stamped := by
  rw [stampAuth, computeAuthTag_eq hauth, hview]
  exact ⟨_, rfl⟩

theorem encryptAes128_inRange {salt plain privParams msgData : Bytes} {engine : UsmLocalEngine}
    (h : model.encryptAes128 crypto salt plain engine = .ok (privParams, msgData)) : engine.InRange := by
  obtain ⟨aesKey, -, h⟩ := bind_ok_iff.mp h
  obtain ⟨boots, hboots, h⟩ := bind_ok_iff.mp h
  obtain ⟨time, htime, -⟩ := bind_ok_iff.mp h
  exact ⟨packUnsigned_ok_iff.mp ⟨boots, hboots⟩, packUnsigned_ok_iff.mp ⟨time, htime⟩⟩

theorem encryptAes128_tlv {salt plain privParams msgData : Bytes} {engine : UsmLocalEngine}
    (h : model.encryptAes128 crypto salt plain engine = .ok (privParams, msgData))
    (hlen : msgData.length < lengthLimit) :
    ∃ content, Tlv (octetStringTag, content) msgData := by
  obtain ⟨aesKey, -, h⟩ := bind_ok_iff.mp h
  obtain ⟨boots, -, h⟩ := bind_ok_iff.mp h
  obtain ⟨time, -, h⟩ := bind_ok_iff.mp h
  obtain ⟨-, rfl⟩ := Prod.mk.inj (pure_ok_iff.mp h)
  exact ⟨_, encodeTlv_tlv octetStringTag ((length_lt_encodeTlv _ _).trans hlen)⟩

theorem protectScopedPdu_aes128 (haes : model.user.privProtocol = .aes128) (salt plain : Bytes)
    (engine : UsmLocalEngine) :
    model.protectScopedPdu crypto salt plain engine = model.encryptAes128 crypto salt plain engine := by
  have hpriv : model.user.privProtocol ≠ .none := by simp [haes]
  rw [protectScopedPdu, if_pos hpriv, encryptScopedPdu, haes]

theorem wrapMessage_isOk_iff (haes : model.user.privProtocol = .aes128) (hauth : model.user.authOn)
    (hkey : model.user.privKey ≠ []) {pdu : Pdu} {encoded : Bytes} (hencode : encodePdu pdu = .ok encoded)
    {salt : Bytes} {msgId : ℤ} {engine : UsmLocalEngine}
    (hfits : Fits (model.unstampedMessage crypto salt msgId engine pdu)) :
    (∃ raw, model.wrapMessage crypto salt msgId engine pdu = .ok raw) ↔ engine.InRange := by
  constructor
  · rintro ⟨raw, h⟩
    obtain ⟨unstamped, h, -⟩ := bind_ok_iff.mp h
    obtain ⟨plain, -, h⟩ := bind_ok_iff.mp h
    obtain ⟨⟨privParams, msgData⟩, hprotect, -⟩ := bind_ok_iff.mp h
    rw [protectScopedPdu_aes128 haes] at hprotect
    exact encryptAes128_inRange hprotect
  · intro hrange
    obtain ⟨plain, hplain⟩ := encodeScopedPdu_isOk hencode engine.engineId model.contextName
    obtain ⟨privParams, msgData, hprotect⟩ :=
      protect_isOk crypto (.inr ⟨haes, hauth, hkey⟩) salt plain (fun _ => hrange)
    have hmessage := @unstampedMessage_eq crypto model salt plain privParams msgData msgId engine pdu hplain hprotect
    obtain ⟨raw, hraw⟩ := encodeV3Message_isOk msgId maxMsgSize (model.msgFlags pdu.pduType)
      (engine.paramsFor model.user privParams) msgData
    rw [← hmessage] at hraw
    have hlen := hfits raw hraw
    rw [hmessage] at hraw
    have hpriv : model.msgFlags pdu.pduType &&& msgFlagPriv ≠ 0 :=
      (msgFlags_match pdu.pduType).2.mpr (by simp [UsmUser.privOn, haes])
    have hdata : ∃ content, Tlv ((msgDataTag (model.msgFlags pdu.pduType)).1, content) msgData := by
      rw [msgDataTag_eq, if_pos hpriv]
      rw [protectScopedPdu_aes128 haes] at hprotect
      exact encryptAes128_tlv hprotect ((length_msgData_lt hraw).trans hlen)
    obtain ⟨before, after, hwhole, hlayout⟩ := encodeV3Message_layout hraw hlen hdata
    obtain ⟨stamped, hstamped⟩ := @stampAuth_isOk crypto model hauth raw _
      (decodeV3Message_iff.mpr ⟨before, after, hwhole, hlayout⟩) engine.engineId
    refine ⟨stamped, ?_⟩
    rw [wrapMessage, hmessage, hraw, ok_bind, if_pos (authEnabled_iff.mpr hauth), hstamped]

theorem discovered_engine_usable_iff (crypto : Crypto) {found : UsmModel} {data : Bytes} {view : V3MessageView}
    (hview : decodeV3Message data = .ok view) (hfound : model.parseDiscoveryResponse data = .ok found)
    (haes : model.user.privProtocol = .aes128) (hauth : model.user.authOn) (hkey : model.user.privKey ≠ []) {pdu : Pdu}
    {encoded : Bytes} (hencode : encodePdu pdu = .ok encoded) (htype : pdu.pduType ≠ .snmpv2Trap) (salt : Bytes)
    (hfits : Fits (found.unstampedMessage crypto salt (found.msgIdCounter + 1) (reportedEngine view) pdu)) :
    (∃ raw, (found.wrapPdu crypto salt pdu).1 = .ok raw) ↔ (reportedEngine view).InRange := by
  obtain ⟨engine, htells, rfl⟩ := parse_ok_iff.mp hfound
  obtain ⟨view', hreports, rfl⟩ := usableReport_of_tells htells
  obtain rfl := eq_of_ok hview hreports.decoded
  have hengine : (Notify.knows model (reportedEngine view)).selectOutboundEngine pdu.pduType =
      .ok (reportedEngine view) := by
    rw [selectOutboundEngine, if_neg htype]
    rfl
  rw [wrapPdu, hengine]
  exact wrapMessage_isOk_iff haes hauth hkey hencode hfits

theorem negative_boots_unusable :
    UsmModel.parseDiscoveryResponse { user := Notify.samplePrivUser } (report 1 255) =
      .ok (Notify.knows { user := Notify.samplePrivUser } ⟨[128, 0, 31, 136, 4, 1], -1, 700⟩) ∧
    (∃ encoded, encodePdu sampleInform = .ok encoded) ∧
    ((Notify.knows { user := Notify.samplePrivUser } ⟨[128, 0, 31, 136, 4, 1], -1, 700⟩).wrapPdu sampleCrypto
      [1, 2, 3, 4, 5, 6, 7, 8] sampleInform).1 =
          .error (.structError "'I' format requires 0 <= number <= 4294967295") :=
  ⟨by decide +kernel, ⟨_, rfl⟩, by decide +kernel⟩

theorem discovered_engine_usable_sample : ∃ raw,
    ((Notify.knows { user := Notify.samplePrivUser } ⟨[128, 0, 31, 136, 4, 1], 3, 700⟩).wrapPdu sampleCrypto
      [1, 2, 3, 4, 5, 6, 7, 8] sampleInform).1 = .ok raw := by
  have htells : tells (report 1 3) = some ⟨[128, 0, 31, 136, 4, 1], 3, 700⟩ := by decide +kernel
  obtain ⟨view, hreports, hengine⟩ := usableReport_of_tells htells
  have hfound : UsmModel.parseDiscoveryResponse { user := Notify.samplePrivUser } (report 1 3) =
      .ok (Notify.knows { user := Notify.samplePrivUser } ⟨[128, 0, 31, 136, 4, 1], 3, 700⟩) :=
    parse_ok_iff.mpr ⟨_, htells, rfl⟩
  obtain ⟨encoded, hencode⟩ : ∃ encoded, encodePdu sampleInform = .ok encoded := ⟨_, rfl⟩
  apply (discovered_engine_usable_iff sampleCrypto hreports.decoded hfound (by decide) (by decide) (by decide) hencode
    (by decide) [1, 2, 3, 4, 5, 6, 7, 8] ?_).mpr
  · rw [← hengine]
    decide
  · rw [← hengine]
    decide +kernel

end Usable

end Discovery

end TrishulSnmp
