import TrishulSnmp.Mib.Render
import TrishulSnmp.Notify.V3
import TrishulSnmp.Wire.RoundTrip

namespace TrishulSnmp.Notify

open Outcome Mib

def sysUptimeInstanceOid : OID := [1, 3, 6, 1, 2, 1, 1, 3, 0]

def snmpTrapOidInstanceOid : OID := [1, 3, 6, 1, 6, 3, 1, 1, 4, 1, 0]

def pduTypeName? : PduType → Option String
  | .snmpv2Trap => some "snmpv2-trap"
  | .informRequest => some "inform-request"
  | _ => none

structure NotificationMemberBinding where
  member : MibMemberRef
  varbind : Option VarBind
  deriving DecidableEq, Repr

structure NotificationEvent where
  requestId : ℤ
  community : Option String
  sourceAddress : Option SocketAddress
  pduType : String
  varbinds : List VarBind
  notificationOid : Option OID := none
  notificationName : Option String := none
  notificationDescription : Option String := none
  uptime : Option ℤ := none
  memberBindings : List NotificationMemberBinding := []
  snmpVersion : Option String := none
  username : Option String := none
  securityLevel : Option String := none
  contextEngineId : Option Bytes := none
  contextName : Option Bytes := none
  authoritativeEngineId : Option Bytes := none
  authoritativeEngineBoots : Option ℤ := none
  authoritativeEngineTime : Option ℤ := none
  deriving DecidableEq, Repr

def extractNotificationOid (varbinds : List VarBind) : Option OID :=
  varbinds.findSome? fun varbind =>
    match varbind.value with
    | .objectIdentifierValue oid => if varbind.oid = snmpTrapOidInstanceOid then some oid else none
    | _ => none

def extractUptime (varbinds : List VarBind) : Option ℤ :=
  varbinds.findSome? fun varbind =>
    match varbind.value with
    | .timeTicksValue ticks => if varbind.oid = sysUptimeInstanceOid then some ticks else none
    | _ => none

def buildMemberBindings (node : MibNode) (varbinds : List VarBind) : List NotificationMemberBinding :=
  let payload := varbinds.filter fun varbind =>
    varbind.oid ≠ sysUptimeInstanceOid ∧ varbind.oid ≠ snmpTrapOidInstanceOid
  (node.members.getD []).mapIdx fun index member => { member := member, varbind := payload[index]? }

structure NotificationMetadata where
  name : Option String := none
  description : Option String := none
  memberBindings : List NotificationMemberBinding := []

def notificationMetadata (bundle : Option MibRegistry) (notificationOid : Option OID) (varbinds : List VarBind) :
    Except Error NotificationMetadata :=
  match bundle, notificationOid with
  | some registry, some oid => do
    match ← registry.lookupOrNone oid with
    | none => return {}
    | some oidMatch =>
      let name ← registry.displaySymbolicFromMatch oidMatch
      if oidMatch.matchedOid ≠ oid ∨ oidMatch.suffix ≠ [] then return { name := some name }
      match registry.resolveNode oidMatch.module oidMatch.symbol with
      | none => return { name := some name }
      | some node =>
        if node.objectType ≠ "NOTIFICATION-TYPE" then return { name := some name }
        return {
          name := some name
          description := node.description
          memberBindings := buildMemberBindings node varbinds }
  | _, _ => .ok {}

def notificationEventFromPdu (pdu : Pdu) (requestId : ℤ) (community : Option String)
    (sourceAddress : Option SocketAddress) (bundle : Option MibRegistry) : Except Error NotificationEvent :=
  match pduTypeName? pdu.pduType with
  | none => .error (.valueError
      s!"Unsupported notification PDU type: <PduType.{pdu.pduType.name}: {pdu.pduType.tag.toNat}>")
  | some pduType => do
    let varbinds ← pdu.varbinds.mapM (publicVarbind (enrichVarbind bundle))
    let notificationOid := extractNotificationOid varbinds
    let metadata ← notificationMetadata bundle notificationOid varbinds
    return {
      requestId := requestId
      community := community
      sourceAddress := sourceAddress
      pduType := pduType
      varbinds := varbinds
      notificationOid := notificationOid
      notificationName := metadata.name
      notificationDescription := metadata.description
      uptime := extractUptime varbinds
      memberBindings := metadata.memberBindings }

def notificationEventFromMessage (message : SnmpMessage) (sourceAddress : Option SocketAddress)
    (bundle : Option MibRegistry) : Except Error NotificationEvent :=
  notificationEventFromPdu message.pdu message.pdu.requestId (some message.community) sourceAddress bundle

/-- `notification_event_from_v3_envelope`. A `UnicodeDecodeError` is a `ValueError`; the text it has is
left out, as the name of an envelope is always that of the configured user. -/
def notificationEventFromV3Envelope (envelope : V3NotificationEnvelope) (sourceAddress : Option SocketAddress)
    (bundle : Option MibRegistry) : Except Error NotificationEvent :=
  match Utf8.decode envelope.view.usmParams.username with
  | none => .error (.valueError "'utf-8' codec can't decode")
  | some username => do
    let event ← notificationEventFromPdu envelope.pdu envelope.pdu.requestId none sourceAddress bundle
    return { event with
      snmpVersion := some "3"
      username := some username
      securityLevel := some envelope.securityLevel
      contextEngineId := some envelope.contextEngineId
      contextName := some envelope.contextName
      authoritativeEngineId := some envelope.view.usmParams.engineId
      authoritativeEngineBoots := some envelope.view.usmParams.engineBoots
      authoritativeEngineTime := some envelope.view.usmParams.engineTime }

def decodeNotification (crypto : Crypto) (data : Bytes) (bundle : Option MibRegistry)
    (sourceAddress : Option SocketAddress) : Option UsmUser → Except Error NotificationEvent
  | none => do
    let message ← Wire.decodeMessage data
    notificationEventFromMessage message sourceAddress bundle
  | some user => do
    match ← decodeV3NotificationMessage crypto data user with
    | none => .error (.protocolError "Message is not a valid SNMPv3 trap or inform for the configured user")
    | some envelope => notificationEventFromV3Envelope envelope sourceAddress bundle

def WellFormedVarbinds (varbinds : List RawVarBind) : Prop :=
  ∀ varbind ∈ varbinds, WellFormed varbind.oid ∧ ∀ named, varbind.value = .objectIdentifierValue named →
    WellFormed named

theorem wellFormed_of_oidContent {oid : OID} {content : Bytes} (h : Asn1.OidContent oid content) : WellFormed oid := by
  refine ⟨?_, h.nonneg⟩
  cases h
  exact List.cons_ne_nil _ _

theorem wellFormed_of_elements {varbinds : List RawVarBind}
    (h : ∀ varbind ∈ varbinds, ∃ enc, Wire.VarbindElement Asn1.OidContent varbind enc) :
    WellFormedVarbinds varbinds := by
  intro varbind hmem
  obtain ⟨_, _, _, _, _, _, _, _, ⟨_, _, _, _, hoid⟩, _, _, _, hvalue⟩ := h varbind hmem
  refine ⟨wellFormed_of_oidContent hoid, ?_⟩
  rintro named hnamed
  rw [hnamed] at hvalue
  cases hvalue with
  | objectIdentifier _ _ hnamed => exact wellFormed_of_oidContent hnamed

def Showable (bundle : Option MibRegistry) (varbinds : List RawVarBind) : Prop :=
  ∀ varbind ∈ varbinds, ∀ n ∈ shownIntegers bundle varbind.oid varbind.value, PyText.Printable n

def rawVarbind (varbind : VarBind) : RawVarBind := { oid := varbind.oid, value := varbind.value }

theorem publicVarbind_ok_iff {enrich : Enricher} {varbind : RawVarBind} {shown : VarBind} :
    publicVarbind enrich varbind = .ok shown ↔
      ∃ display, enrich varbind.oid varbind.value = .ok display ∧ display.varbind varbind = shown := by
  simp only [publicVarbind, bind_ok_iff, pure_ok_iff]

theorem rawVarbinds_of_public {enrich : Enricher} {varbinds : List RawVarBind} {shown : List VarBind}
    (h : varbinds.mapM (publicVarbind enrich) = .ok shown) : shown.map rawVarbind = varbinds := by
  induction varbinds generalizing shown with
  | nil =>
    cases h
    rfl
  | cons varbind varbinds ih =>
    rw [List.mapM_cons] at h
    obtain ⟨first, hfirst, h⟩ := bind_ok_iff.mp h
    obtain ⟨rest, hrest, h⟩ := bind_ok_iff.mp h
    obtain ⟨display, -, rfl⟩ := publicVarbind_ok_iff.mp hfirst
    obtain rfl := pure_ok_iff.mp h
    rw [List.map_cons, ih hrest]
    rfl

theorem publicVarbinds_isOk_iff {bundle : Option MibRegistry} {varbinds : List RawVarBind}
    (hwell : WellFormedVarbinds varbinds) :
    (∃ shown, varbinds.mapM (publicVarbind (enrichVarbind bundle)) = .ok shown) ↔ Showable bundle varbinds := by
  rw [mapM_isOk_iff, Showable]
  refine forall₂_congr fun varbind hvarbind => ?_
  obtain ⟨hoid, hvalue⟩ := hwell varbind hvarbind
  rw [← enrichVarbind_isOk_iff bundle hoid hvalue]
  exact isOk_map_iff

theorem mem_of_extractNotificationOid {varbinds : List VarBind} {oid : OID}
    (h : extractNotificationOid varbinds = some oid) :
    ∃ varbind ∈ varbinds, varbind.value = .objectIdentifierValue oid := by
  obtain ⟨varbind, hmem, h⟩ := List.exists_of_findSome?_eq_some h
  refine ⟨varbind, hmem, ?_⟩
  split at h
  · rename_i named hvalue
    obtain ⟨-, h⟩ | ⟨-, h⟩ := ite_cases h
    · exact Option.some.inj h ▸ hvalue
    · cases h
  · cases h

theorem notificationMetadata_isOk {registry : MibRegistry} {oid : OID} (hoid : WellFormed oid)
    (hshown : ShownArcs (registry.unnamedArcs oid)) (varbinds : List VarBind) :
    ∃ metadata, notificationMetadata (some registry) (some oid) varbinds = .ok metadata := by
  obtain ⟨name, h⟩ := (registry.renderName_isOk_iff hoid).mpr hshown
  obtain ⟨oidMatch, hmatch, hname⟩ := bind_ok_iff.mp h
  rw [notificationMetadata, hmatch, ok_bind]
  cases oidMatch with
  | none => exact ⟨_, rfl⟩
  | some oidMatch =>
    obtain ⟨text, htext, -⟩ := bind_ok_iff.mp hname
    simp only [htext, ok_bind]
    split_ifs
    · exact ⟨_, rfl⟩
    · split
      · exact ⟨_, rfl⟩
      · split_ifs
        · exact ⟨_, rfl⟩
        · exact ⟨_, rfl⟩

variable {message : SnmpMessage} {sourceAddress : Option SocketAddress} {bundle : Option MibRegistry}

theorem notificationMetadata_of_public {varbinds : List RawVarBind} {shown : List VarBind}
    (hwell : WellFormedVarbinds varbinds) (hshowable : Showable bundle varbinds)
    (hshown : varbinds.mapM (publicVarbind (enrichVarbind bundle)) = .ok shown) :
    ∃ metadata, notificationMetadata bundle (extractNotificationOid shown) shown = .ok metadata := by
  cases bundle with
  | none => exact ⟨_, rfl⟩
  | some registry =>
    cases hnamed : extractNotificationOid shown with
    | none => exact ⟨_, rfl⟩
    | some oid =>
      obtain ⟨varbind, hmem, hvalue⟩ := mem_of_extractNotificationOid hnamed
      have hraw : rawVarbind varbind ∈ varbinds := rawVarbinds_of_public hshown ▸ List.mem_map_of_mem hmem
      apply notificationMetadata_isOk ((hwell _ hraw).2 oid hvalue)
      intro arc harc
      apply hshowable _ hraw
      rw [shownIntegers, List.mem_append, rawVarbind, hvalue]
      exact .inr harc

structure Reports (message : SnmpMessage) (sourceAddress : Option SocketAddress) (event : NotificationEvent) :
    Prop where
  requestId : event.requestId = message.pdu.requestId
  community : event.community = some message.community
  sourceAddress : event.sourceAddress = sourceAddress
  pduType : some event.pduType = pduTypeName? message.pdu.pduType
  varbinds : event.varbinds.map rawVarbind = message.pdu.varbinds

theorem reports_event {event : NotificationEvent}
    (h : notificationEventFromMessage message sourceAddress bundle = .ok event) :
    Reports message sourceAddress event := by
  rw [notificationEventFromMessage, notificationEventFromPdu] at h
  split at h
  · cases h
  · rename_i pduType hpduType
    obtain ⟨shown, hshown, h⟩ := bind_ok_iff.mp h
    obtain ⟨metadata, -, h⟩ := bind_ok_iff.mp h
    obtain rfl := pure_ok_iff.mp h
    exact ⟨rfl, rfl, rfl, hpduType.symm, rawVarbinds_of_public hshown⟩

theorem event_isOk_iff (htype : message.pdu.pduType ∈ [.snmpv2Trap, .informRequest])
    (hwell : WellFormedVarbinds message.pdu.varbinds) :
    (∃ event, notificationEventFromMessage message sourceAddress bundle = .ok event) ↔
      Showable bundle message.pdu.varbinds := by
  obtain ⟨pduType, hpduType⟩ : ∃ pduType, pduTypeName? message.pdu.pduType = some pduType := by
    simp only [List.mem_cons, List.not_mem_nil, or_false] at htype
    obtain h | h := htype
    · exact ⟨_, by rw [h]; rfl⟩
    · exact ⟨_, by rw [h]; rfl⟩
  simp only [notificationEventFromMessage, notificationEventFromPdu, hpduType, bind_ok_iff, pure_ok_iff]
  constructor
  · rintro ⟨event, shown, hshown, -⟩
    exact (publicVarbinds_isOk_iff hwell).mp ⟨shown, hshown⟩
  · intro hshowable
    obtain ⟨shown, hshown⟩ := (publicVarbinds_isOk_iff hwell).mpr hshowable
    obtain ⟨metadata, hmetadata⟩ := notificationMetadata_of_public hwell hshowable hshown
    exact ⟨_, shown, hshown, metadata, hmetadata, rfl⟩

end TrishulSnmp.Notify
