import TrishulSnmp.Security.Usm

namespace TrishulSnmp

open Outcome Ber Asn1 Wire

structure V3NotificationEnvelope where
  view : V3MessageView
  pdu : Pdu
  contextEngineId : Bytes
  contextName : Bytes
  securityLevel : String
  deriving DecidableEq, Repr

namespace Notify

def securityLevelFromFlags (flags : UInt8) : String :=
  if flags &&& msgFlagPriv ≠ 0 then "authPriv"
  else if flags &&& msgFlagAuth ≠ 0 then "authNoPriv"
  else "noAuthNoPriv"

def expectedSecurityFlags (user : UsmUser) : UInt8 :=
  let expected := 0
  let expected := if user.authProtocol ≠ .none then expected ||| msgFlagAuth else expected
  if user.privProtocol ≠ .none then expected ||| msgFlagPriv else expected

def validateSecurityLevel (flags : UInt8) (user : UsmUser) : Except Error Unit :=
  if flags &&& msgFlagPriv ≠ 0 ∧ ¬ flags &&& msgFlagAuth ≠ 0 then
    .error (.protocolError "SNMPv3 privacy requires authentication")
  else
    let actual := flags &&& (msgFlagAuth ||| msgFlagPriv)
    let expected := expectedSecurityFlags user
    if actual ≠ expected then
      .error (.protocolError
        (s!"Configured user requires {securityLevelFromFlags expected} messages, " ++
          s!"received {securityLevelFromFlags actual}"))
    else .ok ()

def validateNotificationReportableFlag (flags : UInt8) (pduType : PduType) : Except Error Unit :=
  let reportable := flags &&& msgFlagReportable ≠ 0
  if pduType = .snmpv2Trap ∧ reportable then
    .error (.protocolError "SNMPv3 trap notifications must clear reportableFlag")
  else if pduType = .informRequest ∧ ¬ reportable then
    .error (.protocolError "SNMPv3 inform notifications must set reportableFlag")
  else .ok ()

def usmCodec (user : UsmUser) (localEngine : Option UsmLocalEngine) : UsmModel :=
  { user := user, localEngine := localEngine }

def labelledOctets (label : String) (tag : UInt8) (content : Bytes) : Except Error Bytes :=
  if tag ≠ octetStringTag then .error (.protocolError s!"Expected {label} OCTET STRING, found {hexOctet tag}")
  else .ok content

def decodeOctets (label : String) : Bytes → ℕ → Except Error (Bytes × ℕ) := decodeElement (labelledOctets label)

def decodeScopedFields (data : Bytes) : Except Error (Bytes × Bytes × UInt8 × Bytes) := do
  let ((tag, content), stop) ← decodeTlv data 0
  if tag ≠ sequenceTag then .error (.protocolError s!"Expected ScopedPDU SEQUENCE, found {hexOctet tag}")
  else do
    expectEnd data stop
    let (contextEngineId, offset) ← decodeOctets "contextEngineID" content 0
    let (contextName, offset) ← decodeOctets "contextName" content offset
    let ((pduTag, pduContent), offset) ← decodeTlv content offset
    expectEnd content offset
    return (contextEngineId, contextName, pduTag, pduContent)

def decodePduBytes (tag : UInt8) (content : Bytes) : Except Error Pdu :=
  decodePdu ([tag] ++ encodeLength content.length ++ content)

def isNotificationTag (tag : UInt8) : Bool := tag = PduType.snmpv2Trap.tag ∨ tag = PduType.informRequest.tag

def decodeNotificationScopedPdu (data : Bytes) : Except Error (Bytes × Bytes × Option Pdu) := do
  let (contextEngineId, contextName, pduTag, pduContent) ← decodeScopedFields data
  if ¬ isNotificationTag pduTag then return (contextEngineId, contextName, none)
  else do
    let pdu ← decodePduBytes pduTag pduContent
    return (contextEngineId, contextName, some pdu)

variable (crypto : Crypto)

def checkAuth (data : Bytes) (view : V3MessageView) (codec : UsmModel) : Except Error Unit :=
  if view.msgFlags &&& msgFlagAuth ≠ 0 then
    if view.usmParams.authParams.length ≠ authTagLen then
      .error (.protocolError
        s!"USM auth parameters must be exactly {authTagLen} octets, got {view.usmParams.authParams.length}")
    else codec.verifyAuth crypto data view.authParamsOffset view.usmParams.authParams view.usmParams.engineId
  else .ok ()

def openMsgData (view : V3MessageView) (codec : UsmModel) : Except Error Bytes :=
  if view.msgFlags &&& msgFlagPriv ≠ 0 then codec.decryptScopedPdu crypto view.msgDataBytes view.usmParams
  else .ok view.msgDataBytes

def decodeV3NotificationMessage (data : Bytes) (user : UsmUser) : Except Error (Option V3NotificationEnvelope) := do
  let view ← decodeV3Message data
  if view.usmParams.username ≠ Utf8.encode user.username then return none
  else do
    validateSecurityLevel view.msgFlags user
    let codec := usmCodec user none
    checkAuth crypto data view codec
    let msgData ← openMsgData crypto view codec
    let (contextEngineId, contextName, pdu) ← decodeNotificationScopedPdu msgData
    match pdu with
    | none => return none
    | some pdu => do
      validateNotificationReportableFlag view.msgFlags pdu.pduType
      return some {
        view := view
        pdu := pdu
        contextEngineId := contextEngineId
        contextName := contextName
        securityLevel := securityLevelFromFlags view.msgFlags }

def isProbeHeader (view : V3MessageView) : Bool :=
  view.msgFlags = msgFlagReportable ∧ view.usmParams = UsmModel.noParams

def isProbePdu (pdu : Pdu) : Bool := pdu.varbinds = [{ oid := discoveryProbeOid, value := .nullValue }]

/-- `try: … except ProtocolError: return False`. -/
def orFalse {α : Type} (x : Except Error α) (k : α → Except Error Bool) : Except Error Bool :=
  match x with
  | .error e => if e.isProtocolError then .ok false else .error e
  | .ok a => k a

def isDiscoveryProbe (data : Bytes) : Except Error Bool :=
  orFalse (decodeV3Message data) fun view =>
    if ¬ isProbeHeader view then .ok false
    else orFalse (decodeScopedFields view.msgDataBytes) fun (contextEngineId, contextName, pduTag, pduContent) =>
      if contextEngineId ≠ [] ∨ contextName ≠ [] ∨ pduTag ≠ PduType.get.tag then .ok false
      else orFalse (decodePduBytes pduTag pduContent) fun probe => .ok (isProbePdu probe)

def decodeDiscoveryProbe (data : Bytes) : Except Error (V3MessageView × Bytes × Bytes × Pdu) := do
  let (view, contextEngineId, contextName, pduTag, pduContent) ← (do
    let view ← decodeV3Message data
    let fields ← decodeScopedFields view.msgDataBytes
    return (view, fields)).mapError (Error.reworded "Invalid discovery probe: ")
  if ¬ (← isDiscoveryProbe data) then .error (.protocolError "Invalid discovery probe")
  else do
    let pdu ← decodePduBytes pduTag pduContent
    return (view, contextEngineId, contextName, pdu)

def encodeReportPdu (requestId errorStatus errorIndex : ℤ) (varbinds : List RawVarBind) : Except Error Bytes := do
  let requestId ← encodeInteger requestId
  let errorStatus ← encodeInteger errorStatus
  let errorIndex ← encodeInteger errorIndex
  let varbinds ← encodeVarbindList varbinds
  return encodeTlv reportPduTag (requestId ++ errorStatus ++ errorIndex ++ varbinds)

def encodeScopedRawPdu (contextEngineId contextName pdu : Bytes) : Bytes :=
  encodeTlv sequenceTag (encodeTlv octetStringTag contextEngineId ++ encodeTlv octetStringTag contextName ++ pdu)

def encodeDiscoveryReport (data : Bytes) (localEngine : UsmLocalEngine) : Except Error Bytes := do
  let (view, contextEngineId, contextName, probe) ← decodeDiscoveryProbe data
  let reportPdu ← encodeReportPdu probe.requestId 0 0 [{ oid := discoveryProbeOid, value := .counter32Value 1 }]
  let usm := {
    engineId := localEngine.engineId
    engineBoots := localEngine.engineBoots
    engineTime := localEngine.engineTime
    username := []
    authParams := []
    privParams := [] }
  encodeV3Message view.msgId maxMsgSize 0 usm (encodeScopedRawPdu contextEngineId contextName reportPdu)

def informResponsePdu (pdu : Pdu) : Pdu :=
  { pduType := .response
    requestId := pdu.requestId
    errorStatus := 0
    errorIndex := 0
    varbinds := pdu.varbinds }

def protectResponse (salt : Bytes) (flags : UInt8) (codec : UsmModel) (msgData : Bytes) (localEngine : UsmLocalEngine) :
    Except Error (Bytes × Bytes) :=
  if flags &&& msgFlagPriv ≠ 0 then codec.encryptScopedPdu crypto salt msgData localEngine else .ok ([], msgData)

def unstampedInformResponse (salt : Bytes) (envelope : V3NotificationEnvelope) (user : UsmUser)
    (localEngine : UsmLocalEngine) : Except Error Bytes :=
  if envelope.pdu.pduType ≠ .informRequest then
    .error (.protocolError s!"Inform response requires INFORM-REQUEST, found {envelope.pdu.pduType.name}")
  else do
    let flags := envelope.view.msgFlags
    validateSecurityLevel flags user
    let msgData ← encodeScopedPdu envelope.contextEngineId envelope.contextName (informResponsePdu envelope.pdu)
    let codec := usmCodec user (some localEngine)
    let (privParams, msgData) ← protectResponse crypto salt flags codec msgData localEngine
    let usm := {
      engineId := localEngine.engineId
      engineBoots := localEngine.engineBoots
      engineTime := localEngine.engineTime
      username := Utf8.encode user.username
      authParams := if flags &&& msgFlagAuth ≠ 0 then UsmModel.authPlaceholder else []
      privParams := privParams }
    encodeV3Message envelope.view.msgId maxMsgSize (flags &&& (msgFlagAuth ||| msgFlagPriv)) usm msgData

def encodeInformResponse (salt : Bytes) (envelope : V3NotificationEnvelope) (user : UsmUser)
    (localEngine : UsmLocalEngine) : Except Error Bytes := do
  let raw ← unstampedInformResponse crypto salt envelope user localEngine
  if envelope.view.msgFlags &&& msgFlagAuth ≠ 0 then
    (usmCodec user (some localEngine)).stampAuth crypto raw localEngine.engineId
  else return raw

end Notify

end TrishulSnmp
