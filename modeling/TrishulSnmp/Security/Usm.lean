import TrishulSnmp.Wire.V3Message

namespace TrishulSnmp

open Outcome Ber Asn1 Wire

inductive AuthProtocol
  | none | md5 | sha1 | sha256
  deriving DecidableEq, Repr

inductive PrivProtocol
  | none | des | aes128
  deriving DecidableEq, Repr

structure UsmUser where
  username : String
  authProtocol : AuthProtocol := .none
  authKey : Bytes := []
  authKeyLocalized : Bool := false
  privProtocol : PrivProtocol := .none
  privKey : Bytes := []
  deriving DecidableEq, Repr

structure UsmLocalEngine where
  engineId : Bytes
  engineBoots : ℤ
  engineTime : ℤ
  deriving DecidableEq, Repr

structure UsmModel where
  user : UsmUser
  contextName : Bytes := []
  localEngine : Option UsmLocalEngine := none
  peerEngineId : Bytes := []
  peerEngineBoots : ℤ := 0
  peerEngineTime : ℤ := 0
  msgIdCounter : ℤ := 0
  deriving DecidableEq, Repr

def UsmModel.peerEngine (model : UsmModel) : UsmLocalEngine :=
  { engineId := model.peerEngineId, engineBoots := model.peerEngineBoots, engineTime := model.peerEngineTime }

structure Crypto where
  digest : AuthProtocol → Bytes → Bytes
  hmac : AuthProtocol → Bytes → Bytes → Bytes
  aesCfbEncrypt : Bytes → Bytes → Bytes → Bytes
  aesCfbDecrypt : Bytes → Bytes → Bytes → Bytes

/-- What the sender and the receiver rely on: the shortest of the hashes, MD5, has 16 octets. -/
structure Crypto.Lawful (crypto : Crypto) : Prop where
  length_hmac : ∀ authProtocol key msg, authProtocol ≠ .none → 12 ≤ (crypto.hmac authProtocol key msg).length
  decrypt_encrypt : ∀ key iv plain, crypto.aesCfbDecrypt key iv (crypto.aesCfbEncrypt key iv plain) = plain

def authTagLen : ℕ := 12

def reportPduTag : UInt8 := 0xA8

def maxMsgSize : ℤ := 65507

def discoveryProbeOid : OID := [1, 3, 6, 1, 6, 3, 15, 1, 1, 4, 0]

/-- A mebibyte of the password over and over; it is not empty where this is used. -/
def repeatedPassword (password : Bytes) : Bytes :=
  (List.range 1048576).map fun i => password.getD (i % password.length) 0

def localizedKey (crypto : Crypto) (authProtocol : AuthProtocol) (password engineId : Bytes) : Bytes :=
  let ku := crypto.digest authProtocol (repeatedPassword password)
  crypto.digest authProtocol (ku ++ engineId ++ ku)

def packUnsigned (value : ℤ) : Except Error Bytes :=
  if 0 ≤ value ∧ value < 4294967296 then .ok (BigEndian.ofNat 4 value.toNat)
  else .error (.structError "'I' format requires 0 <= number <= 4294967295")

namespace UsmModel

variable (crypto : Crypto) (model : UsmModel)

def authEnabled : Bool := model.user.authProtocol ≠ .none

def localizeKey (password engineId : Bytes) : Except Error Bytes :=
  if model.user.authProtocol = .none then
    .error (.protocolError "Cannot localize key without an auth protocol")
  else .ok (localizedKey crypto model.user.authProtocol password engineId)

def hmacKey (engineId : Bytes) : Except Error Bytes :=
  if model.user.authKey = [] then .ok []
  else if model.user.authKeyLocalized then .ok model.user.authKey
  else model.localizeKey crypto model.user.authKey engineId

def computeAuthTag (msg engineId : Bytes) : Except Error Bytes :=
  if model.user.authProtocol = .none then
    .error (.protocolError "Unsupported auth protocol: AuthProtocol.NONE")
  else do
    let key ← model.hmacKey crypto engineId
    return (crypto.hmac model.user.authProtocol key msg).take authTagLen

def verifyAuth (raw : Bytes) (authParamsOffset : ℕ) (receivedTag engineId : Bytes) : Except Error Unit := do
  let zeroed := raw.take authParamsOffset ++ List.replicate authTagLen 0 ++ raw.drop (authParamsOffset + authTagLen)
  let expected ← model.computeAuthTag crypto zeroed engineId
  if expected ≠ receivedTag.take authTagLen then
    .error (.authenticationError "USM authentication verification failed")
  else .ok ()

def localizePrivKey (password engineId : Bytes) : Except Error Bytes :=
  if model.user.authProtocol = .none then
    .error (.protocolError "Cannot derive priv key without an auth protocol")
  else .ok (localizedKey crypto model.user.authProtocol password engineId)

def privKeyAes128 (engineId : Bytes) : Except Error Bytes :=
  if model.user.privKey ≠ [] then do
    let raw ← model.localizePrivKey crypto model.user.privKey engineId
    return raw.take 16
  else .error (.protocolError "AES-128 privacy requires a priv_key")

def decryptAes128 (msgData privParams engineId : Bytes) (msgEngineBoots msgEngineTime : ℤ) : Except Error Bytes := do
  let ((tag, ciphertext), _) ← decodeTlv msgData 0
  if tag ≠ octetStringTag then
    .error (.protocolError s!"Expected encryptedPDU OCTET STRING, found {hexOctet tag}")
  else if privParams.length ≠ 8 then
    .error (.protocolError s!"AES-128 privacyParameters must be exactly 8 octets, got {privParams.length}")
  else do
    let aesKey ← model.privKeyAes128 crypto engineId
    let boots ← packUnsigned msgEngineBoots
    let time ← packUnsigned msgEngineTime
    return crypto.aesCfbDecrypt aesKey (boots ++ time ++ privParams) ciphertext

def decryptDes : Except Error Bytes :=
  .error (.protocolError "DES-CBC is not supported; use AES-128 or upgrade to cryptography>=42")

def decryptScopedPdu (msgData : Bytes) (usmParams : UsmParams) : Except Error Bytes :=
  match model.user.privProtocol with
  | .aes128 => model.decryptAes128 crypto msgData usmParams.privParams usmParams.engineId usmParams.engineBoots
      usmParams.engineTime
  | .des => decryptDes
  | .none => .error (.protocolError "Unsupported priv protocol: PrivProtocol.NONE")

def scopedPduOf (data : Bytes) (view : V3MessageView) : Except Error Bytes := do
  if model.authEnabled then
    model.verifyAuth crypto data view.authParamsOffset view.usmParams.authParams view.usmParams.engineId
  if model.user.privProtocol ≠ .none then model.decryptScopedPdu crypto view.msgDataBytes view.usmParams
  else return view.msgDataBytes

def selectOutboundEngine (pduType : PduType) : Except Error UsmLocalEngine :=
  if pduType = .snmpv2Trap then
    match model.localEngine with
    | none => .error (.protocolError
        "SNMPv3 traps require local_engine authoritative state (engine_id, engine_boots, engine_time)")
    | some engine => .ok engine
  else .ok model.peerEngine

def msgFlags (pduType : PduType) : UInt8 :=
  let flags := if pduType = .snmpv2Trap ∨ pduType = .response then 0 else msgFlagReportable
  let flags := if model.authEnabled then flags ||| msgFlagAuth else flags
  if model.user.privProtocol ≠ .none then flags ||| msgFlagPriv else flags

def stampAuth (raw engineId : Bytes) : Except Error Bytes := do
  let tag ← model.computeAuthTag crypto raw engineId
  let view ← decodeV3Message raw
  return raw.take view.authParamsOffset ++ tag ++ raw.drop (view.authParamsOffset + authTagLen)

def encryptAes128 (salt plaintext : Bytes) (engine : UsmLocalEngine) : Except Error (Bytes × Bytes) := do
  let aesKey ← model.privKeyAes128 crypto engine.engineId
  let boots ← packUnsigned engine.engineBoots
  let time ← packUnsigned engine.engineTime
  return (salt, encodeTlv octetStringTag (crypto.aesCfbEncrypt aesKey (boots ++ time ++ salt) plaintext))

def encryptDes : Except Error (Bytes × Bytes) :=
  .error (.protocolError "DES-CBC is not supported; use AES-128 or upgrade to cryptography>=42")

def encryptScopedPdu (salt scopedBytes : Bytes) (engine : UsmLocalEngine) : Except Error (Bytes × Bytes) :=
  match model.user.privProtocol with
  | .aes128 => model.encryptAes128 crypto salt scopedBytes engine
  | .des => encryptDes
  | .none => .error (.protocolError "Unsupported priv protocol: PrivProtocol.NONE")

def protectScopedPdu (salt scopedBytes : Bytes) (engine : UsmLocalEngine) : Except Error (Bytes × Bytes) :=
  if model.user.privProtocol ≠ .none then model.encryptScopedPdu crypto salt scopedBytes engine
  else .ok ([], scopedBytes)

def authPlaceholder : Bytes := List.replicate authTagLen 0

def unstampedMessage (salt : Bytes) (msgId : ℤ) (engine : UsmLocalEngine) (pdu : Pdu) : Except Error Bytes := do
  let scopedBytes ← encodeScopedPdu engine.engineId model.contextName pdu
  let (privParams, scopedBytes) ← model.protectScopedPdu crypto salt scopedBytes engine
  let usm := {
    engineId := engine.engineId
    engineBoots := engine.engineBoots
    engineTime := engine.engineTime
    username := Utf8.encode model.user.username
    authParams := if model.authEnabled then authPlaceholder else []
    privParams := privParams }
  encodeV3Message msgId maxMsgSize (model.msgFlags pdu.pduType) usm scopedBytes

def wrapMessage (salt : Bytes) (msgId : ℤ) (engine : UsmLocalEngine) (pdu : Pdu) : Except Error Bytes := do
  let raw ← model.unstampedMessage crypto salt msgId engine pdu
  if model.authEnabled then model.stampAuth crypto raw engine.engineId else .ok raw

def wrapPdu (salt : Bytes) (pdu : Pdu) : Except Error Bytes × UsmModel :=
  match model.selectOutboundEngine pdu.pduType with
  | .error e => (.error e, model)
  | .ok engine =>
    let msgId := model.msgIdCounter + 1
    (model.wrapMessage crypto salt msgId engine pdu, { model with msgIdCounter := msgId })

def discoveryProbePdu (requestId : ℤ) : Pdu :=
  { pduType := .get
    requestId := requestId
    errorStatus := 0
    errorIndex := 0
    varbinds := [{ oid := discoveryProbeOid, value := .nullValue }] }

def noParams : UsmParams :=
  { engineId := [], engineBoots := 0, engineTime := 0, username := [], authParams := [], privParams := [] }

def buildDiscoveryProbe : Except Error Bytes × UsmModel :=
  let msgId := model.msgIdCounter + 1
  let probe := do
    let scopedBytes ← encodeScopedPdu [] [] (discoveryProbePdu msgId)
    encodeV3Message msgId maxMsgSize msgFlagReportable noParams scopedBytes
  (probe, { model with msgIdCounter := msgId })

def validateReportBody (pduBody : Bytes) : Except Error Unit := do
  let (_, offset) ← decodeIntegerFrom pduBody 0
  let (_, offset) ← decodeIntegerFrom pduBody offset
  let (_, offset) ← decodeIntegerFrom pduBody offset
  let (_, offset) ← decodeVarbindList pduBody offset
  expectEnd pduBody offset

def peekScopedPdu (msgDataBytes : Bytes) : Except Error (Bytes × Bytes × UInt8 × ℕ) := do
  let ((tag, content), stop) ← decodeTlv msgDataBytes 0
  if tag ≠ sequenceTag then .error (.protocolError s!"Expected ScopedPDU SEQUENCE, found {hexOctet tag}")
  else do
    expectEnd msgDataBytes stop
    let ((engineTag, engineId), offset) ← decodeTlv content 0
    if engineTag ≠ octetStringTag then
      .error (.protocolError s!"Expected engineID OCTET STRING, found {hexOctet engineTag}")
    else do
      let ((contextTag, contextName), offset) ← decodeTlv content offset
      if contextTag ≠ octetStringTag then
        .error (.protocolError s!"Expected contextName OCTET STRING, found {hexOctet contextTag}")
      else do
        let ((pduTag, pduBody), pduEnd) ← decodeTlv content offset
        expectEnd content pduEnd
        validateReportBody pduBody
        return (engineId, contextName, pduTag, stop)

def parseDiscoveryResponse (data : Bytes) : Except Error UsmModel := do
  let view ← (decodeV3Message data).mapError (Error.reworded "Engine discovery: invalid response: ")
  let (_, _, pduTag, _) ←
    (peekScopedPdu view.msgDataBytes).mapError (Error.reworded "Engine discovery: cannot decode ScopedPDU: ")
  if pduTag ≠ reportPduTag then
    .error (.protocolError s!"Engine discovery: expected REPORT PDU ({hexOctet reportPduTag}), found {hexOctet pduTag}")
  else if view.usmParams.engineId = [] then
    .error (.protocolError "Engine discovery: REPORT contained empty engineID")
  else return {
    model with
    peerEngineId := view.usmParams.engineId
    peerEngineBoots := view.usmParams.engineBoots
    peerEngineTime := view.usmParams.engineTime }

def unwrapMessage (data : Bytes) : Except Error (Option Pdu) :=
  match decodeV3Message data with
  | .error e => if e.isProtocolError then .ok none else .error e
  | .ok view =>
    if view.usmParams.username ≠ Utf8.encode model.user.username then .ok none
    else if model.peerEngineId ≠ [] ∧ view.usmParams.engineId ≠ model.peerEngineId then .ok none
    else do
      let msgData ← model.scopedPduOf crypto data view
      match decodeScopedPdu msgData with
      | .error e => if e.isProtocolError then return none else .error e
      | .ok (_, _, pdu) => return some pdu

end UsmModel

end TrishulSnmp
