import TrishulSnmp.Wire.Asn1

namespace TrishulSnmp

inductive PduType
  | get | getNext | response | set | getBulk | informRequest | snmpv2Trap
  deriving DecidableEq, Repr

def PduType.tag : PduType → UInt8
  | get => 0xA0
  | getNext => 0xA1
  | response => 0xA2
  | set => 0xA3
  | getBulk => 0xA5
  | informRequest => 0xA6
  | snmpv2Trap => 0xA7

def PduType.name : PduType → String
  | get => "GET"
  | getNext => "GET_NEXT"
  | response => "RESPONSE"
  | set => "SET"
  | getBulk => "GET_BULK"
  | informRequest => "INFORM_REQUEST"
  | snmpv2Trap => "SNMPV2_TRAP"

def PduType.ofTag? (tag : UInt8) : Option PduType :=
  [get, getNext, response, set, getBulk, informRequest, snmpv2Trap].find? fun pduType => pduType.tag = tag

structure RawVarBind where
  oid : OID
  value : SnmpValue
  deriving DecidableEq, Repr

structure Pdu where
  pduType : PduType
  requestId : ℤ
  errorStatus : ℤ
  errorIndex : ℤ
  varbinds : List RawVarBind
  deriving DecidableEq, Repr

namespace Wire

open OffsetReader Ber Asn1

def sequenceTag : UInt8 := 0x30

def buildRawVarbinds (varbinds : List (OID × SnmpValue)) : List RawVarBind :=
  varbinds.map fun (oid, value) => { oid := oid, value := value }

def buildNullVarbinds (oids : List OID) : List RawVarBind :=
  oids.map fun oid => { oid := oid, value := .nullValue }

def encodeInteger (value : ℤ) : Except Error Bytes := encodeValue (.integerValue value)

def encodeVarbind (varbind : RawVarBind) : Except Error Bytes := do
  let name ← encodeValue (.objectIdentifierValue varbind.oid)
  let value ← encodeValue varbind.value
  return encodeTlv sequenceTag (name ++ value)

def encodeVarbindList (varbinds : List RawVarBind) : Except Error Bytes := do
  let parts ← varbinds.mapM encodeVarbind
  return encodeTlv sequenceTag parts.flatten

def encodePdu (pdu : Pdu) : Except Error Bytes := do
  let requestId ← encodeInteger pdu.requestId
  let errorStatus ← encodeInteger pdu.errorStatus
  let errorIndex ← encodeInteger pdu.errorIndex
  let varbinds ← encodeVarbindList pdu.varbinds
  return encodeTlv pdu.pduType.tag (requestId ++ errorStatus ++ errorIndex ++ varbinds)

def reencodeLengthPrefixed (content : Bytes) : Bytes := encodeLength content.length ++ content

def integerContent (expected : String) (tag : UInt8) (content : Bytes) : Except Error ℤ :=
  if tag ≠ integerTag then .error (.protocolError s!"Expected {expected}, found {hexOctet tag}")
  else if content = [] then .error (.protocolError "INTEGER content cannot be empty")
  else .ok (BigEndian.toInt content)

def decodeIntegerFrom : Bytes → ℕ → Except Error (ℤ × ℕ) := decodeElement (integerContent "INTEGER tag")

def oidContent (tag : UInt8) (content : Bytes) : Except Error OID :=
  if tag ≠ objectIdentifierTag then
    .error (.protocolError s!"Expected OBJECT IDENTIFIER, found {hexOctet tag}")
  else decodeOid content

def decodeOidFrom : Bytes → ℕ → Except Error (OID × ℕ) := decodeElement oidContent

def varbindContent (tag : UInt8) (content : Bytes) : Except Error RawVarBind :=
  if tag ≠ sequenceTag then .error (.protocolError s!"Expected VarBind SEQUENCE, found {hexOctet tag}")
  else do
    let (oid, innerOffset) ← decodeOidFrom content 0
    let ((valueTag, valueContent), valueOffset) ← decodeTlv content innerOffset
    let value ← decodeValue ([valueTag] ++ reencodeLengthPrefixed valueContent)
    expectEnd content valueOffset
    return { oid := oid, value := value }

def decodeVarbind : Bytes → ℕ → Except Error (RawVarBind × ℕ) := decodeElement varbindContent

def varbindListContent (tag : UInt8) (content : Bytes) : Except Error (List RawVarBind) :=
  if tag ≠ sequenceTag then
    .error (.protocolError s!"Expected VarBindList SEQUENCE, found {hexOctet tag}")
  else do
    let (varbinds, innerOffset) ← readMany decodeVarbind .nonTermination content (content.length + 1) 0
    expectEnd content innerOffset
    return varbinds

def decodeVarbindList : Bytes → ℕ → Except Error (List RawVarBind × ℕ) := decodeElement varbindListContent

def decodePduBody (pduType : PduType) (content : Bytes) : Except Error Pdu := do
  let (requestId, innerOffset) ← decodeIntegerFrom content 0
  let (errorStatus, innerOffset) ← decodeIntegerFrom content innerOffset
  let (errorIndex, innerOffset) ← decodeIntegerFrom content innerOffset
  let (varbinds, innerOffset) ← decodeVarbindList content innerOffset
  expectEnd content innerOffset
  return {
    pduType := pduType
    requestId := requestId
    errorStatus := errorStatus
    errorIndex := errorIndex
    varbinds := varbinds }

def decodePdu (data : Bytes) : Except Error Pdu := do
  let ((tag, content), offset) ← decodeTlv data 0
  expectEnd data offset
  match PduType.ofTag? tag with
  | none => .error (.protocolError s!"Unsupported PDU tag {hexOctet tag}")
  | some pduType => decodePduBody pduType content

def responseErrorStatus (status : ℤ) : Except Error ErrorStatus :=
  match ErrorStatus.ofInt? status with
  | some errorStatus => .ok errorStatus
  | none => do .error (.protocolError s!"Unsupported SNMP error-status value {← formatInt status}")

end Wire

end TrishulSnmp
