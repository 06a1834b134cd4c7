import TrishulSnmp.Library.Utf8
import TrishulSnmp.Wire.Pdu

namespace TrishulSnmp

structure SnmpMessage where
  version : ℤ
  community : String
  pdu : Pdu
  deriving DecidableEq, Repr

namespace Wire

open OffsetReader Ber Asn1

def snmpV2cVersion : ℤ := 1

def encodeOctetString (value : Bytes) : Except Error Bytes := encodeValue (.octetStringValue value)

def encodeMessage (message : SnmpMessage) : Except Error Bytes := do
  let version ← encodeInteger message.version
  let community ← encodeOctetString (Utf8.encode message.community)
  let pdu ← encodePdu message.pdu
  return encodeTlv sequenceTag (version ++ community ++ pdu)

def Message.decodeInteger : Bytes → ℕ → Except Error (ℤ × ℕ) := decodeElement (integerContent "INTEGER tag")

def communityContent (tag : UInt8) (content : Bytes) : Except Error String :=
  if tag ≠ octetStringTag then
    .error (.protocolError s!"Expected OCTET STRING tag, found {hexOctet tag}")
  else match Utf8.decode content with
    | some text => .ok text
    | none => .error (.protocolError "SNMP OCTET STRING contained invalid UTF-8 text")

def decodeOctetString : Bytes → ℕ → Except Error (String × ℕ) := decodeElement communityContent

def decodeMessage (data : Bytes) : Except Error SnmpMessage := do
  let ((tag, content), offset) ← decodeTlv data 0
  if tag ≠ sequenceTag then
    .error (.protocolError s!"Expected SNMP message SEQUENCE, found {hexOctet tag}")
  else do
    expectEnd data offset
    let (version, innerOffset) ← Message.decodeInteger content 0
    let (community, innerOffset) ← decodeOctetString content innerOffset
    let ((pduTag, pduContent), pduOffset) ← decodeTlv content innerOffset
    let pdu ← decodePdu ([pduTag] ++ reencodeLengthPrefixed pduContent)
    expectEnd content pduOffset
    if version ≠ snmpV2cVersion then
      -- the text of the error has to be made first, and that can fail
      .error (.protocolError s!"Unsupported SNMP version {← formatInt version}")
    else return { version := version, community := community, pdu := pdu }

end Wire

end TrishulSnmp
