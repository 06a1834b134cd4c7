import TrishulSnmp.Library.PrintableText
import TrishulSnmp.Library.PyText
import TrishulSnmp.Wire.Ber

namespace TrishulSnmp.Asn1

open BigEndian OffsetReader Outcome Ber

def integerTag : UInt8 := 0x02
def octetStringTag : UInt8 := 0x04
def nullTag : UInt8 := 0x05
def objectIdentifierTag : UInt8 := 0x06
def ipAddressTag : UInt8 := 0x40
def counter32Tag : UInt8 := 0x41
def gauge32Tag : UInt8 := 0x42
def timeTicksTag : UInt8 := 0x43
def opaqueTag : UInt8 := 0x44
def counter64Tag : UInt8 := 0x46
def noSuchObjectTag : UInt8 := 0x80
def noSuchInstanceTag : UInt8 := 0x81
def endOfMibViewTag : UInt8 := 0x82

def trimSign : Bytes → Bytes
  | a :: b :: rest =>
    if (a = 0x00 ∧ b &&& 0x80 = 0) ∨ (a = 0xFF ∧ b &&& 0x80 = 0x80) then trimSign (b :: rest)
    else a :: b :: rest
  | encoded => encoded

def encodeSignedInteger (value : ℤ) : Bytes :=
  if value = 0 then [0x00]
  else trimSign (ofInt (max 1 ((bitLength value.natAbs + 8) / 8)) value)

def decodeSignedInteger (content : Bytes) : Except Error ℤ :=
  if content = [] then .error (.protocolError "INTEGER content cannot be empty")
  else .ok (toInt content)

def encodeUnsignedInteger (value : ℤ) : Except Error Bytes :=
  if value < 0 then .error (.protocolError "Unsigned SNMP values cannot be negative")
  else if value = 0 then .ok [0x00]
  else do
    let encoded := BigEndian.ofNat ((bitLength value.toNat + 7) / 8) value.toNat
    let first ← octetAt encoded 0
    if first &&& 0x80 ≠ 0 then return 0x00 :: encoded else return encoded

def decodeUnsignedInteger (content : Bytes) : Except Error ℤ :=
  if content = [] then .error (.protocolError "Unsigned integer content cannot be empty")
  else .ok (BigEndian.toNat content)

def encodeBase128 (value : ℕ) : Bytes :=
  if value = 0 then [0x00] else Base128.ofChunks (Nat.digits 128 value).reverse

def decodeBase128From : Bytes → ℕ → ℕ → Except Error (ℕ × ℕ)
  | [], _, _ => .error (.protocolError "Truncated base-128 value")
  | byte :: rest, offset, value =>
    let value := (value <<< 7) ||| (byte &&& 0x7F).toNat
    if byte &&& 0x80 = 0 then .ok (value, offset + 1) else decodeBase128From rest (offset + 1) value

def decodeBase128 (content : Bytes) (offset : ℕ) : Except Error (ℕ × ℕ) :=
  decodeBase128From (content.drop offset) offset 0

def byteOf (n : ℤ) : Except Error UInt8 :=
  if 0 ≤ n ∧ n < 256 then .ok (UInt8.ofNat n.toNat)
  else .error (.valueError "byte must be in range(0, 256)")

def encodeArcs : List ℤ → Except Error Bytes
  | [] => .ok []
  | arc :: arcs =>
    if arc < 0 then .error (.protocolError "OID arcs cannot be negative")
    else do
      let rest ← encodeArcs arcs
      return encodeBase128 arc.toNat ++ rest

theorem encodeArcs_failsOnly (arcs : List ℤ) : FailsOnly (fun e => e.isProtocolError) (encodeArcs arcs) := by
  induction arcs with
  | nil => exact failsOnly_ok _
  | cons arc arcs ih =>
    apply failsOnly_ite
    · exact fun _ => failsOnly_error rfl
    · exact fun _ => failsOnly_bind ih fun _ _ => failsOnly_ok _

def encodeOid : OID → Except Error Bytes
  | first :: second :: arcs =>
    if first > 2 then .error (.protocolError "First OID arc must be 0, 1, or 2")
    else if first < 2 ∧ second ≥ 40 then
      .error (.protocolError "Second OID arc must be < 40 when the first arc is 0 or 1")
    else do
      let head ← byteOf (first * 40 + second)
      let content ← encodeArcs arcs
      return head :: content
  | _ => .error (.protocolError "OBJECT IDENTIFIER requires at least two arcs")

def firstArcs (first : UInt8) : ℤ × ℤ :=
  if first.toNat < 40 then (0, first.toNat)
  else if first.toNat < 80 then (1, first.toNat - 40)
  else (2, first.toNat - 80)

def decodeOid (content : Bytes) : Except Error OID :=
  if content = [] then .error (.protocolError "OBJECT IDENTIFIER content cannot be empty")
  else do
    -- the first octet is taken whole: a high bit does not join it to the next
    let first ← octetAt content 0
    let (firstArc, secondArc) := firstArcs first
    let (arcs, _) ← readMany decodeBase128 .nonTermination content (content.length + 1) 1
    return firstArc :: secondArc :: arcs.map fun arc : ℕ => (arc : ℤ)

def encodeIpAddress (value : String) : Except Error Bytes :=
  let parts := PyText.splitDot value.toList
  let shown := String.ofList (PyText.repr value.toList)
  if parts.length ≠ 4 then
    .error (.protocolError s!"IPv4 address must contain four octets: {shown}")
  else match parts.mapM PyText.parseInt with
    | none => .error (.protocolError s!"IPv4 address contains a non-numeric octet: {shown}")
    | some octets =>
      if octets.any (fun octet => octet < 0 || octet > 255) then
        .error (.protocolError s!"IPv4 octets must be between 0 and 255: {shown}")
      else .ok (octets.map fun octet => UInt8.ofNat octet.toNat)

def dotted (content : Bytes) : String :=
  String.ofList (PyText.joinDot (content.map fun octet => PyText.natText octet.toNat))

def decodeIpAddress (content : Bytes) : Except Error String :=
  if content.length ≠ 4 then
    .error (.protocolError "IpAddress values must contain exactly four octets")
  else .ok (dotted content)

def requireEmpty (content : Bytes) (tag : UInt8) : Except Error Unit :=
  if content ≠ [] then
    .error (.protocolError s!"Zero-length value expected for tag {hexOctet tag}")
  else .ok ()

def encodeValue : SnmpValue → Except Error Bytes
  | .integerValue value => .ok (encodeTlv integerTag (encodeSignedInteger value))
  | .octetStringValue value => .ok (encodeTlv octetStringTag value)
  | .nullValue => .ok (encodeTlv nullTag [])
  | .objectIdentifierValue value => do return encodeTlv objectIdentifierTag (← encodeOid value)
  | .ipAddressValue value => do return encodeTlv ipAddressTag (← encodeIpAddress value)
  | .counter32Value value => do return encodeTlv counter32Tag (← encodeUnsignedInteger value)
  | .gauge32Value value => do return encodeTlv gauge32Tag (← encodeUnsignedInteger value)
  | .timeTicksValue value => do return encodeTlv timeTicksTag (← encodeUnsignedInteger value)
  | .opaqueValue value => .ok (encodeTlv opaqueTag value)
  | .counter64Value value => do return encodeTlv counter64Tag (← encodeUnsignedInteger value)
  | .noSuchObjectValue => .ok (encodeTlv noSuchObjectTag [])
  | .noSuchInstanceValue => .ok (encodeTlv noSuchInstanceTag [])
  | .endOfMibViewValue => .ok (encodeTlv endOfMibViewTag [])

def decodeContent (tag : UInt8) (content : Bytes) : Except Error SnmpValue :=
  if tag = integerTag then do return .integerValue (← decodeSignedInteger content)
  else if tag = octetStringTag then .ok (.octetStringValue content)
  else if tag = nullTag then do
    requireEmpty content tag
    return .nullValue
  else if tag = objectIdentifierTag then do return .objectIdentifierValue (← decodeOid content)
  else if tag = ipAddressTag then do return .ipAddressValue (← decodeIpAddress content)
  else if tag = counter32Tag then do return .counter32Value (← decodeUnsignedInteger content)
  else if tag = gauge32Tag then do return .gauge32Value (← decodeUnsignedInteger content)
  else if tag = timeTicksTag then do return .timeTicksValue (← decodeUnsignedInteger content)
  else if tag = opaqueTag then .ok (.opaqueValue content)
  else if tag = counter64Tag then do return .counter64Value (← decodeUnsignedInteger content)
  else if tag = noSuchObjectTag then do
    requireEmpty content tag
    return .noSuchObjectValue
  else if tag = noSuchInstanceTag then do
    requireEmpty content tag
    return .noSuchInstanceValue
  else if tag = endOfMibViewTag then do
    requireEmpty content tag
    return .endOfMibViewValue
  else .error (.protocolError s!"Unsupported SNMP value tag {hexOctet tag}")

def decodeValue (data : Bytes) : Except Error SnmpValue := do
  let ((tag, content), offset) ← decodeTlv data 0
  expectEnd data offset
  decodeContent tag content

example : encodeOid [1, 3, 6, 1, 300] = .ok [0x2B, 0x06, 0x01, 0x82, 0x2C] := by decide
example : decodeOid [0x51] = .ok [2, 1] := by decide
example : encodeSignedInteger (-129) = [0xFF, 0x7F] := by decide
example : encodeIpAddress "01.2.3.4" = .ok [1, 2, 3, 4] := by decide +kernel

end TrishulSnmp.Asn1
