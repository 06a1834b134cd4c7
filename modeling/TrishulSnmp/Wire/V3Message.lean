import TrishulSnmp.Wire.X690

namespace TrishulSnmp

structure UsmParams where
  engineId : Bytes
  engineBoots : ℤ
  engineTime : ℤ
  username : Bytes
  authParams : Bytes
  privParams : Bytes
  deriving DecidableEq, Repr

/-- `msgFlags` is one octet in every decoded message. -/
structure V3MessageView where
  msgId : ℤ
  msgMaxSize : ℤ
  msgFlags : UInt8
  msgSecurityModel : ℤ
  usmParams : UsmParams
  msgDataBytes : Bytes
  authParamsOffset : ℕ
  deriving DecidableEq, Repr

namespace Wire

open OffsetReader Outcome Ber Asn1

def snmpV3Version : ℤ := 3

def securityModelUsm : ℤ := 3

def msgFlagAuth : UInt8 := 0x01

def msgFlagPriv : UInt8 := 0x02

def msgFlagReportable : UInt8 := 0x04

def encodeHeaderData (msgId msgMaxSize : ℤ) (flags : UInt8) : Except Error Bytes := do
  let id ← encodeInteger msgId
  let maxSize ← encodeInteger msgMaxSize
  let securityModel ← encodeInteger securityModelUsm
  return encodeTlv sequenceTag (id ++ maxSize ++ encodeTlv octetStringTag [flags] ++ securityModel)

def encodeUsmParams (p : UsmParams) : Except Error Bytes := do
  let engineBoots ← encodeInteger p.engineBoots
  let engineTime ← encodeInteger p.engineTime
  return encodeTlv sequenceTag
    (encodeTlv octetStringTag p.engineId ++ engineBoots ++ engineTime ++ encodeTlv octetStringTag p.username ++
      encodeTlv octetStringTag p.authParams ++ encodeTlv octetStringTag p.privParams)

def encodeV3Message (msgId msgMaxSize : ℤ) (flags : UInt8) (usmParams : UsmParams) (msgDataBytes : Bytes) :
    Except Error Bytes := do
  let headerData ← encodeHeaderData msgId msgMaxSize flags
  let usmBytes ← encodeUsmParams usmParams
  let version ← encodeInteger snmpV3Version
  return encodeTlv sequenceTag (version ++ headerData ++ encodeTlv octetStringTag usmBytes ++ msgDataBytes)

def encodeScopedPdu (engineId contextName : Bytes) (pdu : Pdu) : Except Error Bytes := do
  let encoded ← encodePdu pdu
  return encodeTlv sequenceTag (encodeTlv octetStringTag engineId ++ encodeTlv octetStringTag contextName ++ encoded)

def V3Message.decodeInteger : Bytes → ℕ → Except Error (ℤ × ℕ) := decodeElement (integerContent "INTEGER")

def octetBytesContent (tag : UInt8) (content : Bytes) : Except Error Bytes :=
  if tag ≠ octetStringTag then .error (.protocolError s!"Expected OCTET STRING, found {hexOctet tag}")
  else .ok content

def decodeOctetBytes : Bytes → ℕ → Except Error (Bytes × ℕ) := decodeElement octetBytesContent

structure HeaderData where
  msgId : ℤ
  msgMaxSize : ℤ
  msgFlags : UInt8
  msgSecurityModel : ℤ

def flagsContent (tag : UInt8) (content : Bytes) : Except Error UInt8 :=
  if tag ≠ octetStringTag then .error (.protocolError s!"Expected msgFlags OCTET STRING, found {hexOctet tag}")
  else match content with
    | [flags] => .ok flags
    | _ => .error (.protocolError "msgFlags must be exactly one octet")

def headerContent (tag : UInt8) (content : Bytes) : Except Error HeaderData :=
  if tag ≠ sequenceTag then .error (.protocolError s!"Expected msgGlobalData SEQUENCE, found {hexOctet tag}")
  else do
    let (msgId, inner) ← V3Message.decodeInteger content 0
    let (msgMaxSize, inner) ← V3Message.decodeInteger content inner
    let (msgFlags, inner) ← decodeElement flagsContent content inner
    let (msgSecurityModel, inner) ← V3Message.decodeInteger content inner
    expectEnd content inner
    return {
      msgId := msgId
      msgMaxSize := msgMaxSize
      msgFlags := msgFlags
      msgSecurityModel := msgSecurityModel }

def decodeHeaderData : Bytes → ℕ → Except Error (HeaderData × ℕ) := decodeElement headerContent

def decodeUsmParamsWithOffset (data : Bytes) : Except Error (UsmParams × ℕ) := do
  let ((tag, content), stop) ← decodeTlv data 0
  if tag ≠ sequenceTag then
    .error (.protocolError s!"Expected UsmSecurityParameters SEQUENCE, found {hexOctet tag}")
  else do
    expectEnd data stop
    let contentStart := data.length - content.length
    let (engineId, offset) ← decodeOctetBytes content 0
    let (engineBoots, offset) ← V3Message.decodeInteger content offset
    let (engineTime, offset) ← V3Message.decodeInteger content offset
    let (username, offset) ← decodeOctetBytes content offset
    let ((authTag, authContent), authEnd) ← decodeTlv content offset
    if authTag ≠ octetStringTag then
      .error (.protocolError s!"Expected msgAuthenticationParameters OCTET STRING, found {hexOctet authTag}")
    else do
      let (privParams, offset) ← decodeOctetBytes content authEnd
      expectEnd content offset
      let params := {
        engineId := engineId
        engineBoots := engineBoots
        engineTime := engineTime
        username := username
        authParams := authContent
        privParams := privParams }
      return (params, contentStart + authEnd - authContent.length)

def msgDataTag (msgFlags : UInt8) : UInt8 × String :=
  if msgFlags &&& msgFlagPriv ≠ 0 then (octetStringTag, "encryptedPDU OCTET STRING")
  else (sequenceTag, "ScopedPDU SEQUENCE")

def decodeV3Message (data : Bytes) : Except Error V3MessageView := do
  let ((tag, content), stop) ← decodeTlv data 0
  if tag ≠ sequenceTag then
    .error (.protocolError s!"Expected SNMPv3 message SEQUENCE, found {hexOctet tag}")
  else do
    expectEnd data stop
    let (version, offset) ← V3Message.decodeInteger content 0
    if version ≠ snmpV3Version then
      .error (.protocolError s!"Expected SNMPv3 version 3, found {← formatInt version}")
    else do
      let (header, offset) ← decodeHeaderData content offset
      if header.msgSecurityModel ≠ securityModelUsm then
        .error (.protocolError s!"Expected USM security model (3), found {← formatInt header.msgSecurityModel}")
      else do
        let ((spTag, spContent), offset) ← decodeTlv content offset
        if spTag ≠ octetStringTag then
          .error (.protocolError s!"Expected msgSecurityParameters OCTET STRING, found {hexOctet spTag}")
        else do
          let (usmParams, authParamsOffsetInSp) ← decodeUsmParamsWithOffset spContent
          let outerContentStart := data.length - content.length
          let spContentStart := outerContentStart + offset - spContent.length
          let (expectedTag, label) := msgDataTag header.msgFlags
          let ((dataTag, _), dataEnd) ← decodeTlv content offset
          if dataTag ≠ expectedTag then
            .error (.protocolError
              s!"Expected msgData as {label} ({hexOctet expectedTag}), found {hexOctet dataTag}")
          else do
            expectEnd content dataEnd
            return {
              msgId := header.msgId
              msgMaxSize := header.msgMaxSize
              msgFlags := header.msgFlags
              msgSecurityModel := header.msgSecurityModel
              usmParams := usmParams
              msgDataBytes := slice content offset dataEnd
              authParamsOffset := spContentStart + authParamsOffsetInSp }

def decodeScopedPdu (data : Bytes) : Except Error (Bytes × Bytes × Pdu) := do
  let ((tag, content), stop) ← decodeTlv data 0
  if tag ≠ sequenceTag then .error (.protocolError s!"Expected ScopedPDU SEQUENCE, found {hexOctet tag}")
  else do
    expectEnd data stop
    let (engineId, offset) ← decodeOctetBytes content 0
    let (contextName, offset) ← decodeOctetBytes content offset
    let ((pduTag, pduContent), offset) ← decodeTlv content offset
    let pdu ← decodePdu ([pduTag] ++ reencodeLengthPrefixed pduContent)
    expectEnd content offset
    return (engineId, contextName, pdu)

theorem octetBytesContent_failsOnly (tag : UInt8) (content : Bytes) :
    FailsOnly (fun e => e.isProtocolError) (octetBytesContent tag content) :=
  failsOnly_ite (fun _ => failsOnly_error rfl) fun _ => failsOnly_ok _

theorem flagsContent_failsOnly (tag : UInt8) (content : Bytes) :
    FailsOnly (fun e => e.isProtocolError) (flagsContent tag content) := by
  apply failsOnly_ite
  · exact fun _ => failsOnly_error rfl
  · intro _
    split
    · exact failsOnly_ok _
    · exact failsOnly_error rfl

theorem decodeInteger_failsOnly (data : Bytes) (offset : ℕ) :
    FailsOnly (fun e => e.isProtocolError) (V3Message.decodeInteger data offset) :=
  decodeElement_failsOnly _ _ (integerContent_failsOnly _)

theorem decodeOctetBytes_failsOnly (data : Bytes) (offset : ℕ) :
    FailsOnly (fun e => e.isProtocolError) (decodeOctetBytes data offset) :=
  decodeElement_failsOnly _ _ octetBytesContent_failsOnly

theorem headerContent_failsOnly (tag : UInt8) (content : Bytes) :
    FailsOnly (fun e => e.isProtocolError) (headerContent tag content) := by
  refine failsOnly_ite (fun _ => failsOnly_error rfl) fun _ => ?_
  refine failsOnly_bind (decodeInteger_failsOnly _ _) fun _ _ => ?_
  refine failsOnly_bind (decodeInteger_failsOnly _ _) fun _ _ => ?_
  refine failsOnly_bind (decodeElement_failsOnly _ _ flagsContent_failsOnly) fun _ _ => ?_
  refine failsOnly_bind (decodeInteger_failsOnly _ _) fun _ _ => ?_
  exact failsOnly_bind (expectEnd_failsOnly _ _) fun _ _ => failsOnly_ok _

theorem decodeUsmParamsWithOffset_failsOnly (data : Bytes) :
    FailsOnly (fun e => e.isProtocolError) (decodeUsmParamsWithOffset data) := by
  refine failsOnly_bind (decodeTlv_failsOnly _ _) fun _ _ => ?_
  refine failsOnly_ite (fun _ => failsOnly_error rfl) fun _ => ?_
  refine failsOnly_bind (expectEnd_failsOnly _ _) fun _ _ => ?_
  refine failsOnly_bind (decodeOctetBytes_failsOnly _ _) fun _ _ => ?_
  refine failsOnly_bind (decodeInteger_failsOnly _ _) fun _ _ => ?_
  refine failsOnly_bind (decodeInteger_failsOnly _ _) fun _ _ => ?_
  refine failsOnly_bind (decodeOctetBytes_failsOnly _ _) fun _ _ => ?_
  refine failsOnly_bind (decodeTlv_failsOnly _ _) fun _ _ => ?_
  refine failsOnly_ite (fun _ => failsOnly_error rfl) fun _ => ?_
  refine failsOnly_bind (decodeOctetBytes_failsOnly _ _) fun _ _ => ?_
  exact failsOnly_bind (expectEnd_failsOnly _ _) fun _ _ => failsOnly_ok _

def HugeV3Number (data : Bytes) : Prop :=
  ∃ content version offset, decodeTlv data 0 = .ok ((sequenceTag, content), data.length) ∧
    V3Message.decodeInteger content 0 = .ok (version, offset) ∧
    (¬ PyText.Printable version ∨ version = snmpV3Version ∧ ∃ header stop,
      decodeHeaderData content offset = .ok (header, stop) ∧ ¬ PyText.Printable header.msgSecurityModel)

theorem decodeV3Message_huge {data : Bytes} (h : HugeV3Number data) :
    ∃ text, decodeV3Message data = .error (.valueError text) := by
  have hthree {n : ℤ} (h : ¬ PyText.Printable n) : n ≠ 3 := by
    rintro rfl
    exact h (by decide)
  obtain ⟨content, version, offset, htlv, hversion, h⟩ := h
  simp only [decodeV3Message, htlv, ok_bind, ne_eq, not_true_eq_false, if_false, expectEnd_self, hversion]
  obtain hprint | ⟨rfl, header, stop, hheader, hprint⟩ := h
  · obtain ⟨text, htext⟩ := formatInt_error hprint
    have hne : ¬ version = snmpV3Version := hthree hprint
    exact ⟨text, by rw [if_pos hne, htext, error_bind]⟩
  · obtain ⟨text, htext⟩ := formatInt_error hprint
    have hne : ¬ header.msgSecurityModel = securityModelUsm := hthree hprint
    simp only [not_true_eq_false, if_false, hheader, ok_bind]
    exact ⟨text, by rw [if_pos hne, htext, error_bind]⟩

theorem decodeV3Message_failsOnly {data : Bytes} (h : ¬ HugeV3Number data) :
    FailsOnly (fun e => e.isProtocolError) (decodeV3Message data) := by
  refine failsOnly_bind (decodeTlv_failsOnly _ _) fun ⟨⟨tag, content⟩, stop⟩ htlv => ?_
  refine failsOnly_ite (fun _ => failsOnly_error rfl) fun htag => ?_
  refine failsOnly_bind (expectEnd_failsOnly _ _) fun _ hend => ?_
  refine failsOnly_bind (decodeInteger_failsOnly _ _) fun ⟨version, offset⟩ hversion => ?_
  rw [expectEnd_ok_iff.mp hend, not_not.mp htag] at htlv
  refine failsOnly_ite (fun _ => formatted_failsOnly ?_ _) fun hthree => ?_
  · by_contra hprint
    exact h ⟨content, version, offset, htlv, hversion, .inl hprint⟩
  refine failsOnly_bind (decodeElement_failsOnly _ _ headerContent_failsOnly) fun ⟨header, stop⟩ hheader => ?_
  refine failsOnly_ite (fun _ => formatted_failsOnly ?_ _) fun _ => ?_
  · by_contra hprint
    exact h ⟨content, version, offset, htlv, hversion, .inr ⟨not_not.mp hthree, header, stop, hheader, hprint⟩⟩
  refine failsOnly_bind (decodeTlv_failsOnly _ _) fun _ _ => ?_
  refine failsOnly_ite (fun _ => failsOnly_error rfl) fun _ => ?_
  refine failsOnly_bind (decodeUsmParamsWithOffset_failsOnly _) fun _ _ => ?_
  refine failsOnly_bind (decodeTlv_failsOnly _ _) fun _ _ => ?_
  refine failsOnly_ite (fun _ => failsOnly_error rfl) fun _ => ?_
  exact failsOnly_bind (expectEnd_failsOnly _ _) fun _ _ => failsOnly_ok _

theorem decodeScopedPdu_failsOnly (data : Bytes) : FailsOnly (fun e => e.isProtocolError) (decodeScopedPdu data) := by
  refine failsOnly_bind (decodeTlv_failsOnly _ _) fun _ _ => ?_
  refine failsOnly_ite (fun _ => failsOnly_error rfl) fun _ => ?_
  refine failsOnly_bind (expectEnd_failsOnly _ _) fun _ _ => ?_
  refine failsOnly_bind (decodeOctetBytes_failsOnly _ _) fun _ _ => ?_
  refine failsOnly_bind (decodeOctetBytes_failsOnly _ _) fun _ _ => ?_
  refine failsOnly_bind (decodeTlv_failsOnly _ _) fun _ _ => ?_
  refine failsOnly_bind (decodePdu_failsOnly _) fun _ _ => ?_
  exact failsOnly_bind (expectEnd_failsOnly _ _) fun _ _ => failsOnly_ok _

end Wire

end TrishulSnmp
