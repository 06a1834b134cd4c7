import TrishulSnmp.Wire.RoundTrip

namespace TrishulSnmp.Wire

open OffsetReader Outcome Ber Asn1

/-! The decoder takes longer forms than the encoder writes, and drops a zero octet the encoder puts
back, so an element can grow when it is encoded again: at most twice at each level of nesting. -/

def Reencodes (factor : ℕ) (x : Except Error Bytes) (enc : Bytes) : Prop :=
  ∃ enc', x = .ok enc' ∧ enc'.length ≤ factor * enc.length

theorem length_tlv {tag : UInt8} {content enc : Bytes} (h : Tlv (tag, content) enc) :
    content.length + 2 ≤ enc.length := by
  cases h with
  | mk _ _ length hform =>
    have hpos := List.length_pos_iff.mpr hform.ne_nil
    simp only [List.length_cons, List.length_append]
    omega

theorem length_encodeTlv_le_of_tlv {tag tag' : UInt8} {content content' enc : Bytes} (h : Tlv (tag, content) enc)
    (factor : ℕ) (hpos : 0 < factor) (hle : content'.length ≤ factor * content.length + 1) :
    (encodeTlv tag' content').length ≤ 2 * factor * enc.length := by
  have hlen := length_tlv h
  have hencode := length_encodeTlv_le tag' content'
  calc (encodeTlv tag' content').length ≤ 2 * (factor * content.length + 1) + 2 := by omega
    _ ≤ 2 * factor * (content.length + 2) := by nlinarith
    _ ≤ 2 * factor * enc.length := Nat.mul_le_mul_left _ hlen

theorem reencodes_value {value : SnmpValue} {tag : UInt8} {content enc : Bytes} (htlv : Tlv (tag, content) enc)
    (h : ValueContent OidContent value tag content) : Reencodes 2 (encodeValue value) enc := by
  obtain ⟨⟨tag', content', henc, hle⟩, -⟩ := h.encodable
  exact ⟨_, henc, length_encodeTlv_le_of_tlv htlv 1 one_pos (by omega)⟩

theorem IntegerElement.reencodes {value : ℤ} {enc : Bytes} (h : IntegerElement value enc) :
    Reencodes 2 (encodeInteger value) enc := by
  obtain ⟨_, content, htlv, rfl, hne, rfl⟩ := h
  exact reencodes_value htlv (.integer content hne)

theorem IntegerElement.reencodes_small {value : ℤ} {enc : Bytes} (h : IntegerElement value enc) {small : ℤ}
    (hsmall : small = 0 ∨ small = 1 ∨ small = 17) : Reencodes 2 (encodeInteger small) enc := by
  obtain ⟨_, content, htlv, -⟩ := h
  have hlen : (encodeSignedInteger small).length = 1 := by
    obtain rfl | rfl | rfl := hsmall <;> decide
  exact ⟨_, rfl, length_encodeTlv_le_of_tlv htlv 1 one_pos (by omega)⟩

theorem OidElement.reencodes {oid : OID} {enc : Bytes} (h : OidElement OidContent oid enc) :
    Reencodes 2 (encodeValue (.objectIdentifierValue oid)) enc := by
  obtain ⟨_, content, htlv, rfl, hoid⟩ := h
  exact reencodes_value htlv (.objectIdentifier oid content hoid)

theorem VarbindElement.reencodes {varbind : RawVarBind} {enc : Bytes} (h : VarbindElement OidContent varbind enc) :
    Reencodes 4 (encodeVarbind varbind) enc := by
  obtain ⟨_, content, htlv, rfl, name, value, rfl, hname, valueTag, valueContent, hvtlv, hvalue⟩ := h
  obtain ⟨name', hname', hle⟩ := hname.reencodes
  obtain ⟨value', hvalue', hle'⟩ := reencodes_value hvtlv hvalue
  refine ⟨encodeTlv sequenceTag (name' ++ value'), ?_, ?_⟩
  · simp only [encodeVarbind, hname', hvalue', ok_bind]
    rfl
  · apply length_encodeTlv_le_of_tlv htlv 2 two_pos
    simp only [List.length_append]
    omega

theorem reencodes_varbinds {varbinds : List RawVarBind} {enc : Bytes}
    (h : Sequence (VarbindElement OidContent) varbinds enc) :
    ∃ parts, varbinds.mapM encodeVarbind = .ok parts ∧ parts.flatten.length ≤ 4 * enc.length := by
  induction h with
  | nil => exact ⟨[], rfl, le_rfl⟩
  | cons hvb _ ih =>
    obtain ⟨part, hpart, hle⟩ := hvb.reencodes
    obtain ⟨parts, hparts, hle'⟩ := ih
    refine ⟨part :: parts, ?_, ?_⟩
    · rw [List.mapM_cons, hpart, ok_bind, hparts]
      rfl
    · simp only [List.flatten_cons, List.length_append]
      omega

theorem VarbindListElement.reencodes {varbinds : List RawVarBind} {enc : Bytes}
    (h : VarbindListElement OidContent varbinds enc) : Reencodes 8 (encodeVarbindList varbinds) enc := by
  obtain ⟨_, content, htlv, rfl, hseq⟩ := h
  obtain ⟨parts, hparts, hle⟩ := reencodes_varbinds hseq
  refine ⟨encodeTlv sequenceTag parts.flatten, ?_, length_encodeTlv_le_of_tlv htlv 4 (by omega) (by omega)⟩
  rw [encodeVarbindList, hparts]
  rfl

def echoPdu (pduType : PduType) (errorStatus errorIndex : ℤ) (pdu : Pdu) : Pdu :=
  { pduType := pduType, requestId := pdu.requestId, errorStatus := errorStatus, errorIndex := errorIndex,
    varbinds := pdu.varbinds }

theorem PduElement.reencodes_echo {pdu : Pdu} {enc : Bytes} (h : PduElement OidContent pdu enc)
    (pduType : PduType) {errorStatus errorIndex : ℤ} (hs : errorStatus = 0 ∨ errorStatus = 1 ∨ errorStatus = 17)
    (hi : errorIndex = 0 ∨ errorIndex = 1 ∨ errorIndex = 17) :
    Reencodes 16 (encodePdu (echoPdu pduType errorStatus errorIndex pdu)) enc := by
  obtain ⟨content, htlv, e1, e2, e3, e4, rfl, g1, g2, g3, g4⟩ := h
  obtain ⟨r1, h1, l1⟩ := g1.reencodes
  obtain ⟨r2, h2, l2⟩ := g2.reencodes_small hs
  obtain ⟨r3, h3, l3⟩ := g3.reencodes_small hi
  obtain ⟨r4, h4, l4⟩ := g4.reencodes
  refine ⟨encodeTlv pduType.tag (r1 ++ r2 ++ r3 ++ r4), ?_, ?_⟩
  · simp only [encodePdu, echoPdu, h1, h2, h3, h4, ok_bind]
    rfl
  · apply length_encodeTlv_le_of_tlv htlv 8 (by omega)
    simp only [List.length_append]
    omega

theorem VarbindElement.preserved {varbind : RawVarBind} {enc : Bytes} (h : VarbindElement OidContent varbind enc) :
    varbind.Preserved := by
  obtain ⟨_, _, _, _, _, _, _, ⟨_, _, _, _, hoid⟩, _, _, _, hvalue⟩ := h
  exact ⟨hoid.nonneg, hvalue.encodable.2⟩

theorem PduElement.preserved {pdu : Pdu} {enc : Bytes} (h : PduElement OidContent pdu enc) :
    ∀ varbind ∈ pdu.varbinds, varbind.Preserved := by
  intro varbind hmem
  obtain ⟨_, _, _, _, _, _, _, _, _, _, _, _, _, _, hseq⟩ := h
  obtain ⟨enc, henc⟩ := hseq.exists_encoding varbind hmem
  exact henc.preserved

theorem MessageSyntax.preserved {message : SnmpMessage} {data : Bytes} (h : MessageSyntax OidContent message data) :
    ∀ varbind ∈ message.pdu.varbinds, varbind.Preserved := by
  intro varbind hmem
  obtain ⟨enc, henc⟩ := h.1.varbind_element varbind hmem
  exact henc.preserved

def echoMessage (pduType : PduType) (errorStatus errorIndex : ℤ) (message : SnmpMessage) : SnmpMessage :=
  { message with pdu := echoPdu pduType errorStatus errorIndex message.pdu }

theorem MessageSyntax.reencodes_echo {message : SnmpMessage} {data : Bytes}
    (h : MessageSyntax OidContent message data) (pduType : PduType) {errorStatus errorIndex : ℤ}
    (hs : errorStatus = 0 ∨ errorStatus = 1 ∨ errorStatus = 17)
    (hi : errorIndex = 0 ∨ errorIndex = 1 ∨ errorIndex = 17) :
    Reencodes 32 (encodeMessage (echoMessage pduType errorStatus errorIndex message)) data := by
  obtain ⟨⟨content, e1, e2, e3, htlv, rfl, g1, ⟨_, _, g2, rfl, rfl⟩, g3⟩, -⟩ := h
  obtain ⟨r1, h1, l1⟩ := g1.reencodes
  obtain ⟨r3, h3, l3⟩ := g3.reencodes_echo pduType hs hi
  have l2 : (encodeTlv octetStringTag (Utf8.encode message.community)).length ≤ 2 * 1 * e2.length :=
    length_encodeTlv_le_of_tlv g2 1 one_pos (by omega)
  refine ⟨encodeTlv sequenceTag (r1 ++ encodeTlv octetStringTag (Utf8.encode message.community) ++ r3), ?_, ?_⟩
  · simp only [encodeMessage, echoMessage, h1, h3, ok_bind, encodeOctetString, encodeValue]
    rfl
  · apply length_encodeTlv_le_of_tlv htlv 16 (by omega)
    simp only [List.length_append]
    omega

theorem decode_encode_echo {message : SnmpMessage} {data : Bytes} (hdecode : decodeMessage data = .ok message)
    (hlen : data.length < 256 ^ 126) (pduType : PduType) {errorStatus errorIndex : ℤ}
    (hs : errorStatus = 0 ∨ errorStatus = 1 ∨ errorStatus = 17)
    (hi : errorIndex = 0 ∨ errorIndex = 1 ∨ errorIndex = 17) :
    ∃ enc, encodeMessage (echoMessage pduType errorStatus errorIndex message) = .ok enc ∧
      decodeMessage enc = .ok (echoMessage pduType errorStatus errorIndex message) := by
  have hsyntax := decodeMessage_ok_iff.mp hdecode
  obtain ⟨enc, henc, hle⟩ := hsyntax.reencodes_echo pduType hs hi
  refine ⟨enc, henc, decodeMessage_encodeMessage_preserved hsyntax.2 hsyntax.preserved henc ?_⟩
  calc enc.length ≤ 32 * data.length := hle
    _ < lengthLimit := by
      rw [lengthLimit]
      omega

end TrishulSnmp.Wire
