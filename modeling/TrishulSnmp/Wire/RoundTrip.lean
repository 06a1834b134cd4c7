import TrishulSnmp.Wire.MessageGrammar
import TrishulSnmp.Wire.ValueEncoding

namespace TrishulSnmp

def RawVarBind.onWire (varbind : RawVarBind) : RawVarBind :=
  { varbind with value := Asn1.onWire varbind.value }

def Pdu.onWire (pdu : Pdu) : Pdu := { pdu with varbinds := pdu.varbinds.map RawVarBind.onWire }

def SnmpMessage.onWire (message : SnmpMessage) : SnmpMessage := { message with pdu := message.pdu.onWire }

def RawVarBind.NonnegArcs (varbind : RawVarBind) : Prop :=
  (∀ arc ∈ varbind.oid, 0 ≤ arc) ∧ Asn1.NonnegArcs varbind.value

def RawVarBind.Preserved (varbind : RawVarBind) : Prop :=
  (∀ arc ∈ varbind.oid, 0 ≤ arc) ∧ Asn1.Preserved varbind.value

theorem RawVarBind.Preserved.nonnegArcs {varbind : RawVarBind} (h : varbind.Preserved) : varbind.NonnegArcs :=
  ⟨h.1, h.2.nonnegArcs⟩

theorem RawVarBind.onWire_of_preserved {varbind : RawVarBind} (h : varbind.Preserved) :
    varbind.onWire = varbind := by
  rw [RawVarBind.onWire, Asn1.onWire_of_preserved h.2]

theorem Pdu.onWire_of_preserved {pdu : Pdu} (h : ∀ varbind ∈ pdu.varbinds, varbind.Preserved) : pdu.onWire = pdu := by
  have hmap : pdu.varbinds.map RawVarBind.onWire = pdu.varbinds := by
    conv_rhs => rw [← List.map_id pdu.varbinds]
    exact List.map_congr_left fun varbind hvb => RawVarBind.onWire_of_preserved (h varbind hvb)
  rw [Pdu.onWire, hmap]

theorem SnmpMessage.onWire_of_preserved {message : SnmpMessage}
    (h : ∀ varbind ∈ message.pdu.varbinds, varbind.Preserved) : message.onWire = message := by
  rw [SnmpMessage.onWire, Pdu.onWire_of_preserved h]

namespace Wire

open OffsetReader Outcome Ber Asn1

abbrev lengthLimit : ℕ := 256 ^ 127

theorem encodeInteger_element (value : ℤ) {enc : Bytes} (h : encodeInteger value = .ok enc)
    (hlen : enc.length < lengthLimit) : IntegerElement value enc := by
  cases h
  have hlt := (length_lt_encodeTlv integerTag (encodeSignedInteger value)).trans hlen
  exact ⟨_, _, encodeTlv_tlv _ hlt, rfl, encodeSignedInteger_ne_nil value, (toInt_encodeSignedInteger value).symm⟩

theorem encodeValue_element {value : SnmpValue} {enc : Bytes} (hn : Asn1.NonnegArcs value)
    (h : encodeValue value = .ok enc) (hlen : enc.length < lengthLimit) :
    ValueElement OidContent (Asn1.onWire value) enc := by
  obtain ⟨tag, content, rfl, hcontent⟩ := encodeValue_content hn h
  exact ⟨tag, content, encodeTlv_tlv tag ((length_lt_encodeTlv tag content).trans hlen), hcontent⟩

theorem encodeOid_element {oid : OID} {enc : Bytes} (hn : ∀ arc ∈ oid, 0 ≤ arc)
    (h : encodeValue (.objectIdentifierValue oid) = .ok enc) (hlen : enc.length < lengthLimit) :
    OidElement OidContent oid enc := by
  have hvalue : Asn1.NonnegArcs (.objectIdentifierValue oid) := hn
  obtain ⟨tag, content, htlv, hcontent⟩ := encodeValue_element hvalue h hlen
  cases hcontent with
  | objectIdentifier _ _ hoid => exact ⟨_, content, htlv, rfl, hoid⟩

theorem encodeVarbind_element {varbind : RawVarBind} {enc : Bytes} (hn : varbind.NonnegArcs)
    (h : encodeVarbind varbind = .ok enc) (hlen : enc.length < lengthLimit) :
    VarbindElement OidContent varbind.onWire enc := by
  obtain ⟨name, hname, h⟩ := bind_ok_iff.mp h
  obtain ⟨value, hvalue, h⟩ := bind_ok_iff.mp h
  obtain rfl := pure_ok_iff.mp h
  have hlt := (length_lt_encodeTlv sequenceTag (name ++ value)).trans hlen
  have happ := @List.length_append _ name value
  exact ⟨_, _, encodeTlv_tlv _ hlt, rfl, name, value, rfl, encodeOid_element hn.1 hname (by omega),
    encodeValue_element hn.2 hvalue (by omega)⟩

theorem encodeVarbinds_sequence {varbinds : List RawVarBind} {parts : List Bytes}
    (hn : ∀ varbind ∈ varbinds, varbind.NonnegArcs) (h : varbinds.mapM encodeVarbind = .ok parts)
    (hlen : parts.flatten.length < lengthLimit) :
    Sequence (VarbindElement OidContent) (varbinds.map RawVarBind.onWire) parts.flatten := by
  induction varbinds generalizing parts with
  | nil =>
    cases h
    exact .nil
  | cons varbind varbinds ih =>
    rw [List.mapM_cons] at h
    obtain ⟨enc, henc, h⟩ := bind_ok_iff.mp h
    obtain ⟨rest, hrest, h⟩ := bind_ok_iff.mp h
    obtain rfl := pure_ok_iff.mp h
    rw [List.flatten_cons, List.length_append] at hlen
    rw [List.map_cons, List.flatten_cons]
    exact .cons (encodeVarbind_element (hn _ (by simp)) henc (by omega))
      (ih (fun vb hvb => hn vb (by simp [hvb])) hrest (by omega))

theorem encodeVarbindList_element {varbinds : List RawVarBind} {enc : Bytes}
    (hn : ∀ varbind ∈ varbinds, varbind.NonnegArcs) (h : encodeVarbindList varbinds = .ok enc)
    (hlen : enc.length < lengthLimit) :
    VarbindListElement OidContent (varbinds.map RawVarBind.onWire) enc := by
  obtain ⟨parts, hparts, h⟩ := bind_ok_iff.mp h
  obtain rfl := pure_ok_iff.mp h
  have hlt := (length_lt_encodeTlv sequenceTag parts.flatten).trans hlen
  exact ⟨_, _, encodeTlv_tlv _ hlt, rfl, encodeVarbinds_sequence hn hparts hlt⟩

theorem encodePdu_element {pdu : Pdu} {enc : Bytes} (hn : ∀ varbind ∈ pdu.varbinds, varbind.NonnegArcs)
    (h : encodePdu pdu = .ok enc) (hlen : enc.length < lengthLimit) : PduElement OidContent pdu.onWire enc := by
  obtain ⟨requestId, h1, h⟩ := bind_ok_iff.mp h
  obtain ⟨errorStatus, h2, h⟩ := bind_ok_iff.mp h
  obtain ⟨errorIndex, h3, h⟩ := bind_ok_iff.mp h
  obtain ⟨varbinds, h4, h⟩ := bind_ok_iff.mp h
  obtain rfl := pure_ok_iff.mp h
  have hlt := (length_lt_encodeTlv pdu.pduType.tag _).trans hlen
  have htlv := encodeTlv_tlv pdu.pduType.tag hlt
  simp only [List.length_append] at hlt
  exact ⟨_, htlv, requestId, errorStatus, errorIndex, varbinds, rfl, encodeInteger_element _ h1 (by omega),
    encodeInteger_element _ h2 (by omega), encodeInteger_element _ h3 (by omega),
    encodeVarbindList_element hn h4 (by omega)⟩

theorem decodePdu_encodePdu_preserved {pdu : Pdu} {enc : Bytes}
    (hvarbinds : ∀ varbind ∈ pdu.varbinds, varbind.Preserved) (h : encodePdu pdu = .ok enc)
    (hlen : enc.length < lengthLimit) : decodePdu enc = .ok pdu := by
  have helement := encodePdu_element (fun vb hvb => (hvarbinds vb hvb).nonnegArcs) h hlen
  rw [Pdu.onWire_of_preserved hvarbinds] at helement
  exact decodePdu_iff.mpr helement

theorem decodeMessage_encodeMessage {message : SnmpMessage} {data : Bytes} (hversion : message.version = 1)
    (hn : ∀ varbind ∈ message.pdu.varbinds, varbind.NonnegArcs) (h : encodeMessage message = .ok data)
    (hlen : data.length < lengthLimit) : decodeMessage data = .ok message.onWire := by
  obtain ⟨version, h1, h⟩ := bind_ok_iff.mp h
  obtain ⟨community, h2, h⟩ := bind_ok_iff.mp h
  obtain ⟨pdu, h3, h⟩ := bind_ok_iff.mp h
  obtain rfl := pure_ok_iff.mp h
  have hlt := (length_lt_encodeTlv sequenceTag _).trans hlen
  have htlv := encodeTlv_tlv sequenceTag hlt
  simp only [List.length_append] at hlt
  cases h2
  have hc := (length_lt_encodeTlv octetStringTag (Utf8.encode message.community)).trans
    (show _ < lengthLimit by omega)
  exact decodeMessage_ok_iff.mpr ⟨⟨_, version, _, pdu, htlv, rfl, encodeInteger_element _ h1 (by omega),
    ⟨_, _, encodeTlv_tlv _ hc, rfl, rfl⟩, encodePdu_element hn h3 (by omega)⟩, hversion⟩

theorem decodeMessage_encodeMessage_preserved {message : SnmpMessage} {data : Bytes} (hversion : message.version = 1)
    (hvarbinds : ∀ varbind ∈ message.pdu.varbinds, varbind.Preserved) (h : encodeMessage message = .ok data)
    (hlen : data.length < lengthLimit) : decodeMessage data = .ok message := by
  have h := decodeMessage_encodeMessage hversion (fun vb hvb => (hvarbinds vb hvb).nonnegArcs) h hlen
  rwa [SnmpMessage.onWire_of_preserved hvarbinds] at h

theorem message_round_trip (message : SnmpMessage) (data : Bytes) (hversion : message.version = 1)
    (hvarbinds : ∀ varbind ∈ message.pdu.varbinds, varbind.Preserved)
    (hencode : encodeMessage message = .ok data) (hlen : data.length < 256 ^ 127) :
    decodeMessage data = .ok message :=
  decodeMessage_encodeMessage_preserved hversion hvarbinds hencode hlen

def sampleMessage : SnmpMessage :=
  { version := 1
    community := "public"
    pdu := {
      pduType := .set
      requestId := -129
      errorStatus := 0
      errorIndex := 0
      varbinds := [
        { oid := [1, 3, 6, 1, 300], value := .ipAddressValue "10.0.0.255" },
        { oid := [2, 5], value := .objectIdentifierValue [0, 39] }] } }

def sampleBytes : Bytes :=
  [48, 48, 2, 1, 1, 4, 6, 112, 117, 98, 108, 105, 99, 163, 35, 2, 2, 255, 127, 2, 1, 0, 2, 1, 0, 48, 23,
    48, 13, 6, 5, 43, 6, 1, 130, 44, 64, 4, 10, 0, 0, 255, 48, 6, 6, 1, 85, 6, 1, 39]

theorem message_round_trip_sample : decodeMessage sampleBytes = .ok sampleMessage := by
  refine message_round_trip sampleMessage sampleBytes rfl ?_ (by decide +kernel) (by decide)
  simp only [sampleMessage, List.forall_mem_cons, List.not_mem_nil, false_imp_iff, implies_true, and_true]
  refine ⟨⟨by decide, 10, 0, 0, 255, by omega, by omega, by omega, by omega, rfl⟩, by decide, ?_⟩
  simp [Asn1.Preserved]

end Wire

end TrishulSnmp
