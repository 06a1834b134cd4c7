import TrishulSnmp.Wire.Message
import TrishulSnmp.Wire.ValueGrammar

namespace TrishulSnmp.Wire

open OffsetReader Outcome Ber Asn1

/-! The grammar of messages, over a reading `oids` of OBJECT IDENTIFIER contents. -/

section Grammar

variable (oids : OID → Bytes → Prop)

def IntegerElement (value : ℤ) (enc : Bytes) : Prop :=
  ∃ tag content, Tlv (tag, content) enc ∧ tag = integerTag ∧ content ≠ [] ∧ value = BigEndian.toInt content

def OidElement (oid : OID) (enc : Bytes) : Prop :=
  ∃ tag content, Tlv (tag, content) enc ∧ tag = objectIdentifierTag ∧ oids oid content

def ValueElement (value : SnmpValue) (enc : Bytes) : Prop :=
  ∃ tag content, Tlv (tag, content) enc ∧ ValueContent oids value tag content

def VarbindElement (varbind : RawVarBind) (enc : Bytes) : Prop :=
  ∃ tag content, Tlv (tag, content) enc ∧ tag = sequenceTag ∧
    ∃ name value, content = name ++ value ∧ OidElement oids varbind.oid name ∧
      ValueElement oids varbind.value value

def VarbindListElement (varbinds : List RawVarBind) (enc : Bytes) : Prop :=
  ∃ tag content, Tlv (tag, content) enc ∧ tag = sequenceTag ∧ Sequence (VarbindElement oids) varbinds content

def PduBody (pdu : Pdu) (content : Bytes) : Prop :=
  ∃ requestId errorStatus errorIndex varbinds, content = requestId ++ errorStatus ++ errorIndex ++ varbinds ∧
    IntegerElement pdu.requestId requestId ∧ IntegerElement pdu.errorStatus errorStatus ∧
    IntegerElement pdu.errorIndex errorIndex ∧ VarbindListElement oids pdu.varbinds varbinds

def PduElement (pdu : Pdu) (enc : Bytes) : Prop :=
  ∃ content, Tlv (pdu.pduType.tag, content) enc ∧ PduBody oids pdu content

def CommunityElement (community : String) (enc : Bytes) : Prop :=
  ∃ tag content, Tlv (tag, content) enc ∧ tag = octetStringTag ∧ content = Utf8.encode community

def MessageFrame (message : SnmpMessage) (data : Bytes) : Prop :=
  ∃ content version community pdu, Tlv (sequenceTag, content) data ∧ content = version ++ community ++ pdu ∧
    IntegerElement message.version version ∧ CommunityElement message.community community ∧
    PduElement oids message.pdu pdu

def MessageSyntax (message : SnmpMessage) (data : Bytes) : Prop :=
  MessageFrame oids message data ∧ message.version = 1

end Grammar

theorem PduElement.varbind_element {oids : OID → Bytes → Prop} {pdu : Pdu} {enc : Bytes} (h : PduElement oids pdu enc) :
    ∀ varbind ∈ pdu.varbinds, ∃ enc, VarbindElement oids varbind enc := by
  obtain ⟨_, _, _, _, _, _, _, _, _, _, _, _, _, _, hseq⟩ := h
  exact hseq.exists_encoding

theorem MessageFrame.varbind_element {oids : OID → Bytes → Prop} {message : SnmpMessage} {data : Bytes}
    (h : MessageFrame oids message data) :
    ∀ varbind ∈ message.pdu.varbinds, ∃ enc, VarbindElement oids varbind enc := by
  obtain ⟨_, _, _, _, _, _, _, _, hpdu⟩ := h
  exact hpdu.varbind_element

theorem PduType.ofTag?_eq_some_iff {tag : UInt8} {pduType : PduType} :
    PduType.ofTag? tag = some pduType ↔ tag = pduType.tag := by
  revert tag
  cases pduType <;> decide +kernel

theorem integerContent_iff (expected : String) (tag : UInt8) (content : Bytes) (value : ℤ) :
    integerContent expected tag content = .ok value ↔
      tag = integerTag ∧ content ≠ [] ∧ value = BigEndian.toInt content := by
  rw [integerContent, ite_ok_iff, ite_ok_iff, not_not, Except.ok.injEq, eq_comm (a := value)]

theorem decodeInteger_reads (expected : String) : Reads (decodeElement (integerContent expected)) IntegerElement :=
  decodeElement_reads (integerContent_iff expected)

theorem decodeIntegerFrom_reads : Reads decodeIntegerFrom IntegerElement := decodeInteger_reads _

theorem decodeOidFrom_reads : Reads decodeOidFrom (OidElement OidContent) := by
  apply decodeElement_reads
  intro tag content oid
  rw [oidContent, ite_ok_iff, not_not, decodeOid_iff]

theorem decodeValue_reencode {tag : UInt8} {content enc : Bytes} (h : Tlv (tag, content) enc) :
    decodeValue ([tag] ++ reencodeLengthPrefixed content) = decodeContent tag content := by
  have hlt : content.length < 256 ^ 127 := h.length_lt
  have := decodeValue_tlv (encodeTlv_tlv tag hlt)
  rwa [encodeTlv, List.append_assoc] at this

theorem varbindContent_iff (tag : UInt8) (content : Bytes) (varbind : RawVarBind) :
    varbindContent tag content = .ok varbind ↔ tag = sequenceTag ∧
      ∃ name value, content = name ++ value ∧ OidElement OidContent varbind.oid name ∧
        ValueElement OidContent varbind.value value := by
  rw [varbindContent, ite_ok_iff, not_not]
  apply and_congr_right
  rintro rfl
  constructor
  · intro h
    obtain ⟨⟨oid, offset⟩, hoid, h⟩ := bind_ok_iff.mp h
    obtain ⟨⟨⟨valueTag, valueContent⟩, stop⟩, htlv, h⟩ := bind_ok_iff.mp h
    obtain ⟨value, hvalue, h⟩ := bind_ok_iff.mp h
    obtain ⟨_, hend, h⟩ := bind_ok_iff.mp h
    obtain rfl := pure_ok_iff.mp h
    obtain ⟨name, hname, hdrop, -⟩ := decodeOidFrom_reads.sound hoid
    obtain ⟨enc, henc, hdrop', -⟩ := decodeTlv_reads.sound htlv
    rw [decodeValue_reencode henc, decodeContent_iff] at hvalue
    rw [drop_eq_nil_of_eq (expectEnd_ok_iff.mp hend), List.append_nil] at hdrop'
    rw [hdrop', List.drop_zero] at hdrop
    exact ⟨name, enc, hdrop, hname, valueTag, valueContent, henc, hvalue⟩
  · rintro ⟨name, enc, rfl, hname, valueTag, valueContent, henc, hvalue⟩
    have hoid := decodeOidFrom_reads.at_start enc hname
    have htlv := decodeTlv_reads.after name [] henc
    rw [List.append_nil] at htlv
    rw [hoid, ok_bind]
    simp only [htlv, ok_bind, decodeValue_reencode henc, decodeContent_iff.mpr hvalue,
      expectEnd_self]
    rfl

theorem decodeVarbind_reads : Reads decodeVarbind (VarbindElement OidContent) :=
  decodeElement_reads varbindContent_iff

theorem VarbindElement.ne_nil {oids : OID → Bytes → Prop} {varbind : RawVarBind} {enc : Bytes}
    (h : VarbindElement oids varbind enc) : enc ≠ [] := by
  obtain ⟨tag, content, htlv, -⟩ := h
  exact htlv.ne_nil

theorem varbindListContent_iff (tag : UInt8) (content : Bytes) (varbinds : List RawVarBind) :
    varbindListContent tag content = .ok varbinds ↔ tag = sequenceTag ∧
      Sequence (VarbindElement OidContent) varbinds content := by
  rw [varbindListContent, ite_ok_iff, not_not]
  apply and_congr_right
  rintro rfl
  constructor
  · intro h
    obtain ⟨⟨items, stop⟩, hmany, h⟩ := bind_ok_iff.mp h
    obtain ⟨_, -, h⟩ := bind_ok_iff.mp h
    obtain rfl := pure_ok_iff.mp h
    simpa using (readMany_sound decodeVarbind_reads (fun _ _ => VarbindElement.ne_nil) _ 0 (by simp) hmany).1
  · intro h
    have := readMany_complete decodeVarbind_reads (fun _ _ => VarbindElement.ne_nil)
      .nonTermination [] h (content.length + 1) (by omega)
    rw [List.nil_append, List.length_nil] at this
    rw [this, ok_bind]
    simp only [expectEnd_self, ok_bind]
    rfl

theorem decodeVarbindList_reads : Reads decodeVarbindList (VarbindListElement OidContent) :=
  decodeElement_reads varbindListContent_iff

theorem decodePduBody_iff {pduType : PduType} {content : Bytes} {pdu : Pdu} :
    decodePduBody pduType content = .ok pdu ↔ pdu.pduType = pduType ∧ PduBody OidContent pdu content := by
  constructor
  · intro h
    obtain ⟨⟨requestId, o1⟩, h1, h⟩ := bind_ok_iff.mp h
    obtain ⟨⟨errorStatus, o2⟩, h2, h⟩ := bind_ok_iff.mp h
    obtain ⟨⟨errorIndex, o3⟩, h3, h⟩ := bind_ok_iff.mp h
    obtain ⟨⟨varbinds, o4⟩, h4, h⟩ := bind_ok_iff.mp h
    obtain ⟨_, hend, h⟩ := bind_ok_iff.mp h
    obtain rfl := pure_ok_iff.mp h
    obtain ⟨e1, g1, d1, -⟩ := decodeIntegerFrom_reads.sound h1
    obtain ⟨e2, g2, d2, -⟩ := decodeIntegerFrom_reads.sound h2
    obtain ⟨e3, g3, d3, -⟩ := decodeIntegerFrom_reads.sound h3
    obtain ⟨e4, g4, d4, -⟩ := decodeVarbindList_reads.sound h4
    refine ⟨rfl, e1, e2, e3, e4, ?_, g1, g2, g3, g4⟩
    rw [List.drop_zero, d2, d3, d4, drop_eq_nil_of_eq (expectEnd_ok_iff.mp hend)] at d1
    simpa using d1
  · rintro ⟨rfl, e1, e2, e3, e4, rfl, g1, g2, g3, g4⟩
    have h1 := decodeIntegerFrom_reads.at_start (e2 ++ e3 ++ e4) g1
    have h2 := decodeIntegerFrom_reads.after e1 (e3 ++ e4) g2
    have h3 := decodeIntegerFrom_reads.after (e1 ++ e2) e4 g3
    have h4 := decodeVarbindList_reads.after (e1 ++ e2 ++ e3) [] g4
    simp only [List.append_assoc, List.append_nil] at h1 h2 h3 h4
    simp only [decodePduBody, List.append_assoc, h1, h2, h3, h4, ok_bind, expectEnd_self]
    rfl

theorem decodePdu_tlv {tag : UInt8} {content data : Bytes} {pdu : Pdu} (h : Tlv (tag, content) data) :
    decodePdu data = .ok pdu ↔ tag = pdu.pduType.tag ∧ PduBody OidContent pdu content := by
  have hread := (decodeTlv_reads.whole_iff data (tag, content)).mpr h
  simp only [decodePdu, hread, ok_bind, expectEnd_self]
  cases htype : PduType.ofTag? tag with
  | none =>
    simp only [reduceCtorEq, false_iff, not_and]
    rintro rfl
    rw [PduType.ofTag?_eq_some_iff.mpr rfl] at htype
    cases htype
  | some pduType =>
    obtain rfl := PduType.ofTag?_eq_some_iff.mp htype
    simp only [decodePduBody_iff]
    apply and_congr_left'
    rw [← PduType.ofTag?_eq_some_iff, htype, Option.some.injEq, eq_comm]

theorem decodePdu_iff {data : Bytes} {pdu : Pdu} : decodePdu data = .ok pdu ↔ PduElement OidContent pdu data := by
  constructor
  · intro h
    obtain ⟨⟨⟨tag, content⟩, stop⟩, htlv, h'⟩ := bind_ok_iff.mp h
    obtain ⟨_, hend, -⟩ := bind_ok_iff.mp h'
    rw [expectEnd_ok_iff.mp hend, decodeTlv_reads.whole_iff] at htlv
    obtain ⟨rfl, hbody⟩ := (decodePdu_tlv htlv).mp h
    exact ⟨content, htlv, hbody⟩
  · rintro ⟨content, htlv, hbody⟩
    exact (decodePdu_tlv htlv).mpr ⟨rfl, hbody⟩

theorem decodePdu_reencode {tag : UInt8} {content enc : Bytes} {pdu : Pdu} (h : Tlv (tag, content) enc) :
    decodePdu ([tag] ++ reencodeLengthPrefixed content) = .ok pdu ↔ PduElement OidContent pdu enc := by
  have hlt : content.length < 256 ^ 127 := h.length_lt
  have := @decodePdu_tlv _ _ _ pdu (encodeTlv_tlv tag hlt)
  rw [encodeTlv, List.append_assoc] at this
  rw [← decodePdu_iff, decodePdu_tlv h]
  exact this

theorem decodeOctetString_reads : Reads decodeOctetString CommunityElement := by
  apply decodeElement_reads
  intro tag content community
  rw [communityContent, ite_ok_iff, not_not]
  apply and_congr_right
  rintro -
  rw [← Utf8.decode_eq_some_iff]
  cases Utf8.decode content <;> simp

theorem decodeMessage_frame {data : Bytes} {message : SnmpMessage} (h : MessageFrame OidContent message data) :
    decodeMessage data = if message.version ≠ snmpV2cVersion then do
        .error (.protocolError s!"Unsupported SNMP version {← formatInt message.version}")
      else .ok message := by
  obtain ⟨content, e1, e2, e3, htlv, rfl, g1, g2, pduContent, g3, hbody⟩ := h
  have hread := (decodeTlv_reads.whole_iff data _).mpr htlv
  have h1 := (decodeInteger_reads "INTEGER tag").at_start (e2 ++ e3) g1
  have h2 := decodeOctetString_reads.after e1 e3 g2
  have h3 := decodeTlv_reads.after (e1 ++ e2) [] g3
  have hpdu := (decodePdu_reencode g3).mpr ⟨pduContent, g3, hbody⟩
  simp only [List.append_assoc, List.append_nil] at h3
  rw [List.append_assoc] at hread
  simp only [decodeMessage, hread, ok_bind, ne_eq, not_true_eq_false, if_false, expectEnd_self,
    Message.decodeInteger, h1, h2, h3, hpdu]
  rfl

theorem frame_of_decoded {data content pduContent : Bytes} {tag pduTag : UInt8} {stop o1 o2 o3 : ℕ} {version : ℤ}
    {community : String} {pdu : Pdu} (htlv : decodeTlv data 0 = .ok ((tag, content), stop)) (htag : tag = sequenceTag)
    {u : Unit} (hend : expectEnd data stop = .ok u) (h1 : Message.decodeInteger content 0 = .ok (version, o1))
    (h2 : decodeOctetString content o1 = .ok (community, o2))
    (h3 : decodeTlv content o2 = .ok ((pduTag, pduContent), o3))
    (hpdu : decodePdu ([pduTag] ++ reencodeLengthPrefixed pduContent) = .ok pdu)
    (hend' : expectEnd content o3 = .ok u) :
    MessageFrame OidContent { version := version, community := community, pdu := pdu } data := by
  rw [expectEnd_ok_iff.mp hend, decodeTlv_reads.whole_iff, htag] at htlv
  obtain ⟨e1, g1, d1, -⟩ := (decodeInteger_reads _).sound h1
  obtain ⟨e2, g2, d2, -⟩ := decodeOctetString_reads.sound h2
  obtain ⟨e3, g3, d3, -⟩ := decodeTlv_reads.sound h3
  refine ⟨content, e1, e2, e3, htlv, ?_, g1, g2, (decodePdu_reencode g3).mp hpdu⟩
  rw [List.drop_zero, d2, d3, drop_eq_nil_of_eq (expectEnd_ok_iff.mp hend')] at d1
  simpa using d1

theorem decodeMessage_ok_iff {data : Bytes} {message : SnmpMessage} :
    decodeMessage data = .ok message ↔ MessageSyntax OidContent message data := by
  constructor
  · intro h
    obtain ⟨⟨⟨tag, content⟩, stop⟩, htlv, h⟩ := bind_ok_iff.mp h
    rw [ite_ok_iff, not_not] at h
    obtain ⟨htag, h⟩ := h
    obtain ⟨_, hend, h⟩ := bind_ok_iff.mp h
    obtain ⟨⟨version, o1⟩, h1, h⟩ := bind_ok_iff.mp h
    obtain ⟨⟨community, o2⟩, h2, h⟩ := bind_ok_iff.mp h
    obtain ⟨⟨⟨pduTag, pduContent⟩, o3⟩, h3, h⟩ := bind_ok_iff.mp h
    obtain ⟨pdu, hpdu, h⟩ := bind_ok_iff.mp h
    obtain ⟨_, hend', h⟩ := bind_ok_iff.mp h
    rw [ite_raise_ok_iff, not_not, pure_ok_iff] at h
    obtain ⟨hversion, rfl⟩ := h
    exact ⟨frame_of_decoded htlv htag hend h1 h2 h3 hpdu hend', hversion⟩
  · rintro ⟨hframe, hversion⟩
    have hv : ¬ message.version ≠ snmpV2cVersion := not_not.mpr hversion
    rw [decodeMessage_frame hframe, if_neg hv]

end TrishulSnmp.Wire
