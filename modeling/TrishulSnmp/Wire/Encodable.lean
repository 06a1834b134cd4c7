import TrishulSnmp.Wire.Echo

namespace TrishulSnmp

def RawVarBind.Encodable (varbind : RawVarBind) : Prop :=
  (∃ content, Asn1.encodeOid varbind.oid = .ok content) ∧ ∃ enc, Asn1.encodeValue varbind.value = .ok enc

namespace Wire

open OffsetReader Outcome Ber Asn1

theorem encodeVarbind_isOk_iff {varbind : RawVarBind} :
    (∃ enc, encodeVarbind varbind = .ok enc) ↔ varbind.Encodable := by
  constructor
  · rintro ⟨enc, h⟩
    obtain ⟨name, hname, h⟩ := bind_ok_iff.mp h
    obtain ⟨value, hvalue, -⟩ := bind_ok_iff.mp h
    obtain ⟨content, hcontent, -⟩ := bind_ok_iff.mp hname
    exact ⟨⟨content, hcontent⟩, value, hvalue⟩
  · rintro ⟨⟨content, hcontent⟩, value, hvalue⟩
    have hname : encodeValue (.objectIdentifierValue varbind.oid) = .ok (encodeTlv objectIdentifierTag content) := by
      rw [encodeValue, hcontent]
      rfl
    exact ⟨_, by rw [encodeVarbind, hname, ok_bind, hvalue]; rfl⟩

theorem encodePdu_isOk_iff {pdu : Pdu} :
    (∃ enc, encodePdu pdu = .ok enc) ↔ ∀ varbind ∈ pdu.varbinds, varbind.Encodable := by
  have hvarbinds := @mapM_isOk_iff _ _ _ encodeVarbind pdu.varbinds
  simp only [encodeVarbind_isOk_iff] at hvarbinds
  rw [← hvarbinds]
  constructor
  · rintro ⟨enc, h⟩
    obtain ⟨_, -, h⟩ := bind_ok_iff.mp h
    obtain ⟨_, -, h⟩ := bind_ok_iff.mp h
    obtain ⟨_, -, h⟩ := bind_ok_iff.mp h
    obtain ⟨_, hlist, -⟩ := bind_ok_iff.mp h
    obtain ⟨parts, hparts, -⟩ := bind_ok_iff.mp hlist
    exact ⟨parts, hparts⟩
  · rintro ⟨parts, hparts⟩
    simp only [encodePdu, encodeVarbindList, hparts, encodeInteger, encodeValue, ok_bind]
    exact ⟨_, rfl⟩

theorem encodeMessage_isOk_iff {message : SnmpMessage} :
    (∃ data, encodeMessage message = .ok data) ↔ ∀ varbind ∈ message.pdu.varbinds, varbind.Encodable := by
  rw [← encodePdu_isOk_iff]
  constructor
  · rintro ⟨data, h⟩
    obtain ⟨_, -, h⟩ := bind_ok_iff.mp h
    obtain ⟨_, -, h⟩ := bind_ok_iff.mp h
    obtain ⟨enc, hpdu, -⟩ := bind_ok_iff.mp h
    exact ⟨enc, hpdu⟩
  · rintro ⟨enc, hpdu⟩
    simp only [encodeMessage, hpdu, encodeInteger, encodeOctetString, encodeValue, ok_bind]
    exact ⟨_, rfl⟩

theorem encodeOid_failsOnly (oid : OID) : FailsOnly (fun e => e.isTransportError = false) (encodeOid oid) := by
  match oid with
  | [] => exact failsOnly_error rfl
  | [_] => exact failsOnly_error rfl
  | first :: second :: arcs =>
    refine failsOnly_ite (fun _ => failsOnly_error rfl) fun _ => ?_
    refine failsOnly_ite (fun _ => failsOnly_error rfl) fun _ => ?_
    refine failsOnly_bind (failsOnly_ite (fun _ => failsOnly_ok _) fun _ =>
      failsOnly_error rfl) fun _ _ => ?_
    exact failsOnly_bind ((encodeArcs_failsOnly arcs).imp Error.isTransportError_of_protocol) fun _ _ => failsOnly_ok _

theorem encodeIpAddress_failsOnly (text : String) :
    FailsOnly (fun e => e.isTransportError = false) (encodeIpAddress text) := by
  refine failsOnly_ite (fun _ => failsOnly_error rfl) fun _ => ?_
  cases (PyText.splitDot text.toList).mapM PyText.parseInt with
  | none => exact failsOnly_error rfl
  | some octets =>
    exact failsOnly_ite (fun _ => failsOnly_error rfl) fun _ => failsOnly_ok _

theorem octetAt_failsOnly (data : Bytes) (offset : ℕ) :
    FailsOnly (fun e => e.isTransportError = false) (octetAt data offset) := by
  rw [octetAt]
  cases data[offset]? with
  | none => exact failsOnly_error rfl
  | some octet => exact failsOnly_ok octet

theorem encodeUnsignedInteger_failsOnly (value : ℤ) :
    FailsOnly (fun e => e.isTransportError = false) (encodeUnsignedInteger value) := by
  refine failsOnly_ite (fun _ => failsOnly_error rfl) fun _ => ?_
  refine failsOnly_ite (fun _ => failsOnly_ok _) fun _ => ?_
  refine failsOnly_bind (octetAt_failsOnly _ _) fun _ _ => ?_
  exact failsOnly_ite (fun _ => failsOnly_ok _) fun _ => failsOnly_ok _

theorem encodeValue_failsOnly (value : SnmpValue) :
    FailsOnly (fun e => e.isTransportError = false) (encodeValue value) := by
  cases value with
  | objectIdentifierValue oid => exact failsOnly_bind (encodeOid_failsOnly oid) fun _ _ => failsOnly_ok _
  | ipAddressValue text => exact failsOnly_bind (encodeIpAddress_failsOnly text) fun _ _ => failsOnly_ok _
  | counter32Value n => exact failsOnly_bind (encodeUnsignedInteger_failsOnly n) fun _ _ => failsOnly_ok _
  | gauge32Value n => exact failsOnly_bind (encodeUnsignedInteger_failsOnly n) fun _ _ => failsOnly_ok _
  | timeTicksValue n => exact failsOnly_bind (encodeUnsignedInteger_failsOnly n) fun _ _ => failsOnly_ok _
  | counter64Value n => exact failsOnly_bind (encodeUnsignedInteger_failsOnly n) fun _ _ => failsOnly_ok _
  | _ => exact failsOnly_ok _

theorem encodeVarbinds_failsOnly (varbinds : List RawVarBind) :
    FailsOnly (fun e => e.isTransportError = false) (varbinds.mapM encodeVarbind) := by
  induction varbinds with
  | nil => exact failsOnly_ok _
  | cons varbind varbinds ih =>
    rw [List.mapM_cons]
    refine failsOnly_bind (failsOnly_bind (encodeValue_failsOnly _) fun _ _ =>
      failsOnly_bind (encodeValue_failsOnly _) fun _ _ => failsOnly_ok _) fun _ _ => ?_
    exact failsOnly_bind ih fun _ _ => failsOnly_ok _

theorem encodeMessage_failsOnly (message : SnmpMessage) :
    FailsOnly (fun e => e.isTransportError = false) (encodeMessage message) := by
  refine failsOnly_bind (encodeValue_failsOnly _) fun _ _ => ?_
  refine failsOnly_bind (encodeValue_failsOnly _) fun _ _ => ?_
  refine failsOnly_bind ?_ fun _ _ => failsOnly_ok _
  refine failsOnly_bind (encodeValue_failsOnly _) fun _ _ => ?_
  refine failsOnly_bind (encodeValue_failsOnly _) fun _ _ => ?_
  refine failsOnly_bind (encodeValue_failsOnly _) fun _ _ => ?_
  refine failsOnly_bind ?_ fun _ _ => failsOnly_ok _
  exact failsOnly_bind (encodeVarbinds_failsOnly _) fun _ _ => failsOnly_ok _

theorem VarbindElement.encodable {varbind : RawVarBind} {enc : Bytes} (h : VarbindElement OidContent varbind enc) :
    varbind.Encodable := by
  obtain ⟨enc', h', -⟩ := h.reencodes
  exact encodeVarbind_isOk_iff.mp ⟨enc', h'⟩

theorem MessageSyntax.encodable {message : SnmpMessage} {data : Bytes} (h : MessageSyntax OidContent message data) :
    ∀ varbind ∈ message.pdu.varbinds, varbind.Encodable := by
  intro varbind hmem
  obtain ⟨enc, henc⟩ := h.1.varbind_element varbind hmem
  exact henc.encodable

theorem zero_lt_of_oidContent {oid : OID} {content : Bytes} (h : OidContent oid content) : [0] < oid := by
  obtain ⟨first, -⟩ := h
  have hnonneg : 0 ≤ (firstArcs first).1 := by
    unfold firstArcs
    split_ifs <;> simp
  rw [List.cons_lt_cons_iff]
  obtain hlt | heq := hnonneg.lt_or_eq
  · exact .inl hlt
  · exact .inr ⟨heq, List.nil_lt_cons _ _⟩

end Wire

end TrishulSnmp
