import TrishulSnmp.Wire.ValueEncoding
import TrishulSnmp.Wire.X690

namespace TrishulSnmp.Asn1

open BigEndian OffsetReader Outcome Ber

def InSmiRange : SnmpValue → Prop
  | .counter32Value n | .gauge32Value n | .timeTicksValue n => 0 ≤ n ∧ n ≤ 4294967295
  | .counter64Value n => 0 ≤ n ∧ n ≤ 18446744073709551615
  | .integerValue n => -2147483648 ≤ n ∧ n ≤ 2147483647
  | .objectIdentifierValue oid => ∀ arc ∈ oid, arc ≤ 4294967295
  | _ => True

def RespectsSmi (data : Bytes) : Prop :=
  (∀ v, decodeValue data = .ok v → InSmiRange v) ∧
    ∀ v, ValueSyntax v data → ¬ InSmiRange v → ∃ e, decodeValue data = .error e ∧ e.isProtocolError

def WideGroup (enc : Bytes) : Prop :=
  let digits := enc.dropWhile fun b => b = 0x80
  5 < digits.length ∨ digits.length = 5 ∧ ∃ b rest, digits = b :: rest ∧ 0x90 ≤ b.toNat

def Terminated (enc : Bytes) : Prop := ∃ n, Base128.Group n enc

def Oversized (tag : UInt8) (content : Bytes) : Prop :=
  (tag = counter32Tag ∨ tag = gauge32Tag ∨ tag = timeTicksTag) ∧ 4 < (content.dropWhile fun b => b = 0).length ∨
  tag = counter64Tag ∧ 8 < (content.dropWhile fun b => b = 0).length ∨
  tag = integerTag ∧ 4 < (trimSign content).length ∨
  tag = objectIdentifierTag ∧ ∃ (first : UInt8) (groups : List Bytes), content = first :: groups.flatten ∧
    (∀ group ∈ groups, Terminated group) ∧ ∃ group ∈ groups, WideGroup group

theorem wideGroup_iff {n : ℕ} {enc : Bytes} (h : Base128.Group n enc) : WideGroup enc ↔ 4294967295 < n := by
  have hdigits := h.trimmed
  rw [WideGroup]
  generalize (enc.dropWhile fun b => b = 0x80) = digits at hdigits
  have hfive := hdigits.length_le_iff (show 0 < 5 by norm_num)
  have hfour := hdigits.length_le_iff (show 0 < 4 by norm_num)
  norm_num at hfive hfour
  by_cases hlen : digits.length = 5
  · obtain ⟨b, rest, rfl⟩ := List.exists_cons_of_length_eq_add_one hlen
    rw [List.length_cons, Nat.succ_inj] at hlen
    obtain ⟨-, rfl, -⟩ | ⟨hb, m, hm, rfl⟩ := Base128.Group.cons_iff.mp hdigits.1
    · cases hlen
    · have hlow := hm.lt
      have h256 : b.toNat < 256 := b.toNat_lt
      rw [hlen] at hlow ⊢
      norm_num at hlow ⊢
      rw [hlen]
      simp only [Nat.reduceAdd, true_and]
      omega
  · omega

theorem unsigned_outside_iff {content : Bytes} (k : ℕ) {bound : ℤ} (hbound : bound + 1 = 256 ^ k) :
    ¬ (0 ≤ (BigEndian.toNat content : ℤ) ∧ (BigEndian.toNat content : ℤ) ≤ bound) ↔
      k < (content.dropWhile fun b => b = 0).length := by
  have hfits := trimmed_length_le_iff content k
  have hcast : BigEndian.toNat content < 256 ^ k ↔ (BigEndian.toNat content : ℤ) < 256 ^ k := by exact_mod_cast Iff.rfl
  rw [hcast, ← hbound] at hfits
  omega

theorem integer_outside_iff {content : Bytes} (hne : content ≠ []) :
    ¬ (-2147483648 ≤ toInt content ∧ toInt content ≤ 2147483647) ↔ 4 < (trimSign content).length := by
  have hfits := length_trimSign_le_iff hne (show 0 < 4 by norm_num)
  norm_num at hfits
  omega

theorem firstArcs_le (first : UInt8) : (firstArcs first).1 ≤ 4294967295 ∧ (firstArcs first).2 ≤ 4294967295 := by
  have hb : first.toNat < 256 := first.toNat_lt
  unfold firstArcs
  split_ifs <;> constructor <;> simp only <;> omega

theorem oid_outside_iff {first : UInt8} {arcs : List ℕ} {groups : List Bytes}
    (h : List.Forall₂ Base128.Group arcs groups) :
    ¬ InSmiRange (.objectIdentifierValue
        ((firstArcs first).1 :: (firstArcs first).2 :: arcs.map fun arc : ℕ => (arc : ℤ))) ↔
      ∃ group ∈ groups, WideGroup group := by
  obtain ⟨hfirst, hsecond⟩ := firstArcs_le first
  simp only [InSmiRange, List.forall_mem_cons, hfirst, hsecond, true_and, List.forall_mem_map]
  push Not
  induction h with
  | nil => simp
  | @cons n group arcs groups hg _ ih =>
    simp only [List.mem_cons, exists_eq_or_imp, ih, wideGroup_iff hg]
    apply or_congr_left
    omega

theorem terminated_iff (groups : List Bytes) :
    (∀ group ∈ groups, Terminated group) ↔ ∃ arcs, List.Forall₂ Base128.Group arcs groups := by
  constructor
  · intro h
    induction groups with
    | nil => exact ⟨[], .nil⟩
    | cons group groups ih =>
      obtain ⟨⟨n, hn⟩, hrest⟩ := List.forall_mem_cons.mp h
      obtain ⟨arcs, harcs⟩ := ih hrest
      exact ⟨n :: arcs, .cons hn harcs⟩
  · rintro ⟨arcs, harcs⟩
    induction harcs with
    | nil => simp
    | cons hn _ ih => exact List.forall_mem_cons.mpr ⟨⟨_, hn⟩, ih⟩

theorem oversized_of_outside {v : SnmpValue} {tag : UInt8} {content : Bytes} (h : ValueContent OidContent v tag content)
    (hout : ¬ InSmiRange v) : Oversized tag content := by
  cases h with
  | integer _ hne => exact .inr (.inr (.inl ⟨rfl, (integer_outside_iff hne).mp hout⟩))
  | counter32 => exact .inl ⟨.inl rfl, (unsigned_outside_iff 4 (by norm_num)).mp hout⟩
  | gauge32 => exact .inl ⟨.inr (.inl rfl), (unsigned_outside_iff 4 (by norm_num)).mp hout⟩
  | timeTicks => exact .inl ⟨.inr (.inr rfl), (unsigned_outside_iff 4 (by norm_num)).mp hout⟩
  | counter64 => exact .inr (.inl ⟨rfl, (unsigned_outside_iff 8 (by norm_num)).mp hout⟩)
  | objectIdentifier oid content ho =>
    obtain @⟨first, arcs, rest, hseq⟩ := ho
    obtain ⟨groups, rfl, hgroups⟩ := sequence_iff_pieces.mp hseq
    refine .inr (.inr (.inr ⟨rfl, first, groups, rfl, ?_, (oid_outside_iff hgroups).mp hout⟩))
    exact (terminated_iff groups).mpr ⟨arcs, hgroups⟩
  | _ => exact absurd trivial hout

theorem exists_outside {tag : UInt8} {content : Bytes} (h : Oversized tag content) :
    ∃ v, ValueContent OidContent v tag content ∧ ¬ InSmiRange v := by
  obtain ⟨htag, hlong⟩ | ⟨rfl, hlong⟩ | ⟨rfl, hlong⟩ | ⟨rfl, first, groups, rfl, hterminated, hwide⟩ := h
  · have hne : content ≠ [] := by
      rintro rfl
      cases hlong
    have hout := (@unsigned_outside_iff content 4 4294967295 (by norm_num)).mpr hlong
    obtain rfl | rfl | rfl := htag
    · exact ⟨_, .counter32 content hne, hout⟩
    · exact ⟨_, .gauge32 content hne, hout⟩
    · exact ⟨_, .timeTicks content hne, hout⟩
  · have hne : content ≠ [] := by
      rintro rfl
      cases hlong
    exact ⟨_, .counter64 content hne, (@unsigned_outside_iff content 8 _ (by norm_num)).mpr hlong⟩
  · have hne : content ≠ [] := by
      rintro rfl
      cases hlong
    exact ⟨_, .integer content hne, (integer_outside_iff hne).mpr hlong⟩
  · obtain ⟨arcs, harcs⟩ := (terminated_iff groups).mp hterminated
    have hseq := sequence_iff_pieces.mpr ⟨groups, rfl, harcs⟩
    exact ⟨_, .objectIdentifier _ _ (.mk first hseq), (oid_outside_iff harcs).mpr hwide⟩

theorem decode_respects_smi_iff (data : Bytes) :
    RespectsSmi data ↔ ¬ ∃ tag content, Tlv (tag, content) data ∧ Oversized tag content := by
  constructor
  · rintro ⟨hrange, -⟩ ⟨tag, content, htlv, hover⟩
    obtain ⟨v, hv, hout⟩ := exists_outside hover
    exact hout (hrange v (decodeValue_ok_iff.mpr ⟨tag, content, htlv, hv⟩))
  · intro hfits
    have hall : ∀ v, ValueSyntax v data → InSmiRange v := by
      rintro v ⟨tag, content, htlv, hv⟩
      by_contra hout
      exact hfits ⟨tag, content, htlv, oversized_of_outside hv hout⟩
    refine ⟨fun v h => hall v (decodeValue_ok_iff.mp h), fun v hv hout => ?_⟩
    exact absurd (hall v hv) hout

theorem counter32_too_large : decodeValue [0x41, 0x05, 0x01, 0x00, 0x00, 0x00, 0x00] =
    .ok (.counter32Value 4294967296) ∧
    ¬ RespectsSmi [0x41, 0x05, 0x01, 0x00, 0x00, 0x00, 0x00] := by
  have hdecode : decodeValue [0x41, 0x05, 0x01, 0x00, 0x00, 0x00, 0x00] =
    .ok (.counter32Value 4294967296) := by decide +kernel
  refine ⟨hdecode, ?_⟩
  rintro ⟨hrange, -⟩
  have hout := (hrange _ hdecode).2
  norm_num at hout

end TrishulSnmp.Asn1
