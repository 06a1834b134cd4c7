import TrishulSnmp.Wire.ValueEncoding
import TrishulSnmp.Wire.X690

namespace TrishulSnmp.Asn1

open OffsetReader Outcome Wire

/-- The checks of `_encode_oid` leave the first two arcs in one octet, and a negative second arc is
stopped by a check that is meant for a later one. -/
def TopArcsCaught : OID → Prop
  | first :: second :: arcs => 2 < first ∨ (first < 2 ∧ 40 ≤ second) ∨
      ((0 ≤ first * 40 + second ∧ first * 40 + second < 256) ∧ (0 ≤ second ∨ ∃ arc ∈ arcs, arc < 0))
  | _ => True

def RefusedByProtocol (oid : OID) : Prop := ∃ e, encodeOid oid = .error e ∧ e.isProtocolError

def EncodedFaithfully (oid : OID) : Prop := ∃ content, encodeOid oid = .ok content ∧ decodeOid content = .ok oid

def LegalTop (first second : ℕ) : Prop := first < 2 ∧ second < 40 ∨ first = 2

def X690Encoding (first second : ℕ) (arcs : List ℕ) (content : Bytes) : Prop :=
  Sequence Base128.SubIdentifier ((40 * first + second) :: arcs) content

def oidOf (first second : ℕ) (arcs : List ℕ) : OID := (first : ℤ) :: (second : ℤ) :: arcs.map fun arc : ℕ => (arc : ℤ)

theorem byteOf_error {n : ℤ} {e : Error} (h : byteOf n = .error e) :
    ¬ (0 ≤ n ∧ n < 256) ∧ e.isProtocolError = false := by
  obtain ⟨-, h⟩ | ⟨hn, h⟩ := ite_cases h
  · cases h
  · cases h
    exact ⟨hn, rfl⟩

theorem encodeArcs_isOk_iff {arcs : List ℤ} : (∃ content, encodeArcs arcs = .ok content) ↔ ∀ arc ∈ arcs, 0 ≤ arc := by
  constructor
  · rintro ⟨content, h⟩ arc harc
    obtain ⟨ns, rfl, -⟩ := encodeArcs_ok h
    obtain ⟨n, -, rfl⟩ := List.mem_map.mp harc
    exact Int.natCast_nonneg n
  · intro h
    obtain ⟨ns, rfl⟩ : ∃ ns : List ℕ, arcs = ns.map fun n : ℕ => (n : ℤ) := by
      refine ⟨arcs.map Int.toNat, ?_⟩
      rw [List.map_map, eq_comm]
      exact (List.map_congr_left fun arc harc => Int.toNat_of_nonneg (h arc harc)).trans (List.map_id arcs)
    exact encodeArcs_of_nat ns

theorem encodeOid_checked {first second : ℤ} {arcs : List ℤ} (hle : ¬ 2 < first) (hlt : ¬ (first < 2 ∧ 40 ≤ second)) :
    encodeOid (first :: second :: arcs) =
      byteOf (first * 40 + second) >>= fun head => encodeArcs arcs >>= fun content => pure (head :: content) := by
  rw [encodeOid, if_neg hle, if_neg hlt]

theorem refused_of_checks {first second : ℤ} {arcs : List ℤ} (h : 2 < first ∨ first < 2 ∧ 40 ≤ second) :
    RefusedByProtocol (first :: second :: arcs) := by
  by_cases hle : 2 < first
  · exact ⟨_, if_pos hle, rfl⟩
  · have hlt : first < 2 ∧ second ≥ 40 := h.resolve_left hle
    rw [RefusedByProtocol, encodeOid, if_neg hle, if_pos hlt]
    exact ⟨_, rfl, rfl⟩

theorem settled_of_ok {oid : OID} {content : Bytes} (h : encodeOid oid = .ok content) :
    RefusedByProtocol oid ∨ EncodedFaithfully oid ↔ decodeOid content = .ok oid := by
  constructor
  · rintro (⟨e, he, -⟩ | ⟨content', hcontent', hdecode⟩)
    · cases h.symm.trans he
    · obtain rfl := eq_of_ok h hcontent'
      exact hdecode
  · exact fun hdecode => .inr ⟨content, h, hdecode⟩

theorem settled_of_error {oid : OID} {e : Error} (h : encodeOid oid = .error e) :
    RefusedByProtocol oid ∨ EncodedFaithfully oid ↔ e.isProtocolError = true := by
  constructor
  · rintro (⟨e', he', hprotocol⟩ | ⟨content, hcontent, -⟩)
    · cases h.symm.trans he'
      exact hprotocol
    · cases h.symm.trans hcontent
  · exact fun hprotocol => .inl ⟨e, h, hprotocol⟩

theorem decodeOid_of_nonneg {first second : ℤ} {arcs : List ℤ} {content : Bytes} (h0 : 0 ≤ first) (h0' : 0 ≤ second)
    (h : encodeOid (first :: second :: arcs) = .ok content) : decodeOid content = .ok (first :: second :: arcs) := by
  refine decodeOid_iff.mpr (encodeOid_content ?_ h)
  obtain ⟨-, -, _, rest, -, hrest, -⟩ := encodeOid_ok_iff.mp h
  have harcs := encodeArcs_isOk_iff.mp ⟨rest, hrest⟩
  simp only [List.forall_mem_cons]
  exact ⟨h0, h0', harcs⟩

theorem settled_iff {first second : ℤ} {arcs : List ℤ} (hle : ¬ 2 < first) (hlt : ¬ (first < 2 ∧ 40 ≤ second)) :
    RefusedByProtocol (first :: second :: arcs) ∨ EncodedFaithfully (first :: second :: arcs) ↔
      (0 ≤ first * 40 + second ∧ first * 40 + second < 256) ∧ (0 ≤ second ∨ ∃ arc ∈ arcs, arc < 0) := by
  have hencode := @encodeOid_checked first second arcs hle hlt
  obtain ⟨head, hhead⟩ | ⟨e, he⟩ := ok_or_error (byteOf (first * 40 + second))
  · have hbyte := byteOf_ok_iff.mp hhead
    have hlow : head.toNat < 256 := head.toNat_lt
    rw [hhead, ok_bind] at hencode
    rw [and_iff_right (by omega)]
    obtain ⟨content, hcontent⟩ | ⟨e, he⟩ := ok_or_error (encodeArcs arcs)
    · -- every later arc has been written: only the second can have been changed
      have hnonneg : ¬ ∃ arc ∈ arcs, arc < 0 := by
        have harcs := encodeArcs_isOk_iff.mp ⟨content, hcontent⟩
        push Not
        exact harcs
      rw [hcontent, ok_bind] at hencode
      rw [settled_of_ok hencode, or_iff_left hnonneg]
      constructor
      · intro hdecode
        have hoid := (decodeOid_iff.mp hdecode).nonneg
        exact hoid second (by simp)
      · intro h0
        exact decodeOid_of_nonneg (by omega) h0 hencode
    · rw [he, error_bind] at hencode
      rw [settled_of_error hencode]
      refine iff_of_true (encodeArcs_failsOnly arcs e he) (.inr ?_)
      by_contra! hall
      obtain ⟨content, hcontent⟩ := encodeArcs_isOk_iff.mpr hall
      rw [hcontent] at he
      cases he
  · obtain ⟨hrange, hclass⟩ := byteOf_error he
    rw [he, error_bind] at hencode
    rw [settled_of_error hencode, hclass]
    exact iff_of_false Bool.false_ne_true fun h => hrange h.1

theorem oid_encoding_faithful_iff (oid : OID) : RefusedByProtocol oid ∨ EncodedFaithfully oid ↔ TopArcsCaught oid := by
  match oid with
  | [] => exact iff_of_true (.inl ⟨_, rfl, rfl⟩) trivial
  | [_] => exact iff_of_true (.inl ⟨_, rfl, rfl⟩) trivial
  | first :: second :: arcs =>
    by_cases hchecks : 2 < first ∨ first < 2 ∧ 40 ≤ second
    · refine iff_of_true (.inl (refused_of_checks hchecks)) ?_
      exact hchecks.imp_right .inl
    · obtain ⟨hle, hlt⟩ := not_or.mp hchecks
      rw [settled_iff hle hlt]
      simp only [TopArcsCaught, hle, hlt, false_or]

theorem negative_arc_changes_oid : encodeOid [1, -1, 3] = .ok [39, 3] ∧ decodeOid [39, 3] = .ok [0, 39, 3] ∧
    ¬ (RefusedByProtocol [1, -1, 3] ∨ EncodedFaithfully [1, -1, 3]) ∧
    ¬ (RefusedByProtocol [2, 999, 3] ∨ EncodedFaithfully [2, 999, 3]) := by
  have hencode : encodeOid [1, -1, 3] = .ok [39, 3] := by decide
  have hdecode : decodeOid [39, 3] = .ok [0, 39, 3] := by decide
  have hraises : encodeOid [2, 999, 3] = .error (.valueError "byte must be in range(0, 256)") := by decide
  refine ⟨hencode, hdecode, ?_, ?_⟩
  · rw [settled_of_ok hencode, hdecode]
    decide
  · rw [settled_of_error hraises]
    decide

theorem encodeBase128_subIdentifier (n : ℕ) : Base128.SubIdentifier n (encodeBase128 n) := by
  have hg := encodeBase128_group n
  have htrimmed := hg.trimmed
  have hle := length_encodeBase128_le htrimmed.1
  have hge : ((encodeBase128 n).dropWhile fun b => b = 0x80).length ≤ (encodeBase128 n).length :=
    (List.dropWhile_sublist _).length_le
  rw [hg.eq_of_length htrimmed.1 (le_antisymm hle hge)]
  exact htrimmed

theorem encodeArcs_subIdentifiers (ns : List ℕ) :
    ∃ content, encodeArcs (ns.map fun n : ℕ => (n : ℤ)) = .ok content ∧ Sequence Base128.SubIdentifier ns content := by
  induction ns with
  | nil => exact ⟨[], rfl, .nil⟩
  | cons n ns ih =>
    obtain ⟨content, hcontent, hseq⟩ := ih
    refine ⟨encodeBase128 n ++ content, ?_, .cons (encodeBase128_subIdentifier n) hseq⟩
    rw [List.map_cons, encodeArcs, if_neg (by omega), hcontent, ok_bind, Int.toNat_natCast]
    rfl

theorem X690Encoding.content {first second : ℕ} {arcs : List ℕ} {content : Bytes} (hlegal : LegalTop first second)
    (h : X690Encoding first second arcs content) : X690Content (oidOf first second arcs) content := by
  have hseq : Sequence Base128.Group ((40 * first + second) :: arcs) content := Sequence.mono (fun _ _ h => h.1) h
  have htop : topArcs (40 * first + second) = [(first : ℤ), (second : ℤ)] := by
    unfold topArcs
    unfold LegalTop at hlegal
    split_ifs <;> simp only [List.cons.injEq, and_true] <;> omega
  have := X690Content.mk _ _ _ hseq
  rwa [htop] at this

theorem X690Encoding.single_octet {first second : ℕ} {arcs : List ℕ} {content : Bytes}
    (h : X690Encoding first second arcs content) (hclear : FirstOctetClear content) : 40 * first + second < 128 := by
  obtain ⟨b, rest, rfl, hb⟩ := hclear
  generalize hcat : b :: rest = content at h
  cases h with
  | @cons _ _ enc encs hg hs =>
    cases enc with
    | nil => exact absurd rfl hg.1.ne_nil
    | cons c enc =>
      obtain ⟨rfl, -⟩ := List.cons.inj hcat
      obtain ⟨hc, -, heq⟩ | ⟨hc, -⟩ := Base128.Group.cons_iff.mp hg.1
      · rw [heq]
        exact hc
      · omega

theorem exists_x690Encoding (first second : ℕ) (arcs : List ℕ) : ∃ content, X690Encoding first second arcs content := by
  obtain ⟨content, -, hseq⟩ := encodeArcs_subIdentifiers ((40 * first + second) :: arcs)
  exact ⟨content, hseq⟩

theorem X690Encoding.unique {first second : ℕ} {arcs : List ℕ} {content content' : Bytes}
    (h : X690Encoding first second arcs content) (h' : X690Encoding first second arcs content') : content = content' :=
  Sequence.functional (fun _ _ _ hs hs' => hs.unique hs') h h'

theorem encodeOid_x690 {first second : ℕ} {arcs : List ℕ} (hlegal : LegalTop first second)
    (hsmall : 40 * first + second < 128) :
    ∃ content, encodeOid (oidOf first second arcs) = .ok content ∧ X690Encoding first second arcs content := by
  obtain ⟨rest, hrest, hseq⟩ := encodeArcs_subIdentifiers arcs
  have hhead : (UInt8.ofNat (40 * first + second)).toNat = 40 * first + second := by
    rw [UInt8.toNat_ofNat']
    omega
  have hgroup := Base128.group_singleton (UInt8.ofNat (40 * first + second)) (by omega)
  rw [hhead] at hgroup
  have hsub : Base128.SubIdentifier (40 * first + second) [UInt8.ofNat (40 * first + second)] := by
    refine ⟨hgroup, ?_⟩
    intro heq
    rw [List.head?_cons, Option.some.injEq] at heq
    rw [heq] at hhead
    have h128 : (0x80 : UInt8).toNat = 128 := rfl
    omega
  unfold LegalTop at hlegal
  refine ⟨_, encodeOid_ok_iff.mpr ⟨by omega, by omega, _, rest, ?_, hrest, rfl⟩, .cons hsub hseq⟩
  rw [hhead]
  push_cast
  ring

theorem oid_follows_x690_iff (first second : ℕ) (arcs : List ℕ) (hlegal : LegalTop first second) :
    ∃ content, (∀ other, X690Encoding first second arcs other ↔ other = content) ∧
      (encodeOid (oidOf first second arcs) = .ok content ∧ decodeOid content = .ok (oidOf first second arcs) ↔
        40 * first + second < 128) := by
  obtain ⟨content, hx690⟩ := exists_x690Encoding first second arcs
  refine ⟨content, fun other => ⟨fun h => h.unique hx690, fun h => h ▸ hx690⟩, ?_⟩
  constructor
  · rintro ⟨-, hdecode⟩
    exact hx690.single_octet (firstOctetClear_of_both (decodeOid_iff.mp hdecode) (hx690.content hlegal))
  · intro hsmall
    obtain ⟨content', hencode, hx690'⟩ := @encodeOid_x690 first second arcs hlegal hsmall
    obtain rfl := hx690.unique hx690'
    refine ⟨hencode, decodeOid_iff.mpr (encodeOid_content ?_ hencode)⟩
    intro arc harc
    simp only [oidOf, List.mem_cons, List.mem_map] at harc
    obtain rfl | rfl | ⟨n, -, rfl⟩ := harc <;> exact Int.natCast_nonneg _

theorem oid_follows_x690_sample : ∃ content, (∀ other, X690Encoding 2 47 [300] other ↔ other = content) ∧
    (encodeOid [2, 47, 300] = .ok content ∧ decodeOid content = .ok [2, 47, 300] ↔ 40 * 2 + 47 < 128) :=
  oid_follows_x690_iff 2 47 [300] (.inr rfl)

theorem long_first_subIdentifier : LegalTop 2 999 ∧ X690Encoding 2 999 [3] [0x88, 0x37, 0x03] ∧
    encodeOid (oidOf 2 999 [3]) ≠ .ok [0x88, 0x37, 0x03] ∧ decodeOid [0x88, 0x37, 0x03] ≠ .ok (oidOf 2 999 [3]) := by
  refine ⟨.inr rfl, ?_, by decide, by decide⟩
  have h1 : Base128.SubIdentifier (40 * 2 + 999) [0x88, 0x37] :=
    ⟨⟨[0x88], 0x37, rfl, by simp, by decide, by decide⟩, by decide⟩
  have h2 : Base128.SubIdentifier 3 [0x03] := ⟨⟨[], 0x03, rfl, by simp, by decide, by decide⟩, by decide⟩
  exact .cons h1 (.cons h2 .nil)

end TrishulSnmp.Asn1
