import Mathlib.Data.Nat.Digits.Lemmas
import TrishulSnmp.Wire.ValueGrammar

namespace TrishulSnmp.Asn1

open BigEndian OffsetReader Outcome Ber

theorem trimSign_ne_nil {encoded : Bytes} (h : encoded ≠ []) : trimSign encoded ≠ [] := by
  fun_induction trimSign encoded with
  | case1 a b rest hdrop ih => exact ih (by simp)
  | case2 a b rest hkeep => simp
  | case3 encoded hshort => exact h

theorem toInt_trimSign (encoded : Bytes) : toInt (trimSign encoded) = toInt encoded := by
  fun_induction trimSign encoded with
  | case1 a b rest hdrop ih =>
    rw [ih]
    obtain ⟨rfl, hb⟩ | ⟨rfl, hb⟩ := hdrop
    · exact (toInt_zero_cons b rest ((high_bit_iff b).mp hb)).symm
    · exact (toInt_ff_cons b rest ((high_bit_set_iff b).mp hb)).symm
  | case2 => rfl
  | case3 => rfl

theorem trimSign_kept {encoded rest : Bytes} {a b : UInt8} (h : trimSign encoded = a :: b :: rest) :
    ¬ RepeatsSign a b := by
  fun_induction trimSign encoded with
  | case1 _ _ _ _ ih => exact ih h
  | case2 a b rest hkeep =>
    cases h
    rwa [high_bit_iff, high_bit_set_iff] at hkeep
  | case3 encoded hshort => exact absurd h (hshort a b rest)

theorem length_trimSign_le_iff {encoded : Bytes} (hne : encoded ≠ []) {k : ℕ} (hk : 0 < k) :
    (trimSign encoded).length ≤ k ↔ -256 ^ k ≤ 2 * toInt encoded ∧ 2 * toInt encoded < 256 ^ k := by
  have htrimmed := trimSign_ne_nil hne
  rw [← toInt_trimSign encoded]
  constructor
  · intro hle
    have hrange := toInt_range htrimmed
    have hpow : (256 : ℤ) ^ (trimSign encoded).length ≤ 256 ^ k := pow_le_pow_right₀ (by norm_num) hle
    constructor <;> linarith
  · intro hrange
    by_contra hlong
    match hshape : trimSign encoded with
    | [] => exact htrimmed hshape
    | [_] =>
      rw [hshape, List.length_singleton] at hlong
      exact hlong hk
    | a :: b :: rest =>
      rw [hshape] at hrange hlong
      have hpow : (256 : ℤ) ^ k ≤ 256 ^ (rest.length + 1) := pow_le_pow_right₀ (by norm_num) (by
        simp only [List.length_cons] at hlong
        omega)
      apply toInt_outside rest (trimSign_kept hshape)
      constructor <;> linarith

theorem encodeSignedInteger_ne_nil (v : ℤ) : encodeSignedInteger v ≠ [] := by
  by_cases hv : v = 0
  · simp [encodeSignedInteger, hv]
  · rw [encodeSignedInteger, if_neg hv]
    apply trimSign_ne_nil
    intro hnil
    have := congrArg List.length hnil
    rw [length_ofInt, List.length_nil] at this
    omega

theorem signed_length_bound (v : ℤ) :
    -256 ^ max 1 ((bitLength v.natAbs + 8) / 8) ≤ 2 * v ∧
      2 * v < 256 ^ max 1 ((bitLength v.natAbs + 8) / 8) := by
  set length := max 1 ((bitLength v.natAbs + 8) / 8)
  have hbits : bitLength v.natAbs + 1 ≤ 8 * length := by omega
  have hlt : 2 * v.natAbs < 256 ^ length := by
    calc 2 * v.natAbs < 2 * 2 ^ bitLength v.natAbs := by
          have := lt_pow_bitLength v.natAbs
          omega
      _ = 2 ^ (bitLength v.natAbs + 1) := by ring
      _ ≤ 2 ^ (8 * length) := Nat.pow_le_pow_right (by norm_num) hbits
      _ = 256 ^ length := by rw [pow_mul]; norm_num
  have hcast : 2 * (v.natAbs : ℤ) < 256 ^ length := by exact_mod_cast hlt
  generalize (256 : ℤ) ^ length = bound at hcast ⊢
  omega

theorem toInt_encodeSignedInteger (v : ℤ) : toInt (encodeSignedInteger v) = v := by
  by_cases hv : v = 0
  · subst hv
    rfl
  · rw [encodeSignedInteger, if_neg hv, toInt_trimSign]
    exact toInt_ofInt _ v (by omega) (signed_length_bound v).1 (signed_length_bound v).2

theorem length_trimSign_le (encoded : Bytes) : (trimSign encoded).length ≤ encoded.length := by
  fun_induction trimSign encoded with
  | case1 a b rest hdrop ih =>
    rw [List.length_cons]
    omega
  | case2 => exact le_rfl
  | case3 => exact le_rfl

theorem length_encodeSignedInteger_le (content : Bytes) :
    (encodeSignedInteger (toInt content)).length ≤ content.length + 1 := by
  by_cases hv : toInt content = 0
  · simp [encodeSignedInteger, hv]
  · have hbits : bitLength (toInt content).natAbs ≤ 8 * content.length := by
      rw [bitLength_le_iff, pow_mul]
      exact natAbs_toInt_lt content
    have hle := length_trimSign_le
      (ofInt (max 1 ((bitLength (toInt content).natAbs + 8) / 8)) (toInt content))
    rw [length_ofInt] at hle
    rw [encodeSignedInteger, if_neg hv]
    omega

theorem encodeUnsignedInteger_ok {v : ℤ} {content : Bytes} (h : encodeUnsignedInteger v = .ok content) :
    content ≠ [] ∧ v = BigEndian.toNat content := by
  rw [encodeUnsignedInteger, ite_ok_iff] at h
  obtain ⟨hneg, h⟩ := h
  obtain ⟨hzero, h⟩ | ⟨hzero, h⟩ := ite_cases h
  · cases h
    exact ⟨by simp, hzero⟩
  · obtain ⟨first, hfirst, h⟩ := bind_ok_iff.mp h
    have hdrop := drop_of_octetAt hfirst
    have hval := BigEndian.toNat_ofNat _ v.toNat (lt_pow_octets v.toNat)
    rw [List.drop_zero] at hdrop
    obtain ⟨-, h⟩ | ⟨-, h⟩ := ite_cases h
    · obtain rfl := pure_ok_iff.mp h
      refine ⟨by simp, ?_⟩
      rw [BigEndian.toNat_cons, hval]
      simp
      omega
    · obtain rfl := pure_ok_iff.mp h
      refine ⟨?_, by rw [hval]; omega⟩
      rw [hdrop]
      simp

theorem encodeUnsignedInteger_toNat (content : Bytes) :
    ∃ encoded, encodeUnsignedInteger (BigEndian.toNat content) = .ok encoded ∧
      encoded.length ≤ content.length + 1 := by
  set n := BigEndian.toNat content with hn
  by_cases hzero : n = 0
  · exact ⟨[0], by simp [encodeUnsignedInteger, hzero], by simp⟩
  · have hpos : 0 < (bitLength n + 7) / 8 := by
      by_contra hle
      have := (octets_le_iff n 0).mp (by omega)
      omega
    have hlen := BigEndian.length_ofNat ((bitLength n + 7) / 8) n
    have hle : (bitLength n + 7) / 8 ≤ content.length := (octets_le_iff n _).mpr (BigEndian.toNat_lt content)
    have hget : octetAt (BigEndian.ofNat ((bitLength n + 7) / 8) n) 0 = .ok _ :=
      octetAt_ok_iff.mpr (List.getElem?_eq_getElem (by omega))
    rw [encodeUnsignedInteger, if_neg (by omega), if_neg (by omega), Int.toNat_natCast]
    simp only [hget, ok_bind]
    split_ifs
    · refine ⟨_, rfl, ?_⟩
      rw [List.length_cons]
      omega
    · exact ⟨_, rfl, by omega⟩

theorem encodeBase128_group (n : ℕ) : Base128.Group n (encodeBase128 n) := by
  by_cases hn : n = 0
  · subst hn
    exact Base128.group_singleton 0 (by decide)
  · rw [encodeBase128, if_neg hn]
    have h := @Base128.ofChunks_group (Nat.digits 128 n).reverse (by simpa [Nat.digits_eq_nil_iff_eq_zero] using hn) (by
      intro c hc
      exact Nat.digits_lt_base (by norm_num) (List.mem_reverse.mp hc))
    rwa [List.reverse_reverse, Nat.ofDigits_digits] at h

theorem length_encodeBase128_le {n : ℕ} {enc : Bytes} (h : Base128.Group n enc) :
    (encodeBase128 n).length ≤ enc.length := by
  have hpos := List.length_pos_iff.mpr h.ne_nil
  by_cases hn : n = 0
  · rw [encodeBase128, if_pos hn]
    exact hpos
  · rw [encodeBase128, if_neg hn, Base128.length_ofChunks, List.length_reverse]
    exact (Nat.digits_length_le_iff (by norm_num) n).mpr h.lt

theorem encodeArcs_ok {arcs : List ℤ} {content : Bytes} (h : encodeArcs arcs = .ok content) :
    ∃ ns : List ℕ, arcs = ns.map (fun n : ℕ => (n : ℤ)) ∧ Sequence Base128.Group ns content := by
  induction arcs generalizing content with
  | nil =>
    cases h
    exact ⟨[], rfl, .nil⟩
  | cons arc arcs ih =>
    rw [encodeArcs, ite_ok_iff, bind_ok_iff] at h
    obtain ⟨hneg, rest, hrest, h⟩ := h
    obtain rfl := pure_ok_iff.mp h
    obtain ⟨ns, rfl, hseq⟩ := ih hrest
    refine ⟨arc.toNat :: ns, ?_, .cons (encodeBase128_group _) hseq⟩
    rw [List.map_cons, Int.toNat_of_nonneg (by omega)]

theorem encodeArcs_of_nat (ns : List ℕ) :
    ∃ content, encodeArcs (ns.map fun n : ℕ => (n : ℤ)) = .ok content := by
  induction ns with
  | nil => exact ⟨[], rfl⟩
  | cons n ns ih =>
    obtain ⟨content, h⟩ := ih
    rw [List.map_cons, encodeArcs, if_neg (by omega), h]
    exact ⟨_, rfl⟩

theorem length_encodeArcs_le {ns : List ℕ} {enc content : Bytes} (h : Sequence Base128.Group ns enc)
    (hc : encodeArcs (ns.map fun n : ℕ => (n : ℤ)) = .ok content) : content.length ≤ enc.length := by
  induction h generalizing content with
  | nil =>
    cases hc
    exact le_rfl
  | cons hg _ ih =>
    rw [List.map_cons, encodeArcs, ite_ok_iff, bind_ok_iff] at hc
    obtain ⟨-, rest, hrest, hc⟩ := hc
    obtain rfl := pure_ok_iff.mp hc
    have hhead := length_encodeBase128_le hg
    have htail := ih hrest
    rw [Int.toNat_natCast, List.length_append, List.length_append]
    omega

theorem byteOf_ok_iff {n : ℤ} {b : UInt8} : byteOf n = .ok b ↔ n = b.toNat := by
  have hb : b.toNat < 256 := b.toNat_lt
  constructor
  · intro h
    obtain ⟨hn, h⟩ | ⟨-, h⟩ := ite_cases h
    · cases h
      rw [UInt8.toNat_ofNat']
      omega
    · cases h
  · rintro rfl
    rw [byteOf, if_pos (by omega), Int.toNat_natCast, UInt8.ofNat_toNat]

theorem encodeOid_ok_iff {first second : ℤ} {arcs : List ℤ} {content : Bytes} :
    encodeOid (first :: second :: arcs) = .ok content ↔ first ≤ 2 ∧ (first < 2 → second < 40) ∧
      ∃ (head : UInt8) (rest : Bytes), first * 40 + second = head.toNat ∧ encodeArcs arcs = .ok rest ∧
        content = head :: rest := by
  rw [encodeOid, ite_ok_iff, ite_ok_iff]
  simp only [bind_ok_iff, byteOf_ok_iff, pure_ok_iff, not_lt, not_and, not_le, eq_comm (a := content), ge_iff_le]
  aesop

theorem firstArcs_of_arcs {first second : ℤ} {head : UInt8} (h0 : 0 ≤ first) (h0' : 0 ≤ second)
    (hle : first ≤ 2) (hlt : first < 2 → second < 40) (h : first * 40 + second = head.toNat) :
    firstArcs head = (first, second) := by
  unfold firstArcs
  split_ifs <;> simp only [Prod.mk.injEq] <;> omega

theorem encodeOid_content {oid : OID} {content : Bytes} (hn : ∀ arc ∈ oid, 0 ≤ arc)
    (h : encodeOid oid = .ok content) : OidContent oid content := by
  match oid, hn, h with
  | first :: second :: arcs, hn, h =>
    obtain ⟨hle, hlt, head, rest, hhead, hrest, rfl⟩ := encodeOid_ok_iff.mp h
    obtain ⟨ns, rfl, hseq⟩ := encodeArcs_ok hrest
    have := OidContent.mk head hseq
    rwa [firstArcs_of_arcs (hn _ (by simp)) (hn _ (by simp)) hle hlt hhead] at this

theorem OidContent.nonneg {oid : OID} {content : Bytes} (h : OidContent oid content) :
    ∀ arc ∈ oid, 0 ≤ arc := by
  obtain ⟨first, hseq⟩ := h
  intro arc harc
  simp only [firstArcs, List.mem_cons, List.mem_map] at harc
  split_ifs at harc <;> grind

theorem OidContent.encodable {oid : OID} {content : Bytes} (h : OidContent oid content) :
    ∃ encoded, encodeOid oid = .ok encoded ∧ encoded.length ≤ content.length := by
  cases h with
  | @mk first arcs rest hseq =>
    have hb : first.toNat < 256 := first.toNat_lt
    obtain ⟨encoded, harcs⟩ := encodeArcs_of_nat arcs
    have hle := length_encodeArcs_le hseq harcs
    refine ⟨first :: encoded, encodeOid_ok_iff.mpr ⟨?_, ?_, first, encoded, ?_, harcs, rfl⟩, by simpa⟩ <;>
      simp only [firstArcs] <;> split_ifs <;> simp only <;> omega

def LegalArcs (oid : OID) : Prop :=
  ∃ first second arcs, oid = first :: second :: arcs ∧ ((first < 2 ∧ second < 40) ∨ (first = 2 ∧ second < 176))

theorem encodeOid_isOk_iff {oid : OID} (hn : ∀ arc ∈ oid, 0 ≤ arc) :
    (∃ content, encodeOid oid = .ok content) ↔ LegalArcs oid := by
  constructor
  · rintro ⟨content, h⟩
    match oid, hn, h with
    | first :: second :: arcs, hn, h =>
      obtain ⟨hle, hlt, head, rest, hhead, -⟩ := encodeOid_ok_iff.mp h
      have hb : head.toNat < 256 := head.toNat_lt
      exact ⟨first, second, arcs, rfl, by omega⟩
  · rintro ⟨first, second, arcs, rfl, hrange⟩
    have h0 : 0 ≤ first := hn _ (by simp)
    have h1 : 0 ≤ second := hn _ (by simp)
    obtain ⟨ns, rfl⟩ : ∃ ns : List ℕ, arcs = ns.map (fun n : ℕ => (n : ℤ)) := by
      refine ⟨arcs.map Int.toNat, ?_⟩
      rw [List.map_map]
      exact (List.map_id arcs).symm.trans (List.map_congr_left fun arc harc =>
        (Int.toNat_of_nonneg (hn arc (by simp [harc]))).symm)
    obtain ⟨encoded, harcs⟩ := encodeArcs_of_nat ns
    refine ⟨UInt8.ofNat (first * 40 + second).toNat :: encoded, encodeOid_ok_iff.mpr
      ⟨by omega, by omega, _, encoded, ?_, harcs, rfl⟩⟩
    rw [UInt8.toNat_ofNat']
    omega

theorem natText_octet (octet : UInt8) :
    PyText.parseInt (PyText.natText octet.toNat) = some (octet.toNat : ℤ) ∧
      '.' ∉ PyText.natText octet.toNat :=
  PyText.octet_text ⟨octet.toNat, octet.toNat_lt⟩

theorem encodeIpAddress_dotted {content : Bytes} (hlen : content.length = 4) :
    encodeIpAddress (dotted content) = .ok content := by
  have hsplit : PyText.splitDot (dotted content).toList =
      content.map fun octet => PyText.natText octet.toNat := by
    rw [dotted, String.toList_ofList]
    apply PyText.splitDot_joinDot
    · intro hnil
      rw [List.map_eq_nil_iff] at hnil
      simp [hnil] at hlen
    · simpa only [List.forall_mem_map] using fun octet _ => (natText_octet octet).2
  have hparse : (content.map fun octet => PyText.natText octet.toNat).mapM PyText.parseInt =
      some (content.map fun octet => (octet.toNat : ℤ)) := by
    clear hsplit hlen
    induction content with
    | nil => rfl
    | cons b content ih =>
      rw [List.map_cons, List.mapM_cons, ih, (natText_octet b).1]
      rfl
  have hrange : (content.map fun octet => (octet.toNat : ℤ)).any (fun octet => octet < 0 || octet > 255) = false := by
    rw [List.any_eq_false]
    simp only [List.mem_map, Bool.or_eq_true, decide_eq_true_eq]
    rintro x ⟨octet, -, rfl⟩
    have : octet.toNat < 256 := octet.toNat_lt
    omega
  rw [encodeIpAddress]
  simp only [hsplit, List.length_map, hlen, hparse, hrange, ne_eq, not_true_eq_false, if_false,
    Bool.false_eq_true]
  rw [List.map_map]
  congr 1
  exact (List.map_congr_left fun octet _ => by simp).trans (List.map_id content)

theorem encodeIpAddress_length {text : String} {content : Bytes} (h : encodeIpAddress text = .ok content) :
    content.length = 4 := by
  rw [encodeIpAddress, ite_ok_iff] at h
  obtain ⟨hparts, h⟩ := h
  split at h
  · cases h
  · rename_i octets hoctets
    have hlen : octets.length = 4 := by
      rw [not_not] at hparts
      rw [← hparts]
      exact length_of_mapM hoctets
    obtain ⟨-, h⟩ | ⟨-, h⟩ := ite_cases h
    · cases h
    · cases h
      simpa using hlen

def DottedQuad (text : String) : Prop :=
  ∃ a b c d : ℕ, a ≤ 255 ∧ b ≤ 255 ∧ c ≤ 255 ∧ d ≤ 255 ∧ text = s!"{a}.{b}.{c}.{d}"

theorem quad_text (a b c d : ℕ) : s!"{a}.{b}.{c}.{d}" =
    String.ofList (PyText.joinDot [PyText.natText a, PyText.natText b, PyText.natText c, PyText.natText d]) := by
  apply String.toList_inj.mp
  have hdot : (toString ".").toList = ['.'] := rfl
  simp [PyText.joinDot, PyText.natText, List.intercalate, hdot]

theorem dottedQuad_iff (text : String) :
    DottedQuad text ↔ ∃ content : Bytes, content.length = 4 ∧ text = dotted content := by
  constructor
  · rintro ⟨a, b, c, d, ha, hb, hc, hd, rfl⟩
    refine ⟨[UInt8.ofNat a, UInt8.ofNat b, UInt8.ofNat c, UInt8.ofNat d], rfl, ?_⟩
    rw [quad_text, dotted]
    simp only [List.map_cons, List.map_nil, UInt8.toNat_ofNat']
    rw [Nat.mod_eq_of_lt (by omega), Nat.mod_eq_of_lt (by omega), Nat.mod_eq_of_lt (by omega),
      Nat.mod_eq_of_lt (by omega)]
  · rintro ⟨content, hlen, rfl⟩
    match content, hlen with
    | [a, b, c, d], _ =>
      have octet_le (x : UInt8) : x.toNat ≤ 255 := Nat.le_of_lt_succ x.toNat_lt
      exact ⟨a.toNat, b.toNat, c.toNat, d.toNat, octet_le a, octet_le b, octet_le c, octet_le d,
        (quad_text _ _ _ _).symm⟩

def Preserved : SnmpValue → Prop
  | .objectIdentifierValue oid => ∀ arc ∈ oid, 0 ≤ arc
  | .ipAddressValue text => DottedQuad text
  | _ => True

/-- The value on the wire: an address is in canonical form there. -/
def onWire : SnmpValue → SnmpValue
  | .ipAddressValue text =>
    match encodeIpAddress text with
    | .ok content => .ipAddressValue (dotted content)
    | .error _ => .ipAddressValue text
  | value => value

def NonnegArcs : SnmpValue → Prop
  | .objectIdentifierValue oid => ∀ arc ∈ oid, 0 ≤ arc
  | _ => True

theorem Preserved.nonnegArcs {v : SnmpValue} (h : Preserved v) : NonnegArcs v := by
  cases v <;> trivial

theorem onWire_of_preserved {v : SnmpValue} (h : Preserved v) : onWire v = v := by
  cases v with
  | ipAddressValue text =>
    obtain ⟨content, hlen, rfl⟩ := (dottedQuad_iff text).mp h
    simp only [onWire, encodeIpAddress_dotted hlen]
  | _ => rfl

theorem encodeUnsigned_content {v : ℤ} {tag : UInt8} {enc : Bytes}
    (h : (encodeUnsignedInteger v >>= fun content => pure (encodeTlv tag content)) = .ok enc) :
    ∃ content, enc = encodeTlv tag content ∧ content ≠ [] ∧ v = BigEndian.toNat content := by
  obtain ⟨content, hcontent, h⟩ := bind_ok_iff.mp h
  cases h
  exact ⟨content, rfl, encodeUnsignedInteger_ok hcontent⟩

theorem encodeValue_content {v : SnmpValue} {enc : Bytes} (hn : NonnegArcs v)
    (h : encodeValue v = .ok enc) :
    ∃ tag content, enc = encodeTlv tag content ∧ ValueContent OidContent (onWire v) tag content := by
  cases v with
  | integerValue n =>
    cases h
    refine ⟨_, _, rfl, ?_⟩
    have := @ValueContent.integer OidContent _ (encodeSignedInteger_ne_nil n)
    rwa [toInt_encodeSignedInteger] at this
  | octetStringValue octets =>
    cases h
    exact ⟨_, _, rfl, .octetString octets⟩
  | nullValue =>
    cases h
    exact ⟨_, _, rfl, .null⟩
  | objectIdentifierValue oid =>
    obtain ⟨content, hoid, h⟩ := bind_ok_iff.mp h
    cases h
    exact ⟨_, _, rfl, .objectIdentifier oid content (encodeOid_content hn hoid)⟩
  | ipAddressValue text =>
    obtain ⟨content, hip, h⟩ := bind_ok_iff.mp h
    cases h
    refine ⟨_, _, rfl, ?_⟩
    simp only [onWire, hip]
    exact .ipAddress content (encodeIpAddress_length hip)
  | counter32Value n =>
    obtain ⟨content, rfl, hne, rfl⟩ := encodeUnsigned_content h
    exact ⟨_, _, rfl, .counter32 content hne⟩
  | gauge32Value n =>
    obtain ⟨content, rfl, hne, rfl⟩ := encodeUnsigned_content h
    exact ⟨_, _, rfl, .gauge32 content hne⟩
  | timeTicksValue n =>
    obtain ⟨content, rfl, hne, rfl⟩ := encodeUnsigned_content h
    exact ⟨_, _, rfl, .timeTicks content hne⟩
  | opaqueValue octets =>
    cases h
    exact ⟨_, _, rfl, .opaqueOctets octets⟩
  | counter64Value n =>
    obtain ⟨content, rfl, hne, rfl⟩ := encodeUnsigned_content h
    exact ⟨_, _, rfl, .counter64 content hne⟩
  | noSuchObjectValue =>
    cases h
    exact ⟨_, _, rfl, .noSuchObject⟩
  | noSuchInstanceValue =>
    cases h
    exact ⟨_, _, rfl, .noSuchInstance⟩
  | endOfMibViewValue =>
    cases h
    exact ⟨_, _, rfl, .endOfMibView⟩

theorem ValueContent.encodable {v : SnmpValue} {tag : UInt8} {content : Bytes}
    (h : ValueContent OidContent v tag content) :
    (∃ tag' content', encodeValue v = .ok (encodeTlv tag' content') ∧ content'.length ≤ content.length + 1) ∧
      Preserved v := by
  have unsigned (n : ℕ) (hn : n = BigEndian.toNat content) (tag : UInt8) :
      ∃ tag' content', (encodeUnsignedInteger (n : ℤ) >>= fun content => pure (encodeTlv tag content)) =
        .ok (encodeTlv tag' content') ∧ content'.length ≤ content.length + 1 := by
    subst hn
    obtain ⟨content', hc, hle⟩ := encodeUnsignedInteger_toNat content
    exact ⟨tag, content', by rw [hc]; rfl, hle⟩
  cases h with
  | integer _ _ => exact ⟨⟨_, _, rfl, length_encodeSignedInteger_le content⟩, trivial⟩
  | objectIdentifier oid content ho =>
    obtain ⟨encoded, henc, hle⟩ := ho.encodable
    refine ⟨⟨objectIdentifierTag, encoded, ?_, by omega⟩, ho.nonneg⟩
    simp only [encodeValue, henc, ok_bind]
    rfl
  | ipAddress _ hlen =>
    refine ⟨⟨ipAddressTag, content, ?_, by omega⟩, (dottedQuad_iff _).mpr ⟨content, hlen, rfl⟩⟩
    simp only [encodeValue, encodeIpAddress_dotted hlen, ok_bind]
    rfl
  | counter32 => exact ⟨unsigned _ rfl _, trivial⟩
  | gauge32 => exact ⟨unsigned _ rfl _, trivial⟩
  | timeTicks => exact ⟨unsigned _ rfl _, trivial⟩
  | counter64 => exact ⟨unsigned _ rfl _, trivial⟩
  | _ => exact ⟨⟨_, _, rfl, by simp⟩, trivial⟩

end TrishulSnmp.Asn1
