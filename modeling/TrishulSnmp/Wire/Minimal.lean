import TrishulSnmp.Wire.OidEncoding

namespace TrishulSnmp.Asn1

open BigEndian OffsetReader Outcome Ber

structure Shortest (Encodes : Bytes → Prop) (enc : Bytes) : Prop where
  encodes : Encodes enc
  length_le : ∀ other, Encodes other → enc.length ≤ other.length
  unique : ∀ other, Encodes other → other.length = enc.length → other = enc

section Integers

theorem decodeSignedInteger_encode (v : ℤ) : decodeSignedInteger (encodeSignedInteger v) = .ok v :=
  decodeSignedInteger_ok_iff.mpr ⟨encodeSignedInteger_ne_nil v, (toInt_encodeSignedInteger v).symm⟩

theorem length_encodeSignedInteger_le_iff {v : ℤ} {k : ℕ} (hk : 0 < k) :
    (encodeSignedInteger v).length ≤ k ↔ -256 ^ k ≤ 2 * v ∧ 2 * v < 256 ^ k := by
  by_cases hv : v = 0
  · subst hv
    have hpos : (0 : ℤ) < 256 ^ k := by positivity
    simp [encodeSignedInteger]
    omega
  · have hne : ofInt (max 1 ((bitLength v.natAbs + 8) / 8)) v ≠ [] := by
      intro hnil
      have := congrArg List.length hnil
      rw [length_ofInt, List.length_nil] at this
      omega
    have hvalue := toInt_encodeSignedInteger v
    rw [encodeSignedInteger, if_neg hv, toInt_trimSign] at hvalue
    rw [encodeSignedInteger, if_neg hv, length_trimSign_le_iff hne hk, hvalue]

theorem signed_length_le {v : ℤ} {content : Bytes} (h : decodeSignedInteger content = .ok v) :
    (encodeSignedInteger v).length ≤ content.length := by
  obtain ⟨hne, rfl⟩ := decodeSignedInteger_ok_iff.mp h
  exact (length_encodeSignedInteger_le_iff (List.length_pos_iff.mpr hne)).mpr (toInt_range hne)

theorem signed_unique {v : ℤ} {as bs : Bytes} (ha : decodeSignedInteger as = .ok v)
    (hb : decodeSignedInteger bs = .ok v) (hlen : as.length = bs.length) : as = bs := by
  obtain ⟨hne, hvalue⟩ := decodeSignedInteger_ok_iff.mp ha
  obtain ⟨-, hvalue'⟩ := decodeSignedInteger_ok_iff.mp hb
  exact eq_of_toInt hne hlen (hvalue.symm.trans hvalue')

theorem encodeSignedInteger_shortest (v : ℤ) :
    Shortest (fun content => decodeSignedInteger content = .ok v) (encodeSignedInteger v) where
  encodes := decodeSignedInteger_encode v
  length_le := fun _ h => signed_length_le h
  unique := fun _ h => signed_unique h (decodeSignedInteger_encode v)

theorem encodeUnsignedInteger_of_pos {n : ℕ} (hn : n ≠ 0) : ∃ first rest, n = BigEndian.toNat (first :: rest) ∧
    (first :: rest).length = (bitLength n + 7) / 8 ∧
    encodeUnsignedInteger n = .ok (if first.toNat < 128 then first :: rest else 0 :: first :: rest) := by
  have hvalue := BigEndian.toNat_ofNat _ n (lt_pow_octets n)
  have hlen := BigEndian.length_ofNat ((bitLength n + 7) / 8) n
  cases hoctets : BigEndian.ofNat ((bitLength n + 7) / 8) n with
  | nil =>
    rw [hoctets, BigEndian.toNat_nil] at hvalue
    exact absurd hvalue.symm hn
  | cons first rest =>
    rw [hoctets] at hvalue hlen
    refine ⟨first, rest, hvalue.symm, hlen, ?_⟩
    have hfirst : octetAt (first :: rest) 0 = .ok first := rfl
    rw [encodeUnsignedInteger, if_neg (by omega), if_neg (by omega), Int.toNat_natCast]
    simp only [hoctets, hfirst, ok_bind, ne_eq, high_bit_iff]
    split_ifs <;> rfl

theorem encodeUnsignedInteger_shortest (n : ℕ) : ∃ content, encodeUnsignedInteger n = .ok content ∧
    decodeSignedInteger content = .ok (n : ℤ) ∧ content.length ≤ (encodeSignedInteger n).length := by
  have hpos := List.length_pos_iff.mpr (encodeSignedInteger_ne_nil n)
  by_cases hn : n = 0
  · subst hn
    exact ⟨[0], rfl, rfl, hpos⟩
  · obtain ⟨first, rest, rfl, hlen, hencode⟩ := encodeUnsignedInteger_of_pos hn
    obtain ⟨-, hfits⟩ := (length_encodeSignedInteger_le_iff hpos).mp le_rfl
    have hbound : 2 * BigEndian.toNat (first :: rest) <
        256 ^ (encodeSignedInteger (BigEndian.toNat (first :: rest))).length := by exact_mod_cast hfits
    refine ⟨_, hencode, ?_⟩
    generalize (encodeSignedInteger (BigEndian.toNat (first :: rest))).length = k at hbound ⊢
    rw [decodeSignedInteger_ok_iff]
    split_ifs with hfirst
    · refine ⟨⟨by simp, ?_⟩, ?_⟩
      · rw [toInt, if_pos hfirst]
      · rw [hlen, octets_le_iff]
        omega
    · refine ⟨⟨by simp, ?_⟩, ?_⟩
      · simp [toInt, BigEndian.toNat_cons 0]
      · have hset := mt (head_lt_iff first rest).mpr hfirst
        have hpow : 256 ^ (rest.length + 1) < 256 ^ k := by omega
        have := (Nat.pow_lt_pow_iff_right (by norm_num)).mp hpow
        simp only [List.length_cons]
        omega

theorem encodeUnsignedInteger_eq (n : ℕ) : encodeUnsignedInteger n = .ok (encodeSignedInteger n) := by
  obtain ⟨content, hencode, hdecode, hle⟩ := encodeUnsignedInteger_shortest n
  have hlen := le_antisymm hle (signed_length_le hdecode)
  rw [hencode, signed_unique hdecode (decodeSignedInteger_encode n) hlen]

end Integers

section Lengths

theorem decodeLength_whole_iff {length : ℕ} {enc : Bytes} :
    decodeLength enc 0 = .ok (length, enc.length) ↔ LengthForm length enc := by
  rw [decodeLength_reads.whole_iff]

theorem encodeLength_long {length : ℕ} (hlong : ¬ length < 0x80) :
    (encodeLength length).length = (bitLength length + 7) / 8 + 1 := by
  rw [encodeLength, if_neg hlong, List.length_cons, BigEndian.length_ofNat]

theorem lengthForm_length_le {length : ℕ} {enc : Bytes} (h : LengthForm length enc) :
    (encodeLength length).length ≤ enc.length := by
  by_cases hshort : length < 0x80
  · rw [encodeLength, if_pos hshort]
    exact List.length_pos_iff.mpr h.ne_nil
  · rw [encodeLength_long hshort]
    cases h with
    | short first hlt => exact absurd hlt hshort
    | long first content hcount hne =>
      rw [List.length_cons, Nat.add_le_add_iff_right, octets_le_iff]
      exact BigEndian.toNat_lt content

theorem lengthForm_iff {length : ℕ} {enc : Bytes} : LengthForm length enc ↔
    (∃ first : UInt8, enc = [first] ∧ first.toNat < 0x80 ∧ length = first.toNat) ∨
      ∃ (first : UInt8) (content : Bytes), enc = first :: content ∧ first.toNat = 0x80 + content.length ∧ content ≠ [] ∧
        length = BigEndian.toNat content := by
  constructor
  · intro h
    cases h with
    | short first hlt => exact .inl ⟨first, rfl, hlt, rfl⟩
    | long first content hcount hne => exact .inr ⟨first, content, rfl, hcount, hne, rfl⟩
  · rintro (⟨first, rfl, hlt, rfl⟩ | ⟨first, content, rfl, hcount, hne, rfl⟩)
    · exact .short first hlt
    · exact .long first content hcount hne

theorem lengthForm_unique {length : ℕ} {as bs : Bytes} (ha : LengthForm length as) (hb : LengthForm length bs)
    (hlen : as.length = bs.length) : as = bs := by
  obtain ⟨first, rfl, -, hvalue⟩ | ⟨first, content, rfl, hcount, hne, hvalue⟩ := lengthForm_iff.mp ha
  · obtain ⟨first', rfl, -, hvalue'⟩ | ⟨first', content', rfl, -, hne', -⟩ := lengthForm_iff.mp hb
    · rw [UInt8.toNat_inj.mp (hvalue.symm.trans hvalue')]
    · have hpos := List.length_pos_iff.mpr hne'
      simp only [List.length_cons, List.length_nil] at hlen
      omega
  · obtain ⟨first', rfl, -, -⟩ | ⟨first', content', rfl, hcount', -, hvalue'⟩ := lengthForm_iff.mp hb
    · have hpos := List.length_pos_iff.mpr hne
      simp only [List.length_cons, List.length_nil] at hlen
      omega
    · rw [List.length_cons, List.length_cons, Nat.add_right_cancel_iff] at hlen
      rw [eq_of_toNat hlen (hvalue.symm.trans hvalue'), UInt8.toNat_inj.mp (show first.toNat = first'.toNat by omega)]

theorem encodeLength_shortest {length : ℕ} (h : length < 256 ^ 127) :
    Shortest (fun enc => decodeLength enc 0 = .ok (length, enc.length)) (encodeLength length) where
  encodes := decodeLength_whole_iff.mpr (encodeLength_form h)
  length_le := fun _ hother => lengthForm_length_le (decodeLength_whole_iff.mp hother)
  unique := fun _ hother => lengthForm_unique (decodeLength_whole_iff.mp hother) (encodeLength_form h)

end Lengths

theorem primitives_minimal (v : ℤ) (n : ℕ) {length : ℕ} (hlength : length < 256 ^ 126) (pre rest : Bytes) :
    Shortest (fun content => decodeSignedInteger content = .ok v) (encodeSignedInteger v) ∧
      encodeUnsignedInteger n = .ok (encodeSignedInteger n) ∧
      (encodeBase128 n).head? ≠ some 0x80 ∧
      decodeBase128 (pre ++ encodeBase128 n ++ rest) pre.length = .ok (n, pre.length + (encodeBase128 n).length) ∧
      Shortest (fun enc => decodeLength enc 0 = .ok (length, enc.length)) (encodeLength length) ∧
      decodeLength (pre ++ encodeLength length ++ rest) pre.length =
        .ok (length, pre.length + (encodeLength length).length) := by
  have hcountable : length < 256 ^ 127 := hlength.trans (by norm_num)
  refine ⟨encodeSignedInteger_shortest v, encodeUnsignedInteger_eq n, (encodeBase128_subIdentifier n).2, ?_,
    encodeLength_shortest hcountable, ?_⟩
  · exact decodeBase128_reads.complete pre rest (encodeBase128_group n)
  · exact decodeLength_reads.complete pre rest (encodeLength_form hcountable)

theorem primitives_minimal_sample : encodeUnsignedInteger 128 = .ok (encodeSignedInteger 128) ∧
    decodeBase128 ([0xFF] ++ encodeBase128 128 ++ [0x07]) 1 = .ok (128, 3) ∧
    decodeLength ([0xFF] ++ encodeLength 128 ++ [0x07]) 1 = .ok (128, 3) := by
  obtain ⟨-, hunsigned, -, hbase128, -, hlength⟩ :=
    primitives_minimal 128 128 (show 128 < 256 ^ 126 by norm_num) [0xFF] [0x07]
  have hdigits : encodeBase128 128 = [0x81, 0x00] := by simp [encodeBase128, Base128.ofChunks]
  rw [hdigits] at hbase128 ⊢
  exact ⟨hunsigned, hbase128, hlength⟩

end TrishulSnmp.Asn1
