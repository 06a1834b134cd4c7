import Mathlib.Data.Nat.Digits.Defs
import Mathlib.Data.Fintype.Basic
import Mathlib.Tactic.Ring

namespace Base128

def value (enc : List UInt8) : ℕ := enc.foldl (fun value b => value * 128 + b.toNat % 128) 0

def Group (n : ℕ) (enc : List UInt8) : Prop :=
  ∃ init last, enc = init ++ [last] ∧ (∀ b ∈ init, 128 ≤ b.toNat) ∧ last.toNat < 128 ∧ n = value enc

theorem foldl_eq (enc : List UInt8) (n : ℕ) :
    enc.foldl (fun value b => value * 128 + b.toNat % 128) n = n * 128 ^ enc.length + value enc := by
  induction enc generalizing n with
  | nil => simp [value]
  | cons b enc ih =>
    have hb : value (b :: enc) = b.toNat % 128 * 128 ^ enc.length + value enc := by
      rw [value, List.foldl_cons, ih]
      ring
    rw [List.foldl_cons, ih, hb, List.length_cons, pow_succ]
    ring

theorem value_append (as bs : List UInt8) : value (as ++ bs) = value as * 128 ^ bs.length + value bs := by
  rw [value, List.foldl_append, foldl_eq bs]
  rfl

theorem value_lt (enc : List UInt8) : value enc < 128 ^ enc.length := by
  induction enc using List.reverseRecOn with
  | nil => simp [value]
  | append_singleton enc b ih =>
    have hb : value [b] < 128 := by
      simp only [value, List.foldl_cons, List.foldl_nil]
      omega
    rw [value_append, List.length_append, List.length_singleton, pow_add, pow_one]
    omega

theorem Group.lt {n : ℕ} {enc : List UInt8} (h : Group n enc) : n < 128 ^ enc.length := by
  obtain ⟨_, _, -, -, -, rfl⟩ := h
  exact value_lt enc

theorem Group.ne_nil {n : ℕ} {enc : List UInt8} (h : Group n enc) : enc ≠ [] := by
  obtain ⟨init, last, rfl, -⟩ := h
  simp

theorem group_singleton (b : UInt8) (hb : b.toNat < 128) : Group b.toNat [b] := by
  refine ⟨[], b, rfl, by simp, hb, ?_⟩
  simp only [value, List.foldl_cons, List.foldl_nil]
  omega

theorem Group.cons {n : ℕ} {enc : List UInt8} (h : Group n enc) (b : UInt8) (hb : 128 ≤ b.toNat) :
    Group (b.toNat % 128 * 128 ^ enc.length + n) (b :: enc) := by
  obtain ⟨init, last, rfl, hinit, hlast, rfl⟩ := h
  refine ⟨b :: init, last, rfl, ?_, hlast, ?_⟩
  · simpa using ⟨hb, hinit⟩
  · have hv := value_append [b] (init ++ [last])
    simpa [value] using hv.symm

theorem Group.cons_iff {n : ℕ} {b : UInt8} {enc : List UInt8} :
    Group n (b :: enc) ↔ (b.toNat < 128 ∧ enc = [] ∧ n = b.toNat) ∨
      (128 ≤ b.toNat ∧ ∃ m, Group m enc ∧ n = b.toNat % 128 * 128 ^ enc.length + m) := by
  constructor
  · rintro ⟨init, last, he, hinit, hlast, hn⟩
    cases init with
    | nil =>
      obtain ⟨rfl, rfl⟩ : b = last ∧ enc = [] := by simpa using he
      refine .inl ⟨hlast, rfl, ?_⟩
      simp only [value, List.foldl_cons, List.foldl_nil] at hn
      omega
    | cons c init =>
      obtain ⟨rfl, rfl⟩ : b = c ∧ enc = init ++ [last] := by simpa using he
      refine .inr ⟨hinit b (by simp), value (init ++ [last]), ⟨init, last, rfl, ?_, hlast, rfl⟩, ?_⟩
      · intro x hx
        exact hinit x (by simp [hx])
      · have hv := value_append [b] (init ++ [last])
        rw [hn]
        simpa [value] using hv
  · rintro (⟨hb, rfl, rfl⟩ | ⟨hb, m, hm, rfl⟩)
    · exact group_singleton b hb
    · exact hm.cons b hb

def ofChunks : List ℕ → List UInt8
  | [] => []
  | [chunk] => [UInt8.ofNat chunk]
  | chunk :: rest => UInt8.ofNat (0x80 ||| chunk) :: ofChunks rest

theorem or_eq_add (n : ℕ) (h : n < 128) : 0x80 ||| n = 128 + n := by
  have := Nat.two_pow_add_eq_or_of_lt (i := 7) h 1
  simpa using this.symm

@[simp] theorem length_ofChunks (chunks : List ℕ) : (ofChunks chunks).length = chunks.length := by
  induction chunks with
  | nil => rfl
  | cons c rest ih =>
    cases rest with
    | nil => rfl
    | cons d rest => simpa [ofChunks] using ih

theorem ofChunks_group {chunks : List ℕ} (hne : chunks ≠ []) (hlt : ∀ c ∈ chunks, c < 128) :
    Group (Nat.ofDigits 128 chunks.reverse) (ofChunks chunks) := by
  induction chunks with
  | nil => exact absurd rfl hne
  | cons c rest ih =>
    have hc : c < 128 := hlt c (by simp)
    cases rest with
    | nil =>
      have hval : (UInt8.ofNat c).toNat = c := by
        rw [UInt8.toNat_ofNat']
        omega
      have hg := group_singleton (UInt8.ofNat c) (by omega)
      rw [hval] at hg
      simpa [ofChunks] using hg
    | cons d rest =>
      have hg := ih (by simp) (fun x hx => hlt x (by simp [hx]))
      have hval : (UInt8.ofNat (0x80 ||| c)).toNat = 128 + c := by
        rw [or_eq_add c hc, UInt8.toNat_ofNat']
        omega
      have hcons := hg.cons (UInt8.ofNat (0x80 ||| c)) (by omega)
      have hmod : (128 + c) % 128 = c := by omega
      rw [hval, hmod, length_ofChunks] at hcons
      have hdigits : Nat.ofDigits 128 (c :: d :: rest).reverse =
          c * 128 ^ (d :: rest).length + Nat.ofDigits 128 (d :: rest).reverse := by
        rw [List.reverse_cons, Nat.ofDigits_append, Nat.ofDigits_singleton, List.length_reverse]
        ring
      rw [hdigits]
      exact hcons

def SubIdentifier (n : ℕ) (enc : List UInt8) : Prop := Group n enc ∧ enc.head? ≠ some 0x80

theorem Group.trimmed {n : ℕ} {enc : List UInt8} (h : Group n enc) :
    SubIdentifier n (enc.dropWhile fun b => b = 0x80) := by
  induction enc generalizing n with
  | nil => exact absurd rfl h.ne_nil
  | cons b enc ih =>
    by_cases hb : b = 0x80
    · subst hb
      rw [List.dropWhile_cons_of_pos (by simp)]
      obtain ⟨hlt, -⟩ | ⟨-, m, hm, rfl⟩ := cons_iff.mp h
      · exact absurd hlt (by decide)
      · have hzero : (0x80 : UInt8).toNat % 128 = 0 := rfl
        rw [hzero, Nat.zero_mul, Nat.zero_add]
        exact ih hm
    · rw [List.dropWhile_cons_of_neg (by simpa using hb)]
      exact ⟨h, by simpa using hb⟩

theorem SubIdentifier.pow_le {n k : ℕ} {enc : List UInt8} (h : SubIdentifier n enc) (hk : 0 < k)
    (hlen : k < enc.length) :
    128 ^ k ≤ n := by
  obtain ⟨hg, hhead⟩ := h
  cases enc with
  | nil => exact absurd rfl hg.ne_nil
  | cons b enc =>
    obtain ⟨-, rfl, -⟩ | ⟨hb, m, -, rfl⟩ := Group.cons_iff.mp hg
    · rw [List.length_singleton] at hlen
      omega
    · have hne : b.toNat ≠ (0x80 : UInt8).toNat := by
        intro heq
        apply hhead
        rw [List.head?_cons, UInt8.toNat_inj.mp heq]
      have h128 : (0x80 : UInt8).toNat = 128 := rfl
      have hb' : b.toNat < 256 := b.toNat_lt
      have hlow : 1 ≤ b.toNat % 128 := by omega
      rw [List.length_cons] at hlen
      calc 128 ^ k ≤ 128 ^ enc.length := Nat.pow_le_pow_right (by norm_num) (by omega)
        _ ≤ b.toNat % 128 * 128 ^ enc.length := Nat.le_mul_of_pos_left _ hlow
        _ ≤ _ := Nat.le_add_right _ _

theorem SubIdentifier.length_le_iff {n k : ℕ} {enc : List UInt8} (h : SubIdentifier n enc) (hk : 0 < k) :
    enc.length ≤ k ↔ n < 128 ^ k := by
  constructor
  · intro hle
    exact h.1.lt.trans_le (Nat.pow_le_pow_right (by norm_num) hle)
  · intro hlt
    by_contra hlen
    have := h.pow_le hk (by omega)
    omega

theorem Group.eq_of_length {n : ℕ} {enc enc' : List UInt8} (h : Group n enc) (h' : Group n enc')
    (hlen : enc.length = enc'.length) : enc = enc' := by
  induction enc generalizing n enc' with
  | nil => exact absurd rfl h.ne_nil
  | cons b enc ih =>
    cases enc' with
    | nil => exact absurd rfl h'.ne_nil
    | cons b' enc' =>
      rw [List.length_cons, List.length_cons, Nat.succ_inj] at hlen
      obtain ⟨-, rfl, rfl⟩ | ⟨hb, m, hm, rfl⟩ := cons_iff.mp h
      · obtain rfl := List.length_eq_zero_iff.mp hlen.symm
        obtain ⟨-, -, heq⟩ | ⟨-, m, hm, -⟩ := cons_iff.mp h'
        · rw [UInt8.toNat_inj.mp heq]
        · exact absurd rfl hm.ne_nil
      · obtain ⟨-, rfl, -⟩ | ⟨hb', m', hm', heq⟩ := cons_iff.mp h'
        · exact absurd (List.length_eq_zero_iff.mp hlen) hm.ne_nil
        · -- the first groups and the rests are quotients and remainders by the same power
          have hlt := hm.lt
          have hlt' := hm'.lt
          rw [hlen] at heq hlt
          have hq : b.toNat % 128 = b'.toNat % 128 ∧ m = m' := by
            have hpos : 0 < 128 ^ enc'.length := by positivity
            have hdiv := congrArg (· / 128 ^ enc'.length) heq
            have hmod := congrArg (· % 128 ^ enc'.length) heq
            simp only [Nat.mul_comm _ (128 ^ enc'.length), Nat.mul_add_div hpos, Nat.div_eq_of_lt hlt,
              Nat.div_eq_of_lt hlt', Nat.mul_add_mod, Nat.mod_eq_of_lt hlt, Nat.mod_eq_of_lt hlt',
              Nat.add_zero] at hdiv hmod
            exact ⟨hdiv, hmod⟩
          obtain ⟨hlow, rfl⟩ := hq
          have h256 : b.toNat < 256 := b.toNat_lt
          have h256' : b'.toNat < 256 := b'.toNat_lt
          rw [UInt8.toNat_inj.mp (show b.toNat = b'.toNat by omega), ih hm hm' hlen]

theorem SubIdentifier.unique {n : ℕ} {enc enc' : List UInt8} (h : SubIdentifier n enc) (h' : SubIdentifier n enc') :
    enc = enc' := by
  have hpos : 0 < enc.length := List.length_pos_iff.mpr h.1.ne_nil
  have hpos' : 0 < enc'.length := List.length_pos_iff.mpr h'.1.ne_nil
  have hle := (h.length_le_iff hpos').mpr h'.1.lt
  have hle' := (h'.length_le_iff hpos).mpr h.1.lt
  exact h.1.eq_of_length h'.1 (le_antisymm hle hle')

end Base128
