import Mathlib.Data.Nat.Log
import Mathlib.Data.Fintype.Basic
import Mathlib.Tactic.Ring
import Mathlib.Tactic.Linarith

namespace BigEndian

def toNat (bs : List UInt8) : ℕ := bs.foldl (fun value b => value * 256 + b.toNat) 0

def ofNat : ℕ → ℕ → List UInt8
  | 0, _ => []
  | length + 1, n => ofNat length (n / 256) ++ [UInt8.ofNat n]

@[simp] theorem toNat_nil : toNat [] = 0 := rfl

theorem foldl_eq (bs : List UInt8) (n : ℕ) :
    bs.foldl (fun value b => value * 256 + b.toNat) n = n * 256 ^ bs.length + toNat bs := by
  induction bs generalizing n with
  | nil => simp
  | cons b bs ih =>
    have hb : toNat (b :: bs) = b.toNat * 256 ^ bs.length + toNat bs := by
      rw [toNat, List.foldl_cons, ih]
      ring
    rw [List.foldl_cons, ih, hb, List.length_cons, pow_succ]
    ring

theorem toNat_append (as bs : List UInt8) :
    toNat (as ++ bs) = toNat as * 256 ^ bs.length + toNat bs := by
  rw [toNat, List.foldl_append, foldl_eq bs]
  rfl

theorem toNat_cons (b : UInt8) (bs : List UInt8) :
    toNat (b :: bs) = b.toNat * 256 ^ bs.length + toNat bs := by
  simpa [toNat] using toNat_append [b] bs

theorem toNat_lt (bs : List UInt8) : toNat bs < 256 ^ bs.length := by
  induction bs with
  | nil => simp
  | cons b bs ih =>
    have hb : b.toNat < 256 := b.toNat_lt
    have hle : (b.toNat + 1) * 256 ^ bs.length ≤ 256 * 256 ^ bs.length :=
      Nat.mul_le_mul_right _ hb
    rw [toNat_cons, List.length_cons, pow_succ]
    linarith

theorem toNat_trimmed (bs : List UInt8) : toNat (bs.dropWhile fun b => b = 0) = toNat bs := by
  induction bs with
  | nil => rfl
  | cons b bs ih =>
    by_cases hb : b = 0
    · subst hb
      have h0 : (0 : UInt8).toNat = 0 := rfl
      rw [List.dropWhile_cons_of_pos (by simp), ih, toNat_cons, h0, Nat.zero_mul, Nat.zero_add]
    · rw [List.dropWhile_cons_of_neg (by simpa using hb)]

theorem pow_le_toNat {b : UInt8} (bs : List UInt8) (hb : b ≠ 0) : 256 ^ bs.length ≤ toNat (b :: bs) := by
  have hpos : 1 ≤ b.toNat := by
    by_contra h
    exact hb (UInt8.toNat_inj.mp (show b.toNat = (0 : UInt8).toNat by
      have h0 : (0 : UInt8).toNat = 0 := rfl
      omega))
  rw [toNat_cons]
  exact (Nat.le_mul_of_pos_left _ hpos).trans (Nat.le_add_right _ _)

theorem trimmed_length_le_iff (bs : List UInt8) (k : ℕ) :
    (bs.dropWhile fun b => b = 0).length ≤ k ↔ toNat bs < 256 ^ k := by
  rw [← toNat_trimmed bs]
  constructor
  · intro hle
    exact (toNat_lt _).trans_le (Nat.pow_le_pow_right (by norm_num) hle)
  · intro hlt
    by_contra hlong
    cases htrimmed : bs.dropWhile fun b => b = 0 with
    | nil =>
      rw [htrimmed] at hlong
      exact hlong (Nat.zero_le k)
    | cons b rest =>
      have hb : b ≠ 0 := by
        have := List.head_dropWhile_not (fun b : UInt8 => b = 0) (l := bs) (by simp [htrimmed])
        simpa [htrimmed] using this
      rw [htrimmed] at hlt hlong
      have hpow : 256 ^ k ≤ 256 ^ rest.length := Nat.pow_le_pow_right (by norm_num) (by
        rw [List.length_cons] at hlong
        omega)
      have := pow_le_toNat rest hb
      omega

@[simp] theorem length_ofNat (length n : ℕ) : (ofNat length n).length = length := by
  induction length generalizing n with
  | zero => rfl
  | succ length ih => simp [ofNat, ih]

theorem toNat_ofNat (length n : ℕ) (h : n < 256 ^ length) : toNat (ofNat length n) = n := by
  induction length generalizing n with
  | zero => simp_all [ofNat]
  | succ length ih =>
    have hdiv : n / 256 < 256 ^ length := by
      rw [pow_succ] at h
      exact Nat.div_lt_of_lt_mul (by linarith)
    rw [ofNat, toNat_append, ih _ hdiv]
    simp only [List.length_singleton, toNat, List.foldl_cons, List.foldl_nil, UInt8.toNat_ofNat']
    omega

theorem ofNat_toNat (bs : List UInt8) : ofNat bs.length (toNat bs) = bs := by
  induction bs using List.reverseRecOn with
  | nil => rfl
  | append_singleton bs b ih =>
    have hb : b.toNat < 256 := b.toNat_lt
    have hval : toNat (bs ++ [b]) = toNat bs * 256 + b.toNat := by simp [toNat_append, toNat_cons]
    have hdiv : (toNat bs * 256 + b.toNat) / 256 = toNat bs := by omega
    rw [List.length_append, List.length_singleton, hval, ofNat, hdiv, ih]
    congr
    apply UInt8.toNat_inj.mp
    rw [UInt8.toNat_ofNat']
    omega

theorem eq_of_toNat {as bs : List UInt8} (hlen : as.length = bs.length) (h : toNat as = toNat bs) : as = bs := by
  rw [← ofNat_toNat as, ← ofNat_toNat bs, hlen, h]

def bitLength (n : ℕ) : ℕ := if n = 0 then 0 else n.log2 + 1

theorem bitLength_le_iff (n k : ℕ) : bitLength n ≤ k ↔ n < 2 ^ k := by
  by_cases hn : n = 0
  · simp [bitLength, hn]
  · rw [bitLength, if_neg hn, ← Nat.log2_lt hn]
    rfl

theorem lt_pow_bitLength (n : ℕ) : n < 2 ^ bitLength n := (bitLength_le_iff n _).mp le_rfl

theorem lt_pow_octets (n : ℕ) : n < 256 ^ ((bitLength n + 7) / 8) := by
  have hle : bitLength n ≤ 8 * ((bitLength n + 7) / 8) := by omega
  have h := (bitLength_le_iff n _).mp hle
  rwa [pow_mul] at h

theorem octets_le_iff (n k : ℕ) : (bitLength n + 7) / 8 ≤ k ↔ n < 256 ^ k := by
  have h := bitLength_le_iff n (8 * k)
  rw [pow_mul] at h
  norm_num at h
  omega

def toInt : List UInt8 → ℤ
  | [] => 0
  | b :: bs => if b.toNat < 128 then (toNat (b :: bs) : ℤ) else toNat (b :: bs) - 256 ^ (bs.length + 1)

def ofInt (length : ℕ) (v : ℤ) : List UInt8 := ofNat length (v % 256 ^ length).toNat

@[simp] theorem length_ofInt (length : ℕ) (v : ℤ) : (ofInt length v).length = length := length_ofNat _ _

theorem head_lt_iff (b : UInt8) (bs : List UInt8) :
    b.toNat < 128 ↔ 2 * toNat (b :: bs) < 256 ^ (bs.length + 1) := by
  have hlt := toNat_lt bs
  rw [toNat_cons, pow_succ]
  constructor
  · intro hb
    have := Nat.mul_le_mul_right (256 ^ bs.length) (show b.toNat + 1 ≤ 128 from hb)
    linarith
  · intro h
    by_contra hb
    have := Nat.mul_le_mul_right (256 ^ bs.length) (show 128 ≤ b.toNat by omega)
    linarith

theorem toInt_eq (bs : List UInt8) (hne : bs ≠ []) :
    toInt bs = if 2 * toNat bs < 256 ^ bs.length then (toNat bs : ℤ) else toNat bs - 256 ^ bs.length := by
  cases bs with
  | nil => exact absurd rfl hne
  | cons b bs => simp only [toInt, head_lt_iff b bs, List.length_cons]

theorem toInt_ofInt (length : ℕ) (v : ℤ) (hpos : 0 < length)
    (hlo : -256 ^ length ≤ 2 * v) (hhi : 2 * v < 256 ^ length) : toInt (ofInt length v) = v := by
  have hmod_nonneg : 0 ≤ v % 256 ^ length := Int.emod_nonneg _ (by positivity)
  have hmod_lt : v % 256 ^ length < 256 ^ length := Int.emod_lt_of_pos _ (by positivity)
  have hval : (toNat (ofInt length v) : ℤ) = v % 256 ^ length := by
    rw [ofInt, toNat_ofNat, Int.toNat_of_nonneg hmod_nonneg]
    have : ((v % 256 ^ length).toNat : ℤ) < 256 ^ length := by rwa [Int.toNat_of_nonneg hmod_nonneg]
    exact_mod_cast this
  have hne : ofInt length v ≠ [] := by
    intro h
    have := congrArg List.length h
    simp at this
    omega
  have hcond : 2 * toNat (ofInt length v) < 256 ^ length ↔ 2 * (v % 256 ^ length) < 256 ^ length := by
    rw [← hval]
    exact_mod_cast Iff.rfl
  rw [toInt_eq _ hne, length_ofInt, hval]
  simp only [hcond]
  by_cases hv : 0 ≤ v
  · have hm : v % 256 ^ length = v := Int.emod_eq_of_lt hv (by linarith)
    rw [hm, if_pos hhi]
  · have hm : v % 256 ^ length = v + 256 ^ length := by
      rw [← Int.add_emod_right, Int.emod_eq_of_lt (by linarith) (by linarith)]
    rw [hm, if_neg (by linarith)]
    ring

theorem toInt_zero_cons (b : UInt8) (bs : List UInt8) (hb : b.toNat < 128) :
    toInt (0 :: b :: bs) = toInt (b :: bs) := by
  have h0 : (0 : UInt8).toNat = 0 := rfl
  simp [toInt, hb, toNat_cons 0, h0]

theorem toInt_ff_cons (b : UInt8) (bs : List UInt8) (hb : ¬ b.toNat < 128) :
    toInt (255 :: b :: bs) = toInt (b :: bs) := by
  have h255 : (255 : UInt8).toNat = 255 := rfl
  simp only [toInt, toNat_cons 255, h255, if_neg hb, List.length_cons]
  push_cast
  ring

theorem natAbs_toInt_lt (bs : List UInt8) : (toInt bs).natAbs < 256 ^ bs.length := by
  cases bs with
  | nil => simp [toInt]
  | cons b bs =>
    have hlt := toNat_lt (b :: bs)
    have hhead := head_lt_iff b bs
    have hcast : (256 : ℤ) ^ (bs.length + 1) = (256 ^ (bs.length + 1) : ℕ) := by push_cast; rfl
    rw [toInt, List.length_cons, hcast]
    rw [List.length_cons] at hlt
    split_ifs with hb <;> omega

theorem toInt_range {bs : List UInt8} (hne : bs ≠ []) :
    -256 ^ bs.length ≤ 2 * toInt bs ∧ 2 * toInt bs < 256 ^ bs.length := by
  have hlt : (toNat bs : ℤ) < 256 ^ bs.length := by exact_mod_cast toNat_lt bs
  have hcast : 2 * toNat bs < 256 ^ bs.length ↔ 2 * (toNat bs : ℤ) < 256 ^ bs.length := by exact_mod_cast Iff.rfl
  rw [toInt_eq bs hne]
  simp only [hcast]
  generalize (256 : ℤ) ^ bs.length = bound at *
  split_ifs <;> omega

theorem eq_of_toInt {as bs : List UInt8} (hne : as ≠ []) (hlen : as.length = bs.length) (h : toInt as = toInt bs) :
    as = bs := by
  have hne' : bs ≠ [] := by
    rintro rfl
    exact hne (List.length_eq_zero_iff.mp hlen)
  have hlt := toNat_lt as
  have hlt' := toNat_lt bs
  rw [toInt_eq as hne, toInt_eq bs hne', hlen] at h
  rw [hlen] at hlt
  have hcast : (256 : ℤ) ^ bs.length = (256 ^ bs.length : ℕ) := by push_cast; rfl
  rw [hcast] at h
  apply eq_of_toNat hlen
  split_ifs at h <;> omega

def RepeatsSign (a b : UInt8) : Prop := a = 0 ∧ b.toNat < 128 ∨ a = 255 ∧ ¬ b.toNat < 128

theorem toInt_outside {a b : UInt8} (rest : List UInt8) (h : ¬ RepeatsSign a b) :
    ¬ (-256 ^ (rest.length + 1) ≤ 2 * toInt (a :: b :: rest) ∧
      2 * toInt (a :: b :: rest) < 256 ^ (rest.length + 1)) := by
  have hlt : (toNat rest : ℤ) < 256 ^ rest.length := by exact_mod_cast toNat_lt rest
  have ha : a.toNat < 256 := a.toNat_lt
  have hb : b.toNat < 256 := b.toNat_lt
  have hzero : a.toNat = 0 → 128 ≤ b.toNat := by
    intro h0
    by_contra hlow
    exact h (.inl ⟨UInt8.toNat_inj.mp (h0.trans rfl), by omega⟩)
  have hones : a.toNat = 255 → b.toNat < 128 := by
    intro h255
    by_contra hhigh
    exact h (.inr ⟨UInt8.toNat_inj.mp (h255.trans rfl), hhigh⟩)
  have hval : (toNat (a :: b :: rest) : ℤ) = a.toNat * (256 * 256 ^ rest.length) + b.toNat * 256 ^ rest.length +
      toNat rest := by
    rw [toNat_cons, toNat_cons, List.length_cons]
    push_cast
    ring
  have hsecond : (0 : ℤ) ≤ b.toNat := Int.natCast_nonneg _
  simp only [toInt, List.length_cons, hval, pow_succ]
  have hpos : (0 : ℤ) < 256 ^ rest.length := by positivity
  generalize (256 : ℤ) ^ rest.length = unit at *
  have hnonneg : (0 : ℤ) ≤ toNat rest := Int.natCast_nonneg _
  generalize (toNat rest : ℤ) = low at *
  rw [not_and_or, not_le, not_lt]
  split_ifs with hsign
  · right
    have : 128 * unit ≤ a.toNat * (256 * unit) + b.toNat * unit := by
      obtain h0 | h1 := Nat.eq_zero_or_pos a.toNat
      · have := hzero h0
        nlinarith
      · nlinarith
    linarith
  · left
    have : a.toNat * (256 * unit) + b.toNat * unit ≤ 65536 * unit - 129 * unit := by
      by_cases h255 : a.toNat = 255
      · have := hones h255
        rw [h255]
        push_cast
        nlinarith
      · have : a.toNat ≤ 254 := by omega
        nlinarith
    linarith

end BigEndian
