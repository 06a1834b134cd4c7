import Mathlib.Data.List.Sort

namespace Bisect

variable {α : Type} [LinearOrder α]

def search (xs : List α) (x : α) : ℕ → ℕ → ℕ → ℕ
  | 0, lo, _ => lo
  | fuel + 1, lo, hi =>
    if lo < hi then
      match xs[(lo + hi) / 2]? with
      | some y => if x < y then search xs x fuel lo ((lo + hi) / 2) else search xs x fuel ((lo + hi) / 2 + 1) hi
      | none => lo
    else lo

def bisectRight (xs : List α) (x : α) : ℕ := search xs x xs.length 0 xs.length

def insort (xs : List α) (x : α) : List α := xs.insertIdx (bisectRight xs x) x

structure Brackets (xs : List α) (x : α) (lo hi : ℕ) : Prop where
  le : lo ≤ hi
  le_length : hi ≤ xs.length
  below : ∀ y ∈ xs.take lo, y ≤ x
  above : ∀ y ∈ xs.drop hi, x < y

theorem brackets_init (xs : List α) (x : α) : Brackets xs x 0 xs.length where
  le := Nat.zero_le _
  le_length := le_rfl
  below := by simp
  above := by simp

theorem Brackets.lower {xs : List α} {x y : α} {lo mid hi : ℕ} (h : Brackets xs x lo hi) (hs : xs.Pairwise (· ≤ ·))
    (hmid : xs[mid]? = some y) (hlo : lo ≤ mid) (hhi : mid < hi) (hlt : x < y) : Brackets xs x lo mid where
  le := hlo
  le_length := hhi.le.trans h.le_length
  below := h.below
  above := by
    obtain ⟨hlen, rfl⟩ := List.getElem?_eq_some_iff.mp hmid
    rw [List.drop_eq_getElem_cons hlen]
    have htail := hs.sublist (List.drop_sublist mid xs)
    rw [List.drop_eq_getElem_cons hlen, List.pairwise_cons] at htail
    intro z hz
    obtain rfl | hz := List.mem_cons.mp hz
    · exact hlt
    · exact hlt.trans_le (htail.1 z hz)

theorem Brackets.raise {xs : List α} {x y : α} {lo mid hi : ℕ} (h : Brackets xs x lo hi) (hs : xs.Pairwise (· ≤ ·))
    (hmid : xs[mid]? = some y) (hhi : mid < hi) (hle : y ≤ x) : Brackets xs x (mid + 1) hi where
  le := hhi
  le_length := h.le_length
  below := by
    obtain ⟨hlen, rfl⟩ := List.getElem?_eq_some_iff.mp hmid
    have hhead := hs.sublist (List.take_sublist (mid + 1) xs)
    rw [List.take_succ_eq_append_getElem hlen] at hhead ⊢
    intro z hz
    obtain hz | hz := List.mem_append.mp hz
    · exact ((List.pairwise_append.mp hhead).2.2 z hz _ (List.mem_singleton_self _)).trans hle
    · rw [List.mem_singleton.mp hz]
      exact hle
  above := h.above

theorem search_brackets {xs : List α} {x : α} (hs : xs.Pairwise (· ≤ ·)) (fuel lo hi : ℕ) (h : Brackets xs x lo hi)
    (hfuel : hi - lo ≤ fuel) : Brackets xs x (search xs x fuel lo hi) (search xs x fuel lo hi) := by
  induction fuel generalizing lo hi with
  | zero =>
    obtain rfl : hi = lo := Nat.le_antisymm (by omega) h.le
    exact h
  | succ fuel ih =>
    rw [search]
    by_cases hlt : lo < hi
    · rw [if_pos hlt]
      have hbound := h.le_length
      obtain ⟨y, hy⟩ : ∃ y, xs[(lo + hi) / 2]? = some y :=
        ⟨_, List.getElem?_eq_getElem (by omega)⟩
      simp only [hy]
      by_cases hxy : x < y
      · rw [if_pos hxy]
        exact ih _ _ (h.lower hs hy (by omega) (by omega) hxy) (by omega)
      · rw [if_neg hxy]
        exact ih _ _ (h.raise hs hy (by omega) (not_lt.mp hxy)) (by omega)
    · rw [if_neg hlt]
      obtain rfl : hi = lo := Nat.le_antisymm (by omega) h.le
      exact h

theorem bisectRight_brackets {xs : List α} (hs : xs.Pairwise (· ≤ ·)) (x : α) :
    Brackets xs x (bisectRight xs x) (bisectRight xs x) :=
  search_brackets hs _ _ _ (brackets_init xs x) (by omega)

theorem getElem?_bisectRight {xs : List α} (hs : xs.Pairwise (· ≤ ·)) (x : α) :
    xs[bisectRight xs x]? = xs.find? (x < ·) := by
  have h := bisectRight_brackets hs x
  set i := bisectRight xs x
  have hhead : (xs.take i).find? (x < ·) = none := by
    rw [List.find?_eq_none]
    intro y hy
    simpa using h.below y hy
  conv_rhs => rw [← List.take_append_drop i xs, List.find?_append, hhead, Option.none_or]
  cases hdrop : xs.drop i with
  | nil =>
    have := congrArg List.length hdrop
    rw [List.length_drop, List.length_nil] at this
    rw [List.find?_nil, List.getElem?_eq_none (by omega)]
  | cons y ys =>
    have hy : x < y := h.above y (by simp [hdrop])
    rw [List.find?_cons_of_pos (by simpa using hy), ← Nat.add_zero i, ← List.getElem?_drop, hdrop,
      List.getElem?_cons_zero]

theorem mem_insort {xs : List α} (hs : xs.Pairwise (· ≤ ·)) (x y : α) : y ∈ insort xs x ↔ y = x ∨ y ∈ xs := by
  rw [insort, List.mem_insertIdx (bisectRight_brackets hs x).le_length]

theorem insort_eq {xs : List α} (hs : xs.Pairwise (· ≤ ·)) (x : α) :
    insort xs x = xs.take (bisectRight xs x) ++ x :: xs.drop (bisectRight xs x) := by
  have hi := (bisectRight_brackets hs x).le_length
  rw [insort]
  generalize bisectRight xs x = i at hi ⊢
  induction xs generalizing i with
  | nil => simp_all
  | cons y ys ih => cases i <;> simp_all

theorem pairwise_insort {xs : List α} (hs : xs.Pairwise (· < ·)) {x : α} (hx : x ∉ xs) :
    (insort xs x).Pairwise (· < ·) := by
  have hle : xs.Pairwise (· ≤ ·) := hs.imp le_of_lt
  have h := bisectRight_brackets hle x
  rw [insort_eq hle]
  set i := bisectRight xs x
  have hlt : ∀ y ∈ xs.take i, y < x := by
    intro y hy
    refine lt_of_le_of_ne (h.below y hy) ?_
    rintro rfl
    exact hx (List.mem_of_mem_take hy)
  rw [← List.take_append_drop i xs, List.pairwise_append] at hs
  obtain ⟨hhead, htail, hcross⟩ := hs
  refine List.pairwise_append.mpr ⟨hhead, List.pairwise_cons.mpr ⟨h.above, htail⟩, ?_⟩
  intro y hy z hz
  obtain rfl | hz := List.mem_cons.mp hz
  · exact hlt y hy
  · exact hcross y hy z hz

end Bisect
