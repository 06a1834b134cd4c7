import Mathlib.Data.Int.Notation
import Mathlib.Data.List.Basic
import Mathlib.Tactic.SplitIfs
import TrishulSnmp.Library.Outcome

/-! The loop `for x in xs: if keep(x): results.append(x); if len(results) >= limit: return results`. -/

namespace Collect

open Outcome

variable {α : Type} (keep : α → Bool) (limit : ℤ)

/-- `.error results` is the `return`, `.ok results` the end of the loop. -/
def collect : List α → List α → Except (List α) (List α)
  | [], results => .ok results
  | x :: xs, results =>
    if keep x then
      if ((results ++ [x]).length : ℤ) ≥ limit then .error (results ++ [x]) else collect xs (results ++ [x])
    else collect xs results

def room : ℕ := max 1 limit.toNat

variable {keep limit}

theorem collect_append (xs ys results : List α) :
    collect keep limit (xs ++ ys) results = collect keep limit xs results >>= collect keep limit ys := by
  induction xs generalizing results with
  | nil => rfl
  | cons x xs ih =>
    rw [List.cons_append, collect, collect]
    split_ifs with hkeep hlimit
    · rfl
    · exact ih _
    · exact ih _

theorem room_pos : 0 < room limit := Nat.lt_of_lt_of_le Nat.one_pos (Nat.le_max_left ..)

theorem full_iff {results : List α} {x : α} (h : results.length < room limit) :
    ((results ++ [x]).length : ℤ) ≥ limit ↔ ¬ (results ++ [x]).length < room limit := by
  rw [List.length_append, List.length_singleton]
  unfold room at *
  omega

theorem collect_eq {xs results : List α} (h : results.length < room limit) : collect keep limit xs results =
    if (results ++ xs.filter keep).length < room limit then .ok (results ++ xs.filter keep)
    else .error ((results ++ xs.filter keep).take (room limit)) := by
  induction xs generalizing results with
  | nil => rw [List.filter_nil, List.append_nil, if_pos h, collect]
  | cons x xs ih =>
    rw [collect]
    by_cases hkeep : keep x
    · rw [if_pos hkeep, List.filter_cons_of_pos hkeep, List.append_cons results x (xs.filter keep)]
      by_cases hshort : (results ++ [x]).length < room limit
      · rw [if_neg (mt (full_iff h).mp (not_not_intro hshort)), ih hshort]
      · have hlen : room limit = (results ++ [x]).length := by
          rw [List.length_append, List.length_singleton] at *
          omega
        have hlong : ¬ (results ++ [x] ++ xs.filter keep).length < room limit := by
          rw [hlen, List.length_append]
          omega
        rw [if_pos ((full_iff h).mpr hshort), if_neg hlong, hlen, List.take_left]
    · rw [if_neg hkeep, List.filter_cons_of_neg hkeep, ih h]

def returned : Except (List α) (List α) → List α
  | .ok results | .error results => results

theorem returned_collect (xs : List α) :
    returned (collect keep limit xs []) = (xs.filter keep).take (room limit) := by
  have hroom : ([] : List α).length < room limit := room_pos
  rw [collect_eq hroom, List.nil_append]
  split_ifs with hshort
  · exact (List.take_of_length_le (Nat.le_of_lt hshort)).symm
  · rfl

end Collect
