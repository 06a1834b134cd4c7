import Mathlib.Data.List.Induction
import Mathlib.Logic.Function.Basic

inductive Write (K V : Type)
  | set (key : K) (value : V)
  | delete (key : K)
  | clear

namespace Write

variable {K V : Type}

def Decides (key : K) : Write K V → Prop
  | set other _ => other = key
  | delete other => other = key
  | clear => True

/-- The value is the one most recently set under the key, and nothing has removed it since. -/
def Current (writes : List (Write K V)) (key : K) (value : V) : Prop :=
  ∃ before after, writes = before ++ set key value :: after ∧ ∀ write ∈ after, ¬ write.Decides key

variable [DecidableEq K]

def apply (store : K → Option V) : Write K V → K → Option V
  | set key value => Function.update store key (some value)
  | delete key => Function.update store key none
  | clear => fun _ => none

def replay (store : K → Option V) (writes : List (Write K V)) : K → Option V := writes.foldl apply store

theorem replay_append (store : K → Option V) (writes later : List (Write K V)) :
    replay store (writes ++ later) = replay (replay store writes) later := List.foldl_append

theorem replay_set (store : K → Option V) (key : K) (value : V) :
    replay store [set key value] = Function.update store key (some value) := rfl

theorem replay_delete (store : K → Option V) (key : K) :
    replay store [delete key] = Function.update store key none := rfl

theorem apply_of_not_decides {write : Write K V} {key : K} (h : ¬ write.Decides key) (store : K → Option V) :
    apply store write key = store key := by
  cases write with
  | set other value => exact Function.update_of_ne (Ne.symm h) _ _
  | delete other => exact Function.update_of_ne (Ne.symm h) _ _
  | clear => exact absurd trivial h

theorem replay_of_not_decides {writes : List (Write K V)} {key : K} (h : ∀ write ∈ writes, ¬ write.Decides key)
    (store : K → Option V) : replay store writes key = store key := by
  induction writes generalizing store with
  | nil => rfl
  | cons write writes ih =>
    obtain ⟨hwrite, hwrites⟩ := List.forall_mem_cons.mp h
    exact (ih hwrites _).trans (apply_of_not_decides hwrite store)

theorem replay_eq_some {writes : List (Write K V)} {store : K → Option V} {key : K} {value : V}
    (h : replay store writes key = some value) : store key = some value ∨ set key value ∈ writes := by
  induction writes generalizing store with
  | nil => exact .inl h
  | cons write writes ih =>
    obtain hbefore | hlater := ih h
    · by_cases hdecides : write.Decides key
      · cases write with
        | set other stored =>
          obtain rfl : other = key := hdecides
          obtain rfl : stored = value := by simpa [apply] using hbefore
          exact .inr List.mem_cons_self
        | delete other =>
          obtain rfl : other = key := hdecides
          simp [apply] at hbefore
        | clear => cases hbefore
      · rw [apply_of_not_decides hdecides] at hbefore
        exact .inl hbefore
    · exact .inr (List.mem_cons_of_mem _ hlater)

theorem replay_eq_some_iff {writes : List (Write K V)} {key : K} {value : V} :
    replay (fun _ => none) writes key = some value ↔ Current writes key value := by
  constructor
  · intro h
    induction writes using List.reverseRecOn with
    | nil => cases h
    | append_singleton writes write ih =>
      rw [replay_append] at h
      by_cases hdecides : write.Decides key
      · refine ⟨writes, [], ?_, by simp⟩
        cases write with
        | set other stored =>
          obtain rfl : other = key := hdecides
          have hvalue : some stored = some value := by simpa [replay, apply] using h
          rw [Option.some.inj hvalue]
        | delete other =>
          obtain rfl : other = key := hdecides
          simp [replay, apply] at h
        | clear => cases h
      · rw [show replay _ [write] key = _ from apply_of_not_decides hdecides _] at h
        obtain ⟨before, after, rfl, hafter⟩ := ih h
        refine ⟨before, after ++ [write], by simp, fun later hmem => ?_⟩
        obtain hmem | hmem := List.mem_append.mp hmem
        · exact hafter later hmem
        · rwa [List.mem_singleton.mp hmem]
  · rintro ⟨before, after, rfl, hafter⟩
    have hset : replay (fun _ => none) (before ++ [set key value]) key = some value := by
      rw [replay_append]
      exact Function.update_self _ _ _
    rw [List.append_cons, replay_append, replay_of_not_decides hafter, hset]

end Write
