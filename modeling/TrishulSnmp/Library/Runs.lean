import Mathlib.Logic.Relation
import Mathlib.Tactic.SplitIfs

namespace TrishulSnmp

/-- `next` is `none` where the action cannot happen. -/
structure System (σ α : Type) where
  Initial : σ → Prop
  next : σ → α → Option σ

namespace System

variable {σ α : Type} (system : System σ α)

inductive Reaches (Allowed : σ → α → Prop) : σ → Prop
  | initial {state : σ} : system.Initial state → Reaches Allowed state
  | step {state state' : σ} {action : α} :
      Reaches Allowed state → Allowed state action → system.next state action = some state' → Reaches Allowed state'

def Reachable (state : σ) : Prop := system.Reaches (fun _ _ => True) state

def Leads : σ → σ → Prop := Relation.ReflTransGen fun state state' => ∃ action, system.next state action = some state'

def run (Allowed : σ → α → Prop) [∀ state action, Decidable (Allowed state action)] : σ → List α → Option σ
  | state, [] => some state
  | state, action :: actions =>
    if Allowed state action then
      match system.next state action with
      | some state' => run Allowed state' actions
      | none => none
    else none

variable {system} {Allowed : σ → α → Prop} {state state' : σ}

theorem Reaches.invariant {Inv : σ → Prop} (hinitial : ∀ state, system.Initial state → Inv state)
    (hstep : ∀ state action state', Inv state → Allowed state action → system.next state action = some state' →
      Inv state') (h : system.Reaches Allowed state) : Inv state := by
  induction h with
  | initial h => exact hinitial _ h
  | step _ hallowed hnext ih => exact hstep _ _ _ ih hallowed hnext

theorem Leads.invariant {Inv : σ → Prop}
    (hstep : ∀ state action state', Inv state → system.next state action = some state' → Inv state')
    (h : system.Leads state state') (hinv : Inv state) : Inv state' := by
  induction h with
  | refl => exact hinv
  | tail _ hnext ih =>
    obtain ⟨action, hnext⟩ := hnext
    exact hstep _ _ _ ih hnext

theorem reachable_of_leads (h : system.Reachable state) (hleads : system.Leads state state') :
    system.Reachable state' :=
  hleads.invariant (fun _ _ _ hreached hnext => .step hreached trivial hnext) h

theorem run_reaches [∀ state action, Decidable (Allowed state action)] {actions : List α}
    (h : system.Reaches Allowed state) (hrun : system.run Allowed state actions = some state') :
    system.Reaches Allowed state' := by
  induction actions generalizing state with
  | nil => exact Option.some.inj hrun ▸ h
  | cons action actions ih =>
    rw [run] at hrun
    split_ifs at hrun with hallowed
    cases hnext : system.next state action with
    | none => simp [hnext] at hrun
    | some middle =>
      simp only [hnext] at hrun
      exact ih (.step h hallowed hnext) hrun

theorem exists_of_run [∀ state action, Decidable (Allowed state action)] {actions : List α} {P : σ → Prop}
    [DecidablePred P] (h : system.Initial state)
    (hrun : (system.run Allowed state actions).any (fun state => decide (P state)) = true) :
    ∃ state', system.run Allowed state actions = some state' ∧ system.Reaches Allowed state' ∧ P state' := by
  obtain ⟨state', hrun, hstate⟩ := (Option.any_eq_true _ _).mp hrun
  exact ⟨state', hrun, run_reaches (.initial h) hrun, of_decide_eq_true hstate⟩

end System

end TrishulSnmp
