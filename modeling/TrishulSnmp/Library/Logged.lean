import TrishulSnmp.Library.Outcome

/-! Computations that may fail and keep a log, also of what a failed run has done. -/

structure Logged (ω ε α : Type) where
  result : Except ε α
  log : List ω

namespace Logged

open Outcome

variable {ω ε α β γ : Type}

instance : Monad (Logged ω ε) where
  pure a := ⟨.ok a, []⟩
  bind x f := match x.result with
    | .ok a => ⟨(f a).result, x.log ++ (f a).log⟩
    | .error e => ⟨.error e, x.log⟩

def ofExcept (x : Except ε α) : Logged ω ε α := ⟨x, []⟩

theorem bind_of_ok {x : Logged ω ε α} {f : α → Logged ω ε β} {a : α} (h : x.result = .ok a) :
    x >>= f = ⟨(f a).result, x.log ++ (f a).log⟩ := by
  change (match x.result with | .ok a => _ | .error e => _) = _
  rw [h]

theorem bind_of_error {x : Logged ω ε α} {f : α → Logged ω ε β} {e : ε} (h : x.result = .error e) :
    x >>= f = ⟨.error e, x.log⟩ := by
  change (match x.result with | .ok a => _ | .error e => _) = _
  rw [h]

theorem bind_pure_self (x : Logged ω ε α) : id <$> x = x := by
  obtain ⟨result, log⟩ := x
  change (⟨result, log⟩ : Logged ω ε α) >>= pure = _
  cases result with
  | ok a =>
    rw [bind_of_ok rfl]
    exact congrArg _ (List.append_nil log)
  | error e => rfl

theorem bind_assoc_of (x : Logged ω ε α) (f : α → Logged ω ε β) (g : β → Logged ω ε γ) :
    x >>= f >>= g = x >>= fun a => f a >>= g := by
  cases hx : x.result with
  | error e => rw [bind_of_error hx, bind_of_error hx, bind_of_error rfl]
  | ok a =>
    rw [bind_of_ok hx, bind_of_ok hx]
    cases hf : (f a).result with
    | error e => rw [bind_of_error rfl, bind_of_error hf]
    | ok b => rw [bind_of_ok rfl, bind_of_ok hf, List.append_assoc]

instance : LawfulMonad (Logged ω ε) := .mk' _ bind_pure_self (fun _ _ => rfl) bind_assoc_of

@[simp] theorem pure_result (a : α) : (pure a : Logged ω ε α).result = .ok a := rfl

@[simp] theorem ofExcept_result (x : Except ε α) : (ofExcept x : Logged ω ε α).result = x := rfl

theorem bind_result (x : Logged ω ε α) (f : α → Logged ω ε β) :
    (x >>= f).result = x.result >>= fun a => (f a).result := by
  cases hx : x.result with
  | ok a => rw [bind_of_ok hx, ok_bind]
  | error e => rw [bind_of_error hx, error_bind]

theorem bind_ok_iff {x : Logged ω ε α} {f : α → Logged ω ε β} {b : β} :
    (x >>= f).result = .ok b ↔ ∃ a, x.result = .ok a ∧ (f a).result = .ok b := by
  rw [bind_result, Outcome.bind_ok_iff]

theorem mapM_result (f : α → Logged ω ε β) (xs : List α) : (xs.mapM f).result = xs.mapM fun x => (f x).result := by
  induction xs with
  | nil => rfl
  | cons x xs ih =>
    rw [List.mapM_cons, List.mapM_cons, bind_result]
    congr 1
    funext y
    rw [bind_result, ih]
    rfl

theorem log_bind_silent (x : Logged ω ε α) {f : α → Logged ω ε β} (h : ∀ a, (f a).log = []) :
    (x >>= f).log = x.log := by
  cases hx : x.result with
  | ok a => rw [bind_of_ok hx, h, List.append_nil]
  | error e => rw [bind_of_error hx]

theorem mapM_log_prefix {f : α → Logged ω ε β} {g : α → ω} (hf : ∀ x, (f x).log = [g x]) (xs : List α) :
    (xs.mapM f).log <+: xs.map g := by
  induction xs with
  | nil => exact List.prefix_rfl
  | cons x xs ih =>
    rw [List.mapM_cons, List.map_cons]
    cases hresult : (f x).result with
    | error e =>
      rw [bind_of_error hresult, hf]
      exact ⟨_, rfl⟩
    | ok y =>
      rw [bind_of_ok hresult, hf, List.singleton_append, List.cons_prefix_cons, log_bind_silent _ fun _ => rfl]
      exact ⟨rfl, ih⟩

end Logged
