import Mathlib.Data.List.Forall2
import Mathlib.Logic.Basic
import Mathlib.Tactic.Basic

namespace Outcome

variable {ε α β : Type}

theorem bind_ok_iff {x : Except ε α} {f : α → Except ε β} {b : β} :
    (x >>= f) = .ok b ↔ ∃ a, x = .ok a ∧ f a = .ok b := by
  cases x with
  | error e => simp [bind, Except.bind]
  | ok a => simp [bind, Except.bind]

theorem bind_error_iff {x : Except ε α} {f : α → Except ε β} {e : ε} :
    (x >>= f) = .error e ↔ x = .error e ∨ ∃ a, x = .ok a ∧ f a = .error e := by
  cases x with
  | error e => simp [bind, Except.bind]
  | ok a => simp [bind, Except.bind]

theorem isOk_map_iff {x : Except ε α} {f : α → β} : (∃ b, (x >>= fun a => pure (f a)) = .ok b) ↔ ∃ a, x = .ok a := by
  cases x with
  | error e => simp [bind, Except.bind]
  | ok a => simp [bind, Except.bind, pure, Except.pure]

theorem map_ok_iff {x : Except ε α} {f : α → β} {b : β} : x.map f = .ok b ↔ ∃ a, x = .ok a ∧ f a = b := by
  cases x with
  | error e => simp [Except.map]
  | ok a => simp [Except.map]

@[simp] theorem ok_bind (a : α) (f : α → Except ε β) : ((.ok a : Except ε α) >>= f) = f a := rfl

@[simp] theorem error_bind (e : ε) (f : α → Except ε β) :
    ((.error e : Except ε α) >>= f) = .error e := rfl

@[simp] theorem pure_ok_iff {a b : α} : (pure a : Except ε α) = .ok b ↔ a = b := by
  simp [pure, Except.pure]

theorem ite_ok_iff {p : Prop} [Decidable p] {e : ε} {y : Except ε α} {a : α} :
    (if p then (.error e) else y) = .ok a ↔ ¬ p ∧ y = .ok a := by
  by_cases hp : p <;> simp [hp]

theorem ite_raise_ok_iff {p : Prop} [Decidable p] {x : Except ε α} {e : α → ε} {y : Except ε β} {b : β} :
    (if p then (x >>= fun a => .error (e a)) else y) = .ok b ↔ ¬ p ∧ y = .ok b := by
  by_cases hp : p
  · simp [hp, bind_ok_iff]
  · simp [hp]

theorem ite_cases {p : Prop} [Decidable p] {x y z : α} (h : (if p then x else y) = z) :
    p ∧ x = z ∨ ¬ p ∧ y = z := by
  by_cases hp : p
  · exact .inl ⟨hp, by simpa [hp] using h⟩
  · exact .inr ⟨hp, by simpa [hp] using h⟩

theorem ok_or_error (x : Except ε α) : (∃ a, x = .ok a) ∨ ∃ e, x = .error e := by
  cases x with
  | error e => exact .inr ⟨e, rfl⟩
  | ok a => exact .inl ⟨a, rfl⟩

theorem eq_of_ok {x : Except ε α} {a b : α} (ha : x = .ok a) (hb : x = .ok b) : a = b :=
  Except.ok.inj (ha.symm.trans hb)

theorem length_of_mapM {f : α → Option β} {xs : List α} {ys : List β}
    (h : xs.mapM f = some ys) : ys.length = xs.length := by
  induction xs generalizing ys with
  | nil =>
    cases h
    rfl
  | cons x xs ih =>
    simp only [List.mapM_cons, Option.pure_def, Option.bind_eq_bind, Option.bind_eq_some_iff,
      Option.some.injEq] at h
    obtain ⟨y, -, zs, hzs, rfl⟩ := h
    rw [List.length_cons, List.length_cons, ih hzs]

theorem mapM_eq_some {f : α → Option β} {g : α → β} {xs : List α} (h : ∀ x ∈ xs, f x = some (g x)) :
    xs.mapM f = some (xs.map g) := by
  induction xs with
  | nil => rfl
  | cons x xs ih =>
    obtain ⟨hx, hxs⟩ := List.forall_mem_cons.mp h
    rw [List.mapM_cons, hx, ih hxs]
    rfl

theorem some_of_mapM {f : α → Option β} {xs : List α} {ys : List β} (h : xs.mapM f = some ys) :
    ∀ x ∈ xs, ∃ y ∈ ys, f x = some y := by
  induction xs generalizing ys with
  | nil => exact fun x hx => absurd hx List.not_mem_nil
  | cons x xs ih =>
    simp only [List.mapM_cons, Option.pure_def, Option.bind_eq_bind, Option.bind_eq_some_iff, Option.some.injEq] at h
    obtain ⟨y, hy, ys, hys, rfl⟩ := h
    intro x' hx'
    obtain rfl | hx' := List.mem_cons.mp hx'
    · exact ⟨y, List.mem_cons_self .., hy⟩
    · obtain ⟨y', hy', hf⟩ := ih hys x' hx'
      exact ⟨y', List.mem_cons_of_mem y hy', hf⟩

theorem mem_of_mapM_some {f : α → Option β} {xs : List α} {ys : List β} (h : xs.mapM f = some ys) {y : β}
    (hy : y ∈ ys) : ∃ x ∈ xs, f x = some y := by
  induction xs generalizing ys with
  | nil =>
    cases h
    exact absurd hy List.not_mem_nil
  | cons x xs ih =>
    simp only [List.mapM_cons, Option.pure_def, Option.bind_eq_bind, Option.bind_eq_some_iff, Option.some.injEq] at h
    obtain ⟨first, hfirst, rest, hrest, rfl⟩ := h
    obtain rfl | hy := List.mem_cons.mp hy
    · exact ⟨x, List.mem_cons_self, hfirst⟩
    · obtain ⟨x', hmem, hx'⟩ := ih hrest hy
      exact ⟨x', List.mem_cons_of_mem _ hmem, hx'⟩

theorem mapM_eq_ok {f : α → Except ε β} {g : α → β} {xs : List α} (h : ∀ x ∈ xs, f x = .ok (g x)) :
    xs.mapM f = .ok (xs.map g) := by
  induction xs with
  | nil => rfl
  | cons x xs ih =>
    obtain ⟨hx, hxs⟩ := List.forall_mem_cons.mp h
    rw [List.mapM_cons, hx, ih hxs]
    rfl

theorem forall₂_of_mapM {f : α → Except ε β} {xs : List α} {ys : List β} (h : xs.mapM f = .ok ys) :
    List.Forall₂ (fun x y => f x = .ok y) xs ys := by
  induction xs generalizing ys with
  | nil =>
    cases h
    exact .nil
  | cons x xs ih =>
    rw [List.mapM_cons] at h
    obtain ⟨y, hy, h⟩ := bind_ok_iff.mp h
    obtain ⟨rest, hrest, h⟩ := bind_ok_iff.mp h
    obtain rfl := pure_ok_iff.mp h
    exact .cons hy (ih hrest)

theorem mem_of_mapM {f : α → Except ε β} {xs : List α} {ys : List β} (h : xs.mapM f = .ok ys) {y : β} (hy : y ∈ ys) :
    ∃ x ∈ xs, f x = .ok y := by
  have hall := forall₂_of_mapM h
  clear h
  induction hall with
  | nil => exact absurd hy List.not_mem_nil
  | cons hx _ ih =>
    obtain rfl | hy := List.mem_cons.mp hy
    · exact ⟨_, List.mem_cons_self, hx⟩
    · obtain ⟨x, hmem, hx⟩ := ih hy
      exact ⟨x, List.mem_cons_of_mem _ hmem, hx⟩

theorem mapM_isOk_iff {f : α → Except ε β} {xs : List α} :
    (∃ ys, xs.mapM f = .ok ys) ↔ ∀ x ∈ xs, ∃ y, f x = .ok y := by
  induction xs with
  | nil => exact ⟨by simp, fun _ => ⟨[], rfl⟩⟩
  | cons x xs ih =>
    rw [List.forall_mem_cons, ← ih]
    constructor
    · rintro ⟨ys, h⟩
      rw [List.mapM_cons] at h
      obtain ⟨y, hy, h⟩ := bind_ok_iff.mp h
      obtain ⟨zs, hzs, -⟩ := bind_ok_iff.mp h
      exact ⟨⟨y, hy⟩, zs, hzs⟩
    · rintro ⟨⟨y, hy⟩, ys, hys⟩
      exact ⟨y :: ys, by rw [List.mapM_cons, hy, ok_bind, hys]; rfl⟩

theorem mapM_error_iff {f : α → Except ε β} {xs : List α} {e : ε} : xs.mapM f = .error e ↔
    ∃ before x after, xs = before ++ x :: after ∧ (∀ y ∈ before, ∃ b, f y = .ok b) ∧ f x = .error e := by
  induction xs with
  | nil =>
    constructor
    · intro h
      cases h
    · rintro ⟨before, x, after, hxs, -⟩
      simp at hxs
  | cons x xs ih =>
    rw [List.mapM_cons, bind_error_iff]
    constructor
    · rintro (hx | ⟨b, hb, h⟩)
      · exact ⟨[], x, xs, rfl, by simp, hx⟩
      · obtain h | ⟨bs, -, h⟩ := bind_error_iff.mp h
        · obtain ⟨before, y, after, rfl, hbefore, hy⟩ := ih.mp h
          exact ⟨x :: before, y, after, rfl, List.forall_mem_cons.mpr ⟨⟨b, hb⟩, hbefore⟩, hy⟩
        · cases h
    · rintro ⟨before, y, after, hxs, hbefore, hy⟩
      cases before with
      | nil =>
        obtain ⟨rfl, rfl⟩ := List.cons.inj hxs
        exact .inl hy
      | cons first before =>
        obtain ⟨rfl, rfl⟩ := List.cons.inj hxs
        obtain ⟨⟨b, hb⟩, hbefore⟩ := List.forall_mem_cons.mp hbefore
        exact .inr ⟨b, hb, bind_error_iff.mpr (.inl (ih.mpr ⟨before, y, after, rfl, hbefore, hy⟩))⟩

theorem foldlM_eq_mapM {γ : Type} {f : γ → α → Except ε γ} {g : α → Except ε β} {add : γ → β → γ}
    (h : ∀ c x, f c x = (g x).map (add c)) (xs : List α) (c : γ) :
    xs.foldlM f c = (xs.mapM g).map fun ys => ys.foldl add c := by
  induction xs generalizing c with
  | nil => rfl
  | cons x xs ih =>
    rw [List.foldlM_cons, List.mapM_cons, h]
    cases g x with
    | error e => rfl
    | ok y =>
      refine (ih (add c y)).trans ?_
      rw [ok_bind]
      cases xs.mapM g <;> rfl

def FailsOnly (P : ε → Prop) (x : Except ε α) : Prop := ∀ e, x = .error e → P e

variable {P : ε → Prop}

theorem FailsOnly.imp {Q : ε → Prop} {x : Except ε α} (h : FailsOnly P x) (hPQ : ∀ e, P e → Q e) : FailsOnly Q x :=
  fun e he => hPQ e (h e he)

theorem failsOnly_ok (a : α) : FailsOnly P (.ok a : Except ε α) := by
  intro e h
  cases h

theorem failsOnly_error {e : ε} (h : P e) : FailsOnly P (.error e : Except ε α) := by
  intro e' h'
  cases h'
  exact h

theorem failsOnly_bind {x : Except ε α} {f : α → Except ε β} (hx : FailsOnly P x)
    (hf : ∀ a, x = .ok a → FailsOnly P (f a)) : FailsOnly P (x >>= f) := by
  intro e h
  obtain h | ⟨a, ha, h⟩ := bind_error_iff.mp h
  · exact hx e h
  · exact hf a ha e h

theorem failsOnly_bind_iff {x : Except ε α} {f : α → Except ε β} :
    FailsOnly P (x >>= f) ↔ FailsOnly P x ∧ ∀ a, x = .ok a → FailsOnly P (f a) := by
  refine ⟨fun h => ⟨fun e he => h e ?_, fun a ha => ?_⟩, fun h => failsOnly_bind h.1 h.2⟩
  · rw [he]
    rfl
  · rwa [ha] at h

theorem failsOnly_map_iff {x : Except ε α} {f : α → β} : FailsOnly P (x.map f) ↔ FailsOnly P x := by
  cases x with
  | ok a => exact iff_of_true (failsOnly_ok _) (failsOnly_ok _)
  | error e =>
    constructor
    · intro h e' he
      cases he
      exact h e rfl
    · intro h e' he
      cases he
      exact h e rfl

theorem failsOnly_ite {p : Prop} [Decidable p] {x y : Except ε α} (hx : p → FailsOnly P x)
    (hy : ¬ p → FailsOnly P y) : FailsOnly P (if p then x else y) := by
  by_cases hp : p
  · simpa [hp] using hx hp
  · simpa [hp] using hy hp

theorem failsOnly_mapM {f : α → Except ε β} {xs : List α} (h : ∀ x ∈ xs, FailsOnly P (f x)) :
    FailsOnly P (xs.mapM f) := by
  induction xs with
  | nil => exact failsOnly_ok _
  | cons x xs ih =>
    obtain ⟨hx, hxs⟩ := List.forall_mem_cons.mp h
    rw [List.mapM_cons]
    exact failsOnly_bind hx fun y _ => failsOnly_bind (ih hxs) fun ys _ => failsOnly_ok _

theorem failsOnly_mapM_iff {f : α → Except ε β} {xs : List α} : FailsOnly P (xs.mapM f) ↔
    ∀ before x after, xs = before ++ x :: after → (∀ y ∈ before, ∃ b, f y = .ok b) → FailsOnly P (f x) := by
  constructor
  · intro h before x after hxs hbefore e he
    exact h e (mapM_error_iff.mpr ⟨before, x, after, hxs, hbefore, he⟩)
  · intro h e he
    obtain ⟨before, x, after, hxs, hbefore, hx⟩ := mapM_error_iff.mp he
    exact h before x after hxs hbefore e hx

end Outcome
