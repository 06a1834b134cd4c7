import Mathlib.Data.List.Forall2

namespace TrishulSnmp

variable {σ ε α β : Type} {Inv : σ → Prop}

def Total (Inv : σ → Prop) (x : StateT σ (Except ε) α) (P : α → Prop) : Prop :=
  ∀ s, Inv s → ∃ a s', x s = .ok (a, s') ∧ Inv s' ∧ P a

namespace Total

theorem pure {P : α → Prop} {a : α} (h : P a) : Total Inv (Pure.pure a : StateT σ (Except ε) α) P :=
  fun s hs => ⟨a, s, rfl, hs, h⟩

theorem bind {x : StateT σ (Except ε) α} {f : α → StateT σ (Except ε) β} {P : α → Prop} {Q : β → Prop}
    (hx : Total Inv x P) (hf : ∀ a, P a → Total Inv (f a) Q) : Total Inv (x >>= f) Q := by
  intro s hs
  obtain ⟨a, s', hrun, hs', ha⟩ := hx s hs
  obtain ⟨b, s'', hrest, hs'', hb⟩ := hf a ha s' hs'
  refine ⟨b, s'', ?_, hs'', hb⟩
  change (x s >>= fun p => f p.1 p.2) = _
  rw [hrun]
  exact hrest

theorem read {f : σ → StateT σ (Except ε) β} {Q : β → Prop} (hf : ∀ s, Inv s → Total Inv (f s) Q) :
    Total Inv (get >>= f) Q := fun s hs => hf s hs s hs

theorem imp {x : StateT σ (Except ε) α} {P Q : α → Prop} (h : Total Inv x P) (hPQ : ∀ a, P a → Q a) :
    Total Inv x Q := by
  intro s hs
  obtain ⟨a, s', hrun, hs', ha⟩ := h s hs
  exact ⟨a, s', hrun, hs', hPQ a ha⟩

theorem mapM {f : α → StateT σ (Except ε) β} {R : α → β → Prop} (hf : ∀ a, Total Inv (f a) (R a)) (xs : List α) :
    Total Inv (xs.mapM f) (List.Forall₂ R xs) := by
  induction xs with
  | nil => exact .pure .nil
  | cons x xs ih =>
    rw [List.mapM_cons]
    exact (hf x).bind fun y hy => ih.bind fun ys hys => .pure (.cons hy hys)

end Total

theorem forall_mem_of_forall₂ {R : α → β → Prop} {P : β → Prop} {xs : List α} {ys : List β}
    (h : List.Forall₂ R xs ys) (hR : ∀ x ∈ xs, ∀ y, R x y → P y) : ∀ y ∈ ys, P y := by
  induction h with
  | nil => exact fun y hmem => absurd hmem List.not_mem_nil
  | cons hfirst _ ih =>
    obtain ⟨hx, hxs⟩ := List.forall_mem_cons.mp hR
    exact List.forall_mem_cons.mpr ⟨hx _ hfirst, ih hxs⟩

end TrishulSnmp
