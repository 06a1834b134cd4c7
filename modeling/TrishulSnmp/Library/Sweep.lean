import Mathlib.Data.Finset.Card
import Mathlib.Order.Bounds.Basic

variable {K V : Type}

theorem length_le_card_of_increasing {α : Type} [LinearOrder K] {xs : List α} {key : α → K}
    (h : xs.Pairwise fun a b => key a < key b) {keys : Finset K} (hkeys : ∀ x ∈ xs, key x ∈ keys) :
    xs.length ≤ keys.card := by
  have hnodup : (xs.map key).Nodup := by
    rw [List.nodup_iff_pairwise_ne, List.pairwise_map]
    exact h.imp fun hlt => hlt.ne
  rw [← List.length_map key, ← List.toFinset_card_of_nodup hnodup]
  apply Finset.card_le_card
  intro k hk
  obtain ⟨x, hx, rfl⟩ := List.mem_map.mp (List.mem_toFinset.mp hk)
  exact hkeys x hx

structure Swept [LinearOrder K] (views : ℕ → K → V → Prop) (n : ℕ) (start current : K) (found : List (K × V)) :
    Prop where
  sorted : found.Pairwise fun a b => a.1 < b.1
  le : start ≤ current
  reached : ∀ entry ∈ found, entry.1 ≤ current
  sound : ∀ entry ∈ found, ∃ k < n, views k entry.1 entry.2
  complete : ∀ key, start < key → key ≤ current → (∀ k < n, ∃ value, views k key value) →
    ∃ value, (key, value) ∈ found

namespace Swept

variable [LinearOrder K] {views : ℕ → K → V → Prop} {n : ℕ} {start current : K} {found : List (K × V)}

theorem start_at (views : ℕ → K → V → Prop) (n : ℕ) (start : K) : Swept views n start start [] where
  sorted := .nil
  le := le_rfl
  reached := by simp
  sound := by simp
  complete := fun _ hlt hle => absurd hle hlt.not_ge

theorem read (h : Swept views n start current found) : Swept views (n + 1) start current found where
  sorted := h.sorted
  le := h.le
  reached := h.reached
  sound := by
    intro entry hentry
    obtain ⟨k, hk, hview⟩ := h.sound entry hentry
    exact ⟨k, by omega, hview⟩
  complete := fun key hlt hle hviews => h.complete key hlt hle fun k hk => hviews k (by omega)

theorem step (h : Swept views n start current found) {k : ℕ} (hk : k < n) {next : K} {value : V}
    (hleast : IsLeast {key | current < key ∧ ∃ value, views k key value} next) (hvalue : views k next value) :
    Swept views n start next (found ++ [(next, value)]) where
  sorted := by
    refine List.pairwise_append.mpr ⟨h.sorted, List.pairwise_singleton _ _, fun a ha b hb => ?_⟩
    rw [List.mem_singleton.mp hb]
    exact (h.reached a ha).trans_lt hleast.1.1
  le := h.le.trans hleast.1.1.le
  reached := by
    intro entry hentry
    obtain hentry | hentry := List.mem_append.mp hentry
    · exact (h.reached entry hentry).trans hleast.1.1.le
    · rw [List.mem_singleton.mp hentry]
  sound := by
    intro entry hentry
    obtain hentry | hentry := List.mem_append.mp hentry
    · exact h.sound entry hentry
    · rw [List.mem_singleton.mp hentry]
      exact ⟨k, hk, hvalue⟩
  complete := by
    intro key hlt hle hviews
    by_cases hcurrent : key ≤ current
    · obtain ⟨value, hmem⟩ := h.complete key hlt hcurrent hviews
      exact ⟨value, List.mem_append_left _ hmem⟩
    · -- a key between two that follow each other would be in the view that was read there
      have hge : next ≤ key := hleast.2 ⟨not_le.mp hcurrent, hviews k hk⟩
      obtain rfl := le_antisymm hle hge
      exact ⟨value, List.mem_append_right _ (List.mem_singleton_self _)⟩

end Swept
