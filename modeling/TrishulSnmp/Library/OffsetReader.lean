import Mathlib.Data.List.Basic
import TrishulSnmp.Library.Outcome

/-!
Readers in the style of hand-written binary parsers: a reader is given the whole input and the
offset where its item starts, and returns the item with the offset just past it.
-/

namespace OffsetReader

open Outcome

abbrev Reader (ε β α : Type) := List β → ℕ → Except ε (α × ℕ)

variable {ε β α γ : Type}

/-- `read` accepts exactly the encodings `G` gives to an item, wherever they stand in the input. -/
structure Reads (read : Reader ε β α) (G : α → List β → Prop) : Prop where
  sound : ∀ {data : List β} {offset : ℕ} {x : α} {stop : ℕ}, read data offset = .ok (x, stop) →
    ∃ enc, G x enc ∧ data.drop offset = enc ++ data.drop stop ∧ stop = offset + enc.length
  complete : ∀ {x : α} {enc : List β} (pre rest : List β), G x enc →
    read (pre ++ enc ++ rest) pre.length = .ok (x, pre.length + enc.length)

def slice (data : List β) (start stop : ℕ) : List β := (data.drop start).take (stop - start)

theorem slice_append (pre enc rest : List β) :
    slice (pre ++ enc ++ rest) pre.length (pre.length + enc.length) = enc := by
  simp [slice]

theorem slice_append_drop (data : List β) (start stop : ℕ) (h : start ≤ stop) :
    data.drop start = slice data start stop ++ data.drop stop := by
  obtain ⟨k, rfl⟩ := Nat.exists_eq_add_of_le h
  rw [slice, Nat.add_sub_cancel_left, ← List.drop_drop, List.take_append_drop]

theorem length_slice (data : List β) (start stop : ℕ) (h : stop ≤ data.length) :
    (slice data start stop).length = stop - start := by
  rw [slice, List.length_take, List.length_drop]
  omega

theorem drop_length_append (pre rest : List β) : (pre ++ rest).drop pre.length = rest := by simp

theorem drop_eq_nil_of_eq {data : List β} {offset : ℕ} (h : offset = data.length) :
    data.drop offset = [] := by simp [h]

theorem length_of_drop_eq {data enc : List β} {offset stop : ℕ} (hne : enc ≠ [])
    (h : data.drop offset = enc ++ data.drop stop) (hstop : stop = offset + enc.length) :
    offset < stop ∧ stop ≤ data.length := by
  have hpos : 0 < enc.length := List.length_pos_iff.mpr hne
  have hlen := congrArg List.length h
  simp only [List.length_drop, List.length_append] at hlen
  omega

variable {read : Reader ε β α} {G : α → List β → Prop}

theorem Reads.at_start (hr : Reads read G) {x : α} {enc : List β} (rest : List β) (h : G x enc) :
    read (enc ++ rest) 0 = .ok (x, enc.length) := by
  simpa using hr.complete [] rest h

theorem Reads.after (hr : Reads read G) {x : α} {enc : List β} (pre rest : List β) (h : G x enc) :
    read (pre ++ (enc ++ rest)) pre.length = .ok (x, (pre ++ enc).length) := by
  rw [← List.append_assoc, hr.complete pre rest h, List.length_append]

theorem Reads.whole_iff (hr : Reads read G) (data : List β) (x : α) :
    read data 0 = .ok (x, data.length) ↔ G x data := by
  constructor
  · intro h
    obtain ⟨enc, hg, hd, -⟩ := hr.sound h
    have he : data = enc := by simpa using hd
    exact he ▸ hg
  · intro h
    simpa using hr.complete [] [] h

theorem Reads.unique (hr : Reads read G) {x y : α} {ex ey rx ry : List β} (hx : G x ex) (hy : G y ey)
    (h : ex ++ rx = ey ++ ry) : x = y ∧ ex = ey := by
  have h1 := hr.at_start rx hx
  have h2 := hr.at_start ry hy
  rw [h, h2, Except.ok.injEq, Prod.mk.injEq] at h1
  exact ⟨h1.1.symm, (List.append_inj h h1.2.symm).1⟩

/-- The loop `while offset < len(data): x, offset = read(data, offset); items.append(x)`.
`stuck` stands for a loop that does not end. -/
def readMany (read : Reader ε β α) (stuck : ε) (data : List β) : ℕ → ℕ → Except ε (List α × ℕ)
  | 0, _ => .error stuck
  | fuel + 1, offset =>
    if offset < data.length then do
      let (x, offset) ← read data offset
      let (xs, offset) ← readMany read stuck data fuel offset
      return (x :: xs, offset)
    else .ok ([], offset)

inductive Sequence (G : α → List β → Prop) : List α → List β → Prop
  | nil : Sequence G [] []
  | cons {x : α} {xs : List α} {enc encs : List β} :
      G x enc → Sequence G xs encs → Sequence G (x :: xs) (enc ++ encs)

theorem Sequence.mono {H : α → List β → Prop} (h : ∀ x enc, G x enc → H x enc) {xs : List α} {enc : List β}
    (hs : Sequence G xs enc) : Sequence H xs enc := by
  induction hs with
  | nil => exact .nil
  | cons hx _ ih => exact .cons (h _ _ hx) ih

theorem sequence_iff_pieces {xs : List α} {enc : List β} :
    Sequence G xs enc ↔ ∃ encs, enc = encs.flatten ∧ List.Forall₂ G xs encs := by
  constructor
  · intro hs
    induction hs with
    | nil => exact ⟨[], rfl, .nil⟩
    | @cons _ _ enc _ hx _ ih =>
      obtain ⟨encs, rfl, hall⟩ := ih
      exact ⟨enc :: encs, rfl, .cons hx hall⟩
  · rintro ⟨encs, rfl, hall⟩
    induction hall with
    | nil => exact .nil
    | cons hx _ ih => exact .cons hx ih

theorem Sequence.functional (h : ∀ x enc enc', G x enc → G x enc' → enc = enc') {xs : List α} {enc enc' : List β}
    (hs : Sequence G xs enc) (hs' : Sequence G xs enc') : enc = enc' := by
  induction hs generalizing enc' with
  | nil =>
    cases hs'
    rfl
  | cons hx _ ih =>
    cases hs' with
    | cons hx' hs' => rw [h _ _ _ hx hx', ih hs']

theorem Sequence.exists_encoding {xs : List α} {enc : List β} (hs : Sequence G xs enc) : ∀ x ∈ xs, ∃ enc, G x enc := by
  induction hs with
  | nil => simp
  | cons hx _ ih => exact List.forall_mem_cons.mpr ⟨⟨_, hx⟩, ih⟩

theorem readMany_sound (hr : Reads read G) (hne : ∀ x enc, G x enc → enc ≠ []) {stuck : ε}
    {data : List β} (fuel offset : ℕ) {xs : List α} {stop : ℕ} (hle : offset ≤ data.length)
    (h : readMany read stuck data fuel offset = .ok (xs, stop)) :
    Sequence G xs (data.drop offset) ∧ stop = data.length := by
  induction fuel generalizing offset xs stop with
  | zero => cases h
  | succ fuel ih =>
    by_cases hlt : offset < data.length
    · simp only [readMany, if_pos hlt, bind_ok_iff] at h
      obtain ⟨⟨x, next⟩, hx, ⟨ys, stop'⟩, hys, h⟩ := h
      obtain ⟨rfl, rfl⟩ : x :: ys = xs ∧ stop' = stop := by simpa using h
      obtain ⟨enc, hg, hd, hnext⟩ := hr.sound hx
      have hbound := (length_of_drop_eq (hne x enc hg) hd hnext).2
      obtain ⟨hseq, hstop⟩ := ih next hbound hys
      exact ⟨hd ▸ .cons hg hseq, hstop⟩
    · simp only [readMany, if_neg hlt, Except.ok.injEq, Prod.mk.injEq] at h
      obtain ⟨rfl, rfl⟩ := h
      rw [List.drop_eq_nil_of_le (by omega)]
      exact ⟨.nil, by omega⟩

theorem readMany_complete (hr : Reads read G) (hne : ∀ x enc, G x enc → enc ≠ []) (stuck : ε)
    (pre : List β) {xs : List α} {encs : List β} (h : Sequence G xs encs) (fuel : ℕ)
    (hfuel : encs.length < fuel) :
    readMany read stuck (pre ++ encs) fuel pre.length = .ok (xs, (pre ++ encs).length) := by
  induction h generalizing pre fuel with
  | nil =>
    obtain ⟨k, rfl⟩ := Nat.exists_eq_add_of_lt hfuel
    simp [readMany]
  | @cons x xs enc encs hg hseq ih =>
    have hpos : 0 < enc.length := List.length_pos_iff.mpr (hne x enc hg)
    obtain ⟨k, rfl⟩ : ∃ k, fuel = k + 1 := ⟨fuel - 1, by omega⟩
    rw [List.length_append] at hfuel
    have hread := hr.complete pre encs hg
    have hrest := ih (pre ++ enc) k (by omega)
    rw [List.append_assoc] at hread
    rw [List.append_assoc, List.length_append] at hrest
    have hlt : pre.length < (pre ++ (enc ++ encs)).length := by simp; omega
    simp only [readMany, if_pos hlt, hread, hrest, ok_bind]
    rfl

theorem readMany_failsOnly (P : ε → Prop) (hr : Reads read G) (hne : ∀ x enc, G x enc → enc ≠ [])
    {data : List β} (hfail : ∀ offset, FailsOnly P (read data offset)) {stuck : ε} (fuel offset : ℕ)
    (hle : offset ≤ data.length) (hfuel : data.length - offset < fuel) :
    FailsOnly P (readMany read stuck data fuel offset) := by
  induction fuel generalizing offset with
  | zero => omega
  | succ fuel ih =>
    by_cases hlt : offset < data.length
    · rw [readMany, if_pos hlt]
      apply failsOnly_bind (hfail offset)
      rintro ⟨x, next⟩ hx
      obtain ⟨enc, hg, hd, hnext⟩ := hr.sound hx
      have hb := length_of_drop_eq (hne x enc hg) hd hnext
      apply failsOnly_bind (ih next hb.2 (by omega))
      intro _ _
      exact failsOnly_ok _
    · rw [readMany, if_neg hlt]
      exact failsOnly_ok _

end OffsetReader
