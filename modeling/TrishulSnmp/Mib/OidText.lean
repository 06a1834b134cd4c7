import Mathlib.Data.List.Infix
import TrishulSnmp.Library.Outcome
import TrishulSnmp.Library.PyText
import TrishulSnmp.Types

namespace TrishulSnmp.Mib

open Outcome PyText

def tupleText (arcs : List ℤ) : Except Error String := do
  match ← arcs.mapM formatInt with
  | [arc] => return "(" ++ arc ++ ",)"
  | shown => return "(" ++ ", ".intercalate shown ++ ")"

/-- An argument of type `str | Sequence[int]`; `shown` is what `str()` makes of the sequence. -/
inductive Target
  | text (value : String)
  | sequence (arcs : List ℤ) (shown : Except Error String)

def stripDots (text : List Char) : List Char := PyText.lstrip (· == '.') text

def parseOid : Target → Except Error OID
  | .text value =>
    let text := PyText.strip value.toList
    if text = [] then .error (.invalidOidError "OID cannot be empty")
    else if stripDots text = [] then .error (.invalidOidError "OID cannot be empty")
    else match (PyText.splitDot (stripDots text)).mapM PyText.parseInt with
      | none => .error (.invalidOidError s!"OID contains a non-numeric arc: {value}")
      | some oid =>
        if oid.any (· < 0) then .error (.invalidOidError s!"OID contains a negative arc: {value}")
        else .ok oid
  | .sequence arcs shown =>
    if arcs = [] then .error (.invalidOidError "OID cannot be empty")
    else if arcs.any (· < 0) then do
      .error (.invalidOidError s!"OID contains a non-integer or negative arc: {← shown}")
    else .ok arcs

def isNumericOidText (value : List Char) : Bool :=
  let text := stripDots (PyText.strip value)
  !text.isEmpty && (PyText.splitDot text).all PyText.allDigits

def WellFormed (oid : OID) : Prop := oid ≠ [] ∧ ∀ arc ∈ oid, 0 ≤ arc

instance : DecidablePred WellFormed := fun _ => inferInstanceAs (Decidable (_ ∧ _))

theorem parseOid_wellFormed {target : Target} {oid : OID} (h : parseOid target = .ok oid) : WellFormed oid := by
  have nonneg {arcs : List ℤ} (h : ¬ arcs.any (· < 0)) : ∀ arc ∈ arcs, 0 ≤ arc := by
    simpa using h
  cases target with
  | text value =>
    rw [parseOid, ite_ok_iff, ite_ok_iff] at h
    obtain ⟨-, -, h⟩ := h
    split at h
    · cases h
    · rename_i arcs harcs
      rw [ite_ok_iff, Except.ok.injEq] at h
      obtain ⟨hneg, rfl⟩ := h
      refine ⟨?_, nonneg hneg⟩
      rintro rfl
      have hlen := length_of_mapM harcs
      exact splitDot_ne_nil _ (List.length_eq_zero_iff.mp hlen.symm)
  | sequence arcs shown =>
    rw [parseOid, ite_ok_iff, ite_raise_ok_iff, Except.ok.injEq] at h
    obtain ⟨hne, hneg, rfl⟩ := h
    exact ⟨hne, nonneg hneg⟩

theorem parseOid_sequence {oid : OID} (h : WellFormed oid) (shown : Except Error String) :
    parseOid (.sequence oid shown) = .ok oid := by
  rw [parseOid, if_neg h.1, if_neg]
  simpa using h.2

end TrishulSnmp.Mib
