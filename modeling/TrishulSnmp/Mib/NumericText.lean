import TrishulSnmp.Library.IntText
import TrishulSnmp.Mib.SymbolicRoundTrip

namespace TrishulSnmp.Mib

open Outcome PyText

def components (value : List Char) : List (List Char) := splitDot (stripDots (strip value))

def AsciiRun (part : List Char) : Prop := part ≠ [] ∧ ∀ c ∈ part, c.isDigit

def NumericText (value : List Char) : Prop := ∀ part ∈ components value, AsciiRun part

def arcsOf (value : List Char) : OID := (components value).map fun part => ((Nat.ofDigitChars 10 part 0 : ℕ) : ℤ)

structure OneGrammar (value : String) : Prop where
  recognized : isNumericOidText value.toList ↔ ∃ oid, parseOid (.text value) = .ok oid
  numeric : isNumericOidText value.toList ↔ NumericText value.toList
  arcs : NumericText value.toList → parseOid (.text value) = .ok (arcsOf value.toList)

def TextRoundTrips (oid : OID) : Prop := ∃ text, oidToString oid = .ok text ∧ parseOid (.text text) = .ok oid

structure ReadAlike (value : List Char) : Prop where
  digits : (∀ part ∈ components value, allDigits part) → ∀ part ∈ components value, ∀ c ∈ part, c.isDigit
  literals : (∀ part ∈ components value, ∃ n : ℕ, IntLiteral part n) → ∀ part ∈ components value, ∀ c ∈ part, c.isDigit
  short : NumericText value → ∀ part ∈ components value, part.length ≤ maxStrDigits

section Readings

variable {value : List Char}

theorem components_nil (h : stripDots (strip value) = []) : components value = [[]] := by
  rw [components, h]
  rfl

theorem isNumericOidText_iff : isNumericOidText value ↔ ∀ part ∈ components value, allDigits part := by
  by_cases hempty : stripDots (strip value) = []
  · rw [components_nil hempty]
    simp [isNumericOidText, hempty, allDigits]
  · simp [isNumericOidText, hempty, components]

theorem parseOid_text_iff {value : String} {oid : OID} : parseOid (.text value) = .ok oid ↔
    (components value.toList).mapM parseInt = some oid ∧ ∀ arc ∈ oid, 0 ≤ arc := by
  by_cases hempty : stripDots (strip value.toList) = []
  · have hnone : [[]].mapM parseInt = none := rfl
    rw [components_nil hempty, hnone, parseOid]
    simp [hempty]
  · have hstrip : strip value.toList ≠ [] := by
      intro hnil
      rw [hnil] at hempty
      exact hempty rfl
    rw [parseOid, if_neg hstrip, if_neg hempty, ← components]
    cases (components value.toList).mapM parseInt with
    | none => simp
    | some arcs =>
      simp only [ite_ok_iff, Except.ok.injEq, Option.some.injEq]
      constructor
      · rintro ⟨hneg, rfl⟩
        exact ⟨rfl, by simpa using hneg⟩
      · rintro ⟨rfl, hnonneg⟩
        exact ⟨by simpa using hnonneg, rfl⟩

theorem parseOid_isOk_iff {value : String} : (∃ oid, parseOid (.text value) = .ok oid) ↔
    ∀ part ∈ components value.toList, ∃ n : ℕ, IntLiteral part n := by
  constructor
  · rintro ⟨oid, hoid⟩ part hpart
    obtain ⟨hparts, hnonneg⟩ := parseOid_text_iff.mp hoid
    obtain ⟨arc, harc, hparse⟩ := some_of_mapM hparts part hpart
    refine ⟨arc.toNat, parseInt_iff.mp ?_⟩
    rw [hparse, Int.toNat_of_nonneg (hnonneg arc harc)]
  · intro h
    have hparts : ∀ part ∈ components value.toList, parseInt part = some ((parseInt part).getD 0) := by
      intro part hpart
      obtain ⟨n, hn⟩ := h part hpart
      rw [parseInt_iff.mpr hn, Option.getD_some]
    refine ⟨_, parseOid_text_iff.mpr ⟨mapM_eq_some hparts, ?_⟩⟩
    rw [List.forall_mem_map]
    intro part hpart
    obtain ⟨n, hn⟩ := h part hpart
    rw [parseInt_iff.mpr hn]
    exact Int.natCast_nonneg n

theorem AsciiRun.literal_iff {part : List Char} (h : AsciiRun part) :
    (∃ n : ℕ, IntLiteral part n) ↔ part.length ≤ maxStrDigits := by
  simp only [← parseInt_iff, parseInt_isDigit h.1 h.2]
  split_ifs with hlength
  · simp [hlength]
  · simp [hlength]

theorem NumericText.recognized (h : NumericText value) : isNumericOidText value :=
  isNumericOidText_iff.mpr fun part hpart => allDigits_isDigit (h part hpart).1 (h part hpart).2

theorem NumericText.parsed {value : String} (h : NumericText value.toList)
    (hshort : ∀ part ∈ components value.toList, part.length ≤ maxStrDigits) :
    parseOid (.text value) = .ok (arcsOf value.toList) := by
  apply parseOid_text_iff.mpr
  constructor
  · apply mapM_eq_some
    intro part hpart
    rw [parseInt_isDigit (h part hpart).1 (h part hpart).2, if_pos (hshort part hpart)]
  · simp [arcsOf]

theorem numericText_of_digits (h : ∀ part ∈ components value, allDigits part)
    (hascii : ∀ part ∈ components value, ∀ c ∈ part, c.isDigit) : NumericText value := by
  intro part hpart
  refine ⟨?_, hascii part hpart⟩
  rintro rfl
  exact absurd (h [] hpart) (by decide)

theorem numericText_of_literals (h : ∀ part ∈ components value, ∃ n : ℕ, IntLiteral part n)
    (hascii : ∀ part ∈ components value, ∀ c ∈ part, c.isDigit) : NumericText value := by
  intro part hpart
  obtain ⟨n, hn⟩ := h part hpart
  exact ⟨hn.ne_nil, hascii part hpart⟩

end Readings

theorem oneGrammar_iff (value : String) : OneGrammar value ↔ ReadAlike value.toList := by
  constructor
  · intro ⟨hrecognized, hnumeric, _⟩
    refine ⟨?_, ?_, ?_⟩
    · intro hdigits part hpart
      exact (hnumeric.mp (isNumericOidText_iff.mpr hdigits) part hpart).2
    · intro hliterals part hpart
      exact (hnumeric.mp (hrecognized.mpr (parseOid_isOk_iff.mpr hliterals)) part hpart).2
    · intro htext part hpart
      have hliterals := parseOid_isOk_iff.mp (hrecognized.mp htext.recognized)
      exact (htext part hpart).literal_iff.mp (hliterals part hpart)
  · intro ⟨hdigits, hliterals, hshort⟩
    have hnumeric : isNumericOidText value.toList ↔ NumericText value.toList := by
      constructor
      · intro h
        have hall := isNumericOidText_iff.mp h
        exact numericText_of_digits hall (hdigits hall)
      · exact NumericText.recognized
    refine ⟨hnumeric.trans ⟨?_, ?_⟩, hnumeric, fun htext => htext.parsed (hshort htext)⟩
    · intro htext
      exact ⟨_, htext.parsed (hshort htext)⟩
    · intro hparsed
      have hall := parseOid_isOk_iff.mp hparsed
      exact numericText_of_literals hall (hliterals hall)

theorem textRoundTrips_iff {oid : OID} (h : WellFormed oid) : TextRoundTrips oid ↔ ShownArcs oid := by
  constructor
  · rintro ⟨text, htext, -⟩
    exact oidToString_isOk_iff.mp ⟨text, htext⟩
  · intro hshown
    obtain ⟨text, htext, hlist⟩ := oidToString_nonneg h.2 hshown
    refine ⟨text, htext, ?_⟩
    have hparse := parseOid_dotted h.1 h.2 hshown
    rwa [← hlist, String.ofList_toList] at hparse

theorem numeric_text_iff (value : String) {oid : OID} (h : WellFormed oid) :
    (OneGrammar value ↔ ReadAlike value.toList) ∧ (TextRoundTrips oid ↔ ShownArcs oid) :=
  ⟨oneGrammar_iff value, textRoundTrips_iff h⟩

theorem numeric_text_sample : OneGrammar " .1.3.6 " ∧ TextRoundTrips [1, 3, 6] := by
  have hparts : components " .1.3.6 ".toList = [['1'], ['3'], ['6']] := by decide
  have hdigits : ∀ part ∈ components " .1.3.6 ".toList, ∀ c ∈ part, c.isDigit := by
    rw [hparts]
    simp
  have hreadings := numeric_text_iff " .1.3.6 " (show WellFormed [1, 3, 6] by decide)
  refine ⟨hreadings.1.mpr ⟨fun _ => hdigits, fun _ => hdigits, fun _ => ?_⟩, hreadings.2.mpr ?_⟩
  · rw [hparts]
    decide
  · unfold ShownArcs
    decide

theorem numeric_text_disagrees : isNumericOidText "1.²".toList ∧
    parseOid (.text "1.²") = .error (.invalidOidError "OID contains a non-numeric arc: 1.²") ∧
    isNumericOidText "+1.2_0".toList = false ∧ parseOid (.text "+1.2_0") = .ok [1, 20] ∧
    ¬ OneGrammar "1.²" ∧ ¬ OneGrammar "+1.2_0" := by
  have hdigit : isNumericOidText "1.²".toList := by decide
  have herror : parseOid (.text "1.²") = .error (.invalidOidError "OID contains a non-numeric arc: 1.²") := by decide
  have hloose : isNumericOidText "+1.2_0".toList = false := by decide
  have hparsed : parseOid (.text "+1.2_0") = .ok [1, 20] := by decide
  refine ⟨hdigit, herror, hloose, hparsed, ?_, ?_⟩
  · intro h
    obtain ⟨oid, hoid⟩ := h.recognized.mp hdigit
    rw [herror] at hoid
    cases hoid
  · intro h
    have := h.recognized.mpr ⟨_, hparsed⟩
    rw [hloose] at this
    cases this

end TrishulSnmp.Mib
