import TrishulSnmp.Mib.OidText
import TrishulSnmp.Wire.Pdu

namespace TrishulSnmp

open Mib Outcome

abbrev Resolver := String → Except Error OID

def normalizeTarget (bundle : Option Resolver) : Target → Except Error OID
  | .sequence arcs shown => parseOid (.sequence arcs shown)
  | .text target =>
    let stripped := PyText.strip target.toList
    if [':', ':'] <:+: stripped then
      match bundle with
      | none => .error (.unknownSymbolError s!"Symbolic target requires a loaded bundle: {target}")
      | some resolve => resolve (String.ofList stripped)
    else if isNumericOidText stripped then parseOid (.text (String.ofList stripped))
    else .error (.unknownSymbolError s!"Unrecognized target format: {target}")

def normalizeTargets (targets : List Target) (bundle : Option Resolver) : Except Error (List OID) :=
  if targets = [] then .error (.valueError "At least one target is required")
  else targets.mapM (normalizeTarget bundle)

theorem normalizeTargets_singleton (target : Target) (bundle : Option Resolver) :
    normalizeTargets [target] bundle = (normalizeTarget bundle target).map fun oid => [oid] := by
  rw [normalizeTargets, if_neg (by simp), List.mapM_cons, List.mapM_nil]
  cases normalizeTarget bundle target <;> rfl

def Mib.Target.Numeric : Target → Prop
  | .text target => ¬ [':', ':'] <:+: PyText.strip target.toList
  | .sequence _ _ => True

instance : DecidablePred Target.Numeric
  | .text target => inferInstanceAs (Decidable (¬ [':', ':'] <:+: PyText.strip target.toList))
  | .sequence _ _ => inferInstanceAs (Decidable True)

/-- A target that stands for an OID `parse_oid` would accept too: a numeric one, or one that the
bundle resolves to such an OID. -/
def Mib.Target.Proper (bundle : Option Resolver) (target : Target) : Prop :=
  target.Numeric ∨ ∀ resolve, bundle = some resolve → ∀ text oid, resolve text = .ok oid → WellFormed oid

theorem normalizeTarget_wellFormed {bundle : Option Resolver} {target : Target} {oid : OID}
    (hproper : target.Proper bundle) (h : normalizeTarget bundle target = .ok oid) : WellFormed oid := by
  cases target with
  | sequence arcs shown =>
    have h : parseOid (.sequence arcs shown) = .ok oid := h
    exact parseOid_wellFormed h
  | text target =>
    obtain ⟨hsymbolic, h⟩ | ⟨-, h⟩ := ite_cases h
    · obtain hnumeric | hresolve := hproper
      · exact absurd hsymbolic hnumeric
      · cases bundle with
        | none => cases h
        | some resolve => exact hresolve resolve rfl _ oid h
    · obtain ⟨-, h⟩ | ⟨-, h⟩ := ite_cases h
      · exact parseOid_wellFormed h
      · cases h

theorem normalizeTarget_sequence {oid : OID} (h : WellFormed oid) (bundle : Option Resolver)
    (shown : Except Error String) : normalizeTarget bundle (.sequence oid shown) = .ok oid := parseOid_sequence h shown

structure Display where
  oidMatch : Option OidMatch
  displayName : Option String
  displayValue : Option String

def Display.varbind (display : Display) (rawVarbind : RawVarBind) : VarBind :=
  { oid := rawVarbind.oid
    value := rawVarbind.value
    oidMatch := display.oidMatch
    displayName := display.displayName
    displayValue := display.displayValue }

abbrev Enricher := OID → SnmpValue → Except Error Display

def publicVarbind (enrich : Enricher) (rawVarbind : RawVarBind) : Except Error VarBind := do
  let display ← enrich rawVarbind.oid rawVarbind.value
  return display.varbind rawVarbind

end TrishulSnmp
