import TrishulSnmp.Display
import TrishulSnmp.Runtime

namespace TrishulSnmp.Mib

open Outcome

def unlessUnknownOid {α : Type} : Except Error α → Except Error (Option α)
  | .ok a => .ok (some a)
  | .error (.unknownOidError _) => .ok none
  | .error e => .error e

def Json.int? : Json → Option ℤ
  | .int value => some value
  | .bool value => some (if value then 1 else 0)
  | _ => none

def enumLabelFromItem (value : ℤ) : Json → Option String
  | .list [.str label, number] => if number.int? = some value then some label else none
  | _ => none

def enumLabelFromConstraints (constraints : Option (List (String × Json))) (value : ℤ) : Option String :=
  match constraints with
  | none => none
  | some members =>
    match Json.member? members "kind", Json.member? members "data" with
    | some (.str "enum"), some (.list items) => items.findSome? (enumLabelFromItem value)
    | _, _ => none

namespace MibRegistry

variable (registry : MibRegistry)

def lookupOrNone (oid : OID) : Except Error (Option OidMatch) :=
  unlessUnknownOid (registry.lookupOid (.sequence oid (tupleText oid)))

def resolveRecordNode (oidMatch : OidMatch) : Option MibNode :=
  match registry.modules.get? oidMatch.module with
  | none => none
  | some record => (record.objects.get? oidMatch.symbol).or (record.notifications.get? oidMatch.symbol)

def resolveEnumLabel (oidMatch : OidMatch) (value : ℤ) : Option String :=
  match registry.resolveRecordNode oidMatch with
  | none => none
  | some node =>
    match enumLabelFromConstraints node.constraints value with
    | some label => some label
    | none =>
      match node.syntaxName.bind fun typeName => registry.resolveType oidMatch.module typeName with
      | none => none
      | some record => enumLabelFromConstraints record.constraints value

def renderName : Option OidMatch → Except Error (Option String)
  | none => .ok none
  | some oidMatch => do return some (← registry.displaySymbolicFromMatch oidMatch)

def renderValue (value : SnmpValue) (oidMatch : Option OidMatch) : Except Error String :=
  match value with
  | .objectIdentifierValue oid => do
    match ← unlessUnknownOid (registry.translate (.sequence oid (tupleText oid))) with
    | some text => return text
    | none => value.toDisplayString
  | .integerValue number =>
    match oidMatch.bind fun oidMatch => registry.resolveEnumLabel oidMatch number with
    | some label => do return s!"{label}({← formatInt number})"
    | none => value.toDisplayString
  | _ => value.toDisplayString

end MibRegistry

def enrichVarbind (bundle : Option MibRegistry) : Enricher := fun oid value =>
  match bundle with
  | none => do return { oidMatch := none, displayName := none, displayValue := some (← value.toDisplayString) }
  | some registry => do
    let oidMatch ← registry.lookupOrNone oid
    let displayName ← registry.renderName oidMatch
    let displayValue ← registry.renderValue value oidMatch
    return { oidMatch := oidMatch, displayName := displayName, displayValue := some displayValue }

def MibRegistry.unnamedArcs (registry : MibRegistry) (oid : OID) : OID :=
  match registry.lookupPrefix oid oid.length with
  | some oidMatch => (registry.displayMatch oidMatch).suffix
  | none => oid

def MibRegistry.valueIntegers (registry : MibRegistry) : SnmpValue → List ℤ
  | .objectIdentifierValue named => registry.unnamedArcs named
  | value => value.shownIntegers

/-- The integers that showing a varbind turns into decimal text. -/
def shownIntegers (bundle : Option MibRegistry) (oid : OID) (value : SnmpValue) : List ℤ :=
  match bundle with
  | none => value.shownIntegers
  | some registry => registry.unnamedArcs oid ++ registry.valueIntegers value

def IsValueError (e : Error) : Prop := ∃ text, e = .valueError text

theorem oidToString_failsOnly (oid : OID) : FailsOnly IsValueError (oidToString oid) := by
  refine failsOnly_bind (failsOnly_mapM fun arc _ => ?_) fun _ _ => failsOnly_ok _
  by_cases harc : PyText.Printable arc
  · obtain ⟨text, htext⟩ := formatInt_ok harc
    exact htext ▸ failsOnly_ok text
  · obtain ⟨message, hmessage⟩ := formatInt_error harc
    exact hmessage ▸ failsOnly_error ⟨message, rfl⟩

theorem symbolic_failsOnly (oidMatch : OidMatch) : FailsOnly IsValueError oidMatch.symbolic :=
  failsOnly_ite (fun _ => failsOnly_ok _) fun _ =>
    failsOnly_bind (oidToString_failsOnly _) fun _ _ => failsOnly_ok _

theorem symbolic_isOk_iff {oidMatch : OidMatch} :
    (∃ text, oidMatch.symbolic = .ok text) ↔ ShownArcs oidMatch.suffix := by
  rw [OidMatch.symbolic, ← oidToString_isOk_iff]
  by_cases hsuffix : oidMatch.suffix = []
  · rw [if_pos hsuffix, hsuffix]
    exact ⟨fun _ => ⟨_, rfl⟩, fun _ => ⟨_, rfl⟩⟩
  · rw [if_neg hsuffix]
    exact isOk_map_iff

theorem printable_zero : PyText.Printable 0 := by decide +kernel

theorem MibRegistry.shownArcs_displayMatch (registry : MibRegistry) {oidMatch : OidMatch}
    (h : ShownArcs oidMatch.suffix) :
    ShownArcs (registry.displayMatch oidMatch).suffix := by
  rw [displayMatch]
  split_ifs
  · exact h
  · split
    · exact h
    · split_ifs
      · exact h
      · intro arc harc
        exact List.mem_singleton.mp harc ▸ printable_zero

theorem unlessUnknownOid_of_valueError {α : Type} {x : Except Error α} (h : FailsOnly IsValueError x) :
    unlessUnknownOid x = (do return some (← x)) := by
  cases x with
  | ok a => rfl
  | error e =>
    obtain ⟨text, rfl⟩ := h e rfl
    rfl

namespace MibRegistry

variable (registry : MibRegistry) {oid : OID}

theorem lookupOrNone_eq (hoid : WellFormed oid) : registry.lookupOrNone oid =
    match registry.lookupPrefix oid oid.length with
    | some oidMatch => .ok (some oidMatch)
    | none => oidToString oid >>= fun _ => .ok none := by
  rw [lookupOrNone, registry.lookupOid_of_parse (parseOid_sequence hoid _)]
  cases registry.lookupPrefix oid oid.length with
  | some oidMatch => rfl
  | none =>
    cases hshown : oidToString oid with
    | ok shown => rfl
    | error e =>
      obtain ⟨text, rfl⟩ := oidToString_failsOnly oid e hshown
      rfl

theorem unlessUnknownOid_translate (oid : OID) :
    unlessUnknownOid (registry.translate (.sequence oid (tupleText oid))) =
      registry.lookupOrNone oid >>= registry.renderName := by
  rw [translate, displaySymbolic, lookupOrNone]
  cases registry.lookupOid (.sequence oid (tupleText oid)) with
  | ok oidMatch => exact unlessUnknownOid_of_valueError (symbolic_failsOnly _)
  | error e => cases e <;> rfl

theorem renderName_isOk_iff (hoid : WellFormed oid) :
    (∃ name, (registry.lookupOrNone oid >>= registry.renderName) = .ok name) ↔
    ShownArcs (registry.unnamedArcs oid) := by
  rw [lookupOrNone_eq registry hoid, unnamedArcs]
  cases registry.lookupPrefix oid oid.length with
  | some oidMatch =>
    rw [ok_bind, renderName, isOk_map_iff, displaySymbolicFromMatch]
    exact symbolic_isOk_iff
  | none =>
    have hnone : (oidToString oid >>= fun _ => .ok none) >>= registry.renderName =
        oidToString oid >>= fun _ => pure none := by
      cases oidToString oid <;> rfl
    simp only [hnone]
    rw [isOk_map_iff]
    exact oidToString_isOk_iff

theorem renderValue_oid_isOk_iff (hoid : WellFormed oid) (oidMatch : Option OidMatch) :
    (∃ text, registry.renderValue (.objectIdentifierValue oid) oidMatch = .ok text) ↔
      ShownArcs (registry.unnamedArcs oid) := by
  rw [← renderName_isOk_iff registry hoid, renderValue, unlessUnknownOid_translate]
  constructor
  · rintro ⟨text, h⟩
    obtain ⟨name, hname, -⟩ := bind_ok_iff.mp h
    exact ⟨name, hname⟩
  · rintro ⟨name, hname⟩
    rw [hname, ok_bind]
    cases name with
    | some text => exact ⟨text, rfl⟩
    | none =>
      -- no part of the OID has a name: all its arcs were turned into text for the error that was caught
      obtain ⟨oidMatch, hmatch, hname⟩ := bind_ok_iff.mp hname
      cases oidMatch with
      | some oidMatch =>
        obtain ⟨_, _, hname⟩ := bind_ok_iff.mp hname
        cases hname
      | none =>
        rw [lookupOrNone_eq registry hoid] at hmatch
        split at hmatch
        · cases hmatch
        · obtain ⟨text, htext, -⟩ := bind_ok_iff.mp hmatch
          exact ⟨text, htext⟩

theorem renderValue_isOk_iff {value : SnmpValue}
    (hvalue : ∀ named, value = .objectIdentifierValue named → WellFormed named) (oidMatch : Option OidMatch) :
    (∃ text, registry.renderValue value oidMatch = .ok text) ↔
      ∀ n ∈ registry.valueIntegers value, PyText.Printable n := by
  have hplain := @SnmpValue.toDisplayString_isOk_iff value
  cases value with
  | objectIdentifierValue named => exact registry.renderValue_oid_isOk_iff (hvalue named rfl) oidMatch
  | integerValue number =>
    rw [renderValue]
    split
    · simp only [valueIntegers, SnmpValue.shownIntegers, List.mem_singleton, forall_eq, ← formatInt_isOk_iff]
      exact isOk_map_iff
    · exact hplain
  | _ => exact hplain

end MibRegistry

theorem enrichVarbind_isOk_iff (bundle : Option MibRegistry) {oid : OID} (hoid : WellFormed oid) {value : SnmpValue}
    (hvalue : ∀ named, value = .objectIdentifierValue named → WellFormed named) :
    (∃ display, enrichVarbind bundle oid value = .ok display) ↔
      ∀ n ∈ shownIntegers bundle oid value, PyText.Printable n := by
  cases bundle with
  | none =>
    rw [shownIntegers, ← SnmpValue.toDisplayString_isOk_iff]
    exact isOk_map_iff
  | some registry =>
    have hname := registry.renderName_isOk_iff hoid
    have htext := registry.renderValue_isOk_iff hvalue
    rw [shownIntegers, List.forall_mem_append]
    constructor
    · rintro ⟨display, h⟩
      obtain ⟨oidMatch, hmatch, h⟩ := bind_ok_iff.mp h
      obtain ⟨name, hrender, h⟩ := bind_ok_iff.mp h
      obtain ⟨text, hvalue, -⟩ := bind_ok_iff.mp h
      exact ⟨hname.mp ⟨name, bind_ok_iff.mpr ⟨oidMatch, hmatch, hrender⟩⟩, (htext oidMatch).mp ⟨text, hvalue⟩⟩
    · rintro ⟨harcs, hintegers⟩
      obtain ⟨name, h⟩ := hname.mpr harcs
      obtain ⟨oidMatch, hmatch, hrender⟩ := bind_ok_iff.mp h
      obtain ⟨text, hvalue⟩ := (htext oidMatch).mpr hintegers
      exact ⟨⟨oidMatch, name, some text⟩, by simp only [enrichVarbind, hmatch, hrender, hvalue, ok_bind]; rfl⟩

end TrishulSnmp.Mib
