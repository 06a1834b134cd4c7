import TrishulSnmp.Mib.Models
import TrishulSnmp.Mib.OidText

namespace TrishulSnmp

open Outcome

def Mib.oidToString (oid : OID) : Except Error String := do
  return ".".intercalate (← oid.mapM formatInt)

def OidMatch.symbolic (oidMatch : OidMatch) : Except Error String := do
  let base := s!"{oidMatch.module}::{oidMatch.symbol}"
  if oidMatch.suffix = [] then return base
  return s!"{base}.{← Mib.oidToString oidMatch.suffix}"

namespace Mib

def parseSymbolicTarget (target : String) : Except Error (String × String × OID) :=
  match PyText.partition "::".toList target.toList with
  | none => .error (.unknownSymbolError s!"Symbolic target must use MODULE::symbol form: {target}")
  | some (module, remainder) =>
    if module = [] ∨ remainder = [] then
      .error (.unknownSymbolError s!"Symbolic target must use MODULE::symbol form: {target}")
    else match PyText.partition ".".toList remainder with
      | none => .ok (String.ofList module, String.ofList remainder, [])
      | some (symbol, suffix) =>
        if symbol = [] then
          .error (.unknownSymbolError s!"Symbolic target is missing an object name: {target}")
        else if suffix = [] ∨ ¬ isNumericOidText suffix then
          .error (.unknownSymbolError s!"Only numeric instance suffixes are supported in symbolic targets: {target}")
        else do
          let arcs ← parseOid (.text (String.ofList suffix))
          return (String.ofList module, String.ofList symbol, arcs)

structure OidIndexEntry where
  module : String
  symbol : String
  deriving DecidableEq, Repr

structure MibRegistry where
  modules : PyDict String MibModuleRecord
  symbolIndex : PyDict (String × String) MibNode
  exactOidIndex : PyDict OID MibNode
  typeIndex : PyDict (String × String) MibTypeRecord
  oidIndex : PyDict OID OidIndexEntry

namespace MibRegistry

def init (modules : PyDict String MibModuleRecord) (oidIndex : PyDict OID OidIndexEntry) : MibRegistry :=
  let nodes := modules.values.flatMap fun record => record.iterNodes.map fun node => (record, node)
  let types := modules.values.flatMap fun record => record.types.values.map fun type => (record, type)
  { modules := modules
    symbolIndex := .ofEntries (nodes.map fun (record, node) => ((record.module, node.name), node))
    exactOidIndex := .ofEntries (nodes.map fun (_, node) => (node.oid, node))
    typeIndex := .ofEntries (types.map fun (record, type) => ((record.module, type.name), type))
    oidIndex := oidIndex }

variable (registry : MibRegistry)

def resolveSymbolic (target : String) : Except Error OID := do
  let (module, symbol, suffix) ← parseSymbolicTarget target
  match registry.symbolIndex.get? (module, symbol) with
  | none => .error (.unknownSymbolError s!"Unknown symbolic target: {target}")
  | some node => return node.oid ++ suffix

def lookupExactFromAccelerator (oid : OID) : Option MibNode :=
  match registry.oidIndex.get? oid with
  | none => none
  | some entry => registry.symbolIndex.get? (entry.module, entry.symbol)

def nodeAt (oid : OID) : Option MibNode :=
  (registry.lookupExactFromAccelerator oid).or (registry.exactOidIndex.get? oid)

def matchOf (node : MibNode) (oid suffix : OID) : OidMatch :=
  { oid := oid
    module := node.module
    symbol := node.name
    matchedOid := node.oid
    suffix := suffix
    className := node.className
    objectType := node.objectType
    nodetype := node.nodetype }

def lookupPrefix (oid : OID) : ℕ → Option OidMatch
  | 0 => none
  | prefixLen + 1 =>
    match registry.nodeAt (oid.take (prefixLen + 1)) with
    | some node => some (matchOf node oid (oid.drop (prefixLen + 1)))
    | none => lookupPrefix oid prefixLen

def lookupOid (value : Target) : Except Error OidMatch := do
  let oid ← parseOid value
  match registry.nodeAt oid with
  | some node => return matchOf node oid []
  | none =>
    match registry.lookupPrefix oid (oid.length - 1) with
    | some oidMatch => return oidMatch
    | none => .error (.unknownOidError s!"Unknown numeric OID: {← oidToString oid}")

def displayMatch (oidMatch : OidMatch) : OidMatch :=
  if oidMatch.suffix ≠ [] ∨ oidMatch.objectType ≠ some "OBJECT IDENTIFIER" ∨ oidMatch.oid.getLast? ≠ some 0 then
    oidMatch
  else match registry.exactOidIndex.get? oidMatch.oid.dropLast with
    | none => oidMatch
    | some parent =>
      if parent.objectType ≠ "OBJECT-TYPE" ∨ parent.nodetype ≠ some "scalar" then oidMatch
      else matchOf parent oidMatch.oid [0]

def displaySymbolicFromMatch (oidMatch : OidMatch) : Except Error String :=
  (registry.displayMatch oidMatch).symbolic

def displaySymbolic (value : Target) : Except Error String := do
  let oidMatch ← registry.lookupOid value
  registry.displaySymbolicFromMatch oidMatch

def translate : Target → Except Error String
  | .text target =>
    if PyText.strip target.toList = [] then
      .error (.translationError "Translation target cannot be empty")
    else if ¬ isNumericOidText target.toList ∧ [':', ':'] <:+: target.toList then do
      oidToString (← registry.resolveSymbolic target)
    else registry.displaySymbolic (.text target)
  | .sequence arcs shown => registry.displaySymbolic (.sequence arcs shown)

def resolveType (module typeName : String) : Option MibTypeRecord :=
  match registry.typeIndex.get? (module, typeName) with
  | some direct => some direct
  | none =>
    match registry.modules.get? module with
    | none => none
    | some record =>
      match record.imports.entries.find? fun imported => typeName ∈ imported.2 with
      | none => none
      | some imported => registry.typeIndex.get? (imported.1, typeName)

def resolveNode (module symbol : String) : Option MibNode := registry.symbolIndex.get? (module, symbol)

theorem lookupOid_of_parse {value : Target} {oid : OID} (h : parseOid value = .ok oid) :
    registry.lookupOid value =
      match registry.lookupPrefix oid oid.length with
      | some oidMatch => .ok oidMatch
      | none => oidToString oid >>= fun shown => .error (.unknownOidError s!"Unknown numeric OID: {shown}") := by
  obtain ⟨n, hn⟩ := Nat.exists_eq_add_one_of_ne_zero (mt List.length_eq_zero_iff.mp (parseOid_wellFormed h).1)
  have hwhole : oid.take (n + 1) = oid := hn ▸ List.take_length
  have hrest : oid.drop (n + 1) = [] := hn ▸ List.drop_length
  rw [lookupOid, h, ok_bind, hn, lookupPrefix, hwhole, hrest, Nat.add_sub_cancel]
  cases registry.nodeAt oid with
  | some node => rfl
  | none => rfl

end MibRegistry

end Mib

end TrishulSnmp
