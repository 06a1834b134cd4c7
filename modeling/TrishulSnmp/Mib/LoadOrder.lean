import TrishulSnmp.Mib.Accelerator

namespace TrishulSnmp.Mib

open Outcome

def MibRegistry.ofRecords (records : List MibModuleRecord) (oidIndex : PyDict OID OidIndexEntry) : MibRegistry :=
  init (.ofEntries (records.map fun record => (record.module, record))) oidIndex

def MibRegistry.SameMeaning (registry other : MibRegistry) : Prop :=
  (∀ target, registry.resolveSymbolic target = other.resolveSymbolic target) ∧
    (∀ target, SameAnswers registry other target) ∧
    ∀ module typeName, registry.resolveType module typeName = other.resolveType module typeName

def lastDefined (records : List MibModuleRecord) (oid : OID) : Option MibNode :=
  (records.flatMap MibModuleRecord.iterNodes).reverse.find? fun node => node.oid = oid

def namedNode (records : List MibModuleRecord) (module symbol : String) : Option MibNode :=
  (records.find? fun record => record.module = module).bind fun record =>
    record.iterNodes.reverse.find? fun node => node.name = symbol

def indexedNode (records : List MibModuleRecord) (oidIndex : PyDict OID OidIndexEntry) (oid : OID) : Option MibNode :=
  (oidIndex.get? oid).bind fun entry => namedNode records entry.module entry.symbol

def MibNode.scalarText (node : MibNode) (parent : Option MibNode) : String :=
  match parent.filter fun parent => parent.objectType = "OBJECT-TYPE" ∧ parent.nodetype = some "scalar" with
  | some parent => s!"{parent.module}::{parent.name}.0"
  | none => s!"{node.module}::{node.name}"

/-- What two orders have to agree on: the last definition of every OID that the index leaves open, and
the last definition of a scalar under which an OBJECT IDENTIFIER stands. -/
structure SameDefinitions (records others : List MibModuleRecord) (oidIndex : PyDict OID OidIndexEntry) : Prop where
  last : ∀ oid, WellFormed oid → indexedNode records oidIndex oid = none →
    (lastDefined records oid).map MibNode.described = (lastDefined others oid).map MibNode.described
  scalar : ∀ oid node, WellFormed (oid ++ [0]) →
    (indexedNode records oidIndex (oid ++ [0])).or (lastDefined records (oid ++ [0])) = some node →
    node.objectType = "OBJECT IDENTIFIER" →
      node.scalarText (lastDefined records oid) = node.scalarText (lastDefined others oid)

variable {records others : List MibModuleRecord} {oidIndex : PyDict OID OidIndexEntry}

theorem lastDefined_isSome_perm (hperm : records.Perm others) (oid : OID) :
    (lastDefined records oid).isSome = (lastDefined others oid).isSome := by
  have hnodes (node : MibNode) := (hperm.flatMap_right MibModuleRecord.iterNodes).mem_iff (a := node)
  apply Bool.eq_iff_iff.mpr
  simp only [lastDefined, List.find?_isSome, List.mem_reverse, hnodes]

theorem namedNode_perm (hdistinct : (records.map MibModuleRecord.module).Nodup) (hperm : records.Perm others)
    (module symbol : String) : namedNode records module symbol = namedNode others module symbol := by
  rw [namedNode, namedNode, PyDict.find?_key_perm hdistinct hperm]

theorem indexedNode_perm (hdistinct : (records.map MibModuleRecord.module).Nodup) (hperm : records.Perm others)
    (oid : OID) : indexedNode records oidIndex oid = indexedNode others oidIndex oid := by
  simp only [indexedNode, namedNode_perm hdistinct hperm]

namespace MibRegistry

theorem ofRecords_eq (hdistinct : (records.map MibModuleRecord.module).Nodup) : ofRecords records oidIndex = {
    modules := .ofEntries (records.map fun record => (record.module, record))
    symbolIndex := .ofEntries (records.flatMap fun record =>
      record.iterNodes.map fun node => ((record.module, node.name), node))
    exactOidIndex := .ofEntries ((records.flatMap MibModuleRecord.iterNodes).map fun node => (node.oid, node))
    typeIndex := .ofEntries (records.flatMap fun record =>
      record.types.values.map fun type => ((record.module, type.name), type))
    oidIndex := oidIndex } := by
  have hkeys : ((records.map fun record => (record.module, record)).map Prod.fst).Nodup := by
    rw [List.map_map]
    exact hdistinct
  have hvalues : (PyDict.ofEntries (records.map fun record => (record.module, record))).values = records := by
    rw [PyDict.values, PyDict.entries_ofEntries hkeys, List.map_map]
    exact List.map_id _
  simp only [ofRecords, init, hvalues, List.map_flatMap, List.map_map, Function.comp_def]

theorem modules_get? (hdistinct : (records.map MibModuleRecord.module).Nodup) (module : String) :
    (ofRecords records oidIndex).modules.get? module = records.find? fun record => record.module = module := by
  have hreverse := PyDict.find?_key_perm hdistinct (List.reverse_perm records).symm module
  rw [hreverse, ofRecords, init, PyDict.get?_ofEntries, ← List.map_reverse, List.find?_map, Option.map_map]
  exact Option.map_id_apply

theorem exactOidIndex_get? (hdistinct : (records.map MibModuleRecord.module).Nodup) (oid : OID) :
    (ofRecords records oidIndex).exactOidIndex.get? oid = lastDefined records oid := by
  rw [ofRecords_eq hdistinct, PyDict.get?_ofEntries, ← List.map_reverse, List.find?_map, Option.map_map]
  exact Option.map_id_apply

theorem get?_ofEntries_flatMap {β : Type} (hdistinct : (records.map MibModuleRecord.module).Nodup)
    (items : MibModuleRecord → List β) (name : β → String) (module symbol : String) :
    (PyDict.ofEntries (records.flatMap fun record =>
        (items record).map fun item => ((record.module, name item), item))).get? (module, symbol) =
      (records.find? fun record => record.module = module).bind fun record =>
        (items record).reverse.find? fun item => name item = symbol := by
  have hreverse := PyDict.find?_key_perm hdistinct (List.reverse_perm records).symm module
  have hnodup : (records.reverse.map MibModuleRecord.module).Nodup := by
    rw [List.map_reverse]
    exact List.nodup_reverse.mpr hdistinct
  rw [hreverse, PyDict.get?_ofEntries, List.reverse_flatMap, @PyDict.find?_flatMap_key _ _ _ _ _ _ hnodup _ _ module]
  · cases hfind : records.reverse.find? fun record => record.module = module with
    | none => rfl
    | some record =>
      have hmodule : record.module = module := by simpa using List.find?_some hfind
      simp [← List.map_reverse, List.find?_map, Function.comp_def, hmodule]
  · intro record _ entry hentry hkey
    obtain ⟨item, -, rfl⟩ : ∃ item ∈ items record, ((record.module, name item), item) = entry := by simpa using hentry
    exact congrArg Prod.fst (of_decide_eq_true hkey)

theorem symbolIndex_get? (hdistinct : (records.map MibModuleRecord.module).Nodup) (module symbol : String) :
    (ofRecords records oidIndex).symbolIndex.get? (module, symbol) = namedNode records module symbol := by
  rw [ofRecords_eq hdistinct, get?_ofEntries_flatMap hdistinct, namedNode]

theorem typeIndex_get? (hdistinct : (records.map MibModuleRecord.module).Nodup) (module typeName : String) :
    (ofRecords records oidIndex).typeIndex.get? (module, typeName) =
      (records.find? fun record => record.module = module).bind fun record =>
        record.types.values.reverse.find? fun type => type.name = typeName := by
  rw [ofRecords_eq hdistinct, get?_ofEntries_flatMap hdistinct]

theorem nodeAt_ofRecords (hdistinct : (records.map MibModuleRecord.module).Nodup) (oid : OID) :
    (ofRecords records oidIndex).nodeAt oid = (indexedNode records oidIndex oid).or (lastDefined records oid) := by
  have haccelerated : (ofRecords records oidIndex).lookupExactFromAccelerator oid =
      indexedNode records oidIndex oid := by
    have hindex : (ofRecords records oidIndex).oidIndex = oidIndex := rfl
    rw [lookupExactFromAccelerator, indexedNode, hindex]
    cases oidIndex.get? oid with
    | none => rfl
    | some entry => exact symbolIndex_get? hdistinct _ _
  rw [nodeAt, haccelerated, exactOidIndex_get? hdistinct]

theorem resolveSymbolic_perm (hdistinct : (records.map MibModuleRecord.module).Nodup) (hperm : records.Perm others)
    (target : String) :
    (ofRecords records oidIndex).resolveSymbolic target = (ofRecords others oidIndex).resolveSymbolic target := by
  have hothers := (hperm.map MibModuleRecord.module).nodup hdistinct
  simp only [resolveSymbolic, symbolIndex_get? hdistinct, symbolIndex_get? hothers, namedNode_perm hdistinct hperm]

theorem resolveType_perm (hdistinct : (records.map MibModuleRecord.module).Nodup) (hperm : records.Perm others)
    (module typeName : String) :
    (ofRecords records oidIndex).resolveType module typeName =
      (ofRecords others oidIndex).resolveType module typeName := by
  have hothers := (hperm.map MibModuleRecord.module).nodup hdistinct
  simp only [resolveType, typeIndex_get? hdistinct, typeIndex_get? hothers, modules_get? hdistinct,
    modules_get? hothers, PyDict.find?_key_perm hdistinct hperm]

theorem symbolic_scalar (oidMatch : OidMatch) (hsuffix : oidMatch.suffix = [0]) :
    oidMatch.symbolic = .ok s!"{oidMatch.module}::{oidMatch.symbol}.0" := by
  have hzero : oidToString [0] = .ok "0" := by decide +kernel
  rw [OidMatch.symbolic, hsuffix, if_neg (by simp), hzero, ok_bind]
  exact congrArg Except.ok String.append_assoc

theorem displaySymbolic_scalar (hdistinct : (records.map MibModuleRecord.module).Nodup) {oid : OID} {node : MibNode}
    (htype : node.objectType = "OBJECT IDENTIFIER") :
    (ofRecords records oidIndex).displaySymbolicFromMatch (matchOf node (oid ++ [0]) []) =
      .ok (node.scalarText (lastDefined records oid)) := by
  have hcond : ¬ ((matchOf node (oid ++ [0]) []).suffix ≠ [] ∨
      (matchOf node (oid ++ [0]) []).objectType ≠ some "OBJECT IDENTIFIER" ∨
      (matchOf node (oid ++ [0]) []).oid.getLast? ≠ some 0) := by
    simp [matchOf, htype]
  have hparent : (matchOf node (oid ++ [0]) []).oid.dropLast = oid := List.dropLast_concat
  rw [displaySymbolicFromMatch, displayMatch, if_neg hcond, hparent, exactOidIndex_get? hdistinct, MibNode.scalarText]
  cases lastDefined records oid with
  | none => rfl
  | some parent =>
    by_cases hscalar : parent.objectType = "OBJECT-TYPE" ∧ parent.nodetype = some "scalar"
    · have hnot : ¬ (parent.objectType ≠ "OBJECT-TYPE" ∨ parent.nodetype ≠ some "scalar") := by
        simpa using hscalar
      simp only [Option.filter, hscalar]
      exact symbolic_scalar _ rfl
    · have hnot : parent.objectType ≠ "OBJECT-TYPE" ∨ parent.nodetype ≠ some "scalar" := not_and_or.mp hscalar
      simp only [if_pos hnot, Option.filter, hscalar, decide_false]
      rfl

theorem nodes_agree (hdistinct : (records.map MibModuleRecord.module).Nodup) (hperm : records.Perm others)
    (h : SameDefinitions records others oidIndex) {oid : OID} (hoid : WellFormed oid) :
    ((ofRecords records oidIndex).nodeAt oid).map MibNode.described =
      ((ofRecords others oidIndex).nodeAt oid).map MibNode.described := by
  have hothers := (hperm.map MibModuleRecord.module).nodup hdistinct
  rw [nodeAt_ofRecords hdistinct, nodeAt_ofRecords hothers, ← indexedNode_perm hdistinct hperm]
  cases hindexed : indexedNode records oidIndex oid with
  | some node => rfl
  | none => exact h.last oid hoid hindexed

theorem displaySymbolic_agree (hdistinct : (records.map MibModuleRecord.module).Nodup) (hperm : records.Perm others)
    (h : SameDefinitions records others oidIndex) (value : Target) :
    (ofRecords records oidIndex).displaySymbolic value = (ofRecords others oidIndex).displaySymbolic value := by
  have hothers := (hperm.map MibModuleRecord.module).nodup hdistinct
  have hlookup := lookupOid_congr (fun oid hoid => nodes_agree hdistinct hperm h hoid) value
  rw [displaySymbolic, displaySymbolic, ← hlookup]
  cases hmatch : (ofRecords records oidIndex).lookupOid value with
  | error e => rfl
  | ok oidMatch =>
    rw [ok_bind, ok_bind]
    by_cases hplain : oidMatch.suffix ≠ [] ∨ oidMatch.objectType ≠ some "OBJECT IDENTIFIER" ∨
        oidMatch.oid.getLast? ≠ some 0
    · simp only [displaySymbolicFromMatch, displayMatch, if_pos hplain]
    · -- an OBJECT IDENTIFIER found whole, at an OID that ends in 0
      push Not at hplain
      obtain ⟨hsuffix, htype, hlast⟩ := hplain
      obtain ⟨whole, node, hwhole, hnode, rfl⟩ := lookupOid_exact hmatch hsuffix
      obtain ⟨oid, rfl⟩ := List.getLast?_eq_some_iff.mp hlast
      have htype : node.objectType = "OBJECT IDENTIFIER" := Option.some.inj htype
      rw [nodeAt_ofRecords hdistinct] at hnode
      rw [displaySymbolic_scalar hdistinct htype, displaySymbolic_scalar hothers htype,
        h.scalar oid node (parseOid_wellFormed hwhole) hnode htype]

theorem sameMeaning_of_sameDefinitions (hdistinct : (records.map MibModuleRecord.module).Nodup)
    (hperm : records.Perm others) (h : SameDefinitions records others oidIndex) :
    SameMeaning (ofRecords records oidIndex) (ofRecords others oidIndex) := by
  have hresolve := @resolveSymbolic_perm records others oidIndex hdistinct hperm
  have hdisplay := displaySymbolic_agree hdistinct hperm h
  refine ⟨hresolve, fun target => ⟨?_, translate_congr hresolve hdisplay target, hdisplay target⟩,
    resolveType_perm hdistinct hperm⟩
  exact lookupOid_congr (fun oid hoid => nodes_agree hdistinct hperm h hoid) target

theorem last_of_lookupOid (hdistinct : (records.map MibModuleRecord.module).Nodup) (hperm : records.Perm others)
    {oid : OID} (hoid : WellFormed oid) (hindexed : indexedNode records oidIndex oid = none)
    (h : (ofRecords records oidIndex).lookupOid (.sequence oid (.ok "")) =
      (ofRecords others oidIndex).lookupOid (.sequence oid (.ok ""))) :
    (lastDefined records oid).map MibNode.described = (lastDefined others oid).map MibNode.described := by
  have hothers := (hperm.map MibModuleRecord.module).nodup hdistinct
  have hsome := lastDefined_isSome_perm hperm oid
  rw [lookupOid, lookupOid, parseOid_sequence hoid, ok_bind, ok_bind, nodeAt_ofRecords hdistinct,
    nodeAt_ofRecords hothers, ← indexedNode_perm hdistinct hperm, hindexed, Option.none_or, Option.none_or] at h
  cases hnode : lastDefined records oid with
  | none =>
    rw [hnode, Option.isSome_none] at hsome
    rw [Option.isSome_eq_false_iff.mp hsome.symm |> Option.isNone_iff_eq_none.mp]
  | some node =>
    rw [hnode, Option.isSome_some, eq_comm, Option.isSome_iff_exists] at hsome
    obtain ⟨other, hother⟩ := hsome
    rw [hnode, hother] at h
    rw [hother, Option.map_some, Option.map_some, (described_of_matchOf (Except.ok.inj h)).1]

theorem load_order_irrelevant_iff (hdistinct : (records.map MibModuleRecord.module).Nodup)
    (hperm : records.Perm others) (oidIndex : PyDict OID OidIndexEntry) :
    SameMeaning (ofRecords records oidIndex) (ofRecords others oidIndex) ↔
      SameDefinitions records others oidIndex := by
  refine ⟨fun h => ?_, sameMeaning_of_sameDefinitions hdistinct hperm⟩
  have hothers := (hperm.map MibModuleRecord.module).nodup hdistinct
  obtain ⟨-, hanswers, -⟩ := h
  refine ⟨fun oid hoid hindexed => ?_, fun oid node hoid hnode htype => ?_⟩
  · exact last_of_lookupOid hdistinct hperm hoid hindexed (hanswers _).1
  · obtain ⟨hlookup, -, hdisplay⟩ := hanswers (.sequence (oid ++ [0]) (.ok ""))
    have hmatch : (ofRecords records oidIndex).lookupOid (.sequence (oid ++ [0]) (.ok "")) =
        .ok (matchOf node (oid ++ [0]) []) := by
      rw [lookupOid, parseOid_sequence hoid, ok_bind, nodeAt_ofRecords hdistinct, hnode]
      rfl
    rw [displaySymbolic, displaySymbolic, ← hlookup, hmatch, ok_bind, ok_bind, displaySymbolic_scalar hdistinct htype,
      displaySymbolic_scalar hothers htype] at hdisplay
    exact Except.ok.inj hdisplay

def sampleRecord (module name : String) : MibModuleRecord :=
  { module := module
    imports := .empty
    objects := .ofEntries [(name, { systemScalar name 1 with module := module })]
    notifications := .empty
    types := .empty }

def sampleRecords : List MibModuleRecord :=
    [sampleRecord "RFC1213-MIB" "sysDescr", sampleRecord "VENDOR-MIB" "vendorDescr"]

theorem load_order_changes_name : (sampleRecords.map MibModuleRecord.module).Nodup ∧
    sampleRecords.Perm sampleRecords.reverse ∧
    ¬ SameMeaning (ofRecords sampleRecords .empty) (ofRecords sampleRecords.reverse .empty) := by
  refine ⟨by decide, (List.reverse_perm _).symm, fun h => ?_⟩
  obtain ⟨-, hanswers, -⟩ := h
  have hdisplay := (hanswers (.text "1.3.6.1.2.1.1.1.0")).2.2
  revert hdisplay
  decide +kernel

theorem load_order_irrelevant_sample :
    SameMeaning (ofRecords sampleRecords .empty) (ofRecords sampleRecords.reverse .empty) ↔
      SameDefinitions sampleRecords sampleRecords.reverse .empty :=
  load_order_irrelevant_iff (by decide) (List.reverse_perm _).symm .empty

end MibRegistry

end TrishulSnmp.Mib
