import TrishulSnmp.Mib.Normalize
import TrishulSnmp.Responder.Counters
import TrishulSnmp.Responder.Histories
import TrishulSnmp.Responder.Simulators
import TrishulSnmp.Wire.Minimal

namespace TrishulSnmp

open Outcome Wire Asn1 Mib

/-! `InMemoryObjectSource.from_bundle`: the simulator of the objects that a bundle defines. -/

namespace Mib

def moduleTable (modules : List NormalizedModule) : PyDict String NormalizedModule :=
  .ofEntries (modules.map fun record => (record.module, record))

def iterObjects (modules : PyDict String NormalizedModule) (module typeFilter : Option String := none) :
    List NormalizedNode :=
  modules.entries.flatMap fun (name, record) =>
    if module ≠ none ∧ module ≠ some name then []
    else record.objects.values.filter fun node => typeFilter = none ∨ typeFilter = some node.objectType

def loadPayloads (files : List (String × Json)) : Except Error (List NormalizedModule) :=
  files.mapM fun (path, file) => do normalizeModulePayload path (← readJson file)

theorem mem_iterObjects {modules : PyDict String NormalizedModule} {node : NormalizedNode} :
    node ∈ iterObjects modules ↔ ∃ record ∈ modules.values, node ∈ record.objects.values := by
  constructor
  · intro h
    obtain ⟨entry, hentry, h⟩ := List.mem_flatMap.mp h
    exact ⟨entry.2, List.mem_map_of_mem hentry, by simpa using h⟩
  · rintro ⟨record, hrecord, h⟩
    obtain ⟨entry, hentry, rfl⟩ := List.mem_map.mp hrecord
    exact List.mem_flatMap.mpr ⟨entry, hentry, by simpa using h⟩

theorem arc?_nonneg {item : Json} {arc : ℤ} (h : item.arc? = some arc) : 0 ≤ arc := by
  obtain ⟨-, hnonneg⟩ := Option.filter_eq_some_iff.mp h
  exact of_decide_eq_true hnonneg

theorem normalizeNodeOid_nonneg {path name : String} {oidPath oidValue : Option Json} {oid : OID}
    (h : normalizeNodeOid path name oidPath oidValue = .ok oid) : ∀ arc ∈ oid, 0 ≤ arc := by
  unfold normalizeNodeOid at h
  split at h
  · rename_i items
    split at h
    · cases h
    · rename_i arcs harcs
      have hoid : arcs = oid := by
        split at h
        · obtain ⟨parsed, -, h⟩ := bind_ok_iff.mp h
          obtain ⟨-, h⟩ | ⟨-, h⟩ := ite_cases h
          · cases h
          · exact pure_ok_iff.mp h
        · exact Except.ok.inj h
      subst hoid
      intro arc hmem
      obtain ⟨item, -, hitem⟩ := mem_of_mapM_some harcs hmem
      exact arc?_nonneg hitem
  · cases h
  · split at h
    · exact (parseOid_wellFormed h).2
    · cases h

theorem normalizeNode_nonneg {path moduleName : String} {defaultNodetype : Option String} {item : String × Json}
    {node : NormalizedNode} (h : normalizeNode path moduleName defaultNodetype item = .ok node) :
    ∀ arc ∈ node.oid, 0 ≤ arc := by
  obtain ⟨name, raw⟩ := item
  cases raw
  case object members =>
    obtain ⟨oid, hoid, h⟩ := bind_ok_iff.mp h
    simp only [normalizeNodeWith, bind_ok_iff, pure_ok_iff] at h
    obtain ⟨-, -, -, -, -, -, -, -, -, -, -, -, -, -, -, -, -, -, -, -, rfl⟩ := h
    exact normalizeNodeOid_nonneg hoid
  all_goals cases h

theorem normalizeNodeMap_nonneg {path moduleName : String} {defaultNodetype : Option String} {raw : Json}
    {nodes : PyDict String NormalizedNode} (h : normalizeNodeMap path moduleName defaultNodetype raw = .ok nodes) :
    ∀ node ∈ nodes.values, ∀ arc ∈ node.oid, 0 ≤ arc := by
  cases raw
  case object members =>
    obtain ⟨entries, hentries, h⟩ := bind_ok_iff.mp h
    obtain rfl := pure_ok_iff.mp h
    have hall : ∀ entry ∈ (PyDict.ofEntries entries).entries, ∀ arc ∈ entry.2.oid, 0 ≤ arc := by
      apply PyDict.forall_ofEntries
      intro entry hentry
      obtain ⟨⟨name, item⟩, -, hitem⟩ := mem_of_mapM hentries hentry
      obtain ⟨node, hnode, hitem⟩ := bind_ok_iff.mp hitem
      obtain rfl := pure_ok_iff.mp hitem
      exact normalizeNode_nonneg hnode
    intro node hnode
    obtain ⟨entry, hentry, rfl⟩ := List.mem_map.mp hnode
    exact hall entry hentry
  all_goals cases h

theorem normalizeModulePayload_nonneg {path : String} {payload : Json} {module : NormalizedModule}
    (h : normalizeModulePayload path payload = .ok module) :
    ∀ node ∈ module.objects.values, ∀ arc ∈ node.oid, 0 ≤ arc := by
  cases payload
  case object members =>
    obtain ⟨moduleName, -, h⟩ := bind_ok_iff.mp h
    obtain ⟨generatedBy, -, h⟩ := bind_ok_iff.mp h
    obtain ⟨imports, -, h⟩ := bind_ok_iff.mp h
    obtain ⟨objects, hobjects, h⟩ := bind_ok_iff.mp h
    obtain ⟨notifications, -, h⟩ := bind_ok_iff.mp h
    obtain ⟨types, -, h⟩ := bind_ok_iff.mp h
    obtain ⟨moduleMetadata, -, h⟩ := bind_ok_iff.mp h
    obtain ⟨-, -, h⟩ := bind_ok_iff.mp h
    obtain rfl := pure_ok_iff.mp h
    exact normalizeNodeMap_nonneg hobjects
  all_goals cases h

theorem loadPayloads_nonneg {files : List (String × Json)} {modules : List NormalizedModule}
    (h : loadPayloads files = .ok modules) :
    ∀ node ∈ iterObjects (moduleTable modules), ∀ arc ∈ node.oid, 0 ≤ arc := by
  have hall : ∀ entry ∈ (moduleTable modules).entries, ∀ node ∈ entry.2.objects.values, ∀ arc ∈ node.oid, 0 ≤ arc := by
    apply PyDict.forall_ofEntries
    intro entry hentry
    obtain ⟨record, hrecord, rfl⟩ := List.mem_map.mp hentry
    obtain ⟨⟨path, file⟩, -, hfile⟩ := mem_of_mapM h hrecord
    obtain ⟨payload, -, hfile⟩ := bind_ok_iff.mp hfile
    exact normalizeModulePayload_nonneg hfile
  intro node hnode
  obtain ⟨record, hrecord, hnode⟩ := mem_iterObjects.mp hnode
  obtain ⟨entry, hentry, rfl⟩ := List.mem_map.mp hrecord
  exact hall entry hentry node hnode

end Mib

namespace Responder

open InMemoryObjectSource

/-- What the rules ask of the machine: `random.randint`, and for the `UptimeRule` of an OID
`int((time.monotonic() - self._start) * 100)`. -/
structure Machine (ρ : Type) where
  randint : ℤ → ℤ → ρ → ℤ × ρ
  elapsedCs : OID → ρ → ℤ × ρ

structure Machine.Documented {ρ : Type} (machine : Machine ρ) : Prop where
  randint : ∀ min max state, min ≤ max →
    min ≤ (machine.randint min max state).1 ∧ (machine.randint min max state).1 ≤ max
  monotonic : ∀ oid state, 0 ≤ (machine.elapsedCs oid state).1

deriving instance DecidableEq for CounterType

inductive DefaultObject
  | value (value : SnmpValue)
  | counterRule (type : CounterType)
  | randomNumericRule (min max : ℤ)
  | uptimeRule

def defaultCounter (i : OID × CounterType) : CounterRule := { increment := 1, valueType := i.2.value }

namespace DefaultObject

variable {ρ : Type} (machine : Machine ρ) (oid : OID)

def simulated : DefaultObject → Simulated (OID × CounterType) ρ
  | value stored => .value stored
  | counterRule type => .counter (oid, type)
  | randomNumericRule min max => .other fun state =>
    .ok (.gauge32Value (machine.randint min max state).1, (machine.randint min max state).2)
  | uptimeRule => .other fun state =>
    .ok (.timeTicksValue (machine.elapsedCs oid state).1, (machine.elapsedCs oid state).2)

def object (default : DefaultObject) : ObjectValue (Heap (OID × CounterType) ρ) :=
  (default.simulated machine oid).object defaultCounter

def Shows : DefaultObject → SnmpValue → Prop
  | value stored, shown => shown = stored
  | counterRule type, shown => ∃ n : ℕ, shown = type.value n
  | randomNumericRule min max, shown => ∃ n, min ≤ n ∧ n ≤ max ∧ shown = .gauge32Value n
  | uptimeRule, shown => ∃ n : ℕ, shown = .timeTicksValue n

end DefaultObject

def counter32Syntaxes : List String := ["Counter32", "ZeroBasedCounter32"]

def counter64Syntaxes : List String := ["Counter64", "ZeroBasedCounter64", "CounterBasedGauge64"]

def gaugeSyntaxes : List String := ["Gauge32", "Unsigned32"]

def timeticksSyntaxes : List String := ["TimeTicks", "TimeStamp", "TimeInterval"]

def ipSyntaxes : List String := ["IpAddress"]

def integerSyntaxes : List String :=
  ["Integer32", "Integer", "InterfaceIndex", "TruthValue", "RowStatus", "StorageType", "ColumnStatus"]

def baseSyntax (syntaxName : String) : String :=
  String.ofList (PyText.strip (syntaxName.toList.takeWhile (· ≠ '(')))

def defaultValue (syntaxName : Option String) (index : ℤ) : DefaultObject :=
  match syntaxName with
  | none => .value (.octetStringValue [])
  | some syntaxName =>
    let base := baseSyntax syntaxName
    if base ∈ counter32Syntaxes then .counterRule .counter32
    else if base ∈ counter64Syntaxes then .counterRule .counter64
    else if base ∈ gaugeSyntaxes then .randomNumericRule 0 1000
    else if base ∈ timeticksSyntaxes then .uptimeRule
    else if base ∈ ipSyntaxes then .value (.ipAddressValue "0.0.0.0")
    else if base ∈ integerSyntaxes then .value (.integerValue index)
    else .value (.octetStringValue [])

def admits (includeDeprecated : Bool) (node : NormalizedNode) : Bool :=
  if node.maxAccess = some "not-accessible" then false
  else if node.status = some "obsolete" then false
  else if !includeDeprecated ∧ node.status = some "deprecated" then false
  else true

def instances (maxInstances : ℤ) (node : NormalizedNode) : List ℤ :=
  if node.nodetype = some "scalar" then [0]
  else if node.nodetype = some "column" then (List.range maxInstances.toNat).map fun i : ℕ => (i : ℤ) + 1
  else []

section FromBundle

abbrev GeneratedSource (ρ : Type) := InMemoryObjectSource (Heap (OID × CounterType) ρ)

variable {ρ : Type} (machine : Machine ρ) (maxInstances : ℤ) (includeDeprecated : Bool)

def setInstance (node : NormalizedNode) (source : GeneratedSource ρ) (index : ℤ) :
    Except Error (GeneratedSource ρ) := do
  let oid := node.oid ++ [index]
  let (_, source) ← source.setObject (.sequence oid (tupleText oid))
    ((defaultValue node.syntaxName index).object machine oid)
  return source

def fromBundle (resolve : Resolver) (modules : PyDict String NormalizedModule) : Except Error (GeneratedSource ρ) :=
  (iterObjects modules).foldlM (fun source node =>
    if admits includeDeprecated node then (instances maxInstances node).foldlM (setInstance machine node) source
    else return source) (new (some resolve))

def definitions (modules : PyDict String NormalizedModule) : List (OID × DefaultObject) :=
  ((iterObjects modules).filter (admits includeDeprecated)).flatMap fun node =>
    (instances maxInstances node).map fun index => (node.oid ++ [index], defaultValue node.syntaxName index)

def lastDefault (definitions : List (OID × DefaultObject)) (oid : OID) : Option DefaultObject :=
  (definitions.reverse.find? fun definition => definition.1 = oid).map Prod.snd

end FromBundle

section Loop

variable {ρ : Type} {machine : Machine ρ} {maxInstances : ℤ} {includeDeprecated : Bool} {bundle : Option Resolver}
  {source source' : GeneratedSource ρ}

def generatedWrites (machine : Machine ρ) (definitions : List (OID × DefaultObject)) :
    List (Write OID (ObjectValue (Heap (OID × CounterType) ρ))) :=
  definitions.map fun definition => .set definition.1 (definition.2.object machine definition.1)

structure Built (source source' : GeneratedSource ρ)
    (writes : List (Write OID (ObjectValue (Heap (OID × CounterType) ρ)))) : Prop where
  inv : source.Inv → source'.Inv
  carries : Carries source source' writes

theorem Built.refl (source : GeneratedSource ρ) : Built source source [] := ⟨id, .refl source⟩

theorem setInstance_built {node : NormalizedNode} {index : ℤ} (hnode : ∀ arc ∈ node.oid, 0 ≤ arc) (hindex : 0 ≤ index)
    (source : GeneratedSource ρ) : ∃ source', setInstance machine node source index = .ok source' ∧
      Built source source' (generatedWrites machine [(node.oid ++ [index], defaultValue node.syntaxName index)]) := by
  have hoid : WellFormed (node.oid ++ [index]) := by
    refine ⟨by simp, fun arc hmem => ?_⟩
    obtain hmem | hmem := List.mem_append.mp hmem
    · exact hnode arc hmem
    · exact List.mem_singleton.mp hmem ▸ hindex
  have htarget := (normalizeTarget_eq source (.sequence _ (tupleText (node.oid ++ [index])))).trans
    (normalizeTarget_sequence hoid source.bundle _)
  obtain ⟨source', hset⟩ : ∃ source',
      source.setObject (.sequence (node.oid ++ [index]) (tupleText (node.oid ++ [index])))
        ((defaultValue node.syntaxName index).object machine (node.oid ++ [index])) =
          .ok (node.oid ++ [index], source') := by
    rw [setObject, htarget]
    exact ⟨_, rfl⟩
  have hproper : (Target.sequence (node.oid ++ [index]) (tupleText (node.oid ++ [index]))).Proper source.bundle :=
    .inl trivial
  refine ⟨source', ?_, fun hinv => setObject_inv hinv hproper hset, setObject_carries hset⟩
  rw [setInstance, hset]
  rfl

theorem foldlM_built {α : Type} {step : GeneratedSource ρ → α → Except Error (GeneratedSource ρ)}
    {writes : α → List (Write OID (ObjectValue (Heap (OID × CounterType) ρ)))} {xs : List α}
    (hstep : ∀ x ∈ xs, ∀ source, ∃ source', step source x = .ok source' ∧ Built source source' (writes x))
    (source : GeneratedSource ρ) :
    ∃ source', xs.foldlM step source = .ok source' ∧ Built source source' (xs.flatMap writes) := by
  induction xs generalizing source with
  | nil => exact ⟨source, rfl, .refl source⟩
  | cons x xs ih =>
    obtain ⟨hfirst, hrest⟩ := List.forall_mem_cons.mp hstep
    obtain ⟨middle, hmiddle, hbuilt⟩ := hfirst source
    obtain ⟨source', hsource', hbuilt'⟩ := ih hrest middle
    refine ⟨source', ?_, hbuilt'.inv ∘ hbuilt.inv, hbuilt.carries.trans hbuilt'.carries⟩
    rw [List.foldlM_cons, hmiddle, ok_bind, hsource']

theorem generatedWrites_flatMap {α : Type} (xs : List α) (f : α → List (OID × DefaultObject)) :
    (xs.flatMap fun x => generatedWrites machine (f x)) = generatedWrites machine (xs.flatMap f) := by
  induction xs with
  | nil => rfl
  | cons x xs ih =>
    rw [List.flatMap_cons, List.flatMap_cons, ih]
    exact List.map_append.symm

theorem nonneg_of_instances {node : NormalizedNode} {index : ℤ} (h : index ∈ instances maxInstances node) :
    0 ≤ index := by
  unfold instances at h
  split_ifs at h
  · exact (List.mem_singleton.mp h).ge
  · obtain ⟨i, -, rfl⟩ := List.mem_map.mp h
    exact Int.le_add_one i.cast_nonneg
  · exact absurd h List.not_mem_nil

theorem definitions_eq (maxInstances : ℤ) (includeDeprecated : Bool) (modules : PyDict String NormalizedModule) :
    definitions maxInstances includeDeprecated modules = (iterObjects modules).flatMap fun node =>
      if admits includeDeprecated node then
        (instances maxInstances node).map fun index => (node.oid ++ [index], defaultValue node.syntaxName index)
      else [] := by
  unfold definitions
  induction iterObjects modules with
  | nil => rfl
  | cons node nodes ih =>
    rw [List.flatMap_cons, ← ih, List.filter_cons]
    split_ifs <;> simp

theorem fromBundle_built {modules : PyDict String NormalizedModule}
    (hnodes : ∀ node ∈ iterObjects modules, ∀ arc ∈ node.oid, 0 ≤ arc) (resolve : Resolver) :
    ∃ source, fromBundle machine maxInstances includeDeprecated resolve modules = .ok source ∧
      Built (new (some resolve)) source
        (generatedWrites machine (definitions maxInstances includeDeprecated modules)) := by
  rw [definitions_eq, ← generatedWrites_flatMap]
  refine foldlM_built (fun node hnode source => ?_) _
  by_cases hadmits : admits includeDeprecated node
  · simp only [if_pos hadmits]
    have hinstances := @foldlM_built _ _ (setInstance machine node) _ (instances maxInstances node)
      (fun index hindex => @setInstance_built _ machine _ _ (hnodes node hnode) (nonneg_of_instances hindex)) source
    rwa [generatedWrites_flatMap, ← List.map_eq_flatMap] at hinstances
  · simp only [if_neg hadmits]
    exact ⟨source, rfl, .refl source⟩

theorem lastDefault_concat (definitions : List (OID × DefaultObject)) (last : OID × DefaultObject) (oid : OID) :
    lastDefault (definitions ++ [last]) oid = if last.1 = oid then some last.2 else lastDefault definitions oid := by
  rw [lastDefault, List.reverse_concat, List.find?_cons]
  by_cases hoid : last.1 = oid <;> simp [hoid, lastDefault]

theorem replay_generatedWrites (definitions : List (OID × DefaultObject)) (oid : OID) :
    Write.replay (fun _ => none) (generatedWrites machine definitions) oid =
      (lastDefault definitions oid).map fun default => default.object machine oid := by
  induction definitions using List.reverseRecOn with
  | nil => rfl
  | append_singleton definitions last ih =>
    rw [generatedWrites, List.map_append, Write.replay_append, lastDefault_concat, List.map_singleton, Write.replay_set]
    by_cases hoid : last.1 = oid
    · subst hoid
      rw [Function.update_self, if_pos rfl, Option.map_some]
    · rw [Function.update_of_ne (Ne.symm hoid), if_neg hoid]
      exact ih

theorem Built.lookup {definitions : List (OID × DefaultObject)}
    (h : Built (new bundle) source (generatedWrites machine definitions)) (oid : OID) :
    source.values.lookup oid = (lastDefault definitions oid).map fun default => default.object machine oid := by
  have hvalues := congrFun h.carries.values oid
  have hempty : (fun oid => (new bundle : GeneratedSource ρ).values.lookup oid) = fun _ => none :=
    funext fun oid => AList.lookup_empty oid
  rwa [hempty, replay_generatedWrites] at hvalues

theorem lastDefault_isSome_iff {definitions : List (OID × DefaultObject)} {oid : OID} :
    (lastDefault definitions oid).isSome ↔ ∃ definition ∈ definitions, definition.1 = oid := by
  simp [lastDefault]

theorem mem_definitions {modules : PyDict String NormalizedModule} {definition : OID × DefaultObject} :
    definition ∈ definitions maxInstances includeDeprecated modules ↔
      ∃ node ∈ iterObjects modules, admits includeDeprecated node ∧ ∃ index ∈ instances maxInstances node,
        (node.oid ++ [index], defaultValue node.syntaxName index) = definition := by
  simp only [definitions, List.mem_flatMap, List.mem_filter, List.mem_map, and_assoc]

theorem Built.mem_iff {definitions : List (OID × DefaultObject)}
    (h : Built (new bundle) source (generatedWrites machine definitions)) {oid : OID} :
    oid ∈ source.values ↔ ∃ definition ∈ definitions, definition.1 = oid := by
  rw [← AList.lookup_isSome, h.lookup, Option.isSome_map, lastDefault_isSome_iff]

theorem from_bundle_generates {files : List (String × Json)} {modules : List NormalizedModule}
    (hload : loadPayloads files = .ok modules) (machine : Machine ρ) (maxInstances : ℤ) (includeDeprecated : Bool)
    (resolve : Resolver) :
    ∃ source, fromBundle machine maxInstances includeDeprecated resolve (moduleTable modules) = .ok source ∧
      source.sortedOids.Pairwise (· < ·) ∧
      (∀ oid, oid ∈ source.sortedOids ↔ ∃ node ∈ iterObjects (moduleTable modules), admits includeDeprecated node ∧
        ∃ index ∈ instances maxInstances node, oid = node.oid ++ [index]) ∧
      ∀ oid, source.values.lookup oid =
        (lastDefault (definitions maxInstances includeDeprecated (moduleTable modules)) oid).map fun default =>
          default.object machine oid := by
  obtain ⟨source, hsource, hbuilt⟩ := @fromBundle_built _ machine maxInstances includeDeprecated _
    (loadPayloads_nonneg hload) resolve
  have hinv := hbuilt.inv (new_inv _)
  refine ⟨source, hsource, hinv.coherent.sorted, fun oid => ?_, hbuilt.lookup⟩
  rw [hinv.coherent.mem_iff, hbuilt.mem_iff]
  constructor
  · rintro ⟨definition, hdefinition, rfl⟩
    obtain ⟨node, hnode, hadmits, index, hindex, rfl⟩ := mem_definitions.mp hdefinition
    exact ⟨node, hnode, hadmits, index, hindex, rfl⟩
  · rintro ⟨node, hnode, hadmits, index, hindex, rfl⟩
    exact ⟨_, mem_definitions.mpr ⟨node, hnode, hadmits, index, hindex, rfl⟩, rfl⟩

end Loop

section Serving

variable {ρ : Type} {machine : Machine ρ}

def DefaultObject.Usable : DefaultObject → Prop
  | value stored => (∃ enc, encodeValue stored = .ok enc) ∧ Asn1.Preserved stored ∧ stored ≠ .endOfMibViewValue
  | randomNumericRule min max => 0 ≤ min ∧ min ≤ max
  | _ => True

theorem defaultValue_usable (syntaxName : Option String) (index : ℤ) : (defaultValue syntaxName index).Usable := by
  have haddress : DottedQuad "0.0.0.0" := ⟨0, 0, 0, 0, by decide, by decide, by decide, by decide, by decide⟩
  have hencodes : encodeValue (.ipAddressValue "0.0.0.0") = .ok [0x40, 0x04, 0, 0, 0, 0] := by decide +kernel
  unfold defaultValue
  split
  · exact ⟨⟨_, rfl⟩, trivial, by simp⟩
  · dsimp only
    split_ifs
    · trivial
    · trivial
    · exact ⟨le_rfl, by omega⟩
    · trivial
    · exact ⟨⟨_, hencodes⟩, haddress, by simp⟩
    · exact ⟨⟨_, rfl⟩, trivial, by simp⟩
    · exact ⟨⟨_, rfl⟩, trivial, by simp⟩

def Counting (heap : Heap (OID × CounterType) ρ) : Prop := ∀ i, 0 ≤ heap.current i

theorem DefaultObject.reads (hmachine : machine.Documented) (oid : OID) {default : DefaultObject} (h : default.Usable) :
    (default.object machine oid).Reads Counting default.Shows := by
  cases default with
  | value stored => rfl
  | counterRule type =>
    intro heap hheap
    obtain ⟨n, hn⟩ := Int.eq_ofNat_of_zero_le (hheap (oid, type))
    refine ⟨_, _, rfl, fun i => ?_, n, congrArg type.value hn⟩
    change 0 ≤ Function.update heap.current (oid, type) (heap.current (oid, type) + 1) i
    by_cases hi : i = (oid, type)
    · subst hi
      rw [Function.update_self]
      exact Int.add_nonneg (hheap _) zero_le_one
    · rw [Function.update_of_ne hi]
      exact hheap i
  | randomNumericRule min max =>
    intro heap hheap
    obtain ⟨hmin, hmax⟩ := hmachine.randint min max heap.rest h.2
    exact ⟨_, _, rfl, hheap, _, hmin, hmax, rfl⟩
  | uptimeRule =>
    intro heap hheap
    obtain ⟨n, hn⟩ := Int.eq_ofNat_of_zero_le (hmachine.monotonic oid heap.rest)
    exact ⟨_, _, rfl, hheap, n, congrArg SnmpValue.timeTicksValue hn⟩

theorem encodeValue_unsigned {value : ℤ → SnmpValue} {tag : UInt8}
    (hvalue : ∀ n, encodeValue (value n) = do return Ber.encodeTlv tag (← encodeUnsignedInteger n)) (n : ℕ) :
    ∃ enc, encodeValue (value n) = .ok enc := by
  rw [hvalue, encodeUnsignedInteger_eq]
  exact ⟨_, rfl⟩

theorem DefaultObject.shown {default : DefaultObject} (h : default.Usable) {value : SnmpValue}
    (hshows : default.Shows value) :
    (∃ enc, encodeValue value = .ok enc) ∧ Asn1.Preserved value ∧ value ≠ .endOfMibViewValue := by
  cases default with
  | value stored =>
    obtain rfl : value = stored := hshows
    exact h
  | counterRule type =>
    obtain ⟨n, rfl⟩ := hshows
    cases type with
    | counter32 => exact ⟨encodeValue_unsigned (fun _ => rfl) n, trivial, by simp [CounterType.value]⟩
    | counter64 => exact ⟨encodeValue_unsigned (fun _ => rfl) n, trivial, by simp [CounterType.value]⟩
  | randomNumericRule min max =>
    obtain ⟨n, hmin, -, rfl⟩ := hshows
    obtain ⟨n, rfl⟩ := Int.eq_ofNat_of_zero_le (h.1.trans hmin)
    exact ⟨encodeValue_unsigned (fun _ => rfl) n, trivial, by simp⟩
  | uptimeRule =>
    obtain ⟨n, rfl⟩ := hshows
    exact ⟨encodeValue_unsigned (fun _ => rfl) n, trivial, by simp⟩

def DefaultShows (definitions : List (OID × DefaultObject)) (oid : OID) (value : SnmpValue) : Prop :=
  ∃ default, lastDefault definitions oid = some default ∧ default.Shows value

variable {maxInstances : ℤ} {includeDeprecated : Bool} {modules : PyDict String NormalizedModule}

theorem usable_of_lastDefault {oid : OID} {default : DefaultObject}
    (h : lastDefault (definitions maxInstances includeDeprecated modules) oid = some default) : default.Usable := by
  obtain ⟨definition, hfind, rfl⟩ := Option.map_eq_some_iff.mp h
  have hmem := List.mem_reverse.mp (List.mem_of_find?_eq_some hfind)
  obtain ⟨node, -, -, index, -, rfl⟩ := mem_definitions.mp hmem
  exact defaultValue_usable node.syntaxName index

theorem Built.simulates {bundle : Option Resolver} {source : GeneratedSource ρ} (hmachine : machine.Documented)
    (h : Built (new bundle) source (generatedWrites machine (definitions maxInstances includeDeprecated modules))) :
    Simulates source Counting (DefaultShows (definitions maxInstances includeDeprecated modules)) where
  inv := h.inv (new_inv bundle)
  reads := fun oid stored hstored => by
    rw [h.lookup] at hstored
    obtain ⟨default, hdefault, rfl⟩ := Option.map_eq_some_iff.mp hstored
    have hreads := default.reads hmachine oid (usable_of_lastDefault hdefault)
    exact hreads.imp fun value hvalue => ⟨default, hdefault, hvalue⟩
  values := fun oid value ⟨default, hdefault, hshows⟩ =>
    have hshown := DefaultObject.shown (usable_of_lastDefault hdefault) hshows
    ⟨hshown.1, hshown.2.1⟩
  noEnd := fun oid ⟨default, hdefault, hshows⟩ =>
    (DefaultObject.shown (usable_of_lastDefault hdefault) hshows).2.2 rfl

/-- The encoder takes the OIDs of the instances; an object at `0` is never asked for. -/
def LegalInstances (definitions : List (OID × DefaultObject)) : Prop :=
  ∀ definition ∈ definitions, definition.1 ≠ [0] → LegalArcs definition.1

theorem Built.legal_iff {bundle : Option Resolver} {source : GeneratedSource ρ}
    {definitions : List (OID × DefaultObject)} (h : Built (new bundle) source (generatedWrites machine definitions)) :
    LegalStore source ↔ LegalInstances definitions := by
  constructor
  · intro hlegal definition hdefinition hzero
    exact hlegal _ (h.mem_iff.mpr ⟨definition, hdefinition, rfl⟩) hzero
  · intro hlegal oid hmem hzero
    obtain ⟨definition, hdefinition, rfl⟩ := h.mem_iff.mp hmem
    exact hlegal definition hdefinition hzero

variable {files : List (String × Json)} {modules : List NormalizedModule} {resolve : Resolver}
  {source : GeneratedSource ρ}

theorem built_of_loaded (hload : loadPayloads files = .ok modules)
    (hsource : fromBundle machine maxInstances includeDeprecated resolve (moduleTable modules) = .ok source) :
    Built (new (some resolve)) source
      (generatedWrites machine (definitions maxInstances includeDeprecated (moduleTable modules))) := by
  obtain ⟨source', hsource', hbuilt⟩ := @fromBundle_built _ machine maxInstances includeDeprecated _
    (loadPayloads_nonneg hload) resolve
  exact eq_of_ok hsource' hsource ▸ hbuilt

theorem generated_agent_serves (hload : loadPayloads files = .ok modules) (hmachine : machine.Documented)
    (hsource : fromBundle machine maxInstances includeDeprecated resolve (moduleTable modules) = .ok source)
    (hlegal : LegalInstances (definitions maxInstances includeDeprecated (moduleTable modules)))
    (communities : Option (List String)) (count : ℕ) (datagrams : List ReceivedDatagram)
    (hhuge : ∀ received ∈ datagrams, ¬ HugeVersion received.data) {heap : Heap (OID × CounterType) ρ}
    (hheap : Counting heap) :
    let shows := DefaultShows (definitions maxInstances includeDeprecated (moduleTable modules))
    let requests := datagrams.filterMap (request (normalizeCommunities communities))
    let served := (V2cResponder.new communities asSource).serve count (arriving datagrams)
      { source := source, rules := heap }
    served.outcome = (if count ≠ 0 ∧ count ≤ requests.length then .returned count else .waiting) ∧
      (∃ heap', served.world = some { source := source, rules := heap' } ∧ Counting heap') ∧
      List.Forall₂ (SimulatedFor source shows) (if count = 0 then requests else requests.take count) served.sent := by
  have hbuilt := built_of_loaded hload hsource
  have hstart : Simulating source Counting { source := source, rules := heap } := ⟨rfl, hheap⟩
  obtain ⟨houtcome, ⟨⟨source', heap'⟩, hworld, rfl, hheap'⟩, hsent⟩ := serve_simulated communities
    (hbuilt.simulates hmachine) (hbuilt.legal_iff.mpr hlegal) count datagrams hhuge hstart
  exact ⟨houtcome, ⟨heap', hworld, hheap'⟩, hsent⟩

theorem generated_agent_survives_iff (hload : loadPayloads files = .ok modules) (hmachine : machine.Documented)
    (hsource : fromBundle machine maxInstances includeDeprecated resolve (moduleTable modules) = .ok source)
    {communities : Option (List String)} (hfits : source.Fits communities) {start : Heap (OID × CounterType) ρ}
    (hstart : Counting start) :
    let safe := (∀ community, communityAllowed (normalizeCommunities communities) community = false) ∨
      LegalInstances (definitions maxInstances includeDeprecated (moduleTable modules))
    ((∀ heap received, Counting heap → ¬ HugeVersion received.data →
      Survives (V2cResponder.new communities asSource) { source := source, rules := heap } received) ↔ safe) ∧
    (¬ safe → ∃ data community query, decodeMessage data = .ok (nextRequest community query) ∧
      ∀ heap, Counting heap →
        ¬ Survives (V2cResponder.new communities asSource) { source := source, rules := heap } ⟨data, .inet "" 0⟩) := by
  have hbuilt := built_of_loaded hload hsource
  have hsimulates := hbuilt.simulates hmachine
  have hstart : Simulating source Counting { source := source, rules := start } := ⟨rfl, hstart⟩
  simp only [← hbuilt.legal_iff]
  constructor
  · rw [← simulator_survives_iff hsimulates hfits hstart]
    constructor
    · rintro h ⟨_, heap⟩ received ⟨rfl, hheap⟩ hhuge
      exact h heap received hheap hhuge
    · exact fun h heap received hheap hhuge => h _ received ⟨rfl, hheap⟩ hhuge
  · intro hneither
    obtain ⟨data, community, query, hdata, hkilled⟩ := simulator_killed hsimulates hfits hneither
    exact ⟨data, community, query, hdata, fun heap hheap => hkilled _ ⟨rfl, hheap⟩⟩

end Serving

section Sample

def portsFile : String × Json := ("PORTS-MIB.json", .object [("module", .str "PORTS-MIB"),
  ("generated_by", .str "trishul-smi"), ("objects", .object [
    ("portFrames", .object [("oid", .str "1.3"), ("object_type", .str "OBJECT-TYPE"), ("class", .str "objecttype"),
      ("nodetype", .str "column"), ("syntax", .str "Counter32 (0..10)")]),
    ("portName", .object [("oid_path", .list [.int 1, .int 4]), ("object_type", .str "OBJECT-TYPE"),
      ("class", .str "objecttype"), ("nodetype", .str "scalar"), ("max_access", .str "not-accessible")])])])

def firstOf : Machine Unit where
  randint := fun min _ state => (min, state)
  elapsedCs := fun _ state => (0, state)

theorem firstOf_documented : firstOf.Documented := ⟨fun _ _ _ hle => ⟨le_rfl, hle⟩, fun _ _ => le_rfl⟩

theorem portsFile_loads : ∃ modules, loadPayloads [portsFile] = .ok modules ∧
    definitions 6 false (moduleTable modules) =
      [1, 2, 3, 4, 5, 6].map fun index => ([1, 3, index], .counterRule .counter32) := by
  obtain ⟨modules, hload⟩ : ∃ modules, loadPayloads [portsFile] = .ok modules := ⟨_, rfl⟩
  refine ⟨modules, hload, ?_⟩
  obtain rfl := eq_of_ok (show loadPayloads [portsFile] = .ok _ from rfl) hload
  rfl

theorem portsFile_legal : LegalInstances
    ([1, 2, 3, 4, 5, 6].map fun index : ℤ => ([1, 3, index], DefaultObject.counterRule .counter32)) := by
  intro definition hmem _
  obtain ⟨index, -, rfl⟩ := List.mem_map.mp hmem
  exact ⟨1, 3, [index], rfl, by omega⟩

def noSymbols : Resolver := fun target => .error (.unknownSymbolError target)

theorem from_bundle_generates_sample : ∃ modules source, loadPayloads [portsFile] = .ok modules ∧
    fromBundle firstOf 6 false noSymbols (moduleTable modules) = .ok source ∧
    source.values.lookup [1, 3, 6] = some ((DefaultObject.counterRule .counter32).object firstOf [1, 3, 6]) := by
  obtain ⟨modules, hload, hdefinitions⟩ := portsFile_loads
  obtain ⟨source, hsource, -, -, hlookup⟩ := from_bundle_generates hload firstOf 6 false noSymbols
  refine ⟨modules, source, hload, hsource, ?_⟩
  rw [hlookup, hdefinitions]
  rfl

theorem generated_agent_serves_sample : ∃ modules source, loadPayloads [portsFile] = .ok modules ∧
    fromBundle firstOf 6 false noSymbols (moduleTable modules) = .ok source ∧
    ((V2cResponder.new none asSource).serve 1 (arriving [getQuery])
      { source := source, rules := ⟨fun _ => 0, ()⟩ }).sent.length = 1 := by
  obtain ⟨modules, hload, hdefinitions⟩ := portsFile_loads
  obtain ⟨source, hsource, -⟩ := @fromBundle_built _ firstOf 6 false _ (loadPayloads_nonneg hload) noSymbols
  have hrequests : ([getQuery].filterMap (request (normalizeCommunities none))).length = 1 := by decide +kernel
  have hhuge : ∀ received ∈ [getQuery], ¬ HugeVersion received.data :=
    List.forall_mem_singleton.mpr (not_hugeVersion_of_decoded getQuery_decodes)
  have hserved := @generated_agent_serves _ firstOf 6 false _ modules noSymbols source hload firstOf_documented hsource
    (hdefinitions ▸ portsFile_legal) none 1 [getQuery] hhuge ⟨fun _ => 0, ()⟩ fun _ => le_rfl
  have hlength := hserved.2.2.length_eq
  rw [if_neg one_ne_zero, List.length_take, hrequests] at hlength
  exact ⟨modules, source, hload, hsource, hlength.symm⟩

theorem generated_agent_survives_sample : ∃ modules source, loadPayloads [portsFile] = .ok modules ∧
    fromBundle firstOf 6 false noSymbols (moduleTable modules) = .ok source ∧
    Survives (V2cResponder.new none asSource) { source := source, rules := ⟨fun _ => 7, ()⟩ } getQuery := by
  obtain ⟨modules, hload, hdefinitions⟩ := portsFile_loads
  obtain ⟨source, hsource, hbuilt⟩ := @fromBundle_built _ firstOf 6 false _ (loadPayloads_nonneg hload) noSymbols
  have hsizes : ∀ index ∈ [1, 2, 3, 4, 5, 6], (encodeOid [1, 3, index]).toOption.map List.length = some 2 := by decide
  have hfits : source.Fits none := by
    refine ⟨fun oid hmem content hcontent => ?_, fun _ hnone => by cases hnone⟩
    rw [hbuilt.mem_iff, hdefinitions] at hmem
    obtain ⟨definition, hdefinition, rfl⟩ := hmem
    obtain ⟨index, hindex, rfl⟩ := List.mem_map.mp hdefinition
    have hsize := hsizes index hindex
    rw [hcontent] at hsize
    rw [Option.some.inj hsize]
    decide
  have hsafe := @generated_agent_survives_iff _ firstOf 6 false _ modules noSymbols source hload firstOf_documented
    hsource none hfits ⟨fun _ => 0, ()⟩ fun _ => le_rfl
  have hcounting : Counting (⟨fun _ => 7, ()⟩ : Heap (OID × CounterType) Unit) := fun _ => Int.natCast_nonneg 7
  have hhuge := not_hugeVersion_of_decoded getQuery_decodes
  exact ⟨modules, source, hload, hsource,
    hsafe.1.mpr (.inr (hdefinitions ▸ portsFile_legal)) ⟨fun _ => 7, ()⟩ getQuery hcounting hhuge⟩

end Sample

end Responder

end TrishulSnmp
