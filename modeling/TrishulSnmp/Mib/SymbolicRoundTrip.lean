import TrishulSnmp.Library.DecimalText
import TrishulSnmp.Mib.LoadOrder
import TrishulSnmp.Mib.LongestPrefix
import TrishulSnmp.Mib.Normalize

namespace TrishulSnmp.Mib

open Outcome PyText

section Text

structure SmiIdentifier (name : String) : Prop where
  nonempty : name.toList ≠ []
  noDot : '.' ∉ name.toList
  noColons : ¬ [':', ':'] <:+: name.toList
  ending : name.toList.getLast? ≠ some ':'

theorem smiIdentifier_of_letters {name : String} (hne : name.toList ≠ [])
    (h : name.toList.all fun c => c.isAlphanum || c == '-') : SmiIdentifier name := by
  rw [List.all_eq_true] at h
  have hcolon : ':' ∉ name.toList := fun hmem => absurd (h _ hmem) (by decide)
  refine ⟨hne, fun hmem => absurd (h _ hmem) (by decide), fun hcolons => hcolon (hcolons.subset (by simp)), ?_⟩
  exact fun hlast => hcolon (List.mem_of_getLast? hlast)

theorem formatInt_nonneg {n : ℤ} (hn : 0 ≤ n) (hshown : Printable n) :
    formatInt n = .ok (String.ofList (natText n.toNat)) := by
  have habs : n.natAbs = n.toNat := by omega
  rw [formatInt, intText, if_neg (not_not.mpr hshown), if_neg (by omega), habs]

theorem oidToString_nonneg {oid : OID} (hnonneg : ∀ arc ∈ oid, 0 ≤ arc) (hshown : ShownArcs oid) :
    ∃ text, oidToString oid = .ok text ∧ text.toList = dotted (oid.map Int.toNat) := by
  have harcs : oid.mapM formatInt = .ok (oid.map fun arc => String.ofList (natText arc.toNat)) :=
    mapM_eq_ok fun arc harc => formatInt_nonneg (hnonneg arc harc) (hshown arc harc)
  refine ⟨_, by rw [oidToString, harcs]; rfl, ?_⟩
  simp [String.toList_intercalate, dotted, joinDot, Function.comp_def]

theorem parseInt_arcs {oid : OID} (hnonneg : ∀ arc ∈ oid, 0 ≤ arc) (hshown : ShownArcs oid) :
    ((oid.map Int.toNat).map natText).mapM parseInt = some oid := by
  induction oid with
  | nil => rfl
  | cons arc oid ih =>
    obtain ⟨harc, hnonneg⟩ := List.forall_mem_cons.mp hnonneg
    obtain ⟨hprintable, hshown⟩ := List.forall_mem_cons.mp hshown
    have habs : arc.natAbs = arc.toNat := by omega
    have hlength : (natText arc.toNat).length ≤ maxStrDigits := habs ▸ hprintable
    have hparse : parseInt (natText arc.toNat) = some arc := by
      rw [parseInt_natText hlength, Int.toNat_of_nonneg harc]
    rw [List.map_cons, List.map_cons, List.mapM_cons, hparse, ih hnonneg hshown]
    rfl

theorem parseOid_dotted {oid : OID} (hne : oid ≠ []) (hnonneg : ∀ arc ∈ oid, 0 ≤ arc) (hshown : ShownArcs oid) :
    parseOid (.text (String.ofList (dotted (oid.map Int.toNat)))) = .ok oid := by
  have hnats : oid.map Int.toNat ≠ [] := by simpa using hne
  have hstrip : strip (dotted (oid.map Int.toNat)) = dotted (oid.map Int.toNat) := strip_of_none (isSpace_dotted _)
  have hdots : stripDots (dotted (oid.map Int.toNat)) = dotted (oid.map Int.toNat) := lstrip_dotted _
  have hsplit := splitDot_dotted hnats
  have htext : dotted (oid.map Int.toNat) ≠ [] := dotted_ne_nil hnats
  have harcs := parseInt_arcs hnonneg hshown
  rw [parseOid]
  simp only [String.toList_ofList, hstrip, hdots, htext, if_false, hsplit, harcs]
  rw [if_neg]
  simpa using hnonneg

theorem isNumericOidText_dotted {ns : List ℕ} (hne : ns ≠ []) : isNumericOidText (dotted ns) := by
  have hdots : stripDots (dotted ns) = dotted ns := lstrip_dotted ns
  have hdigits : (ns.map natText).all allDigits := by
    simpa using fun n _ => allDigits_natText n
  rw [isNumericOidText, strip_of_none (isSpace_dotted ns)]
  simp [hdots, splitDot_dotted hne, hdigits, dotted_ne_nil hne]

theorem parseSymbolicTarget_symbolic {oidMatch : OidMatch} {text : String} (hmodule : SmiIdentifier oidMatch.module)
    (hsymbol : SmiIdentifier oidMatch.symbol) (hnonneg : ∀ arc ∈ oidMatch.suffix, 0 ≤ arc)
    (h : oidMatch.symbolic = .ok text) :
    parseSymbolicTarget text = .ok (oidMatch.module, oidMatch.symbol, oidMatch.suffix) := by
  have hshown : ShownArcs oidMatch.suffix := symbolic_isOk_iff.mp ⟨text, h⟩
  have hcolons (remainder : List Char) := @partition_colons _ remainder hmodule.noColons hmodule.ending
  have hsep : "::".toList = [':', ':'] := rfl
  have hdot : ".".toList = ['.'] := rfl
  rw [OidMatch.symbolic] at h
  split at h
  · rename_i hsuffix
    have htext : text.toList = oidMatch.module.toList ++ [':', ':'] ++ oidMatch.symbol.toList := by
      rw [← Except.ok.inj h]
      simp [toString]
    rw [parseSymbolicTarget, htext, hsep, hcolons]
    simp [hmodule.nonempty, hsymbol.nonempty, hdot, partition_dot_none hsymbol.noDot, hsuffix]
  · rename_i hsuffix
    obtain ⟨shown, hoid, hlist⟩ := oidToString_nonneg hnonneg hshown
    have hns : oidMatch.suffix.map Int.toNat ≠ [] := by simpa using hsuffix
    rw [hoid] at h
    have htext : text.toList = oidMatch.module.toList ++ [':', ':'] ++
        (oidMatch.symbol.toList ++ ['.'] ++ dotted (oidMatch.suffix.map Int.toNat)) := by
      rw [← Except.ok.inj h]
      simp [toString, hlist]
    rw [parseSymbolicTarget, htext, hsep, hcolons]
    simp only [hmodule.nonempty, hsymbol.nonempty, hdot, partition_dot hsymbol.noDot]
    simp [dotted_ne_nil hns, isNumericOidText_dotted hns, parseOid_dotted hsuffix hnonneg hshown, hsymbol.nonempty]

end Text

section Loaded

structure MibModuleRecord.Named (record : MibModuleRecord) : Prop where
  module : ∀ node ∈ record.iterNodes, node.module = record.module
  objects : ∀ entry ∈ record.objects.entries, entry.2.name = entry.1
  notifications : ∀ entry ∈ record.notifications.entries, entry.2.name = entry.1

theorem normalizeNode_named {path moduleName : String} {defaultNodetype : Option String} {item : String × Json}
    {node : NormalizedNode} (h : normalizeNode path moduleName defaultNodetype item = .ok node) :
    node.module = moduleName ∧ node.name = item.1 := by
  obtain ⟨name, raw⟩ := item
  cases raw
  case object members =>
    obtain ⟨oid, -, h⟩ := bind_ok_iff.mp h
    simp only [normalizeNodeWith, bind_ok_iff, pure_ok_iff] at h
    obtain ⟨-, -, -, -, -, -, -, -, -, -, -, -, -, -, -, -, -, -, -, -, rfl⟩ := h
    exact ⟨rfl, rfl⟩
  all_goals cases h

theorem normalizeNodeMap_named {path moduleName : String} {defaultNodetype : Option String} {raw : Json}
    {nodes : PyDict String NormalizedNode} (h : normalizeNodeMap path moduleName defaultNodetype raw = .ok nodes) :
    ∀ entry ∈ (nodes.mapValues NormalizedNode.toMibNode).entries,
      entry.2.module = moduleName ∧ entry.2.name = entry.1 := by
  cases raw
  case object members =>
    obtain ⟨entries, hentries, h⟩ := bind_ok_iff.mp h
    obtain rfl := pure_ok_iff.mp h
    have hall : ∀ entry ∈ (PyDict.ofEntries entries).entries, entry.2.module = moduleName ∧ entry.2.name = entry.1 := by
      apply PyDict.forall_ofEntries
      intro entry hentry
      obtain ⟨item, -, hitem⟩ := mem_of_mapM hentries hentry
      obtain ⟨node, hnode, hitem⟩ := bind_ok_iff.mp hitem
      obtain rfl := pure_ok_iff.mp hitem
      exact normalizeNode_named hnode
    rintro _ hmapped
    obtain ⟨entry, hentry, rfl⟩ := List.mem_map.mp hmapped
    exact hall entry hentry
  all_goals cases h

theorem normalizeModulePayload_named {path : String} {payload : Json} {module : NormalizedModule}
    (h : normalizeModulePayload path payload = .ok module) : module.toRecord.Named := by
  cases payload
  case object members =>
    obtain ⟨moduleName, -, h⟩ := bind_ok_iff.mp h
    obtain ⟨generatedBy, -, h⟩ := bind_ok_iff.mp h
    obtain ⟨imports, -, h⟩ := bind_ok_iff.mp h
    obtain ⟨objects, hobjects, h⟩ := bind_ok_iff.mp h
    obtain ⟨notifications, hnotifications, h⟩ := bind_ok_iff.mp h
    obtain ⟨types, -, h⟩ := bind_ok_iff.mp h
    obtain ⟨moduleMetadata, -, h⟩ := bind_ok_iff.mp h
    obtain ⟨-, -, h⟩ := bind_ok_iff.mp h
    obtain rfl := pure_ok_iff.mp h
    have hobjects := normalizeNodeMap_named hobjects
    have hnotifications := normalizeNodeMap_named hnotifications
    refine ⟨fun node hnode => ?_, fun entry hentry => (hobjects entry hentry).2,
      fun entry hentry => (hnotifications entry hentry).2⟩
    rcases List.mem_append.mp hnode with hnode | hnode
    · obtain ⟨entry, hentry, rfl⟩ := List.mem_map.mp hnode
      exact (hobjects entry hentry).1
    · obtain ⟨entry, hentry, rfl⟩ := List.mem_map.mp hnode
      exact (hnotifications entry hentry).1
  all_goals cases h

theorem loadModules_named {files : List (String × Json)} {records : List MibModuleRecord}
    (h : loadModules files = .ok records) : ∀ record ∈ records, record.Named := by
  intro record hrecord
  obtain ⟨⟨path, file⟩, -, hfile⟩ := mem_of_mapM h hrecord
  obtain ⟨payload, -, hfile⟩ := bind_ok_iff.mp hfile
  obtain ⟨module, hmodule, hfile⟩ := bind_ok_iff.mp hfile
  obtain rfl := pure_ok_iff.mp hfile
  exact normalizeModulePayload_named hmodule

structure OwnNames (modules : PyDict String MibModuleRecord) : Prop where
  keys : ∀ entry ∈ modules.entries, entry.2.module = entry.1
  named : ∀ record ∈ modules.values, record.Named

theorem ownNames_ofRecords {records : List MibModuleRecord} (h : ∀ record ∈ records, record.Named) :
    OwnNames (MibRegistry.ofRecords records .empty).modules := by
  have hentries : ∀ entry ∈ (MibRegistry.ofRecords records .empty).modules.entries,
      entry.2.module = entry.1 ∧ entry.2.Named := by
    apply PyDict.forall_ofEntries
    intro entry hentry
    obtain ⟨record, hrecord, rfl⟩ := List.mem_map.mp hentry
    exact ⟨rfl, h record hrecord⟩
  refine ⟨fun entry hentry => (hentries entry hentry).1, fun record hrecord => ?_⟩
  obtain ⟨entry, hentry, rfl⟩ := List.mem_map.mp hrecord
  exact (hentries entry hentry).2

end Loaded

/-- The names of a module are identifiers, and none is both an object and a notification. -/
structure SmiNames (record : MibModuleRecord) : Prop where
  module : SmiIdentifier record.module
  nodes : ∀ node ∈ record.iterNodes, SmiIdentifier node.name
  once : ∀ object ∈ record.objects.values, ∀ notification ∈ record.notifications.values, object.name ≠ notification.name

section RoundTrip

variable {modules : PyDict String MibModuleRecord} {oid : OID} {oidMatch : OidMatch}

theorem iterNodes_nodup {record : MibModuleRecord} (hnamed : record.Named) (hnames : SmiNames record) :
    (record.iterNodes.map MibNode.name).Nodup := by
  rw [MibModuleRecord.iterNodes, List.map_append, List.nodup_append]
  refine ⟨PyDict.nodup_values hnamed.objects, PyDict.nodup_values hnamed.notifications, ?_⟩
  rintro _ hfirst _ hsecond
  obtain ⟨object, hobject, rfl⟩ := List.mem_map.mp hfirst
  obtain ⟨notification, hnotification, rfl⟩ := List.mem_map.mp hsecond
  exact hnames.once object hobject notification hnotification

theorem symbolIndex_loaded (hown : OwnNames modules) (hnames : ∀ record ∈ modules.values, SmiNames record)
    {node : MibNode} (hnode : node ∈ loadedNodes modules) :
    (MibRegistry.init modules .empty).symbolIndex.get? (node.module, node.name) = some node := by
  obtain ⟨record, hrecord, hnode⟩ := List.mem_flatMap.mp hnode
  have hdistinct : (modules.values.map MibModuleRecord.module).Nodup := PyDict.nodup_values hown.keys
  have hmodule := (hown.named record hrecord).module node hnode
  have hnodup := iterNodes_nodup (hown.named record hrecord) (hnames record hrecord)
  have hfind : (modules.values.find? fun record => record.module = node.module) = some record :=
    (PyDict.find?_key_iff hdistinct).mpr ⟨hrecord, hmodule.symm⟩
  have hname : (record.iterNodes.reverse.find? fun other => other.name = node.name) = some node := by
    rw [← PyDict.find?_key_perm hnodup (List.reverse_perm _).symm]
    exact (PyDict.find?_key_iff hnodup).mpr ⟨hnode, rfl⟩
  have hindex := MibRegistry.get?_ofEntries_flatMap hdistinct MibModuleRecord.iterNodes MibNode.name node.module
    node.name
  rw [hfind, Option.bind_some, hname] at hindex
  rw [← hindex]
  simp only [MibRegistry.init, List.map_flatMap, List.map_map, Function.comp_def]

structure Places (nodes : List MibNode) (oid : OID) (oidMatch : OidMatch) : Prop where
  joined : oidMatch.matchedOid ++ oidMatch.suffix = oid
  named : ∃ node ∈ nodes, node.module = oidMatch.module ∧ node.name = oidMatch.symbol ∧ node.oid = oidMatch.matchedOid

theorem resolve_symbolic_match (hown : OwnNames modules) (hnames : ∀ record ∈ modules.values, SmiNames record)
    (hoid : ∀ arc ∈ oid, 0 ≤ arc) (hplaces : Places (loadedNodes modules) oid oidMatch)
    (hshown : ShownArcs oidMatch.suffix) :
    (oidMatch.symbolic >>= (MibRegistry.init modules .empty).resolveSymbolic) = .ok oid := by
  obtain ⟨node, hnode, hmodule, hname, hmatched⟩ := hplaces.named
  obtain ⟨record, hrecord, hmem⟩ := List.mem_flatMap.mp hnode
  have hidentifier : SmiIdentifier oidMatch.module := by
    rw [← hmodule, (hown.named record hrecord).module node hmem]
    exact (hnames record hrecord).module
  have hsymbol : SmiIdentifier oidMatch.symbol := hname ▸ (hnames record hrecord).nodes node hmem
  have hnonneg : ∀ arc ∈ oidMatch.suffix, 0 ≤ arc := fun arc harc =>
    hoid arc (hplaces.joined ▸ List.mem_append_right _ harc)
  have hindex := symbolIndex_loaded hown hnames hnode
  rw [hmodule, hname] at hindex
  obtain ⟨text, htext⟩ := symbolic_isOk_iff.mpr hshown
  rw [htext, ok_bind, MibRegistry.resolveSymbolic, parseSymbolicTarget_symbolic hidentifier hsymbol hnonneg htext,
    ok_bind]
  simp only [hindex]
  rw [hmatched, hplaces.joined]
  rfl

theorem places_displayMatch (hquery : oidMatch.oid = oid) (h : Places (loadedNodes modules) oid oidMatch) :
    Places (loadedNodes modules) oid ((MibRegistry.init modules .empty).displayMatch oidMatch) := by
  unfold MibRegistry.displayMatch
  split
  · exact h
  · rename_i hplain
    push Not at hplain
    split
    · exact h
    · rename_i parent hparent
      split
      · exact h
      · obtain ⟨front, hfront⟩ := List.getLast?_eq_some_iff.mp hplain.2.2
        obtain ⟨hmem, hparentOid⟩ := MibRegistry.nodeAt_some ((MibRegistry.nodeAt_empty _).trans hparent)
        refine ⟨?_, parent, hmem, rfl, rfl, rfl⟩
        change parent.oid ++ [0] = oid
        rw [hparentOid, ← hquery, hfront, List.dropLast_concat]

theorem shownArcs_longest_iff (hmatch : (MibRegistry.init modules .empty).lookupPrefix oid oid.length = some oidMatch) :
    ShownArcs oidMatch.suffix ↔
      ∃ node ∈ loadedNodes modules, node.oid ≠ [] ∧ node.oid <+: oid ∧ ShownArcs (oid.drop node.oid.length) := by
  have hlongest := MibRegistry.lookupPrefix_longest hmatch
  constructor
  · intro hshown
    obtain ⟨len, node, hpos, hle, hnode, rfl, -⟩ := MibRegistry.lookupPrefix_some hmatch
    obtain ⟨hmem, hoid⟩ := MibRegistry.nodeAt_some hnode
    have hlength : node.oid.length = len := by rw [hoid, List.length_take, Nat.min_eq_left hle]
    refine ⟨node, hmem, List.length_pos_iff.mp (hlength ▸ hpos), hoid ▸ List.take_prefix len oid, ?_⟩
    rw [hlength]
    exact hshown
  · rintro ⟨node, hnode, -, hsearch, hshown⟩ arc harc
    apply hshown
    have hsuffix : oid.drop oidMatch.matchedOid.length = oidMatch.suffix := by
      rw [← hlongest.joined, List.drop_left]
    rw [← hsuffix] at harc
    exact (List.drop_subset_drop_left oid (hlongest.longest node hnode hsearch)) harc

def RoundTrips (registry : MibRegistry) (value : Target) (oid : OID) : Prop :=
  (registry.displaySymbolic value >>= registry.resolveSymbolic) = .ok oid ∧
    (registry.lookupOid value >>= OidMatch.symbolic >>= registry.resolveSymbolic) = .ok oid

theorem roundTrips_iff (hown : OwnNames modules) (hnames : ∀ record ∈ modules.values, SmiNames record) {value : Target}
    (hvalue : parseOid value = .ok oid) (hfound : (MibRegistry.init modules .empty).lookupOid value = .ok oidMatch) :
    RoundTrips (.init modules .empty) value oid ↔
      ∃ node ∈ loadedNodes modules, node.oid ≠ [] ∧ node.oid <+: oid ∧ ShownArcs (oid.drop node.oid.length) := by
  have hnonneg := (parseOid_wellFormed hvalue).2
  have hsearch : (MibRegistry.init modules .empty).lookupPrefix oid oid.length = some oidMatch := by
    have hlookup := hfound
    rw [MibRegistry.lookupOid_of_parse _ hvalue] at hlookup
    split at hlookup
    · rename_i found hsearch
      rw [hsearch, Except.ok.inj hlookup]
    · obtain ⟨_, -, hlookup⟩ := bind_ok_iff.mp hlookup
      cases hlookup
  have hlongest := MibRegistry.lookupPrefix_longest hsearch
  have hplaces : Places (loadedNodes modules) oid oidMatch := ⟨hlongest.joined, hlongest.named⟩
  rw [RoundTrips, MibRegistry.displaySymbolic, hfound, ok_bind, ok_bind, MibRegistry.displaySymbolicFromMatch,
    ← shownArcs_longest_iff hsearch]
  constructor
  · rintro ⟨-, hresolved⟩
    obtain ⟨text, htext, -⟩ := bind_ok_iff.mp hresolved
    exact symbolic_isOk_iff.mp ⟨text, htext⟩
  · intro hshown
    constructor
    · apply resolve_symbolic_match hown hnames hnonneg
      · exact places_displayMatch hlongest.query hplaces
      · exact MibRegistry.shownArcs_displayMatch _ hshown
    · exact resolve_symbolic_match hown hnames hnonneg hplaces hshown

theorem symbolic_round_trip_iff {files : List (String × Json)} {records : List MibModuleRecord} {value : Target}
    (hload : loadModules files = .ok records)
    (hnames : ∀ record ∈ (MibRegistry.ofRecords records .empty).modules.values, SmiNames record)
    (hvalue : parseOid value = .ok oid)
    (hfound : (MibRegistry.ofRecords records .empty).lookupOid value = .ok oidMatch) :
    RoundTrips (.ofRecords records .empty) value oid ↔
      ∃ node ∈ loadedNodes (MibRegistry.ofRecords records .empty).modules,
        node.oid ≠ [] ∧ node.oid <+: oid ∧ ShownArcs (oid.drop node.oid.length) :=
  roundTrips_iff (ownNames_ofRecords (loadModules_named hload)) hnames hvalue hfound

end RoundTrip

def systemFile : String × Json := ("SNMPv2-MIB.json", .object [("module", .str "SNMPv2-MIB"),
  ("generated_by", .str "trishul-smi"), ("objects", .object [("sysDescr", .object [
    ("oid", .str "1.3.6.1.2.1.1.1"), ("object_type", .str "OBJECT-TYPE"), ("class", .str "objecttype"),
    ("nodetype", .str "scalar")])])])

def systemRecord : MibModuleRecord :=
  { module := "SNMPv2-MIB"
    imports := .empty
    objects := .ofEntries [("sysDescr", MibRegistry.systemScalar "sysDescr" 1)]
    notifications := .empty
    types := .empty }

theorem systemFile_loads : loadModules [systemFile] = .ok [systemRecord] := by rfl

theorem systemRecord_names :
    ∀ record ∈ (MibRegistry.ofRecords [systemRecord] .empty).modules.values, SmiNames record := by
  have hvalues : (MibRegistry.ofRecords [systemRecord] .empty).modules.values = [systemRecord] := rfl
  rw [hvalues, List.forall_mem_singleton]
  refine ⟨smiIdentifier_of_letters (by decide) (by decide), ?_, ?_⟩
  · intro node hnode
    obtain rfl := List.mem_singleton.mp hnode
    exact smiIdentifier_of_letters (by decide) (by decide)
  · exact fun _ _ notification hnotification => absurd hnotification List.not_mem_nil

theorem huge_instance_not_shown : loadModules [systemFile] = .ok [systemRecord] ∧
    (∀ record ∈ (MibRegistry.ofRecords [systemRecord] .empty).modules.values, SmiNames record) ∧
    parseOid (.sequence [1, 3, 6, 1, 2, 1, 1, 1, 10 ^ 4300] (.ok "")) = .ok [1, 3, 6, 1, 2, 1, 1, 1, 10 ^ 4300] ∧
    (∃ oidMatch, (MibRegistry.ofRecords [systemRecord] .empty).lookupOid
      (.sequence [1, 3, 6, 1, 2, 1, 1, 1, 10 ^ 4300] (.ok "")) = .ok oidMatch) ∧
    ¬ RoundTrips (.ofRecords [systemRecord] .empty) (.sequence [1, 3, 6, 1, 2, 1, 1, 1, 10 ^ 4300] (.ok ""))
      [1, 3, 6, 1, 2, 1, 1, 1, 10 ^ 4300] := by
  refine ⟨systemFile_loads, systemRecord_names, by decide +kernel, ⟨MibRegistry.matchOf
    (MibRegistry.systemScalar "sysDescr" 1) [1, 3, 6, 1, 2, 1, 1, 1, 10 ^ 4300] [10 ^ 4300], by decide +kernel⟩, ?_⟩
  rw [RoundTrips]
  decide +kernel

theorem symbolic_round_trip_sample : RoundTrips (.ofRecords [systemRecord] .empty) (.text "1.3.6.1.2.1.1.1.0")
    [1, 3, 6, 1, 2, 1, 1, 1, 0] := by
  have hfound : (MibRegistry.ofRecords [systemRecord] .empty).lookupOid (.text "1.3.6.1.2.1.1.1.0") =
      .ok (MibRegistry.matchOf (MibRegistry.systemScalar "sysDescr" 1) [1, 3, 6, 1, 2, 1, 1, 1, 0] [0]) := by
    decide +kernel
  apply (symbolic_round_trip_iff systemFile_loads systemRecord_names (by decide +kernel) hfound).mpr
  refine ⟨MibRegistry.systemScalar "sysDescr" 1, List.mem_singleton_self _, by simp [MibRegistry.systemScalar],
    by decide +kernel, fun arc harc => ?_⟩
  obtain rfl := List.mem_singleton.mp harc
  exact printable_zero

end TrishulSnmp.Mib
