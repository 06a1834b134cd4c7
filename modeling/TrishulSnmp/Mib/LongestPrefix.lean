import TrishulSnmp.Mib.Accelerator
import TrishulSnmp.Mib.Render

namespace TrishulSnmp.Mib

open Outcome

def loadedNodes (modules : PyDict String MibModuleRecord) : List MibNode :=
  modules.values.flatMap MibModuleRecord.iterNodes

structure LongestMatch (nodes : List MibNode) (oid : OID) (oidMatch : OidMatch) : Prop where
  query : oidMatch.oid = oid
  joined : oidMatch.matchedOid ++ oidMatch.suffix = oid
  named : ∃ node ∈ nodes, node.module = oidMatch.module ∧ node.name = oidMatch.symbol ∧ node.oid = oidMatch.matchedOid
  longest : ∀ node ∈ nodes, node.oid <+: oid → node.oid.length ≤ oidMatch.matchedOid.length

namespace MibRegistry

section Search

variable {registry : MibRegistry} {oid : OID} {prefixLen : ℕ}

theorem lookupPrefix_none_iff : registry.lookupPrefix oid prefixLen = none ↔
    ∀ len, 0 < len → len ≤ prefixLen → registry.nodeAt (oid.take len) = none := by
  induction prefixLen with
  | zero => simp only [lookupPrefix, true_iff]; omega
  | succ prefixLen ih =>
    rw [lookupPrefix]
    cases hnode : registry.nodeAt (oid.take (prefixLen + 1)) with
    | some node =>
      simp only [reduceCtorEq, false_iff, not_forall]
      exact ⟨prefixLen + 1, by omega, le_rfl, by simp [hnode]⟩
    | none =>
      simp only [ih]
      constructor
      · intro h len hpos hle
        obtain rfl | hlt := hle.eq_or_lt
        · exact hnode
        · exact h len hpos (by omega)
      · intro h len hpos hle
        exact h len hpos (by omega)

theorem lookupPrefix_some {oidMatch : OidMatch} (h : registry.lookupPrefix oid prefixLen = some oidMatch) :
    ∃ len node, 0 < len ∧ len ≤ prefixLen ∧ registry.nodeAt (oid.take len) = some node ∧
      oidMatch = matchOf node oid (oid.drop len) ∧
      ∀ longer, len < longer → longer ≤ prefixLen → registry.nodeAt (oid.take longer) = none := by
  induction prefixLen with
  | zero => cases h
  | succ prefixLen ih =>
    rw [lookupPrefix] at h
    cases hnode : registry.nodeAt (oid.take (prefixLen + 1)) with
    | some node =>
      rw [hnode] at h
      exact ⟨prefixLen + 1, node, by omega, le_rfl, hnode, (Option.some.inj h).symm, by omega⟩
    | none =>
      rw [hnode] at h
      obtain ⟨len, node, hpos, hle, hfound, hmatch, hlonger⟩ := ih h
      refine ⟨len, node, hpos, by omega, hfound, hmatch, fun longer hlt hle' => ?_⟩
      obtain rfl | hlt' := hle'.eq_or_lt
      · exact hnode
      · exact hlonger longer hlt (by omega)

end Search

section Loaded

variable {modules : PyDict String MibModuleRecord} {oid : OID} {node : MibNode}

theorem nodeAt_init (oid : OID) : (init modules .empty).nodeAt oid =
    (loadedNodes modules).reverse.find? fun node => node.oid = oid := by
  have hentries : (init modules .empty).exactOidIndex =
      .ofEntries ((loadedNodes modules).map fun node => (node.oid, node)) := by
    simp only [init, loadedNodes, List.map_flatMap, List.map_map, Function.comp_def]
  rw [nodeAt_empty, hentries, PyDict.get?_ofEntries, ← List.map_reverse, List.find?_map, Option.map_map]
  exact Option.map_id_apply

theorem nodeAt_some (h : (init modules .empty).nodeAt oid = some node) :
    node ∈ loadedNodes modules ∧ node.oid = oid := by
  rw [nodeAt_init] at h
  exact ⟨List.mem_reverse.mp (List.mem_of_find?_eq_some h), by simpa using List.find?_some h⟩

theorem nodeAt_none_iff :
    (init modules .empty).nodeAt oid = none ↔ ∀ node ∈ loadedNodes modules, node.oid ≠ oid := by
  rw [nodeAt_init, List.find?_eq_none]
  simp only [List.mem_reverse, decide_eq_true_eq, ne_eq]

theorem lookupPrefix_longest {oidMatch : OidMatch}
    (h : (init modules .empty).lookupPrefix oid oid.length = some oidMatch) :
    LongestMatch (loadedNodes modules) oid oidMatch := by
  obtain ⟨len, node, -, hle, hnode, rfl, hlonger⟩ := lookupPrefix_some h
  obtain ⟨hmem, hoid⟩ := nodeAt_some hnode
  refine ⟨rfl, ?_, ⟨node, hmem, rfl, rfl, rfl⟩, fun other hother hprefix => ?_⟩
  · change node.oid ++ oid.drop len = oid
    rw [hoid, List.take_append_drop]
  · by_contra hlt
    have hlen : node.oid.length = len := by rw [hoid, List.length_take, Nat.min_eq_left hle]
    have hgreater : len < other.oid.length := hlen ▸ not_le.mp hlt
    exact nodeAt_none_iff.mp (hlonger _ hgreater hprefix.length_le) other hother (List.prefix_iff_eq_take.mp hprefix)

theorem no_prefix_iff (hnonempty : ∀ node ∈ loadedNodes modules, node.oid ≠ []) :
    (init modules .empty).lookupPrefix oid oid.length = none ↔ ∀ node ∈ loadedNodes modules, ¬ node.oid <+: oid := by
  rw [lookupPrefix_none_iff]
  constructor
  · intro h node hnode hprefix
    have hpos : 0 < node.oid.length := List.length_pos_iff.mpr (hnonempty node hnode)
    exact nodeAt_none_iff.mp (h _ hpos hprefix.length_le) node hnode (List.prefix_iff_eq_take.mp hprefix)
  · intro h len _ _
    refine nodeAt_none_iff.mpr fun node hnode hoid => h node hnode ?_
    rw [hoid]
    exact List.take_prefix len oid

structure MatchesLongest (modules : PyDict String MibModuleRecord) (value : Target) (oid : OID) : Prop where
  found : (∃ node ∈ loadedNodes modules, node.oid <+: oid) →
    ∃ oidMatch, (init modules .empty).lookupOid value = .ok oidMatch ∧ LongestMatch (loadedNodes modules) oid oidMatch
  unknown : (∃ text, (init modules .empty).lookupOid value = .error (.unknownOidError text)) ↔
    ∀ node ∈ loadedNodes modules, ¬ node.oid <+: oid

theorem longest_prefix_iff (hnonempty : ∀ node ∈ loadedNodes modules, node.oid ≠ []) {value : Target}
    (hvalue : parseOid value = .ok oid) :
    MatchesLongest modules value oid ↔ (∃ node ∈ loadedNodes modules, node.oid <+: oid) ∨ ShownArcs oid := by
  have hlookup := (init modules .empty).lookupOid_of_parse hvalue
  cases hsearch : (init modules .empty).lookupPrefix oid oid.length with
  | some oidMatch =>
    rw [hsearch] at hlookup
    have hsome : ∃ node ∈ loadedNodes modules, node.oid <+: oid := by
      by_contra! hnone
      rw [(no_prefix_iff hnonempty).mpr hnone] at hsearch
      cases hsearch
    refine ⟨fun _ => .inl hsome, fun _ => ⟨fun _ => ⟨oidMatch, hlookup, lookupPrefix_longest hsearch⟩, ?_⟩⟩
    constructor
    · rintro ⟨text, htext⟩
      cases hlookup.symm.trans htext
    · intro hnone
      obtain ⟨node, hnode, hprefix⟩ := hsome
      exact absurd hprefix (hnone node hnode)
  | none =>
    rw [hsearch] at hlookup
    have hnone := (no_prefix_iff hnonempty).mp hsearch
    constructor
    · intro h
      obtain ⟨text, htext⟩ := h.unknown.mpr hnone
      refine .inr (oidToString_isOk_iff.mp ?_)
      obtain hshown | ⟨e, he⟩ := ok_or_error (oidToString oid)
      · exact hshown
      · obtain ⟨message, rfl⟩ := oidToString_failsOnly oid e he
        rw [htext, he] at hlookup
        cases hlookup
    · rintro (⟨node, hnode, hprefix⟩ | hshown)
      · exact absurd hprefix (hnone node hnode)
      · obtain ⟨text, htext⟩ := oidToString_isOk_iff.mpr hshown
        rw [htext] at hlookup
        refine ⟨fun ⟨node, hnode, hprefix⟩ => absurd hprefix (hnone node hnode), fun _ => hnone, fun _ => ⟨_, hlookup⟩⟩

theorem huge_arc_not_unknown : parseOid (.sequence [10 ^ 4300] (.ok "")) = .ok [10 ^ 4300] ∧
    (∀ node ∈ loadedNodes systemModules, node.oid ≠ [] ∧ ¬ node.oid <+: [10 ^ 4300]) ∧
    (∃ text, (init systemModules .empty).lookupOid (.sequence [10 ^ 4300] (.ok "")) = .error (.valueError text)) ∧
    ¬ MatchesLongest systemModules (.sequence [10 ^ 4300] (.ok "")) [10 ^ 4300] := by
  have hnone : ∀ node ∈ loadedNodes systemModules, node.oid ≠ [] ∧ ¬ node.oid <+: [10 ^ 4300] := by decide +kernel
  have hraised : (init systemModules .empty).lookupOid (.sequence [10 ^ 4300] (.ok "")) =
      .error (.valueError ("Exceeds the limit (4300 digits) for integer string conversion; " ++
        "use sys.set_int_max_str_digits() to increase the limit")) := by
    decide +kernel
  refine ⟨by decide +kernel, hnone, ⟨_, hraised⟩, fun h => ?_⟩
  obtain ⟨text, htext⟩ := h.unknown.mpr fun node hnode => (hnone node hnode).2
  cases hraised.symm.trans htext

theorem longest_prefix_sample : MatchesLongest systemModules (.text "1.3.6.1.2.1.1.1.0")
    [1, 3, 6, 1, 2, 1, 1, 1, 0] := by
  have hnodes : loadedNodes systemModules = [systemScalar "sysDescr" 1, systemScalar "sysName" 5] := by rfl
  apply (longest_prefix_iff (by decide +kernel) (by decide +kernel)).mpr
  exact .inl ⟨systemScalar "sysDescr" 1, hnodes ▸ List.mem_cons_self .., by decide⟩

end Loaded

end MibRegistry

end TrishulSnmp.Mib
