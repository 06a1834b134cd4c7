import TrishulSnmp.Mib.Loader

namespace TrishulSnmp.Mib

open Outcome

namespace MibRegistry

def SameAnswers (registry other : MibRegistry) (target : Target) : Prop :=
  registry.lookupOid target = other.lookupOid target ∧ registry.translate target = other.translate target ∧
    registry.displaySymbolic target = other.displaySymbolic target

instance (registry other : MibRegistry) : DecidablePred (SameAnswers registry other) :=
  fun _ => inferInstanceAs (Decidable (_ ∧ _ ∧ _))

end MibRegistry

def MibNode.described (node : MibNode) : String × String × OID × String × String × Option String :=
  (node.module, node.name, node.oid, node.className, node.objectType, node.nodetype)

def IndexAgrees (modules : PyDict String MibModuleRecord) (oidIndex : PyDict OID OidIndexEntry) : Prop :=
  let registry := MibRegistry.init modules .empty
  ∀ oid entry node, WellFormed oid → oidIndex.get? oid = some entry →
    registry.symbolIndex.get? (entry.module, entry.symbol) = some node →
      ∃ own, registry.exactOidIndex.get? oid = some own ∧ own.described = node.described

namespace MibRegistry

theorem matchOf_congr {node other : MibNode} (h : node.described = other.described) (oid suffix : OID) :
    matchOf node oid suffix = matchOf other oid suffix := by
  simp only [MibNode.described, Prod.mk.injEq] at h
  obtain ⟨hmodule, hname, hoid, hclass, htype, hnode⟩ := h
  simp only [matchOf, hmodule, hname, hoid, hclass, htype, hnode]

theorem described_of_matchOf {node other : MibNode} {oid suffix suffix' : OID}
    (h : matchOf node oid suffix = matchOf other oid suffix') :
    node.described = other.described ∧ suffix = suffix' := by
  simp only [matchOf, OidMatch.mk.injEq, Option.some.injEq] at h
  obtain ⟨-, hmodule, hname, hoid, hsuffix, hclass, htype, hnode⟩ := h
  simp only [MibNode.described, hmodule, hname, hoid, hclass, htype, hnode, hsuffix, and_self]

variable {modules : PyDict String MibModuleRecord} {oidIndex : PyDict OID OidIndexEntry}

theorem nodeAt_empty (oid : OID) :
    (init modules .empty).nodeAt oid = (init modules .empty).exactOidIndex.get? oid := rfl

theorem nodeAt_entry {oid : OID} {entry : OidIndexEntry} {node : MibNode} (hentry : oidIndex.get? oid = some entry)
    (hnode : (init modules .empty).symbolIndex.get? (entry.module, entry.symbol) = some node) :
    (init modules oidIndex).nodeAt oid = some node := by
  have haccelerated : (init modules oidIndex).lookupExactFromAccelerator oid = some node := by
    rw [lookupExactFromAccelerator, init, hentry]
    exact hnode
  rw [nodeAt, haccelerated, Option.some_or]

theorem nodeAt_described (h : IndexAgrees modules oidIndex) {oid : OID} (hoid : WellFormed oid) :
    ((init modules oidIndex).nodeAt oid).map MibNode.described =
      ((init modules .empty).nodeAt oid).map MibNode.described := by
  cases haccelerated : (init modules oidIndex).lookupExactFromAccelerator oid with
  | none =>
    rw [nodeAt, haccelerated]
    rfl
  | some node =>
    rw [nodeAt, haccelerated, nodeAt_empty, Option.some_or]
    unfold lookupExactFromAccelerator at haccelerated
    split at haccelerated
    · cases haccelerated
    · rename_i entry hentry
      obtain ⟨own, hown, hsame⟩ := h oid entry node hoid hentry haccelerated
      rw [hown, Option.map_some, Option.map_some, hsame]

theorem lookupPrefix_congr {registry other : MibRegistry} (h : ∀ oid, WellFormed oid →
      (registry.nodeAt oid).map MibNode.described = (other.nodeAt oid).map MibNode.described)
    {oid : OID} (hoid : WellFormed oid) (prefixLen : ℕ) :
    registry.lookupPrefix oid prefixLen = other.lookupPrefix oid prefixLen := by
  induction prefixLen with
  | zero => rfl
  | succ prefixLen ih =>
    have hprefix : WellFormed (oid.take (prefixLen + 1)) :=
      ⟨by simp [hoid.1], fun arc harc => hoid.2 arc (List.mem_of_mem_take harc)⟩
    have hnodes := h _ hprefix
    rw [lookupPrefix, lookupPrefix, ih]
    cases hnode : registry.nodeAt (oid.take (prefixLen + 1)) with
    | none =>
      rw [hnode, Option.map_none, eq_comm, Option.map_eq_none_iff] at hnodes
      rw [hnodes]
    | some node =>
      rw [hnode, Option.map_some, eq_comm, Option.map_eq_some_iff] at hnodes
      obtain ⟨own, hown, hsame⟩ := hnodes
      rw [hown]
      exact congrArg some (matchOf_congr hsame.symm oid _)

theorem lookupOid_congr {registry other : MibRegistry} (h : ∀ oid, WellFormed oid →
      (registry.nodeAt oid).map MibNode.described = (other.nodeAt oid).map MibNode.described) (value : Target) :
    registry.lookupOid value = other.lookupOid value := by
  obtain ⟨oid, hoid⟩ | ⟨e, he⟩ := ok_or_error (parseOid value)
  · rw [lookupOid_of_parse _ hoid, lookupOid_of_parse _ hoid, lookupPrefix_congr h (parseOid_wellFormed hoid)]
  · rw [lookupOid, lookupOid, he]
    rfl

theorem translate_congr {registry other : MibRegistry}
    (hresolve : ∀ target, registry.resolveSymbolic target = other.resolveSymbolic target)
    (hdisplay : ∀ value, registry.displaySymbolic value = other.displaySymbolic value) (target : Target) :
    registry.translate target = other.translate target := by
  cases target with
  | text value => simp only [translate, hdisplay, hresolve]
  | sequence arcs shown => exact hdisplay (.sequence arcs shown)

theorem sameAnswers_of_lookupOid (h : ∀ value, (init modules oidIndex).lookupOid value =
    (init modules .empty).lookupOid value) (target : Target) :
    SameAnswers (init modules oidIndex) (init modules .empty) target := by
  have hdisplay (value : Target) :
      (init modules oidIndex).displaySymbolic value = (init modules .empty).displaySymbolic value := by
    rw [displaySymbolic, displaySymbolic, h value]
    rfl
  have hresolve (value : String) :
      (init modules oidIndex).resolveSymbolic value = (init modules .empty).resolveSymbolic value := rfl
  exact ⟨h target, translate_congr hresolve hdisplay target, hdisplay target⟩

theorem suffix_ne_nil {registry : MibRegistry} {oid : OID} {prefixLen : ℕ} {oidMatch : OidMatch}
    (hlen : prefixLen < oid.length) (h : registry.lookupPrefix oid prefixLen = some oidMatch) :
    oidMatch.suffix ≠ [] := by
  induction prefixLen with
  | zero => cases h
  | succ prefixLen ih =>
    rw [lookupPrefix] at h
    split at h
    · cases h
      simpa [matchOf] using hlen
    · exact ih (Nat.lt_of_succ_lt hlen) h

theorem lookupOid_exact {registry : MibRegistry} {value : Target} {oidMatch : OidMatch}
    (h : registry.lookupOid value = .ok oidMatch) (hsuffix : oidMatch.suffix = []) :
    ∃ oid node, parseOid value = .ok oid ∧ registry.nodeAt oid = some node ∧ oidMatch = matchOf node oid [] := by
  obtain ⟨oid, hoid, h⟩ := bind_ok_iff.mp h
  cases hnode : registry.nodeAt oid with
  | some node =>
    rw [hnode] at h
    exact ⟨oid, node, hoid, hnode, (Except.ok.inj h).symm⟩
  | none =>
    rw [hnode] at h
    simp only at h
    split at h
    · rename_i found hprefix
      obtain rfl := Except.ok.inj h
      have hne := (parseOid_wellFormed hoid).1
      have hlen : oid.length - 1 < oid.length := Nat.sub_one_lt (mt List.length_eq_zero_iff.mp hne)
      exact absurd hsuffix (suffix_ne_nil hlen hprefix)
    · obtain ⟨_, _, h⟩ := bind_ok_iff.mp h
      cases h

theorem exact_of_lookupOid {oid : OID} {node : MibNode} (hoid : WellFormed oid) {shown : Except Error String}
    (h : (init modules .empty).lookupOid (.sequence oid shown) = .ok (matchOf node oid [])) :
    ∃ own, (init modules .empty).exactOidIndex.get? oid = some own ∧ own.described = node.described := by
  obtain ⟨_, own, hparse, hown, hmatch⟩ := lookupOid_exact h rfl
  obtain rfl := Except.ok.inj ((parseOid_sequence hoid shown).symm.trans hparse)
  exact ⟨own, hown, (described_of_matchOf hmatch.symm).1⟩

theorem accelerator_transparent_iff (modules : PyDict String MibModuleRecord) (oidIndex : PyDict OID OidIndexEntry) :
    (∀ target, SameAnswers (init modules oidIndex) (init modules .empty) target) ↔ IndexAgrees modules oidIndex := by
  constructor
  · intro h oid entry node hoid hentry hnode
    obtain ⟨hlookup, -, -⟩ := h (.sequence oid (.ok ""))
    rw [lookupOid, parseOid_sequence hoid, ok_bind, nodeAt_entry hentry hnode] at hlookup
    exact exact_of_lookupOid hoid hlookup.symm
  · intro h
    exact sameAnswers_of_lookupOid (lookupOid_congr fun oid hoid => nodeAt_described h hoid)

def systemScalar (name : String) (arc : ℤ) : MibNode :=
  { module := "SNMPv2-MIB"
    name := name
    oid := [1, 3, 6, 1, 2, 1, 1, arc]
    className := "objecttype"
    objectType := "OBJECT-TYPE"
    nodetype := some "scalar"
    syntaxName := none
    description := none
    members := none
    constraints := none }

def systemModules : PyDict String MibModuleRecord := .ofEntries [("SNMPv2-MIB", {
  module := "SNMPv2-MIB"
  imports := .empty
  objects := .ofEntries [("sysDescr", systemScalar "sysDescr" 1), ("sysName", systemScalar "sysName" 5)]
  notifications := .empty
  types := .empty })]

def staleIndex : Json := .object [("oids", .object [
  ("1.3.6.1.2.1.1.1", .object [("module", .str "SNMPv2-MIB"), ("object", .str "sysName")])])]

theorem stale_index_misleads : ∃ oidIndex, loadOidIndex "oid_index.json" staleIndex = .ok oidIndex ∧
    ¬ SameAnswers (init systemModules oidIndex) (init systemModules .empty) (.text "1.3.6.1.2.1.1.1.0") :=
  ⟨PyDict.empty.set [1, 3, 6, 1, 2, 1, 1, 1] ⟨"SNMPv2-MIB", "sysName"⟩, by decide +kernel, by decide +kernel⟩

end MibRegistry

end TrishulSnmp.Mib
