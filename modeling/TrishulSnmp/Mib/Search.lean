import Mathlib.Data.List.Flatten
import Mathlib.Data.List.Infix
import TrishulSnmp.Library.Collect
import TrishulSnmp.Mib.Registry

namespace TrishulSnmp.Mib

open Collect Outcome

/-! `MibBundle.search`, with `str.lower` as a parameter. -/

section Search

variable (lower : String → String) (needle : String) (module typeFilter : Option String)

def MibNode.matchesText (node : MibNode) : Bool :=
  needle.toList <:+: (lower node.name).toList ||
    node.description.any fun description => needle.toList <:+: (lower description).toList

def MibNode.wanted (node : MibNode) : Bool :=
  !(typeFilter.isSome && typeFilter ≠ some node.objectType) && node.matchesText lower needle

def MibModuleRecord.candidates (record : MibModuleRecord) : List MibNode :=
  (if typeFilter ≠ some "NOTIFICATION-TYPE" then record.objects.values else []) ++
    (if typeFilter ≠ some "OBJECT-TYPE" then record.notifications.values else [])

def searchModules (limit : ℤ) : List (String × MibModuleRecord) → List MibNode → Except (List MibNode) (List MibNode)
  | [], results => .ok results
  | (modName, modRecord) :: modules, results =>
    if module.isSome ∧ module ≠ some modName then searchModules limit modules results
    else do
      let results ← collect (MibNode.wanted lower needle typeFilter) limit (modRecord.candidates typeFilter) results
      searchModules limit modules results

end Search

def MibRegistry.search (registry : MibRegistry) (lower : String → String) (query : String)
    (module typeFilter : Option String) (limit : ℤ) : List MibNode :=
  returned (searchModules lower (lower query) module typeFilter limit registry.modules.entries [])

section Loops

variable {lower : String → String} {needle : String} {module typeFilter : Option String} {limit : ℤ}

def selected (module : Option String) (modules : List (String × MibModuleRecord)) : List MibModuleRecord :=
  (modules.filter fun entry => module.isNone || module = some entry.1).map Prod.snd

theorem selected_cons (modName : String) (modRecord : MibModuleRecord) (modules : List (String × MibModuleRecord)) :
    selected module ((modName, modRecord) :: modules) =
      if module.isSome ∧ module ≠ some modName then selected module modules else modRecord :: selected module
        modules := by
  cases module with
  | none => simp [selected]
  | some name =>
    by_cases hname : name = modName
    · simp [selected, hname]
    · simp [selected, hname]

theorem searchModules_eq (modules : List (String × MibModuleRecord)) (results : List MibNode) :
    searchModules lower needle module typeFilter limit modules results =
      collect (MibNode.wanted lower needle typeFilter) limit
        ((selected module modules).flatMap (MibModuleRecord.candidates typeFilter)) results := by
  induction modules generalizing results with
  | nil => rfl
  | cons entry modules ih =>
    obtain ⟨modName, modRecord⟩ := entry
    rw [searchModules, selected_cons]
    split_ifs with hskipped
    · exact ih results
    · rw [List.flatMap_cons, collect_append]
      congr
      funext results
      exact ih results

theorem search_eq (registry : MibRegistry) (query : String) : registry.search lower query module typeFilter limit =
    (((selected module registry.modules.entries).flatMap (MibModuleRecord.candidates typeFilter)).filter
      (MibNode.wanted lower (lower query) typeFilter)).take (room limit) := by
  rw [MibRegistry.search, searchModules_eq, returned_collect]

end Loops

def MibRegistry.found (registry : MibRegistry) (lower : String → String) (query : String)
    (module typeFilter : Option String) : List MibNode :=
  (selected module registry.modules.entries).flatMap fun record =>
    record.iterNodes.filter (MibNode.wanted lower (lower query) typeFilter)

structure OnlyTruncates (registry : MibRegistry) (lower : String → String) (query : String)
    (module typeFilter : Option String) (limit : ℕ) : Prop where
  unlimited : ∀ k : ℤ, ((selected module registry.modules.entries).flatMap MibModuleRecord.iterNodes).length < k →
    registry.search lower query module typeFilter k = registry.found lower query module typeFilter
  truncated : registry.search lower query module typeFilter limit =
    (registry.found lower query module typeFilter).take limit

/-- No node that is looked for stands in the collection that its type rules out. -/
structure WellPlaced (registry : MibRegistry) (lower : String → String) (query : String)
    (module typeFilter : Option String) : Prop where
  objects : typeFilter = some "NOTIFICATION-TYPE" → ∀ record ∈ selected module registry.modules.entries,
    ∀ node ∈ record.objects.values, node.wanted lower (lower query) typeFilter = false
  notifications : typeFilter = some "OBJECT-TYPE" → ∀ record ∈ selected module registry.modules.entries,
    ∀ node ∈ record.notifications.values, node.wanted lower (lower query) typeFilter = false

section Results

variable {registry : MibRegistry} {lower : String → String} {query : String} {module typeFilter : Option String}

def MibRegistry.scanned (registry : MibRegistry) (lower : String → String) (query : String)
    (module typeFilter : Option String) : List MibNode :=
  (selected module registry.modules.entries).flatMap fun record =>
    (record.candidates typeFilter).filter (MibNode.wanted lower (lower query) typeFilter)

theorem search_scanned (limit : ℤ) : registry.search lower query module typeFilter limit =
    (registry.scanned lower query module typeFilter).take (room limit) := by
  rw [search_eq, MibRegistry.scanned, List.filter_flatMap]

theorem filtered_eq_iff (record : MibModuleRecord) (keep : MibNode → Bool) :
    (record.candidates typeFilter).filter keep = record.iterNodes.filter keep ↔
      (typeFilter = some "NOTIFICATION-TYPE" → ∀ node ∈ record.objects.values, keep node = false) ∧
        (typeFilter = some "OBJECT-TYPE" → ∀ node ∈ record.notifications.values, keep node = false) := by
  unfold MibModuleRecord.candidates MibModuleRecord.iterNodes
  by_cases hnotification : typeFilter = some "NOTIFICATION-TYPE"
  · subst hnotification
    simp [List.filter_append]
  · by_cases hobject : typeFilter = some "OBJECT-TYPE"
    · subst hobject
      simp [List.filter_append]
    · simp [hnotification, hobject]

theorem filtered_sublist (record : MibModuleRecord) (keep : MibNode → Bool) :
    ((record.candidates typeFilter).filter keep).Sublist (record.iterNodes.filter keep) := by
  apply List.Sublist.filter
  unfold MibModuleRecord.candidates MibModuleRecord.iterNodes
  split_ifs <;> simp

theorem flatMap_eq_iff {α β : Type} {f g : α → List β} {xs : List α} (h : ∀ x ∈ xs, (f x).Sublist (g x)) :
    xs.flatMap f = xs.flatMap g ↔ ∀ x ∈ xs, f x = g x := by
  constructor
  · induction xs with
    | nil => simp
    | cons x xs ih =>
      obtain ⟨hx, hxs⟩ := List.forall_mem_cons.mp h
      have hrest := List.Sublist.flatMap_right xs hxs
      intro heq
      rw [List.flatMap_cons, List.flatMap_cons] at heq
      have hlen := congrArg List.length heq
      rw [List.length_append, List.length_append] at hlen
      have hle := hx.length_le
      have hle' := hrest.length_le
      exact List.forall_mem_cons.mpr ⟨hx.eq_of_length (by omega), ih hxs (hrest.eq_of_length (by omega))⟩
  · exact List.flatMap_congr

theorem scanned_eq_found_iff : registry.scanned lower query module typeFilter =
    registry.found lower query module typeFilter ↔
    WellPlaced registry lower query module typeFilter := by
  rw [MibRegistry.scanned, MibRegistry.found, flatMap_eq_iff fun record _ => filtered_sublist record _]
  simp only [filtered_eq_iff]
  constructor
  · intro h
    exact ⟨fun htype record hrecord => (h record hrecord).1 htype,
      fun htype record hrecord => (h record hrecord).2 htype⟩
  · intro ⟨hobjects, hnotifications⟩ record hrecord
    exact ⟨fun htype => hobjects htype record hrecord, fun htype => hnotifications htype record hrecord⟩

theorem search_unlimited {k : ℤ} (h : ((selected module registry.modules.entries).flatMap
    MibModuleRecord.iterNodes).length < k) :
    registry.search lower query module typeFilter k = registry.scanned lower query module typeFilter := by
  rw [search_scanned, List.take_of_length_le]
  have hsub : (registry.scanned lower query module typeFilter).Sublist
      ((selected module registry.modules.entries).flatMap MibModuleRecord.iterNodes) :=
    List.Sublist.flatMap_right _ fun record _ => (filtered_sublist record _).trans List.filter_sublist
  have hle := hsub.length_le
  unfold room
  omega

theorem room_natCast {limit : ℕ} (h : limit ≠ 0) : room (limit : ℤ) = limit := by
  unfold room
  omega

theorem search_truncates_iff (registry : MibRegistry) (lower : String → String) (query : String)
    (module typeFilter : Option String) (limit : ℕ) : OnlyTruncates registry lower query module typeFilter limit ↔
      (limit ≠ 0 ∨ registry.found lower query module typeFilter = []) ∧
      WellPlaced registry lower query module typeFilter := by
  rw [← scanned_eq_found_iff]
  constructor
  · intro ⟨hunlimited, htruncated⟩
    have hfound := hunlimited _ (Int.lt_succ _)
    rw [search_unlimited (Int.lt_succ _)] at hfound
    refine ⟨?_, hfound⟩
    by_cases hlimit : limit = 0
    · -- the first result is returned before the limit of none is looked at
      subst hlimit
      rw [search_scanned, hfound, List.take_zero, List.take_eq_nil_iff] at htruncated
      exact .inr (htruncated.resolve_left (by simp [room]))
    · exact .inl hlimit
  · intro ⟨hlimit, hfound⟩
    constructor
    · intro k hk
      rw [search_unlimited hk, hfound]
    · rw [search_scanned, hfound]
      obtain hlimit | hnone := hlimit
      · rw [room_natCast hlimit]
      · rw [hnone, List.take_nil, List.take_nil]

end Results

def oneObject (objectType : String) : MibRegistry :=
  let node : MibNode := {
    module := "SNMPv2-MIB", name := "sysdescr", oid := [1, 3, 6, 1, 2, 1, 1, 1], className := "objecttype"
    objectType := objectType, nodetype := some "scalar", syntaxName := none, description := none, members := none
    constraints := none }
  .init (.ofEntries [("SNMPv2-MIB",
    { module := "SNMPv2-MIB", imports := .empty, objects := .ofEntries [("sysdescr", node)], notifications := .empty
      types := .empty })]) .empty

theorem search_none_finds_one : ((oneObject "OBJECT-TYPE").search id "sys" none none 0).length = 1 ∧
    ((oneObject "NOTIFICATION-TYPE").search id "sys" none (some "NOTIFICATION-TYPE") 100).length = 0 ∧
    ((oneObject "NOTIFICATION-TYPE").found id "sys" none (some "NOTIFICATION-TYPE")).length = 1 ∧
    ¬ OnlyTruncates (oneObject "OBJECT-TYPE") id "sys" none none 0 ∧
    ¬ OnlyTruncates (oneObject "NOTIFICATION-TYPE") id "sys" none (some "NOTIFICATION-TYPE") 100 := by
  have hone : ((oneObject "OBJECT-TYPE").search id "sys" none none 0).length = 1 := by decide
  have hnone : ((oneObject "NOTIFICATION-TYPE").search id "sys" none (some "NOTIFICATION-TYPE") 100).length =
    0 := by decide
  have hfound : ((oneObject "NOTIFICATION-TYPE").found id "sys" none (some "NOTIFICATION-TYPE")).length = 1 := by decide
  refine ⟨hone, hnone, hfound, ?_, ?_⟩
  · intro h
    have hlen := congrArg List.length h.truncated
    rw [List.take_zero] at hlen
    exact absurd (hone.symm.trans hlen) (by decide)
  · intro h
    have hlen := congrArg List.length h.truncated
    rw [List.length_take, hfound] at hlen
    exact absurd (hnone.symm.trans hlen) (by decide)

end TrishulSnmp.Mib
