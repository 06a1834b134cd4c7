import TrishulSnmp.Mib.Normalize

namespace TrishulSnmp.Mib

open Outcome

/-! Which JSON a bundle is refused for with something else than a `BundleValidationError`. -/

def isBundleValidation : Error → Bool
  | .bundleValidationError _ => true
  | _ => false

abbrev ReportsInvalid {α : Type} (x : Except Error α) : Prop := FailsOnly (fun e => isBundleValidation e) x

section Fields

variable {path name field moduleName : String} {members : List (String × Json)}

theorem invalid_reports {α : Type} (path message : String) : ReportsInvalid (invalid path message : Except Error α) :=
  failsOnly_error rfl

theorem reports_pure_iff {α β : Type} {x : Except Error α} {f : α → β} :
    ReportsInvalid (x >>= fun a => pure (f a)) ↔ ReportsInvalid x := by
  rw [ReportsInvalid, failsOnly_bind_iff]
  exact and_iff_left fun a _ => failsOnly_ok _

theorem parseOid_text_error {text : String} {e : Error} (h : parseOid (.text text) = .error e) :
    isBundleValidation e = false := by
  rw [parseOid] at h
  split_ifs at h
  · cases h
    rfl
  · cases h
    rfl
  · split at h
    · cases h
      rfl
    · split_ifs at h
      cases h
      rfl

theorem parseOid_reports_iff {text : String} :
    ReportsInvalid (parseOid (.text text)) ↔ ¬ ∃ e, parseOid (.text text) = .error e := by
  constructor
  · rintro h ⟨e, he⟩
    have hreported : isBundleValidation e = true := h e he
    rw [parseOid_text_error he] at hreported
    cases hreported
  · exact fun h e he => absurd ⟨e, he⟩ h

theorem requireString_reports : ReportsInvalid (requireString path members field name) := by
  unfold requireString
  split
  · exact failsOnly_ok _
  · exact invalid_reports _ _

theorem optionalString_reports : ReportsInvalid (optionalString path members field name) := by
  unfold optionalString
  split
  · exact failsOnly_ok _
  · exact failsOnly_ok _
  · exact invalid_reports _ _

theorem normalizeMemberRef_reports (member : Json) : ReportsInvalid (normalizeMemberRef path name member) := by
  unfold normalizeMemberRef
  split
  · split
    · exact failsOnly_ok _
    · exact invalid_reports _ _
  · exact invalid_reports _ _

theorem normalizeMemberRefs_reports (raw : Option Json) : ReportsInvalid (normalizeMemberRefs path name raw) := by
  unfold normalizeMemberRefs
  split
  · exact failsOnly_ok _
  · apply failsOnly_bind
    · exact failsOnly_mapM fun member _ => normalizeMemberRef_reports member
    · exact fun _ _ => failsOnly_ok _
  · exact invalid_reports _ _

theorem normalizeIndex_reports (raw : Option Json) : ReportsInvalid (normalizeIndex path name raw) := by
  unfold normalizeIndex
  split
  · exact failsOnly_ok _
  · split
    · exact failsOnly_ok _
    · exact invalid_reports _ _

theorem normalizeConstraints_reports {kind : String} (raw : Option Json) :
    ReportsInvalid (normalizeConstraints path kind name raw) := by
  unfold normalizeConstraints
  split
  · exact failsOnly_ok _
  · exact failsOnly_ok _
  · exact invalid_reports _ _

theorem normalizeNodeWith_reports {defaultNodetype : Option String} (oid : OID) :
    ReportsInvalid (normalizeNodeWith path moduleName defaultNodetype name members oid) := by
  unfold normalizeNodeWith
  apply failsOnly_bind requireString_reports; intro objectType _
  apply failsOnly_bind requireString_reports; intro className _
  apply failsOnly_bind (normalizeIndex_reports _); intro index _
  apply failsOnly_bind (normalizeConstraints_reports _); intro constraints _
  apply failsOnly_bind optionalString_reports; intro syntaxName _
  apply failsOnly_bind optionalString_reports; intro maxAccess _
  apply failsOnly_bind optionalString_reports; intro status _
  apply failsOnly_bind optionalString_reports; intro augments _
  apply failsOnly_bind optionalString_reports; intro description _
  apply failsOnly_bind (normalizeMemberRefs_reports _); intro memberRefs _
  exact failsOnly_ok _

theorem normalizeType_reports (item : String × Json) : ReportsInvalid (normalizeType path moduleName item) := by
  unfold normalizeType
  split
  · apply failsOnly_bind (normalizeConstraints_reports _); intro constraints _
    apply failsOnly_bind requireString_reports; intro className _
    apply failsOnly_bind optionalString_reports; intro baseType _
    apply failsOnly_bind optionalString_reports; intro displayHint _
    apply failsOnly_bind optionalString_reports; intro status _
    exact failsOnly_ok _
  · exact invalid_reports _ _

theorem headerText_reports : ReportsInvalid (headerText path members name) := by
  unfold headerText
  split
  · exact failsOnly_ok _
  · exact invalid_reports _ _

theorem normalizeModuleMetadata_reports (raw : Option Json) : ReportsInvalid (normalizeModuleMetadata path raw) := by
  unfold normalizeModuleMetadata
  split
  · exact failsOnly_ok _
  · exact failsOnly_ok _
  · exact invalid_reports _ _

theorem validateModuleRecord_reports (module : NormalizedModule) : ReportsInvalid (validateModuleRecord path module) :=
  failsOnly_ite (fun _ => invalid_reports _ _) fun _ => failsOnly_ok _

end Fields

section Collections

variable {path message : String} {V : Type} {normalize : String × Json → Except Error V}

theorem normalizeMap_reports_iff {nodes : Json} : ReportsInvalid (normalizeMap path message normalize nodes) ↔
    ∀ before item after, nodes = .object (before ++ item :: after) →
      (∀ earlier ∈ before, ∃ value, normalize earlier = .ok value) → ReportsInvalid (normalize item) := by
  unfold normalizeMap
  split
  · rename_i members
    rw [reports_pure_iff, ReportsInvalid, failsOnly_mapM_iff]
    simp only [Json.object.injEq, isOk_map_iff]
    constructor
    · intro h before item after hmembers hbefore
      exact reports_pure_iff.mp (h before item after hmembers hbefore)
    · intro h before item after hmembers hbefore
      exact reports_pure_iff.mpr (h before item after hmembers hbefore)
  · rename_i hno
    refine ⟨fun _ before item after h => absurd h (hno _), fun _ => invalid_reports _ _⟩

def UnparsedOid (members : List (String × Json)) : Prop :=
  (∃ text e, Json.field? members "oid" = some (.str text) ∧ parseOid (.text text) = .error e) ∧
    (Json.field? members "oid_path" = none ∨
      ∃ items oid, Json.field? members "oid_path" = some (.list items) ∧ items.mapM Json.arc? = some oid)

theorem normalizeNodeOid_reports_iff {name : String} {members : List (String × Json)} :
    ReportsInvalid (normalizeNodeOid path name (Json.field? members "oid_path") (Json.field? members "oid")) ↔
      ¬ UnparsedOid members := by
  unfold UnparsedOid
  cases hpath : Json.field? members "oid_path" with
  | none =>
    simp only [normalizeNodeOid]
    split
    · rename_i text htext
      rw [parseOid_reports_iff]
      simp [htext]
    · rename_i hno
      refine iff_of_true (invalid_reports _ _) ?_
      rintro ⟨⟨text, -, htext, -⟩, -⟩
      exact hno text htext
  | some oidPath =>
    by_cases harcs : ∃ items oid, some oidPath = some (.list items) ∧ items.mapM Json.arc? = some oid
    · obtain ⟨items, oid, hitems, hoid⟩ := harcs
      obtain rfl := Option.some.inj hitems
      simp only [normalizeNodeOid, hoid]
      split
      · rename_i text htext
        have hcompared (parsed : OID) : ReportsInvalid (if parsed ≠ oid then
            invalid path s!"Node {quoted name} has inconsistent oid and oid_path values" else pure oid) :=
          failsOnly_ite (fun _ => invalid_reports _ _) fun _ => failsOnly_ok _
        rw [ReportsInvalid, failsOnly_bind_iff, and_iff_left fun parsed _ => hcompared parsed, ← ReportsInvalid,
          parseOid_reports_iff]
        simp [htext, hoid]
      · rename_i hno
        refine iff_of_true (failsOnly_ok _) ?_
        rintro ⟨⟨text, -, htext, -⟩, -⟩
        exact hno text htext
    · refine iff_of_true ?_ fun h => ?_
      · cases oidPath with
        | list items =>
          have hnone : items.mapM Json.arc? = none := by
            by_contra hsome
            obtain ⟨oid, hoid⟩ := Option.ne_none_iff_exists'.mp hsome
            exact harcs ⟨items, oid, rfl, hoid⟩
          simp only [normalizeNodeOid, hnone]
          exact invalid_reports _ _
        | _ => exact invalid_reports _ _
      · exact harcs (h.2.resolve_left (by simp))

theorem normalizeNode_reports_iff {moduleName : String} {defaultNodetype : Option String} {item : String × Json} :
    ReportsInvalid (normalizeNode path moduleName defaultNodetype item) ↔
      ¬ ∃ members, item.2 = .object members ∧ UnparsedOid members := by
  unfold normalizeNode
  split
  · rename_i name members
    rw [ReportsInvalid, failsOnly_bind_iff, ← ReportsInvalid, normalizeNodeOid_reports_iff,
      and_iff_left fun oid _ => normalizeNodeWith_reports oid]
    simp
  · rename_i hno
    refine iff_of_true (invalid_reports _ _) ?_
    rintro ⟨members, hmembers, -⟩
    exact hno members hmembers

theorem collection_reports {name : String} {α : Type} {normalizeItem : String × Json → Except Error α}
    (h : ∀ item, ReportsInvalid (normalizeItem item)) (nodes : Json) :
    ReportsInvalid (normalizeMap path name normalizeItem nodes) :=
  normalizeMap_reports_iff.mpr fun _ item _ _ _ => h item

theorem normalizeImports_reports (imports : Json) : ReportsInvalid (normalizeImports path imports) := by
  apply collection_reports
  rintro ⟨module, names⟩
  simp only
  split
  · exact failsOnly_ok _
  · exact invalid_reports _ _

end Collections

section Artifacts

variable (path : String)

def LeaksFrom (moduleName : String) (defaultNodetype : Option String) (nodes : Json) : Prop :=
  ∃ before name members after, nodes = .object (before ++ (name, .object members) :: after) ∧
    (∀ item ∈ before, ∃ node, normalizeNode path moduleName defaultNodetype item = .ok node) ∧ UnparsedOid members

theorem normalizeNodeMap_reports_iff {moduleName : String} {defaultNodetype : Option String} {nodes : Json} :
    ReportsInvalid (normalizeNodeMap path moduleName defaultNodetype nodes) ↔
      ¬ LeaksFrom path moduleName defaultNodetype nodes := by
  rw [normalizeNodeMap, normalizeMap_reports_iff]
  simp only [normalizeNode_reports_iff]
  constructor
  · rintro h ⟨before, name, members, after, rfl, hbefore, hunparsed⟩
    exact h before (name, .object members) after rfl hbefore ⟨members, rfl, hunparsed⟩
  · rintro h before ⟨name, raw⟩ after rfl hbefore ⟨members, rfl, hunparsed⟩
    exact h ⟨before, name, members, after, rfl, hbefore, hunparsed⟩

/-- The fields before the nodes are accepted, and a node is refused for its OID text before anything else is. -/
def ModuleLeaks (payload : Json) : Prop :=
  ∃ members moduleName generatedBy imports, payload = .object members ∧
    headerText path members "module" = .ok moduleName ∧ headerText path members "generated_by" = .ok generatedBy ∧
    normalizeImports path (collection members "imports") = .ok imports ∧
    (LeaksFrom path moduleName none (collection members "objects") ∨
      (∃ objects, normalizeNodeMap path moduleName none (collection members "objects") = .ok objects) ∧
        LeaksFrom path moduleName (some "notification") (collection members "notifications"))

theorem normalizeModulePayload_reports_iff {payload : Json} :
    ReportsInvalid (normalizeModulePayload path payload) ↔ ¬ ModuleLeaks path payload := by
  constructor
  · rintro h ⟨members, moduleName, generatedBy, imports, rfl, hmodule, hgenerated, himports, hleaks⟩
    rw [normalizeModulePayload, hmodule, ok_bind, hgenerated, ok_bind, himports, ok_bind] at h
    obtain ⟨hobjects, hrest⟩ := failsOnly_bind_iff.mp h
    obtain hleaks | ⟨⟨objects, haccepted⟩, hleaks⟩ := hleaks
    · exact (normalizeNodeMap_reports_iff path).mp hobjects hleaks
    · exact (normalizeNodeMap_reports_iff path).mp (failsOnly_bind_iff.mp (hrest objects haccepted)).1 hleaks
  · intro h
    unfold normalizeModulePayload
    split
    · rename_i members
      apply failsOnly_bind headerText_reports; intro moduleName hmodule
      apply failsOnly_bind headerText_reports; intro generatedBy hgenerated
      apply failsOnly_bind (normalizeImports_reports _); intro imports himports
      apply failsOnly_bind
      · rw [← ReportsInvalid, normalizeNodeMap_reports_iff]
        exact fun hleaks => h ⟨members, moduleName, generatedBy, imports, rfl, hmodule, hgenerated, himports,
          .inl hleaks⟩
      intro objects hobjects
      apply failsOnly_bind
      · rw [← ReportsInvalid, normalizeNodeMap_reports_iff]
        exact fun hleaks => h ⟨members, moduleName, generatedBy, imports, rfl, hmodule, hgenerated, himports,
          .inr ⟨⟨objects, hobjects⟩, hleaks⟩⟩
      intro notifications _
      apply failsOnly_bind (collection_reports normalizeType_reports _); intro types _
      apply failsOnly_bind (normalizeModuleMetadata_reports _); intro moduleMetadata _
      apply failsOnly_bind (validateModuleRecord_reports _); intro _ _
      exact failsOnly_ok _
    · exact invalid_reports _ _

def UnparsedKey (item : String × Json) : Prop :=
  (∃ e, parseOid (.text item.1) = .error e) ∧ ∃ members module symbol, item.2 = .object members ∧
    Json.member? members "module" = some (.str module) ∧ indexedSymbol members = some (.str symbol)

theorem loadOidIndexEntry_eq (normalized : PyDict OID OidIndexEntry) (item : String × Json) :
    loadOidIndexEntry path normalized item =
      (indexItem path item).map fun entry => normalized.set entry.1 entry.2 := by
  rw [loadOidIndexEntry]
  cases indexItem path item <;> rfl

theorem indexItem_reports_iff {item : String × Json} : ReportsInvalid (indexItem path item) ↔ ¬ UnparsedKey item := by
  obtain ⟨rawOid, raw⟩ := item
  unfold indexItem UnparsedKey
  cases raw with
  | object members =>
    simp only
    split
    · rename_i module symbol hmodule hsymbol
      rw [reports_pure_iff, parseOid_reports_iff]
      simp [hmodule, hsymbol]
    · rename_i hno
      refine iff_of_true (failsOnly_error rfl) ?_
      rintro ⟨-, members', module, symbol, hmembers, hmodule, hsymbol⟩
      obtain rfl := Json.object.inj hmembers
      exact hno module symbol hmodule hsymbol
  | _ => exact iff_of_true (failsOnly_error rfl) (by simp)

def IndexLeaks (payload : Json) : Prop :=
  ∃ members before item after, payload = .object members ∧
    (Json.member? members "oids").getD payload = .object (before ++ item :: after) ∧
    (∀ earlier ∈ before, ∃ index, loadOidIndexEntry path .empty earlier = .ok index) ∧ UnparsedKey item

theorem loadOidIndex_reports_iff {payload : Json} :
    ReportsInvalid (loadOidIndex path payload) ↔ ¬ IndexLeaks path payload := by
  have haccepted (item : String × Json) :
      (∃ index, loadOidIndexEntry path .empty item = .ok index) ↔ ∃ entry, indexItem path item = .ok entry := by
    simp only [loadOidIndexEntry_eq, map_ok_iff]
    exact ⟨fun ⟨_, entry, hentry, _⟩ => ⟨entry, hentry⟩, fun ⟨entry, hentry⟩ => ⟨_, entry, hentry, rfl⟩⟩
  unfold loadOidIndex IndexLeaks
  simp only [haccepted]
  split
  · rename_i members
    split
    · rename_i rawIndex hindex
      rw [foldlM_eq_mapM (loadOidIndexEntry_eq path), ReportsInvalid, failsOnly_map_iff, failsOnly_mapM_iff]
      constructor
      · rintro h ⟨members', before, item, after, hmembers, hraw, hbefore, hunparsed⟩
        obtain rfl := Json.object.inj hmembers
        rw [hindex, Json.object.injEq] at hraw
        exact (indexItem_reports_iff path).mp (h before item after hraw hbefore) hunparsed
      · rintro h before item after rfl hbefore
        rw [← ReportsInvalid, indexItem_reports_iff]
        exact fun hunparsed => h ⟨members, before, item, after, rfl, hindex, hbefore, hunparsed⟩
    · rename_i hno
      refine iff_of_true (failsOnly_error rfl) ?_
      rintro ⟨members', before, item, after, hmembers, hraw, -⟩
      obtain rfl := Json.object.inj hmembers
      exact hno _ hraw
  · rename_i hno
    refine iff_of_true (failsOnly_error rfl) ?_
    rintro ⟨members, before, item, after, hmembers, -⟩
    exact hno members hmembers

theorem malformed_artifacts_iff (path : String) (payload : Json) :
    (ReportsInvalid (normalizeModulePayload path payload) ↔ ¬ ModuleLeaks path payload) ∧
    (ReportsInvalid (loadOidIndexFile path payload) ↔ payload.hugeInt? = none ∧ ¬ IndexLeaks path payload) := by
  refine ⟨normalizeModulePayload_reports_iff path, ?_⟩
  unfold loadOidIndexFile readJson
  cases payload.hugeInt? with
  | none =>
    rw [ok_bind, loadOidIndex_reports_iff]
    exact (and_iff_right rfl).symm
  | some n =>
    refine iff_of_false (fun h => ?_) (by simp)
    cases h _ rfl

theorem malformed_oids_leak :
    normalizeModulePayload "M.json" (.object [("module", .str "M"), ("generated_by", .str "trishul-smi"),
      ("objects", .object [("x", .object [("oid", .str "1.x")])])]) =
        .error (.invalidOidError "OID contains a non-numeric arc: 1.x") ∧
    loadOidIndexFile "oid_index.json" (.object [("1.x", .object [("module", .str "M"), ("object", .str "x")])]) =
      .error (.invalidOidError "OID contains a non-numeric arc: 1.x") ∧
    isBundleValidation (.invalidOidError "OID contains a non-numeric arc: 1.x") = false := by
  refine ⟨?_, ?_, rfl⟩
  · rfl
  · rfl

end Artifacts

end TrishulSnmp.Mib
