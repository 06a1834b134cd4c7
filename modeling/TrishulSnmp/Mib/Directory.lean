import Mathlib.Data.List.Sort
import Mathlib.Data.String.Basic
import TrishulSnmp.Library.Logged
import TrishulSnmp.Mib.SymbolicRoundTrip

namespace TrishulSnmp.Mib

open Outcome
open scoped List

/-! `load_bundle`: the files it finds and reads. -/

/-- A POSIX `Path`: its root (none, `/` or `//`) and the names below it. -/
structure Path where
  root : String
  parts : List String
  deriving DecidableEq, Repr

namespace Path

def ofText (text : String) : Path where
  root :=
    if ['/', '/', '/'].isPrefixOf text.toList then "/"
    else if ['/', '/'].isPrefixOf text.toList then "//"
    else if ['/'].isPrefixOf text.toList then "/"
    else ""
  parts := ((text.toList.splitOn '/').map String.ofList).filter fun part => part ∉ ["", "."]

def join (path : Path) (text : String) : Path :=
  if (ofText text).root = "" then { path with parts := path.parts ++ (ofText text).parts } else ofText text

def text (path : Path) : String :=
  if path.root = "" ∧ path.parts = [] then "." else path.root ++ "/".intercalate path.parts

def parents (path : Path) : List Path := (List.range path.parts.length).map fun n => ⟨path.root, path.parts.take n⟩

end Path

inductive FileContent
  | json (value : Json)
  | invalidJson (message : String)
  | raises (e : Error)

structure FileSystem where
  isFile : Path → Bool
  isDir : Path → Bool
  hasEntry : Path → Bool
  resolve : Path → Path
  glob : Path → List String
  nodup : ∀ path, (glob path).Nodup
  names : ∀ path, ∀ name ∈ glob path, Path.ofText name = { root := "", parts := [name] }
  content : Path → Option FileContent

def sidecarFilenames : List String := ["manifest.json", "oid_index.json"]

abbrev Loading (α : Type) := Logged Path Error α

section Files

variable (fs : FileSystem)

def readJsonAt (path : Path) : Loading Json where
  result :=
    match fs.content path with
    | none => invalid path.text "Missing bundle artifact"
    | some (.json value) => readJson value
    | some (.invalidJson message) => invalid path.text s!"Invalid JSON: {message}"
    | some (.raises e) => .error e
  log := [path]

def loadModuleJson (path : Path) : Loading MibModuleRecord := do
  let payload ← readJsonAt fs path
  let module ← .ofExcept (normalizeModulePayload path.text payload)
  return module.toRecord

def loadOidIndexAt (path : Path) : Loading (PyDict OID OidIndexEntry) := do
  let payload ← readJsonAt fs path
  .ofExcept (loadOidIndex path.text payload)

def manifestModuleFilename (manifestPath : Path) : Json → Except Error String
  | .str entry => .ok entry
  | .object members =>
    match (Json.text? members "file").filter (· ≠ "") with
    | some fileName => .ok fileName
    | none => invalid manifestPath.text "Manifest modules must be strings or objects containing a 'file' field"
  | _ => invalid manifestPath.text "Manifest modules must be strings or objects containing a 'file' field"

def collectModulePaths (bundleDir manifestPath : Path) : List Json → List Path → Except Error (List Path)
  | [], modulePaths => .ok modulePaths
  | entry :: rawModules, modulePaths => do
    let fileName ← manifestModuleFilename manifestPath entry
    let modulePath := fs.resolve (bundleDir.join fileName)
    if fs.resolve bundleDir ∉ modulePath.parents then
      invalid manifestPath.text "Manifest module file must stay within the bundle directory"
    else if modulePath ∈ modulePaths then collectModulePaths bundleDir manifestPath rawModules modulePaths
    else if !fs.hasEntry modulePath then
      invalid manifestPath.text s!"Manifest references a missing module file {quoted fileName}"
    else collectModulePaths bundleDir manifestPath rawModules (modulePaths ++ [modulePath])

def manifestModules (manifestPath : Path) : Json → Except Error (List Json)
  | .object members =>
    match Json.member? members "modules" with
    | some (.list (entry :: rawModules)) => .ok (entry :: rawModules)
    | _ => invalid manifestPath.text "Manifest is missing a valid 'modules' list"
  | _ => invalid manifestPath.text "Manifest must be a JSON object"

def modulePathsFromManifest (bundleDir manifestPath : Path) : Loading (List Path) := do
  let manifest ← readJsonAt fs manifestPath
  .ofExcept do
    let rawModules ← manifestModules manifestPath manifest
    collectModulePaths fs bundleDir manifestPath rawModules []

def candidates (path : Path) : List String :=
  ((fs.glob path).filter fun name => name ∉ sidecarFilenames).insertionSort (· ≤ ·)

def discoverModulePaths (path : Path) : Loading (List Path) :=
  let manifestPath := path.join "manifest.json"
  if fs.hasEntry manifestPath then modulePathsFromManifest fs path manifestPath
  else return (candidates fs path).map path.join

def discoverOidIndex (path : Path) : Loading (PyDict OID OidIndexEntry) :=
  let oidIndexPath := path.join "oid_index.json"
  if fs.hasEntry oidIndexPath then loadOidIndexAt fs oidIndexPath else return .empty

def discoverDirectory (path : Path) : Loading (List Path × PyDict OID OidIndexEntry) := do
  let modulePaths ← discoverModulePaths fs path
  if modulePaths = [] then
    .ofExcept (invalid path.text "No module JSON files were found in bundle directory")
  else do
    let oidIndex ← discoverOidIndex fs path
    return (modulePaths, oidIndex)

def loadBundle (source : Path) : Loading MibRegistry :=
  if fs.isFile source then do
    let record ← loadModuleJson fs source
    return .ofRecords [record] .empty
  else if fs.isDir source then do
    let loaded ← discoverDirectory fs source
    let records ← loaded.1.mapM (loadModuleJson fs)
    return .ofRecords records loaded.2
  else .ofExcept (invalid source.text "Bundle path does not exist")

end Files

section Discovery

variable (fs : FileSystem)

def Confined (bundleDir : Path) (fileName : String) : Prop :=
  fs.resolve bundleDir ∈ (fs.resolve (bundleDir.join fileName)).parents ∧
    fs.hasEntry (fs.resolve (bundleDir.join fileName))

def Holds (path : Path) (file : String × Json) : Prop :=
  file.1 = path.text ∧ fs.content path = some (.json file.2)

def Listed (bundleDir : Path) (modulePaths : List Path) : Prop :=
  ∃ manifest rawModules fileNames, fs.content (bundleDir.join "manifest.json") = some (.json manifest) ∧
    manifest.hugeInt? = none ∧ manifestModules (bundleDir.join "manifest.json") manifest = .ok rawModules ∧
    List.Forall₂ (fun entry fileName => manifestModuleFilename (bundleDir.join "manifest.json") entry = .ok fileName)
      rawModules fileNames ∧
    (∀ fileName ∈ fileNames, Confined fs bundleDir fileName) ∧
    modulePaths = (fileNames.map fun fileName => fs.resolve (bundleDir.join fileName)).eraseDups

def Found (bundleDir : Path) (modulePaths : List Path) : Prop :=
  ∃ fileNames : List String, fileNames ≠ [] ∧ fileNames.Pairwise (· < ·) ∧
    (∀ fileName, fileName ∈ fileNames ↔ fileName ∈ fs.glob bundleDir ∧ fileName ∉ sidecarFilenames) ∧
    modulePaths = fileNames.map bundleDir.join

def ModuleFiles (bundleDir : Path) (modulePaths : List Path) : Prop :=
  if fs.hasEntry (bundleDir.join "manifest.json") then Listed fs bundleDir modulePaths
  else Found fs bundleDir modulePaths

def IndexFile (bundleDir : Path) (oidIndex : PyDict OID OidIndexEntry) : Prop :=
  if fs.hasEntry (bundleDir.join "oid_index.json") then
    ∃ payload, fs.content (bundleDir.join "oid_index.json") = some (.json payload) ∧
      loadOidIndexFile (bundleDir.join "oid_index.json").text payload = .ok oidIndex
  else oidIndex = .empty

variable {fs} {bundleDir manifestPath path : Path}

theorem readJson_ok_iff {file payload : Json} :
    readJson file = .ok payload ↔ file.hugeInt? = none ∧ payload = file := by
  unfold readJson
  cases file.hugeInt? with
  | none => simp [eq_comm]
  | some n => simp

theorem readJsonAt_ok_iff {payload : Json} : (readJsonAt fs path).result = .ok payload ↔
    fs.content path = some (.json payload) ∧ payload.hugeInt? = none := by
  unfold readJsonAt
  cases hcontent : fs.content path with
  | none => simp [invalid]
  | some content =>
    cases content with
    | json value =>
      simp only [readJson_ok_iff, Option.some.injEq, FileContent.json.injEq]
      constructor
      · rintro ⟨hhuge, rfl⟩
        exact ⟨rfl, hhuge⟩
      · rintro ⟨rfl, hhuge⟩
        exact ⟨hhuge, rfl⟩
    | invalidJson message => simp [invalid]
    | raises e => simp

theorem forall_mem_concat {α : Type} {P : α → Prop} {xs : List α} {x : α} (hxs : ∀ y ∈ xs, P y) (hx : P x) :
    ∀ y ∈ xs ++ [x], P y := by
  intro y hy
  obtain hy | hy := List.mem_append.mp hy
  · exact hxs y hy
  · exact List.mem_singleton.mp hy ▸ hx

theorem filter_eraseDups_cons {seen paths : List Path} (h : path ∉ seen) :
    seen ++ ((path :: paths).filter fun other => other ∉ seen).eraseDups =
      seen ++ [path] ++ (paths.filter fun other => other ∉ seen ++ [path]).eraseDups := by
  rw [List.filter_cons_of_pos (by simpa using h), List.eraseDups_cons, List.filter_filter, List.append_assoc]
  congr 4
  funext other
  by_cases hother : other = path <;> simp [hother]

theorem collectModulePaths_ok_iff {rawModules : List Json} {modulePaths paths : List Path}
    (hseen : ∀ path ∈ modulePaths, fs.hasEntry path) :
    collectModulePaths fs bundleDir manifestPath rawModules modulePaths = .ok paths ↔
      ∃ fileNames, List.Forall₂ (fun entry fileName => manifestModuleFilename manifestPath entry = .ok fileName)
          rawModules fileNames ∧ (∀ fileName ∈ fileNames, Confined fs bundleDir fileName) ∧
        paths = modulePaths ++ ((fileNames.map fun fileName => fs.resolve (bundleDir.join fileName)).filter
          fun path => path ∉ modulePaths).eraseDups := by
  induction rawModules generalizing modulePaths paths with
  | nil =>
    rw [collectModulePaths, Except.ok.injEq]
    constructor
    · rintro rfl
      exact ⟨[], .nil, by simp, by simp⟩
    · rintro ⟨fileNames, hnames, -, rfl⟩
      cases hnames
      simp
  | cons entry rawModules ih =>
    rw [collectModulePaths, bind_ok_iff]
    constructor
    · rintro ⟨fileName, hname, h⟩
      obtain ⟨-, h⟩ | ⟨hinside, h⟩ := ite_cases h
      · cases h
      obtain ⟨hmem, h⟩ | ⟨hnew, h⟩ := ite_cases h
      · obtain ⟨fileNames, hnames, hconfined, rfl⟩ := (ih hseen).mp h
        refine ⟨fileName :: fileNames, .cons hname hnames, ?_, ?_⟩
        · exact List.forall_mem_cons.mpr ⟨⟨not_not.mp hinside, hseen _ hmem⟩, hconfined⟩
        · rw [List.map_cons, List.filter_cons_of_neg (by simpa using hmem)]
      · obtain ⟨-, h⟩ | ⟨hentry, h⟩ := ite_cases h
        · cases h
        have hentry : fs.hasEntry (fs.resolve (bundleDir.join fileName)) := by simpa using hentry
        obtain ⟨fileNames, hnames, hconfined, rfl⟩ := (ih (forall_mem_concat hseen hentry)).mp h
        refine ⟨fileName :: fileNames, .cons hname hnames, ?_, ?_⟩
        · exact List.forall_mem_cons.mpr ⟨⟨not_not.mp hinside, hentry⟩, hconfined⟩
        · rw [List.map_cons, filter_eraseDups_cons hnew]
    · rintro ⟨_, hnames, hconfined, rfl⟩
      cases hnames with
      | cons hname hnames =>
        rename_i fileName fileNames
        obtain ⟨⟨hinside, hentry⟩, hconfined⟩ := List.forall_mem_cons.mp hconfined
        refine ⟨fileName, hname, ?_⟩
        rw [if_neg (not_not.mpr hinside), List.map_cons]
        by_cases hmem : fs.resolve (bundleDir.join fileName) ∈ modulePaths
        · rw [if_pos hmem, List.filter_cons_of_neg (by simpa using hmem)]
          exact (ih hseen).mpr ⟨fileNames, hnames, hconfined, rfl⟩
        · rw [if_neg hmem, if_neg (by simpa using hentry), filter_eraseDups_cons hmem]
          exact (ih (forall_mem_concat hseen hentry)).mpr ⟨fileNames, hnames, hconfined, rfl⟩

theorem ne_nil_of_modules {manifest : Json} {rawModules : List Json}
    (h : manifestModules manifestPath manifest = .ok rawModules) : rawModules ≠ [] := by
  unfold manifestModules at h
  split at h
  · split at h
    · cases h
      exact List.cons_ne_nil _ _
    · cases h
  · cases h

theorem modulePathsFromManifest_ok_iff {paths : List Path} :
    (modulePathsFromManifest fs bundleDir (bundleDir.join "manifest.json")).result = .ok paths ↔
      Listed fs bundleDir paths := by
  unfold modulePathsFromManifest Listed
  simp only [Logged.bind_ok_iff, Logged.ofExcept_result, readJsonAt_ok_iff, Outcome.bind_ok_iff]
  constructor
  · rintro ⟨manifest, ⟨hcontent, hhuge⟩, rawModules, hmodules, h⟩
    obtain ⟨fileNames, hnames, hconfined, rfl⟩ := (collectModulePaths_ok_iff (by simp)).mp h
    exact ⟨manifest, rawModules, fileNames, hcontent, hhuge, hmodules, hnames, hconfined, by simp⟩
  · rintro ⟨manifest, rawModules, fileNames, hcontent, hhuge, hmodules, hnames, hconfined, rfl⟩
    refine ⟨manifest, ⟨hcontent, hhuge⟩, rawModules, hmodules, ?_⟩
    exact (collectModulePaths_ok_iff (by simp)).mpr ⟨fileNames, hnames, hconfined, by simp⟩

theorem Listed.ne_nil {paths : List Path} (h : Listed fs bundleDir paths) : paths ≠ [] := by
  obtain ⟨manifest, rawModules, fileNames, -, -, hmodules, hnames, -, rfl⟩ := h
  cases hnames with
  | nil => exact absurd rfl (ne_nil_of_modules hmodules)
  | cons _ _ => simp [List.eraseDups_cons]

theorem candidates_sorted (fs : FileSystem) (path : Path) : (candidates fs path).Pairwise (· < ·) := by
  have hle : (candidates fs path).Pairwise (· ≤ ·) := List.pairwise_insertionSort _ _
  have hnodup : (candidates fs path).Nodup :=
    (List.perm_insertionSort _ _).nodup_iff.mpr ((fs.nodup path).sublist List.filter_sublist)
  exact (hle.and hnodup).imp fun h => lt_of_le_of_ne h.1 h.2

theorem mem_candidates {name : String} :
    name ∈ candidates fs path ↔ name ∈ fs.glob path ∧ name ∉ sidecarFilenames := by
  rw [candidates, List.mem_insertionSort, List.mem_filter, decide_eq_true_iff]

theorem found_iff {paths : List Path} :
    Found fs bundleDir paths ↔ (candidates fs bundleDir).map bundleDir.join = paths ∧ paths ≠ [] := by
  constructor
  · rintro ⟨fileNames, hne, hsorted, hmem, rfl⟩
    have hsame : candidates fs bundleDir = fileNames :=
      (candidates_sorted fs bundleDir).eq_of_mem_iff hsorted fun name => mem_candidates.trans (hmem name).symm
    exact ⟨by rw [hsame], by simpa using hne⟩
  · rintro ⟨rfl, hne⟩
    exact ⟨candidates fs bundleDir, by simpa using hne, candidates_sorted fs bundleDir, fun _ => mem_candidates, rfl⟩

theorem loadOidIndexAt_ok_iff {oidIndex : PyDict OID OidIndexEntry} : (loadOidIndexAt fs path).result = .ok oidIndex ↔
    ∃ payload, fs.content path = some (.json payload) ∧ loadOidIndexFile path.text payload = .ok oidIndex := by
  unfold loadOidIndexAt loadOidIndexFile
  simp only [Logged.bind_ok_iff, Logged.ofExcept_result, readJsonAt_ok_iff, Outcome.bind_ok_iff, readJson_ok_iff]
  constructor
  · rintro ⟨payload, ⟨hcontent, hhuge⟩, h⟩
    exact ⟨payload, hcontent, payload, ⟨hhuge, rfl⟩, h⟩
  · rintro ⟨payload, hcontent, _, ⟨hhuge, rfl⟩, h⟩
    exact ⟨_, ⟨hcontent, hhuge⟩, h⟩

theorem discoverModulePaths_ok_iff {paths : List Path} :
    (discoverModulePaths fs bundleDir).result = .ok paths ∧ paths ≠ [] ↔ ModuleFiles fs bundleDir paths := by
  unfold discoverModulePaths ModuleFiles
  dsimp only
  split_ifs
  · rw [modulePathsFromManifest_ok_iff]
    exact and_iff_left_of_imp Listed.ne_nil
  · rw [found_iff, Logged.pure_result, Except.ok.injEq]

theorem discoverOidIndex_ok_iff {oidIndex : PyDict OID OidIndexEntry} :
    (discoverOidIndex fs bundleDir).result = .ok oidIndex ↔ IndexFile fs bundleDir oidIndex := by
  unfold discoverOidIndex IndexFile
  dsimp only
  split_ifs
  · exact loadOidIndexAt_ok_iff
  · rw [Logged.pure_result, Except.ok.injEq, eq_comm]

theorem discoverDirectory_ok_iff {paths : List Path} {oidIndex : PyDict OID OidIndexEntry} :
    (discoverDirectory fs bundleDir).result = .ok (paths, oidIndex) ↔
      ModuleFiles fs bundleDir paths ∧ IndexFile fs bundleDir oidIndex := by
  rw [discoverDirectory, Logged.bind_ok_iff, ← discoverModulePaths_ok_iff, ← discoverOidIndex_ok_iff]
  constructor
  · rintro ⟨found, hfound, h⟩
    by_cases hnil : found = []
    · rw [if_pos hnil] at h
      cases h
    · rw [if_neg hnil, Logged.bind_ok_iff] at h
      obtain ⟨index, hload, h⟩ := h
      obtain ⟨rfl, rfl⟩ := Prod.mk.inj (Except.ok.inj h)
      exact ⟨⟨hfound, hnil⟩, hload⟩
  · rintro ⟨⟨hfound, hnil⟩, hload⟩
    refine ⟨paths, hfound, ?_⟩
    rw [if_neg hnil, Logged.bind_ok_iff]
    exact ⟨oidIndex, hload, rfl⟩

def loadRecord (file : String × Json) : Except Error MibModuleRecord := do
  let module ← normalizeModulePayload file.1 (← readJson file.2)
  return module.toRecord

theorem loadModules_cons (file : String × Json) (files : List (String × Json)) :
    loadModules (file :: files) = do
      let record ← loadRecord file
      let records ← loadModules files
      return record :: records := List.mapM_cons

theorem loadModuleJson_ok_iff {record : MibModuleRecord} : (loadModuleJson fs path).result = .ok record ↔
    ∃ file, Holds fs path file ∧ loadRecord file = .ok record := by
  unfold loadModuleJson loadRecord Holds
  simp only [Logged.bind_ok_iff, Logged.ofExcept_result, readJsonAt_ok_iff, Outcome.bind_ok_iff, readJson_ok_iff]
  constructor
  · rintro ⟨payload, ⟨hcontent, hhuge⟩, h⟩
    exact ⟨(path.text, payload), ⟨rfl, hcontent⟩, payload, ⟨hhuge, rfl⟩, h⟩
  · rintro ⟨⟨_, payload⟩, ⟨rfl, hcontent⟩, _, ⟨hhuge, rfl⟩, h⟩
    exact ⟨_, ⟨hcontent, hhuge⟩, h⟩

theorem loadModuleJsons_ok_iff {paths : List Path} {records : List MibModuleRecord} :
    (paths.mapM (loadModuleJson fs)).result = .ok records ↔
      ∃ files, List.Forall₂ (Holds fs) paths files ∧ loadModules files = .ok records := by
  rw [Logged.mapM_result]
  induction paths generalizing records with
  | nil =>
    constructor
    · intro h
      exact ⟨[], .nil, h⟩
    · rintro ⟨files, hfiles, h⟩
      cases hfiles
      exact h
  | cons path paths ih =>
    rw [List.mapM_cons, Outcome.bind_ok_iff]
    constructor
    · rintro ⟨record, hrecord, h⟩
      obtain ⟨rest, hrest, h⟩ := Outcome.bind_ok_iff.mp h
      obtain ⟨file, hfile, hrecord⟩ := loadModuleJson_ok_iff.mp hrecord
      obtain ⟨files, hfiles, hload⟩ := ih.mp hrest
      refine ⟨file :: files, .cons hfile hfiles, ?_⟩
      rw [loadModules_cons, hrecord, ok_bind, hload]
      exact h
    · rintro ⟨_, hfiles, hload⟩
      cases hfiles with
      | cons hfile hfiles =>
        rw [loadModules_cons] at hload
        obtain ⟨record, hrecord, hload⟩ := Outcome.bind_ok_iff.mp hload
        obtain ⟨rest, hrest, hload⟩ := Outcome.bind_ok_iff.mp hload
        refine ⟨record, loadModuleJson_ok_iff.mpr ⟨_, hfile, hrecord⟩, ?_⟩
        rw [ih.mpr ⟨_, hfiles, hrest⟩]
        exact hload

theorem bundle_directory_loads_iff (fs : FileSystem) {source : Path} (hfile : fs.isFile source = false)
    (hdir : fs.isDir source) (registry : MibRegistry) :
    (loadBundle fs source).result = .ok registry ↔
      ∃ paths files records oidIndex, ModuleFiles fs source paths ∧ List.Forall₂ (Holds fs) paths files ∧
        loadModules files = .ok records ∧ IndexFile fs source oidIndex ∧ registry = .ofRecords records oidIndex := by
  rw [loadBundle, if_neg (by simp [hfile]), if_pos hdir, Logged.bind_ok_iff]
  constructor
  · rintro ⟨⟨paths, oidIndex⟩, hdiscover, h⟩
    obtain ⟨records, hrecords, h⟩ := Logged.bind_ok_iff.mp h
    obtain ⟨hpaths, hindex⟩ := discoverDirectory_ok_iff.mp hdiscover
    obtain ⟨files, hfiles, hload⟩ := loadModuleJsons_ok_iff.mp hrecords
    exact ⟨paths, files, records, oidIndex, hpaths, hfiles, hload, hindex, (Except.ok.inj h).symm⟩
  · rintro ⟨paths, files, records, oidIndex, hpaths, hfiles, hload, hindex, rfl⟩
    refine ⟨(paths, oidIndex), discoverDirectory_ok_iff.mpr ⟨hpaths, hindex⟩, Logged.bind_ok_iff.mpr ?_⟩
    exact ⟨records, loadModuleJsons_ok_iff.mpr ⟨files, hfiles, hload⟩, rfl⟩

def mibsDir : Path := { root := "/", parts := ["mibs"] }

def mibsEntries : List Json := [.str "SNMPv2-MIB.json", .object [("file", .str "../mibs/./SNMPv2-MIB.json")]]

def mibsContent (path : Path) : Option FileContent :=
  if path = mibsDir.join "manifest.json" then some (.json (.object [("modules", .list mibsEntries)]))
  else if path = mibsDir.join "SNMPv2-MIB.json" then some (.json systemFile.2)
  else none

def mibsFiles : FileSystem where
  isFile path := path ∈ [mibsDir.join "manifest.json", mibsDir.join "SNMPv2-MIB.json"]
  isDir path := path = mibsDir
  hasEntry path := path ∈ [mibsDir.join "manifest.json", mibsDir.join "SNMPv2-MIB.json"]
  resolve path := { path with
    parts := path.parts.foldl (fun parts part => if part = ".." then parts.dropLast else parts ++ [part]) [] }
  glob path := if path = mibsDir then ["manifest.json", "SNMPv2-MIB.json"] else []
  nodup path := by split_ifs <;> decide
  names path name h := by
    split_ifs at h
    · obtain rfl | rfl : name = "manifest.json" ∨ name = "SNMPv2-MIB.json" := by simpa using h
      · decide +kernel
      · decide +kernel
    · cases h
  content := mibsContent

theorem mibsFiles_listed : Listed mibsFiles mibsDir [mibsDir.join "SNMPv2-MIB.json"] := by
  have hcontent : mibsContent (mibsDir.join "manifest.json") =
      some (.json (.object [("modules", .list mibsEntries)])) := by
    rw [mibsContent, if_pos rfl]
  refine ⟨.object [("modules", .list mibsEntries)], mibsEntries, ["SNMPv2-MIB.json", "../mibs/./SNMPv2-MIB.json"],
    hcontent, by decide +kernel, rfl, .cons rfl (.cons rfl .nil), ?_, by decide +kernel⟩
  unfold Confined
  decide +kernel

theorem bundle_directory_loads_sample :
    (loadBundle mibsFiles mibsDir).result = .ok (.ofRecords [systemRecord] .empty) := by
  have hcontent : mibsContent (mibsDir.join "SNMPv2-MIB.json") = some (.json systemFile.2) := by
    rw [mibsContent, if_neg (by decide +kernel), if_pos rfl]
  have hload : loadModules [("/mibs/SNMPv2-MIB.json", systemFile.2)] = .ok [systemRecord] := by rfl
  apply (bundle_directory_loads_iff mibsFiles (by decide +kernel) (by decide +kernel) _).mpr
  refine ⟨[mibsDir.join "SNMPv2-MIB.json"], [("/mibs/SNMPv2-MIB.json", systemFile.2)], [systemRecord], .empty, ?_,
    .cons ⟨by decide +kernel, hcontent⟩ .nil, hload, ?_, rfl⟩
  · rw [ModuleFiles, if_pos (by decide +kernel)]
    exact mibsFiles_listed
  · rw [IndexFile, if_neg (by decide +kernel)]

def Within (fs : FileSystem) (source path : Path) : Prop :=
  if fs.isFile source then path = source
  else if fs.hasEntry (source.join "manifest.json") then fs.resolve source ∈ path.parents
  else ∃ name ∈ fs.glob source, name ∉ sidecarFilenames ∧ path = source.join name

theorem readJsonAt_log (fs : FileSystem) (path : Path) : (readJsonAt fs path).log = [path] := rfl

theorem loadModuleJson_log (fs : FileSystem) (path : Path) : (loadModuleJson fs path).log = [path] := by
  rw [loadModuleJson, Logged.log_bind_silent, readJsonAt_log]
  exact fun payload => Logged.log_bind_silent _ fun _ => rfl

theorem discoverModulePaths_log (fs : FileSystem) (source : Path) :
    (discoverModulePaths fs source).log <+ [source.join "manifest.json"] := by
  unfold discoverModulePaths
  dsimp only
  split_ifs
  · rw [modulePathsFromManifest, Logged.log_bind_silent _ fun _ => rfl, readJsonAt_log]
  · exact List.nil_sublist _

theorem discoverOidIndex_log (fs : FileSystem) (source : Path) :
    (discoverOidIndex fs source).log <+ [source.join "oid_index.json"] := by
  unfold discoverOidIndex
  dsimp only
  split_ifs
  · rw [loadOidIndexAt, Logged.log_bind_silent _ fun _ => rfl, readJsonAt_log]
  · exact List.nil_sublist _

theorem discoverDirectory_log (fs : FileSystem) (source : Path) :
    (discoverDirectory fs source).log <+ [source.join "manifest.json", source.join "oid_index.json"] := by
  have hmodules := discoverModulePaths_log fs source
  rw [discoverDirectory]
  cases hresult : (discoverModulePaths fs source).result with
  | error e =>
    rw [Logged.bind_of_error hresult]
    exact hmodules.trans (List.sublist_append_left [_] [_])
  | ok paths =>
    rw [Logged.bind_of_ok hresult]
    refine hmodules.append ?_
    split_ifs
    · exact List.nil_sublist _
    · rw [Logged.log_bind_silent _ fun _ => rfl]
      exact discoverOidIndex_log fs source

theorem join_of_glob {fs : FileSystem} {source : Path} {name : String} (h : name ∈ fs.glob source) :
    source.join name = { source with parts := source.parts ++ [name] } := by
  rw [Path.join, fs.names source name h, if_pos rfl]

theorem nodup_eraseDups {α : Type} [DecidableEq α] (xs : List α) : xs.eraseDups.Nodup := by
  match xs with
  | [] => exact List.nodup_nil
  | x :: xs =>
    rw [List.eraseDups_cons, List.nodup_cons]
    exact ⟨by simp [List.mem_eraseDups], nodup_eraseDups _⟩
termination_by xs.length
decreasing_by exact Nat.lt_succ_of_le (List.length_filter_le _ _)

theorem ModuleFiles.within {fs : FileSystem} {source : Path} {paths : List Path} (hfile : fs.isFile source = false)
    (h : ModuleFiles fs source paths) : paths.Nodup ∧ ∀ path ∈ paths, Within fs source path := by
  unfold ModuleFiles at h
  simp only [Within, hfile, Bool.false_eq_true, if_false]
  by_cases hmanifest : fs.hasEntry (source.join "manifest.json") = true
  · rw [if_pos hmanifest] at h
    obtain ⟨-, -, fileNames, -, -, -, -, hconfined, rfl⟩ := h
    refine ⟨nodup_eraseDups _, fun path hpath => ?_⟩
    obtain ⟨fileName, hname, rfl⟩ := List.mem_map.mp (List.mem_eraseDups.mp hpath)
    rw [if_pos hmanifest]
    exact (hconfined fileName hname).1
  · rw [if_neg hmanifest] at h
    obtain ⟨fileNames, -, hsorted, hmem, rfl⟩ := h
    refine ⟨?_, fun path hpath => ?_⟩
    · refine List.Nodup.map_on (fun name hname other hother heq => ?_) (hsorted.imp ne_of_lt)
      rw [join_of_glob ((hmem name).mp hname).1, join_of_glob ((hmem other).mp hother).1] at heq
      simpa using heq
    · obtain ⟨name, hname, rfl⟩ := List.mem_map.mp hpath
      rw [if_neg hmanifest]
      exact ⟨name, ((hmem name).mp hname).1, ((hmem name).mp hname).2, rfl⟩

theorem bundle_reads_within (fs : FileSystem) (source : Path) :
    ∃ sidecars modules, (loadBundle fs source).log = sidecars ++ modules ∧
      sidecars <+ [source.join "manifest.json", source.join "oid_index.json"] ∧
      modules.Nodup ∧ ∀ path ∈ modules, Within fs source path := by
  unfold loadBundle
  by_cases hfile : fs.isFile source = true
  · rw [if_pos hfile, Logged.log_bind_silent _ fun _ => rfl, loadModuleJson_log]
    refine ⟨[], [source], rfl, List.nil_sublist _, List.nodup_singleton _, fun path hpath => ?_⟩
    rw [Within, if_pos hfile]
    exact List.mem_singleton.mp hpath
  rw [if_neg hfile]
  by_cases hdir : fs.isDir source = true
  · rw [if_pos hdir]
    have hsidecars := discoverDirectory_log fs source
    cases hdiscover : (discoverDirectory fs source).result with
    | error e =>
      rw [Logged.bind_of_error hdiscover]
      exact ⟨_, [], (List.append_nil _).symm, hsidecars, List.nodup_nil, by simp⟩
    | ok loaded =>
      obtain ⟨paths, oidIndex⟩ := loaded
      obtain ⟨hnodup, hwithin⟩ := (discoverDirectory_ok_iff.mp hdiscover).1.within (Bool.eq_false_iff.mpr hfile)
      have hinside := Logged.mapM_log_prefix (loadModuleJson_log fs) paths
      rw [List.map_id'] at hinside
      rw [Logged.bind_of_ok hdiscover, Logged.log_bind_silent _ fun _ => rfl]
      refine ⟨_, _, rfl, hsidecars, hnodup.sublist hinside.sublist, fun path hpath => ?_⟩
      exact hwithin path (hinside.subset hpath)
  · rw [if_neg hdir]
    exact ⟨[], [], rfl, List.nil_sublist _, List.nodup_nil, by simp⟩

end Discovery

end TrishulSnmp.Mib
