import Mathlib.Data.List.Induction
import Mathlib.Data.List.Nodup

/-! A Python `dict`: unique keys, iterated in the order in which they were first inserted. -/

structure PyDict (K V : Type) where
  entries : List (K × V)
  nodup : (entries.map Prod.fst).Nodup
  deriving DecidableEq

namespace PyDict

variable {K V : Type} [DecidableEq K]

def setEntry (key : K) (value : V) : List (K × V) → List (K × V)
  | [] => [(key, value)]
  | entry :: entries => if entry.1 = key then (key, value) :: entries else entry :: setEntry key value entries

theorem mem_setEntry {key : K} {value : V} {entries : List (K × V)} {entry : K × V}
    (h : entry ∈ setEntry key value entries) : entry = (key, value) ∨ entry ∈ entries := by
  induction entries with
  | nil => exact .inl (List.mem_singleton.mp h)
  | cons first entries ih =>
    by_cases hkey : first.1 = key
    · rw [setEntry, if_pos hkey, List.mem_cons] at h
      exact h.imp_right (List.mem_cons_of_mem first)
    · rw [setEntry, if_neg hkey, List.mem_cons] at h
      obtain rfl | h := h
      · exact .inr (List.mem_cons_self ..)
      · exact (ih h).imp_right (List.mem_cons_of_mem first)

theorem nodup_setEntry (key : K) (value : V) {entries : List (K × V)} (h : (entries.map Prod.fst).Nodup) :
    ((setEntry key value entries).map Prod.fst).Nodup := by
  induction entries with
  | nil => exact List.nodup_singleton key
  | cons first entries ih =>
    rw [List.map_cons, List.nodup_cons] at h
    by_cases hkey : first.1 = key
    · rw [setEntry, if_pos hkey, List.map_cons, List.nodup_cons]
      exact hkey ▸ h
    · rw [setEntry, if_neg hkey, List.map_cons, List.nodup_cons]
      refine ⟨fun hmem => ?_, ih h.2⟩
      obtain ⟨entry, hentry, heq⟩ := List.mem_map.mp hmem
      obtain rfl | hentry := mem_setEntry hentry
      · exact hkey heq.symm
      · exact h.1 (List.mem_map.mpr ⟨entry, hentry, heq⟩)

def empty : PyDict K V := ⟨[], List.nodup_nil⟩

def set (dict : PyDict K V) (key : K) (value : V) : PyDict K V :=
  ⟨setEntry key value dict.entries, nodup_setEntry key value dict.nodup⟩

def get? (dict : PyDict K V) (key : K) : Option V :=
  (dict.entries.find? fun entry => entry.1 = key).map Prod.snd

def values (dict : PyDict K V) : List V := dict.entries.map Prod.snd

def ofEntries (entries : List (K × V)) : PyDict K V :=
  entries.foldl (fun dict entry => dict.set entry.1 entry.2) empty

theorem forall_set {P : K × V → Prop} {dict : PyDict K V} {key : K} {value : V} (h : ∀ entry ∈ dict.entries, P entry)
    (hset : P (key, value)) : ∀ entry ∈ (dict.set key value).entries, P entry := by
  intro entry hentry
  obtain rfl | hentry := mem_setEntry hentry
  · exact hset
  · exact h entry hentry

theorem forall_ofEntries {P : K × V → Prop} {entries : List (K × V)} (h : ∀ entry ∈ entries, P entry) :
    ∀ entry ∈ (ofEntries entries).entries, P entry := by
  induction entries using List.reverseRecOn with
  | nil => exact fun entry hentry => absurd hentry List.not_mem_nil
  | append_singleton entries last ih =>
    rw [ofEntries, List.foldl_append]
    apply forall_set
    · exact ih fun entry hentry => h entry (List.mem_append_left _ hentry)
    · exact h last (List.mem_append_right _ (List.mem_singleton_self last))

theorem nodup_values {α : Type} {dict : PyDict α V} {name : V → α}
    (h : ∀ entry ∈ dict.entries, name entry.2 = entry.1) :
    (dict.values.map name).Nodup := by
  have hnames : dict.values.map name = dict.entries.map Prod.fst := by
    rw [values, List.map_map]
    exact List.map_congr_left h
  exact hnames ▸ dict.nodup

def mapValues {W : Type} (f : V → W) (dict : PyDict K V) : PyDict K W :=
  ⟨dict.entries.map fun entry => (entry.1, f entry.2), by simpa [Function.comp_def] using dict.nodup⟩

theorem find?_setEntry (key k : K) (value : V) (entries : List (K × V)) :
    (setEntry key value entries).find? (fun entry => entry.1 = k) =
      if key = k then some (key, value) else entries.find? fun entry => entry.1 = k := by
  induction entries with
  | nil => by_cases hk : key = k <;> simp [setEntry, hk]
  | cons first entries ih =>
    by_cases hkey : first.1 = key
    · rw [setEntry, if_pos hkey]
      by_cases hk : key = k <;> simp [hk, hkey]
    · rw [setEntry, if_neg hkey]
      by_cases hk : first.1 = k
      · have hne : key ≠ k := fun h => hkey (hk.trans h.symm)
        simp [hk, hne]
      · simp [hk, ih]

theorem get?_set (dict : PyDict K V) (key k : K) (value : V) :
    (dict.set key value).get? k = if key = k then some value else dict.get? k := by
  rw [get?, set, find?_setEntry]
  by_cases hk : key = k <;> simp [hk, get?]

theorem ofEntries_concat (entries : List (K × V)) (entry : K × V) :
    ofEntries (entries ++ [entry]) = (ofEntries entries).set entry.1 entry.2 := by
  rw [ofEntries, List.foldl_append]
  rfl

theorem get?_ofEntries (entries : List (K × V)) (key : K) :
    (ofEntries entries).get? key = (entries.reverse.find? fun entry => entry.1 = key).map Prod.snd := by
  induction entries using List.reverseRecOn with
  | nil => rfl
  | append_singleton entries entry ih =>
    rw [ofEntries_concat, get?_set, ih, List.reverse_concat]
    by_cases hk : entry.1 = key <;> simp [hk]

theorem setEntry_of_new {key : K} {value : V} {entries : List (K × V)} (h : key ∉ entries.map Prod.fst) :
    setEntry key value entries = entries ++ [(key, value)] := by
  induction entries with
  | nil => rfl
  | cons first entries ih =>
    obtain ⟨hne, hrest⟩ := not_or.mp (mt List.mem_cons.mpr h)
    rw [setEntry, if_neg (Ne.symm hne), ih hrest, List.cons_append]

theorem entries_ofEntries {entries : List (K × V)} (h : (entries.map Prod.fst).Nodup) :
    (ofEntries entries).entries = entries := by
  induction entries using List.reverseRecOn with
  | nil => rfl
  | append_singleton entries entry ih =>
    rw [List.map_append, List.map_singleton, List.nodup_append] at h
    obtain ⟨hentries, -, hdisjoint⟩ := h
    have hnew : entry.1 ∉ entries.map Prod.fst := fun hmem => hdisjoint _ hmem _ (List.mem_singleton_self _) rfl
    have hset : (ofEntries (entries ++ [entry])).entries = setEntry entry.1 entry.2 (ofEntries entries).entries :=
      congrArg PyDict.entries (ofEntries_concat entries entry)
    rw [hset, ih hentries, setEntry_of_new hnew]

section Keyed

variable {α β : Type} {key : α → K} {xs ys : List α}

theorem find?_key_iff (h : (xs.map key).Nodup) {k : K} {x : α} :
    xs.find? (fun x => key x = k) = some x ↔ x ∈ xs ∧ key x = k := by
  constructor
  · intro hfind
    exact ⟨List.mem_of_find?_eq_some hfind, by simpa using List.find?_some hfind⟩
  · rintro ⟨hx, rfl⟩
    apply List.find?_eq_some_iff_append.mpr
    obtain ⟨front, back, rfl⟩ := List.append_of_mem hx
    refine ⟨by simp, front, back, rfl, fun y hy => ?_⟩
    rw [List.map_append, List.nodup_append] at h
    have hne := h.2.2 _ (List.mem_map_of_mem hy) (key x) (by simp)
    simpa using hne

theorem find?_key_perm (h : (xs.map key).Nodup) (hperm : xs.Perm ys) (k : K) :
    xs.find? (fun x => key x = k) = ys.find? fun x => key x = k := by
  apply Option.ext
  intro x
  rw [find?_key_iff h, find?_key_iff ((hperm.map key).nodup h), hperm.mem_iff]

theorem find?_flatMap_key (h : (xs.map key).Nodup) {f : α → List β} {p : β → Bool} {k : K}
    (hp : ∀ x ∈ xs, ∀ y ∈ f x, p y → key x = k) :
    (xs.flatMap f).find? p = (xs.find? fun x => key x = k).bind fun x => (f x).find? p := by
  induction xs with
  | nil => rfl
  | cons x xs ih =>
    rw [List.map_cons, List.nodup_cons] at h
    obtain ⟨hx, hxs⟩ := List.forall_mem_cons.mp hp
    rw [List.flatMap_cons, List.find?_append, ih h.2 hxs]
    by_cases hk : key x = k
    · have hnone : xs.find? (fun x => key x = k) = none := by
        rw [List.find?_eq_none]
        intro y hy hkey
        exact h.1 (List.mem_map.mpr ⟨y, hy, (of_decide_eq_true hkey).trans hk.symm⟩)
      simp [hk, hnone]
    · have hnone : (f x).find? p = none := by
        rw [List.find?_eq_none]
        exact fun y hy hpy => hk (hx y hy hpy)
      simp [hk, hnone]

end Keyed

end PyDict
