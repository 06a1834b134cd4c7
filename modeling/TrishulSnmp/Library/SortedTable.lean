import Mathlib.Data.List.Sort

/-! A finite map kept as a list with increasing keys, and the walk over it from key to key. -/

structure SortedTable (K V : Type) [LinearOrder K] where
  entries : List (K × V)
  sorted : entries.Pairwise fun a b => a.1 < b.1

namespace SortedTable

variable {K V : Type} [LinearOrder K] (table : SortedTable K V)

def lookup (key : K) : Option V := (table.entries.find? fun entry => entry.1 = key).map Prod.snd

def after (key : K) : List (K × V) := table.entries.filter fun entry => key < entry.1

def next (key : K) : Option (K × V) := (table.after key).head?

variable {table}

theorem mem_after {key : K} {entry : K × V} : entry ∈ table.after key ↔ entry ∈ table.entries ∧ key < entry.1 := by
  simp [after]

theorem after_sorted (table : SortedTable K V) (key : K) : (table.after key).Pairwise fun a b => a.1 < b.1 :=
  table.sorted.sublist List.filter_sublist

theorem eq_of_key_eq {a b : K × V} (ha : a ∈ table.entries) (hb : b ∈ table.entries) (h : a.1 = b.1) : a = b := by
  have hne : table.entries.Pairwise fun a b => a.1 = b.1 → a = b :=
    table.sorted.imp fun hab heq => absurd heq hab.ne
  have hne' : table.entries.Pairwise (flip fun a b => a.1 = b.1 → a = b) :=
    table.sorted.imp fun hab heq => absurd heq hab.ne'
  exact hne.forall_of_forall_of_flip (fun _ _ _ => rfl) hne' ha hb h

theorem lookup_eq_some_iff {key : K} {v : V} : table.lookup key = some v ↔ (key, v) ∈ table.entries := by
  rw [lookup, Option.map_eq_some_iff]
  constructor
  · rintro ⟨⟨k, v'⟩, hfind, rfl⟩
    have hkey : k = key := by simpa using List.find?_some hfind
    exact hkey ▸ List.mem_of_find?_eq_some hfind
  · intro hmem
    obtain ⟨entry, hentry⟩ : ∃ entry, table.entries.find? (fun entry => entry.1 = key) = some entry := by
      rw [← Option.isSome_iff_exists, List.find?_isSome]
      exact ⟨(key, v), hmem, by simp⟩
    have hkey : entry.1 = key := by simpa using List.find?_some hentry
    have := eq_of_key_eq (List.mem_of_find?_eq_some hentry) hmem hkey
    exact ⟨entry, hentry, by rw [this]⟩

theorem after_tail {key : K} {entry : K × V} {rest : List (K × V)} (h : table.after key = entry :: rest) :
    rest = table.after entry.1 := by
  have hsorted := after_sorted table key
  rw [h, List.pairwise_cons] at hsorted
  have hmem : entry ∈ table.after key := by simp [h]
  have hkey := (mem_after.mp hmem).2
  have hfilter : table.after entry.1 = (table.after key).filter fun e => entry.1 < e.1 := by
    rw [after, after, List.filter_filter]
    apply List.filter_congr
    intro e _
    by_cases he : entry.1 < e.1
    · simp [he, hkey.trans he]
    · simp [he]
  rw [hfilter, h, List.filter_cons_of_neg (by simp), eq_comm, List.filter_eq_self]
  simpa using hsorted.1

theorem after_of_next {key : K} {entry : K × V} (h : table.next key = some entry) :
    table.after key = entry :: table.after entry.1 := by
  obtain ⟨rest, hrest⟩ := List.head?_eq_some_iff.mp h
  rw [hrest, after_tail hrest]

theorem next_eq_none_iff {key : K} : table.next key = none ↔ table.after key = [] := List.head?_eq_none_iff

theorem next_eq_some_iff {key : K} {entry : K × V} : table.next key = some entry ↔
    entry ∈ table.entries ∧ key < entry.1 ∧ ∀ other ∈ table.entries, key < other.1 → entry.1 ≤ other.1 := by
  constructor
  · intro h
    obtain ⟨rest, hrest⟩ := List.head?_eq_some_iff.mp h
    have hsorted := after_sorted table key
    rw [hrest, List.pairwise_cons] at hsorted
    have hmem : entry ∈ table.after key := by simp [hrest]
    refine ⟨(mem_after.mp hmem).1, (mem_after.mp hmem).2, fun other hother hkey => ?_⟩
    have := mem_after.mpr ⟨hother, hkey⟩
    rw [hrest, List.mem_cons] at this
    obtain rfl | hin := this
    · exact le_rfl
    · exact (hsorted.1 other hin).le
  · rintro ⟨hmem, hkey, hleast⟩
    cases hnext : table.next key with
    | none =>
      have := mem_after.mpr ⟨hmem, hkey⟩
      rw [next_eq_none_iff.mp hnext] at this
      exact absurd this List.not_mem_nil
    | some first =>
      obtain ⟨rest, hrest⟩ := List.head?_eq_some_iff.mp hnext
      have hfirst := mem_after.mp (by simp [hrest] : first ∈ table.after key)
      have hsorted := after_sorted table key
      rw [hrest, List.pairwise_cons] at hsorted
      have hin := mem_after.mpr ⟨hmem, hkey⟩
      rw [hrest, List.mem_cons] at hin
      obtain rfl | hin := hin
      · rfl
      · exact absurd (hleast first hfirst.1 hfirst.2) (not_le.mpr (hsorted.1 entry hin))

theorem takeWhile_after {P : K → Prop} [DecidablePred P] {key : K}
    (hconvex : ∀ k k', key < k → k < k' → P k' → P k) :
    (table.after key).takeWhile (fun entry => P entry.1) = (table.after key).filter fun entry => P entry.1 := by
  have habove : ∀ entry ∈ table.after key, key < entry.1 := fun entry hentry => (mem_after.mp hentry).2
  have hsorted := after_sorted table key
  revert habove hsorted
  generalize table.after key = entries
  intro habove hsorted
  induction entries with
  | nil => rfl
  | cons entry entries ih =>
    obtain ⟨hlt, hsorted⟩ := List.pairwise_cons.mp hsorted
    by_cases hP : P entry.1
    · rw [List.takeWhile_cons_of_pos (by simpa using hP), List.filter_cons_of_pos (by simpa using hP)]
      rw [ih (fun e he => habove e (List.mem_cons_of_mem _ he)) hsorted]
    · rw [List.takeWhile_cons_of_neg (by simpa using hP), List.filter_cons_of_neg (by simpa using hP), eq_comm,
        List.filter_eq_nil_iff]
      intro e he hPe
      exact hP (hconvex _ _ (habove entry List.mem_cons_self) (hlt e he) (by simpa using hPe))

def ofKeys (keys : List K) (hkeys : keys.Pairwise (· < ·)) (values : K → Option V) : SortedTable K V where
  entries := keys.filterMap fun key => (values key).map fun v => (key, v)
  sorted := by
    rw [List.pairwise_filterMap]
    refine hkeys.imp fun {a b} hab x hx y hy => ?_
    obtain ⟨_, -, rfl⟩ := Option.map_eq_some_iff.mp hx
    obtain ⟨_, -, rfl⟩ := Option.map_eq_some_iff.mp hy
    exact hab

variable {keys : List K} {hkeys : keys.Pairwise (· < ·)} {values : K → Option V}

theorem mem_ofKeys {key : K} {v : V} :
    (key, v) ∈ (ofKeys keys hkeys values).entries ↔ key ∈ keys ∧ values key = some v := by
  simp only [ofKeys, List.mem_filterMap, Option.map_eq_some_iff, Prod.mk.injEq]
  constructor
  · rintro ⟨k, hk, _, hv, rfl, rfl⟩
    exact ⟨hk, hv⟩
  · rintro ⟨hk, hv⟩
    exact ⟨key, hk, v, hv, rfl, rfl⟩

theorem next_ofKeys (hall : ∀ key ∈ keys, (values key).isSome) (key : K) :
    (ofKeys keys hkeys values).next key =
      (keys.find? (key < ·)).bind fun k => (values k).map fun v => (k, v) := by
  cases hfind : keys.find? (key < ·) with
  | none =>
    rw [Option.bind_none, next_eq_none_iff, List.eq_nil_iff_forall_not_mem]
    rintro ⟨k, v⟩ hmem
    obtain ⟨hmem, hlt⟩ := mem_after.mp hmem
    have := List.find?_eq_none.mp hfind k (mem_ofKeys.mp hmem).1
    simp only [decide_eq_true_eq] at this
    exact this hlt
  | some k =>
    obtain ⟨v, hv⟩ := Option.isSome_iff_exists.mp (hall k (List.mem_of_find?_eq_some hfind))
    have hlt : key < k := by simpa using List.find?_some hfind
    rw [Option.bind_some, hv, Option.map_some, next_eq_some_iff]
    refine ⟨mem_ofKeys.mpr ⟨List.mem_of_find?_eq_some hfind, hv⟩, hlt, ?_⟩
    rintro ⟨k', v'⟩ hmem hlt'
    obtain ⟨-, before, behind, rfl, hbefore⟩ := List.find?_eq_some_iff_append.mp hfind
    have hin := (mem_ofKeys.mp hmem).1
    rw [List.mem_append, List.mem_cons] at hin
    obtain hin | rfl | hin := hin
    · have := hbefore k' hin
      simp only [Bool.not_eq_true', decide_eq_false_iff_not] at this
      exact absurd hlt' this
    · exact le_rfl
    · exact (List.rel_of_pairwise_cons (List.pairwise_append.mp hkeys).2.1 hin).le

section MapValues

variable {W : Type} (f : V → W)

def mapValues (table : SortedTable K V) : SortedTable K W where
  entries := table.entries.map fun entry => (entry.1, f entry.2)
  sorted := List.pairwise_map.mpr table.sorted

theorem mem_mapValues {entry : K × W} :
    entry ∈ (table.mapValues f).entries ↔ ∃ value, (entry.1, value) ∈ table.entries ∧ f value = entry.2 := by
  rw [mapValues, List.mem_map]
  constructor
  · rintro ⟨⟨key, value⟩, hmem, rfl⟩
    exact ⟨value, hmem, rfl⟩
  · rintro ⟨value, hmem, hvalue⟩
    exact ⟨(entry.1, value), hmem, by rw [hvalue]⟩

theorem next_mapValues (key : K) :
    (table.mapValues f).next key = (table.next key).map fun entry => (entry.1, f entry.2) := by
  rw [next, next, after, after, mapValues, List.filter_map, List.head?_map]
  rfl

end MapValues

end SortedTable
