import TrishulSnmp.Responder.Survival

namespace TrishulSnmp.Responder

open Mib Outcome Wire

/-! GETBULK over an in-memory store, whose rules may change `σ` and fail. -/

namespace InMemoryObjectSource

variable {σ : Type} (source : InMemoryObjectSource σ)

def successor (oid : OID) : Option OID := source.sortedOids.find? (oid < ·)

def iterated : ℕ → OID → Option OID
  | 0, oid => some oid
  | steps + 1, oid => (iterated steps oid).bind source.successor

def lastOid : ℕ → OID → OID
  | 0, oid => oid
  | steps + 1, oid => (source.iterated (steps + 1) oid).getD (lastOid steps oid)

theorem successor_eq_some_iff {source : InMemoryObjectSource σ} (h : source.Coherent) {oid key : OID} :
    source.successor oid = some key ↔
      key ∈ source.values ∧ oid < key ∧ ∀ other ∈ source.values, oid < other → key ≤ other := by
  rw [successor, List.find?_eq_some_iff_append]
  simp only [decide_eq_true_eq, Bool.not_eq_eq_eq_not, Bool.not_true, decide_eq_false_iff_not]
  constructor
  · rintro ⟨hlt, before, after, hkeys, hbelow⟩
    have hsorted := h.sorted
    rw [hkeys] at hsorted
    refine ⟨(h.mem_iff key).mp (by simp [hkeys]), hlt, fun other hmem hother => ?_⟩
    rw [← h.mem_iff, hkeys, List.mem_append, List.mem_cons] at hmem
    obtain hmem | rfl | hmem := hmem
    · exact absurd hother (hbelow other hmem)
    · exact le_rfl
    · exact ((List.pairwise_cons.mp (List.pairwise_append.mp hsorted).2.1).1 other hmem).le
  · rintro ⟨hmem, hlt, hleast⟩
    obtain ⟨before, after, hkeys⟩ := List.append_of_mem ((h.mem_iff key).mpr hmem)
    have hsorted := h.sorted
    rw [hkeys] at hsorted
    refine ⟨hlt, before, after, hkeys, fun other hbefore hother => ?_⟩
    have hkey := hleast other ((h.mem_iff other).mp (by simp [hkeys, hbefore])) hother
    exact absurd ((List.pairwise_append.mp hsorted).2.2 other hbefore key (by simp)) (not_lt.mpr hkey)

theorem bisect_successor {source : InMemoryObjectSource σ} (h : source.Coherent) (oid : OID) :
    source.sortedOids[Bisect.bisectRight source.sortedOids oid]? = source.successor oid := by
  have hle := h.sorted.imp fun {a b : OID} (hab : a < b) => hab.le
  rw [Bisect.getElem?_bisectRight hle, successor]
  congr
  exact funext fun key => decide_eq_decide.mpr Iff.rfl

theorem successor_lastOid (steps : ℕ) (oid : OID) :
    source.successor (source.lastOid steps oid) = source.iterated (steps + 1) oid := by
  induction steps with
  | zero => rfl
  | succ steps ih =>
    rw [lastOid]
    cases hstep : source.iterated (steps + 1) oid with
    | none => rw [Option.getD_none, ih, hstep, iterated, hstep, Option.bind_none]
    | some key => rw [Option.getD_some, iterated, hstep, Option.bind_some]

end InMemoryObjectSource

section Programs

variable {σ α β : Type} {source : InMemoryObjectSource σ}

def Keeps (source : InMemoryObjectSource σ) (x : StateT (World σ) (Except Error) α) (P : α → Prop) : Prop :=
  ∀ rules a world, x { source := source, rules := rules } = .ok (a, world) → world.source = source ∧ P a

def Returns (source : InMemoryObjectSource σ) (x : StateT (World σ) (Except Error) α) : Prop :=
  ∀ rules, ∃ a rules', x { source := source, rules := rules } = .ok (a, { source := source, rules := rules' })

theorem Keeps.pure {P : α → Prop} {a : α} (h : P a) : Keeps source (Pure.pure a) P := by
  intro rules b world hrun
  obtain ⟨rfl, rfl⟩ := Prod.mk.inj (Except.ok.inj hrun)
  exact ⟨rfl, h⟩

theorem Keeps.bind {x : StateT (World σ) (Except Error) α} {f : α → StateT (World σ) (Except Error) β} {P : α → Prop}
    {Q : β → Prop} (hx : Keeps source x P) (hf : ∀ a, P a → Keeps source (f a) Q) : Keeps source (x >>= f) Q := by
  intro rules b world hrun
  obtain ⟨⟨a, world'⟩, hrun', hrest⟩ := bind_ok_iff.mp hrun
  obtain ⟨hsource, ha⟩ := hx rules a world' hrun'
  obtain ⟨_, rules'⟩ := world'
  obtain rfl : _ = source := hsource
  exact hf a ha rules' b world hrest

theorem Keeps.mapM {f : α → StateT (World σ) (Except Error) β} {R : α → β → Prop} (hf : ∀ a, Keeps source (f a) (R a))
    (xs : List α) : Keeps source (xs.mapM f) (List.Forall₂ R xs) := by
  induction xs with
  | nil => exact .pure .nil
  | cons x xs ih =>
    rw [List.mapM_cons]
    refine (hf x).bind fun y hy => ih.bind fun ys hys => ?_
    exact .pure (.cons hy hys)

theorem Returns.pure (a : α) : Returns source (Pure.pure a : StateT (World σ) (Except Error) α) :=
  fun rules => ⟨a, rules, rfl⟩

theorem Returns.bind {x : StateT (World σ) (Except Error) α} {f : α → StateT (World σ) (Except Error) β}
    (hx : Returns source x) (hf : ∀ a, Returns source (f a)) : Returns source (x >>= f) := by
  intro rules
  obtain ⟨a, rules', hrun⟩ := hx rules
  obtain ⟨b, rules'', hrest⟩ := hf a rules'
  exact ⟨b, rules'', by rw [bind_of_ok hrun, hrest]⟩

theorem Returns.mapM {f : α → StateT (World σ) (Except Error) β} (hf : ∀ a, Returns source (f a)) (xs : List α) :
    Returns source (xs.mapM f) := by
  induction xs with
  | nil => exact .pure []
  | cons x xs ih =>
    rw [List.mapM_cons]
    exact (hf x).bind fun y => ih.bind fun ys => .pure (y :: ys)

end Programs

section Bulk

variable {σ : Type} {source : InMemoryObjectSource σ}

def ObjectValue.Gives : ObjectValue σ → SnmpValue → Prop
  | .value stored, shown => shown = stored
  | .rule getValue, shown => ∃ rules rules', getValue rules = .ok (shown, rules')

namespace InMemoryObjectSource

def NoEnd (source : InMemoryObjectSource σ) : Prop :=
  ∀ oid stored, source.values.lookup oid = some stored → ¬ stored.Gives .endOfMibViewValue

def RulesReturn (source : InMemoryObjectSource σ) : Prop :=
  ∀ oid getValue, source.values.lookup oid = some (.rule getValue) → ∀ rules, ∃ result, getValue rules = .ok result

def Holds (source : InMemoryObjectSource σ) (key : OID) (varbind : RawVarBind) : Prop :=
  varbind.oid = key ∧ ∃ stored, source.values.lookup key = some stored ∧ stored.Gives varbind.value

/-- What stands for `oid` after so many steps: the iterated successor, or the end of the view under the last
OID there was. -/
def Entry (source : InMemoryObjectSource σ) (steps : ℕ) (oid : OID) (varbind : RawVarBind) : Prop :=
  match source.iterated steps oid with
  | some key => source.Holds key varbind
  | none => varbind = { oid := source.lastOid steps oid, value := .endOfMibViewValue }

end InMemoryObjectSource

open InMemoryObjectSource

theorem current_keeps (stored : ObjectValue σ) : Keeps source stored.current stored.Gives := by
  intro rules value world hrun
  cases stored with
  | value stored =>
    obtain ⟨rfl, rfl⟩ := Prod.mk.inj (Except.ok.inj hrun)
    exact ⟨rfl, rfl⟩
  | rule getValue =>
    obtain ⟨⟨value', rules'⟩, hget, hrest⟩ := bind_ok_iff.mp hrun
    obtain ⟨rfl, rfl⟩ := Prod.mk.inj (Except.ok.inj hrest)
    exact ⟨rfl, rules, rules', hget⟩

theorem lookupNext_keeps (h : source.Coherent) (oid : OID) : Keeps source (lookupNext oid) fun found =>
    match source.successor oid with
    | none => found = none
    | some key => ∃ value stored, found = some (key, value) ∧ source.values.lookup key = some stored ∧
          stored.Gives value := by
  refine Keeps.bind (P := fun world => world.source = source) ?_ ?_
  · intro rules a world hrun
    obtain ⟨rfl, rfl⟩ := Prod.mk.inj (Except.ok.inj hrun)
    exact ⟨rfl, rfl⟩
  · rintro world rfl
    dsimp only
    rw [bisect_successor h]
    cases hkey : world.source.successor oid with
    | none => exact .pure rfl
    | some key =>
      simp only
      have hmem := ((successor_eq_some_iff h).mp hkey).1
      obtain ⟨stored, hstored⟩ := Option.isSome_iff_exists.mp (AList.lookup_isSome.mpr hmem)
      rw [hstored]
      exact (current_keeps stored).bind fun value hvalue => .pure ⟨value, stored, rfl, rfl, hvalue⟩

theorem lookupNextVarbind_keeps (h : source.Coherent) (steps : ℕ) (oid : OID) :
    Keeps source (lookupNextVarbind asSource (source.lastOid steps oid)) (source.Entry (steps + 1) oid) := by
  have hnext := lookupNext_keeps h (source.lastOid steps oid)
  refine hnext.bind fun found hfound => ?_
  rw [successor_lastOid] at hfound
  unfold InMemoryObjectSource.Entry
  cases hkey : source.iterated (steps + 1) oid with
  | none =>
    rw [hkey] at hfound
    obtain rfl := hfound
    rw [lastOid, hkey, Option.getD_none]
    exact .pure rfl
  | some key =>
    rw [hkey] at hfound
    obtain ⟨value, stored, rfl, hstored, hvalue⟩ := hfound
    exact .pure ⟨rfl, stored, hstored, hvalue⟩

theorem nextCurrent_entry (hnoEnd : source.NoEnd) {steps : ℕ} {oid : OID} {varbind : RawVarBind}
    (h : source.Entry (steps + 1) oid varbind) :
    nextCurrent (source.lastOid steps oid) varbind = source.lastOid (steps + 1) oid := by
  rw [lastOid, nextCurrent]
  unfold InMemoryObjectSource.Entry at h
  cases hkey : source.iterated (steps + 1) oid with
  | none =>
    rw [hkey] at h
    obtain rfl := h
    rw [if_pos rfl, Option.getD_none]
  | some key =>
    rw [hkey] at h
    obtain ⟨hoid, stored, hstored, hgives⟩ := h
    have hvalue : varbind.value ≠ .endOfMibViewValue := by
      intro heq
      exact hnoEnd key stored hstored (heq ▸ hgives)
    rw [if_neg hvalue, Option.getD_some, hoid]

theorem bulkRow_keeps (h : source.Coherent) (hnoEnd : source.NoEnd) (steps : ℕ) (repeaters : List OID) :
    Keeps source (bulkRow asSource (repeaters.map (source.lastOid steps))) fun row =>
      List.Forall₂ (source.Entry (steps + 1)) repeaters row.1 ∧ row.2 = repeaters.map (source.lastOid (steps + 1)) := by
  induction repeaters with
  | nil => exact .pure ⟨.nil, rfl⟩
  | cons oid repeaters ih =>
    rw [List.map_cons, bulkRow]
    refine (lookupNextVarbind_keeps h steps oid).bind fun varbind hentry => ih.bind fun row hkept => .pure ?_
    obtain ⟨hrow, hcurrent⟩ := hkept
    exact ⟨.cons hentry hrow, by rw [hcurrent, nextCurrent_entry hnoEnd hentry, List.map_cons]⟩

def EntryAt (source : InMemoryObjectSource σ) (position : ℕ × OID) (varbind : RawVarBind) : Prop :=
  source.Entry position.1 position.2 varbind

def rowPositions (repeaters : List OID) (first count : ℕ) : List (ℕ × OID) :=
  (List.range' first count).flatMap fun row => repeaters.map fun oid => (row, oid)

theorem bulkRows_keeps (h : source.Coherent) (hnoEnd : source.NoEnd) (repetitions steps : ℕ) (repeaters : List OID) :
    Keeps source (bulkRows asSource repetitions (repeaters.map (source.lastOid steps)))
      (List.Forall₂ (EntryAt source) (rowPositions repeaters (steps + 1) repetitions)) := by
  induction repetitions generalizing steps with
  | zero => exact .pure .nil
  | succ repetitions ih =>
    rw [bulkRows, rowPositions, List.range'_succ, List.flatMap_cons]
    refine (bulkRow_keeps h hnoEnd steps repeaters).bind fun row hkept => ?_
    obtain ⟨hrow, hcurrent⟩ := hkept
    rw [hcurrent]
    refine (ih (steps + 1)).bind fun rows hrows => .pure ?_
    exact List.rel_append (R := EntryAt source) (List.forall₂_map_left_iff.mpr hrow) hrows

def bulkPositions (oids : List OID) (nonRepeaters maxRepetitions : ℤ) : List (ℕ × OID) :=
  (oids.take nonRepeaters.toNat).map (fun oid => (1, oid)) ++
    rowPositions (oids.drop nonRepeaters.toNat) 1 maxRepetitions.toNat

theorem bulk_keeps (h : source.Coherent) (hnoEnd : source.NoEnd) (varbinds : List RawVarBind)
    (nonRepeaters maxRepetitions : ℤ) :
    Keeps source (buildBulkVarbinds asSource varbinds nonRepeaters maxRepetitions)
      (List.Forall₂ (EntryAt source) (bulkPositions (varbinds.map RawVarBind.oid) nonRepeaters maxRepetitions)) := by
  rw [buildBulkVarbinds_clamped]
  have hfirst := Keeps.mapM (lookupNextVarbind_keeps h 0)
    ((varbinds.map RawVarBind.oid).take nonRepeaters.toNat)
  refine hfirst.bind fun first hfirst => ?_
  have hrows := bulkRows_keeps h hnoEnd maxRepetitions.toNat 0 ((varbinds.map RawVarBind.oid).drop nonRepeaters.toNat)
  have hstart : ((varbinds.map RawVarBind.oid).drop nonRepeaters.toNat).map (source.lastOid 0) =
      (varbinds.map RawVarBind.oid).drop nonRepeaters.toNat := List.map_id _
  rw [hstart] at hrows
  refine hrows.bind fun rows hrows => .pure ?_
  exact List.rel_append (R := EntryAt source) (List.forall₂_map_left_iff.mpr hfirst) hrows

theorem lookupNext_returns (h : source.Coherent) (hrules : source.RulesReturn) (oid : OID) :
    Returns source (lookupNext oid) := by
  intro rules
  cases hkey : source.sortedOids[Bisect.bisectRight source.sortedOids oid]? with
  | none => exact ⟨none, rules, lookupNext_none hkey⟩
  | some key =>
    have hmem := (h.mem_iff key).mp (List.mem_of_getElem? hkey)
    obtain ⟨stored, hstored⟩ := Option.isSome_iff_exists.mp (AList.lookup_isSome.mpr hmem)
    cases stored with
    | value value => exact ⟨_, rules, lookupNext_value hkey hstored⟩
    | rule getValue =>
      obtain ⟨⟨value, rules'⟩, hget⟩ := hrules key getValue hstored rules
      refine ⟨some (key, value), rules', ?_⟩
      have hrule : (ObjectValue.rule getValue).current { source := source, rules := rules } =
          .ok (value, { source := source, rules := rules' }) := by
        change (getValue rules >>= fun p => Except.ok (p.1, _)) = _
        rw [hget]
        rfl
      have hget' : (get : StateT (World σ) (Except Error) (World σ)) { source := source, rules := rules } =
          .ok ({ source := source, rules := rules }, { source := source, rules := rules }) := rfl
      rw [lookupNext, bind_of_ok hget']
      simp only [hkey, hstored]
      rw [bind_of_ok hrule]
      rfl

theorem lookupNextVarbind_returns (h : source.Coherent) (hrules : source.RulesReturn) (oid : OID) :
    Returns source (lookupNextVarbind asSource oid) := by
  have hnext : Returns source ((asSource (σ := σ)).lookupNext oid) := lookupNext_returns h hrules oid
  refine hnext.bind fun found => ?_
  cases found with
  | none => exact .pure _
  | some found => exact .pure _

theorem bulkRow_returns (h : source.Coherent) (hrules : source.RulesReturn) (oids : List OID) :
    Returns source (bulkRow asSource oids) := by
  induction oids with
  | nil => exact .pure _
  | cons oid oids ih => exact (lookupNextVarbind_returns h hrules oid).bind fun _ => ih.bind fun _ => .pure _

theorem bulkRows_returns (h : source.Coherent) (hrules : source.RulesReturn) (repetitions : ℕ) (oids : List OID) :
    Returns source (bulkRows asSource repetitions oids) := by
  induction repetitions generalizing oids with
  | zero => exact .pure _
  | succ repetitions ih => exact (bulkRow_returns h hrules oids).bind fun row => (ih row.2).bind fun _ => .pure _

theorem bulk_returns (h : source.Coherent) (hrules : source.RulesReturn) (varbinds : List RawVarBind)
    (nonRepeaters maxRepetitions : ℤ) :
    Returns source (buildBulkVarbinds asSource varbinds nonRepeaters maxRepetitions) := by
  rw [buildBulkVarbinds_clamped]
  exact (Returns.mapM (lookupNextVarbind_returns h hrules) _).bind fun _ =>
    (bulkRows_returns h hrules _ _).bind fun _ => .pure _

theorem bulk_follows_successors {σ : Type} (source : InMemoryObjectSource σ) (hreached : source.Reached)
    (hnoEnd : source.NoEnd) (rules : σ) (varbinds : List RawVarBind) (nonRepeaters maxRepetitions : ℤ) :
    (∀ result world, buildBulkVarbinds asSource varbinds nonRepeaters maxRepetitions
        { source := source, rules := rules } = .ok (result, world) →
      List.Forall₂ (EntryAt source) (bulkPositions (varbinds.map RawVarBind.oid) nonRepeaters maxRepetitions) result) ∧
    (source.RulesReturn → ∃ result world, buildBulkVarbinds asSource varbinds nonRepeaters maxRepetitions
        { source := source, rules := rules } = .ok (result, world)) := by
  have hcoherent := hreached.inv.coherent
  constructor
  · intro result world hrun
    exact (bulk_keeps hcoherent hnoEnd varbinds nonRepeaters maxRepetitions rules result world hrun).2
  · intro hrules
    obtain ⟨result, rules', hrun⟩ := bulk_returns hcoherent hrules varbinds nonRepeaters maxRepetitions rules
    exact ⟨result, _, hrun⟩

theorem bulk_follows_successors_sample : List.Forall₂ (EntryAt sampleStore)
    (bulkPositions [[1, 4], [1, 3], [1, 3, 6, 1]] 1 2)
    [⟨[1, 4], .endOfMibViewValue⟩, ⟨[1, 3, 6], .integerValue 1⟩, ⟨[1, 4], .counter32Value 5⟩,
      ⟨[1, 3, 6, 1], .octetStringValue [0x75, 0x70]⟩, ⟨[1, 4], .endOfMibViewValue⟩] := by
  have hnoEnd : sampleStore.NoEnd := by
    intro oid stored hstored hgives
    obtain ⟨object, hmem, -, rfl⟩ := lookup_sampleStore hstored
    exact sampleObjects_values object hmem hgives.symm
  exact (bulk_follows_successors sampleStore sampleStore_reached hnoEnd ()
    [⟨[1, 4], .nullValue⟩, ⟨[1, 3], .nullValue⟩, ⟨[1, 3, 6, 1], .nullValue⟩] 1 2).1 _
    { source := sampleStore, rules := () } rfl

def heldStore : InMemoryObjectSource Unit :=
  { bundle := none
    values := AList.insert [1, 3, 2] (.value (.integerValue 7)) (AList.insert [1, 3, 1] (.value .endOfMibViewValue) ∅)
    sortedOids := [[1, 3, 1], [1, 3, 2]] }

theorem heldStore_reached : heldStore.Reached := by
  have htarget : (storeOf [1, 3, 1] .endOfMibViewValue).normalizeTarget (.sequence [1, 3, 2] (tupleText [1, 3, 2])) =
      .ok [1, 3, 2] := by
    rw [normalizeTarget_eq]
    exact normalizeTarget_sequence (by decide) none _
  have hset : (storeOf [1, 3, 1] .endOfMibViewValue).setObject (.sequence [1, 3, 2] (tupleText [1, 3, 2]))
      (.value (.integerValue 7)) = .ok ([1, 3, 2], heldStore) := by
    rw [setObject, htarget]
    rfl
  have hnumeric : (Target.sequence [1, 3, 2] (tupleText [1, 3, 2])).Numeric := trivial
  exact .setObject (storeOf_reached _ (by decide)) (.inl hnumeric) hset

theorem stored_end_holds_up : heldStore.Reached ∧ heldStore.successor [1, 3] = some [1, 3, 1] ∧
    heldStore.successor [1, 3, 1] = some [1, 3, 2] ∧
    buildBulkVarbinds asSource [{ oid := [1, 3], value := .nullValue }] 0 2 { source := heldStore, rules := () } =
      .ok ([{ oid := [1, 3, 1], value := .endOfMibViewValue }, { oid := [1, 3, 1], value := .endOfMibViewValue }],
        { source := heldStore, rules := () }) ∧
    ¬ List.Forall₂ (EntryAt heldStore) (bulkPositions [[1, 3]] 0 2)
      [{ oid := [1, 3, 1], value := .endOfMibViewValue }, { oid := [1, 3, 1], value := .endOfMibViewValue }] := by
  refine ⟨heldStore_reached, by decide, by decide, rfl, fun h => ?_⟩
  have hpositions : bulkPositions [[1, 3]] 0 2 = [(1, [1, 3]), (2, [1, 3])] := rfl
  rw [hpositions] at h
  have hentry := (List.forall₂_cons.mp (List.forall₂_cons.mp h).2).1
  have hkey : heldStore.iterated 2 [1, 3] = some [1, 3, 2] := by decide
  rw [EntryAt, InMemoryObjectSource.Entry, hkey] at hentry
  exact absurd hentry.1 (by decide)

theorem bulkRow_length (h : source.Coherent) (oids : List OID) :
    Keeps source (bulkRow asSource oids) fun row => row.1.length = oids.length ∧ row.2.length = oids.length := by
  induction oids with
  | nil => exact .pure ⟨rfl, rfl⟩
  | cons oid oids ih =>
    refine (lookupNextVarbind_keeps h 0 oid).bind fun varbind _ => ih.bind fun row ⟨hrow, hcurrent⟩ => .pure ?_
    exact ⟨by simp [hrow], by simp [hcurrent]⟩

theorem bulkRows_length (h : source.Coherent) (repetitions : ℕ) (oids : List OID) :
    Keeps source (bulkRows asSource repetitions oids) fun rows => rows.length = repetitions * oids.length := by
  induction repetitions generalizing oids with
  | zero => exact .pure (by simp)
  | succ repetitions ih =>
    refine (bulkRow_length h oids).bind fun row ⟨hrow, hcurrent⟩ => (ih row.2).bind fun rows hrows => .pure ?_
    rw [List.length_append, hrow, hrows, hcurrent, Nat.succ_mul, Nat.add_comm]

theorem bulk_length (h : source.Coherent) (varbinds : List RawVarBind) (nonRepeaters maxRepetitions : ℤ) :
    Keeps source (buildBulkVarbinds asSource varbinds nonRepeaters maxRepetitions) fun result => result.length =
      min nonRepeaters.toNat varbinds.length + maxRepetitions.toNat * (varbinds.length - nonRepeaters.toNat) := by
  rw [buildBulkVarbinds_clamped]
  refine (Keeps.mapM (lookupNextVarbind_keeps h 0) _).bind fun first hfirst => ?_
  refine (bulkRows_length h _ _).bind fun rows hrows => .pure ?_
  rw [List.length_append, ← hfirst.length_eq, hrows, List.length_take, List.length_drop, List.length_map]

theorem bulk_response_size {σ : Type} (source : InMemoryObjectSource σ) (hreached : source.Reached) (rules : σ)
    (pdu : Pdu) (hbulk : pdu.pduType = .getBulk) :
    (∀ response world, buildResponsePdu asSource pdu { source := source, rules := rules } = .ok (some response, world) →
      response.varbinds.length = min pdu.errorStatus.toNat pdu.varbinds.length +
        pdu.errorIndex.toNat * (pdu.varbinds.length - pdu.errorStatus.toNat)) ∧
    (source.RulesReturn → ∃ response world,
      buildResponsePdu asSource pdu { source := source, rules := rules } = .ok (some response, world)) := by
  have hcoherent := hreached.inv.coherent
  have hbuild : buildResponsePdu (asSource (σ := σ)) pdu = (do
      let varbinds ← buildBulkVarbinds asSource pdu.varbinds pdu.errorStatus pdu.errorIndex
      return some (responsePdu pdu varbinds)) := by
    rw [buildResponsePdu, hbulk]
  rw [hbuild]
  constructor
  · intro response world hrun
    have hkeeps := (bulk_length hcoherent pdu.varbinds pdu.errorStatus pdu.errorIndex).bind
      (f := fun varbinds => pure (some (responsePdu pdu varbinds)))
      (Q := fun found => ∀ response, found = some response → response.varbinds.length = min pdu.errorStatus.toNat
        pdu.varbinds.length + pdu.errorIndex.toNat * (pdu.varbinds.length - pdu.errorStatus.toNat))
      fun varbinds hlength => .pure fun response hresponse => by
        obtain rfl := Option.some.inj hresponse
        exact hlength
    exact (hkeeps rules _ _ hrun).2 response rfl
  · intro hrules
    obtain ⟨result, rules', hrun⟩ := bulk_returns hcoherent hrules pdu.varbinds pdu.errorStatus pdu.errorIndex rules
    exact ⟨_, _, by rw [bind_of_ok hrun]; rfl⟩

def bulkQuery : Bytes :=
  [48, 27, 2, 1, 1, 4, 1, 112, 165, 19, 2, 1, 1, 2, 1, 0, 2, 1, 3, 48, 8, 48, 6, 6, 2, 43, 6, 5, 0]

def bulkRequest : Pdu :=
  { pduType := .getBulk
    requestId := 1
    errorStatus := 0
    errorIndex := 3
    varbinds := [{ oid := [1, 3, 6], value := .nullValue }] }

theorem bulk_response_size_sample : ∃ response world,
    buildResponsePdu asSource bulkRequest { source := storeOf [1, 3, 6] (.integerValue 1), rules := () } =
      .ok (some response, world) ∧ response.varbinds.length = 3 := by
  have hreached : (storeOf [1, 3, 6] (.integerValue 1)).Reached := storeOf_reached _ (by decide)
  have hsize := bulk_response_size (storeOf [1, 3, 6] (.integerValue 1)) hreached () bulkRequest rfl
  have hrules : (storeOf [1, 3, 6] (.integerValue 1)).RulesReturn := by
    intro oid getValue hstored
    cases lookup_storeOf hstored
  obtain ⟨response, world, hbuild⟩ := hsize.2 hrules
  exact ⟨response, world, hbuild, hsize.1 response world hbuild⟩

theorem bulk_exceeds_store : (storeOf [1, 3, 6] (.integerValue 1)).Reached ∧
    decodeMessage bulkQuery = .ok { version := 1, community := "p", pdu := bulkRequest } ∧
    ∃ response world,
      buildResponsePdu asSource bulkRequest { source := storeOf [1, 3, 6] (.integerValue 1), rules := () } =
        .ok (some response, world) ∧
      ¬ response.varbinds.length ≤ bulkRequest.varbinds.length *
        ((storeOf [1, 3, 6] (.integerValue 1)).values.entries.length + 1) :=
  ⟨storeOf_reached _ (by decide), by decide +kernel, _, _, rfl, by decide⟩

end Bulk

end TrishulSnmp.Responder
