import TrishulSnmp.Library.Runs
import TrishulSnmp.Responder.Bulk
import TrishulSnmp.Wire.SmiRanges

namespace TrishulSnmp.Responder

open Asn1 Mib Outcome InMemoryObjectSource

structure CounterRule where
  increment : ℤ
  valueType : ℤ → SnmpValue

/-- `_current` of the counters, and what all other rules have and use. -/
structure Heap (ι ρ : Type) where
  current : ι → ℤ
  rest : ρ

variable {ι ρ : Type} [DecidableEq ι]

def CounterRule.getValue (rule : CounterRule) (i : ι) : StateT (Heap ι ρ) (Except Error) SnmpValue := do
  let heap ← get
  let value := heap.current i
  set { heap with current := Function.update heap.current i (value + rule.increment) }
  return rule.valueType value

inductive Simulated (ι ρ : Type)
  | value (value : SnmpValue)
  | counter (i : ι)
  | other (getValue : SimulationRule ρ)

namespace Simulated

def object (counters : ι → CounterRule) : Simulated ι ρ → ObjectValue (Heap ι ρ)
  | value stored => .value stored
  | counter i => .rule ((counters i).getValue i)
  | other getValue => .rule fun heap => do
    let (shown, rest) ← getValue heap.rest
    return (shown, { heap with rest := rest })

def counter? : Simulated ι ρ → Option ι
  | counter i => some i
  | _ => none

end Simulated

structure Simulation (ι ρ : Type) [DecidableEq ι] where
  counters : ι → CounterRule
  start : ι → ℤ
  objects : OID → Option (Simulated ι ρ)
  source : InMemoryObjectSource (Heap ι ρ)
  lookup_eq : ∀ oid, source.values.lookup oid = (objects oid).map (Simulated.object counters)

inductive Lookup
  | exact (oid : OID)
  | next (oid : OID)

def Lookup.run {σ : Type} : Lookup → StateT (World σ) (Except Error) (Option SnmpValue)
  | exact oid => lookupExact oid
  | next oid => Option.map Prod.snd <$> lookupNext oid

def Lookup.key {σ : Type} (source : InMemoryObjectSource σ) : Lookup → Option OID
  | exact oid => some oid
  | next oid => source.sortedOids[Bisect.bisectRight source.sortedOids oid]?

structure Reading where
  lookup : Lookup
  result : Except Error (Option SnmpValue)

structure Polled (ι ρ : Type) where
  heap : Heap ι ρ
  log : List Reading

namespace Simulation

variable (simulation : Simulation ι ρ)

def reader (lookup : Lookup) : Option ι :=
  (lookup.key simulation.source).bind fun oid => (simulation.objects oid).bind Simulated.counter?

def reads (i : ι) (log : List Reading) : List (Except Error (Option SnmpValue)) :=
  (log.filter fun reading => simulation.reader reading.lookup = some i).map Reading.result

def poll (polled : Polled ι ρ) (lookup : Lookup) (rest : ρ) : Polled ι ρ :=
  match lookup.run { source := simulation.source, rules := polled.heap } with
  | .ok (value, world) => { heap := { world.rules with rest := rest }, log := polled.log ++ [⟨lookup, .ok value⟩] }
  | .error e => { heap := { polled.heap with rest := rest }, log := polled.log ++ [⟨lookup, .error e⟩] }

def polling : System (Polled ι ρ) (Lookup × ρ) where
  Initial := fun polled => polled.heap.current = simulation.start ∧ polled.log = []
  next := fun polled action => some (simulation.poll polled action.1 action.2)

def count (i : ι) (n : ℕ) : ℤ := simulation.start i + n * (simulation.counters i).increment

end Simulation

section Steps

variable {simulation : Simulation ι ρ} {polled polled' : Polled ι ρ}

theorem current_counter {source : InMemoryObjectSource (Heap ι ρ)} {heap : Heap ι ρ} (counters : ι → CounterRule)
    (i : ι) :
    ((Simulated.counter i : Simulated ι ρ).object counters).current { source := source, rules := heap } =
      .ok ((counters i).valueType (heap.current i), { source := source, rules :=
        { heap with current := Function.update heap.current i (heap.current i + (counters i).increment) } }) := rfl

theorem current_elsewhere {source : InMemoryObjectSource (Heap ι ρ)} {heap : Heap ι ρ} {counters : ι → CounterRule}
    {stored : Simulated ι ρ} {value : SnmpValue} {world : World (Heap ι ρ)} {i : ι} (hother : stored.counter? ≠ some i)
    (h : (stored.object counters).current { source := source, rules := heap } = .ok (value, world)) :
    world.rules.current i = heap.current i := by
  cases stored with
  | value stored =>
    cases h
    rfl
  | counter other =>
    rw [current_counter] at h
    cases h
    exact Function.update_of_ne (fun heq => hother (by rw [heq]; rfl)) _ _
  | other getValue =>
    obtain ⟨⟨value', heap'⟩, hget, h⟩ := bind_ok_iff.mp h
    obtain ⟨⟨value'', rest⟩, -, hget⟩ := bind_ok_iff.mp hget
    cases hget
    cases h
    rfl

theorem map_run {σ α β : Type} {f : α → β} {x : StateT σ (Except Error) α} {state : σ} :
    (f <$> x) state = (x state).map fun pair => (f pair.1, pair.2) := by
  cases hx : x state with
  | error e => simp [Functor.map, StateT.map, hx, bind, Except.bind, Except.map]
  | ok pair => simp [Functor.map, StateT.map, hx, bind, Except.bind, Except.map, pure, Except.pure]

theorem run_stored {lookup : Lookup} {heap : Heap ι ρ} {stored : Simulated ι ρ}
    (h : (lookup.key simulation.source).bind simulation.objects = some stored) :
    lookup.run { source := simulation.source, rules := heap } =
      (some <$> (stored.object simulation.counters).current) { source := simulation.source, rules := heap } := by
  obtain ⟨key, hkey, hobject⟩ := Option.bind_eq_some_iff.mp h
  have hlookup := simulation.lookup_eq key
  rw [hobject, Option.map_some] at hlookup
  cases lookup with
  | exact oid =>
    cases hkey
    exact lookupExact_stored hlookup
  | next oid =>
    have hnext := @lookupNext_stored _ { source := simulation.source, rules := heap } oid key _ hkey hlookup
    rw [Lookup.run, map_run, hnext, map_run, map_run]
    cases (stored.object simulation.counters).current { source := simulation.source, rules := heap } <;> rfl

theorem run_missing {lookup : Lookup} (heap : Heap ι ρ)
    (h : (lookup.key simulation.source).bind simulation.objects = none) :
    lookup.run { source := simulation.source, rules := heap } =
        .ok (none, { source := simulation.source, rules := heap }) ∨
      ∃ e, lookup.run { source := simulation.source, rules := heap } = .error e := by
  cases lookup with
  | exact oid =>
    have hlookup := simulation.lookup_eq oid
    rw [show simulation.objects oid = none from h, Option.map_none] at hlookup
    exact .inl (lookupExact_none hlookup)
  | next oid =>
    cases hkey : simulation.source.sortedOids[Bisect.bisectRight simulation.source.sortedOids oid]? with
    | none =>
      have hnext := @lookupNext_none _ { source := simulation.source, rules := heap } oid hkey
      rw [Lookup.run, map_run, hnext]
      exact .inl rfl
    | some key =>
      rw [Lookup.key, hkey, Option.bind_some] at h
      have hlookup := simulation.lookup_eq key
      rw [h, Option.map_none] at hlookup
      have hnext := @lookupNext_missing _ { source := simulation.source, rules := heap } oid key hkey hlookup
      refine .inr ⟨.keyError key, ?_⟩
      rw [Lookup.run, map_run, hnext]
      rfl

theorem poll_counter {lookup : Lookup} {i : ι} (rest : ρ) (h : simulation.reader lookup = some i) :
    simulation.poll polled lookup rest =
      { heap := {
          current := Function.update polled.heap.current i
            (polled.heap.current i + (simulation.counters i).increment)
          rest := rest }
        log := polled.log ++ [⟨lookup, .ok (some ((simulation.counters i).valueType (polled.heap.current i)))⟩] } := by
  rw [Simulation.reader, ← Option.bind_assoc] at h
  obtain ⟨stored, hstored, hcounter⟩ := Option.bind_eq_some_iff.mp h
  cases stored with
  | value stored => cases hcounter
  | other getValue => cases hcounter
  | counter other =>
    cases hcounter
    rw [Simulation.poll, run_stored hstored, map_run, current_counter]
    rfl

theorem poll_elsewhere (polled : Polled ι ρ) {lookup : Lookup} {i : ι} (rest : ρ)
    (h : simulation.reader lookup ≠ some i) :
    (simulation.poll polled lookup rest).heap.current i = polled.heap.current i ∧
      ∃ result, (simulation.poll polled lookup rest).log = polled.log ++ [⟨lookup, result⟩] := by
  rw [Simulation.reader, ← Option.bind_assoc] at h
  rw [Simulation.poll]
  cases hstored : (lookup.key simulation.source).bind simulation.objects with
  | none =>
    obtain hnone | ⟨e, he⟩ := run_missing polled.heap hstored
    · rw [hnone]
      exact ⟨rfl, _, rfl⟩
    · rw [he]
      exact ⟨rfl, _, rfl⟩
  | some stored =>
    rw [hstored, Option.bind_some] at h
    rw [run_stored hstored, map_run]
    cases hcurrent : (stored.object simulation.counters).current
        { source := simulation.source, rules := polled.heap } with
    | error e => exact ⟨rfl, _, rfl⟩
    | ok pair => exact ⟨current_elsewhere h hcurrent, _, rfl⟩

end Steps

section Runs

variable {simulation : Simulation ι ρ} {polled : Polled ι ρ} {i : ι}

theorem reads_append (log : List Reading) (reading : Reading) : simulation.reads i (log ++ [reading]) =
    if simulation.reader reading.lookup = some i then simulation.reads i log ++ [reading.result]
    else simulation.reads i log := by
  unfold Simulation.reads
  rw [List.filter_append, List.map_append]
  split_ifs with hreader
  · rw [List.filter_cons_of_pos (by simpa using hreader)]
    rfl
  · rw [List.filter_cons_of_neg (by simpa using hreader)]
    exact List.append_nil _

structure Simulation.Counted (simulation : Simulation ι ρ) (i : ι) (polled : Polled ι ρ) : Prop where
  current : polled.heap.current i = simulation.count i (simulation.reads i polled.log).length
  reads : simulation.reads i polled.log = (List.range (simulation.reads i polled.log).length).map fun n =>
    .ok (some ((simulation.counters i).valueType (simulation.count i n)))

theorem poll_counted (h : simulation.Counted i polled) (lookup : Lookup) (rest : ρ) :
    simulation.Counted i (simulation.poll polled lookup rest) := by
  by_cases hreader : simulation.reader lookup = some i
  · rw [poll_counter rest hreader]
    constructor
    · simp only [reads_append, hreader, if_true, Function.update_self, List.length_append, List.length_singleton]
      rw [h.current, Simulation.count, Simulation.count]
      push_cast
      ring
    · simp only [reads_append, hreader, if_true, List.length_append, List.length_singleton, List.range_succ,
        List.map_append, List.map_singleton]
      rw [← h.reads, h.current]
  · obtain ⟨hcurrent, result, hlog⟩ := poll_elsewhere polled rest hreader
    constructor
    · rw [hcurrent, hlog, reads_append, if_neg hreader]
      exact h.current
    · rw [hlog, reads_append, if_neg hreader]
      exact h.reads

theorem reachable_counted (h : simulation.polling.Reachable polled) : simulation.Counted i polled := by
  apply System.Reaches.invariant _ _ h
  · rintro ⟨heap, log⟩ ⟨hcurrent, hlog⟩
    simp only at hcurrent hlog
    subst hlog
    exact ⟨by simp [hcurrent, Simulation.reads, Simulation.count], rfl⟩
  · rintro polled ⟨lookup, rest⟩ polled' hcounted - hnext
    cases hnext
    exact poll_counted hcounted lookup rest

end Runs

inductive CounterType
  | counter32
  | counter64

namespace CounterType

def value : CounterType → ℤ → SnmpValue
  | counter32 => .counter32Value
  | counter64 => .counter64Value

def modulus : CounterType → ℤ
  | counter32 => 2 ^ 32
  | counter64 => 2 ^ 64

theorem value_injective (type : CounterType) : Function.Injective type.value := by
  intro m n h
  cases type with
  | counter32 => exact SnmpValue.counter32Value.inj h
  | counter64 => exact SnmpValue.counter64Value.inj h

theorem inSmiRange_value_iff (type : CounterType) (n : ℤ) : InSmiRange (type.value n) ↔ 0 ≤ n ∧ n < type.modulus := by
  cases type with
  | counter32 =>
    simp only [value, InSmiRange, modulus]
    omega
  | counter64 =>
    simp only [value, InSmiRange, modulus]
    omega

end CounterType

namespace Simulation

variable (simulation : Simulation ι ρ)

structure IsCounter (i : ι) (type : CounterType) : Prop where
  valueType : (simulation.counters i).valueType = type.value
  start_nonneg : 0 ≤ simulation.start i
  start_lt : simulation.start i < type.modulus
  increment_nonneg : 0 ≤ (simulation.counters i).increment

structure Wraps (i : ι) (type : CounterType) (polled : Polled ι ρ) : Prop where
  wrapped : ∀ (n : ℕ) (result : Except Error (Option SnmpValue)), (simulation.reads i polled.log)[n]? = some result →
    result = .ok (some (type.value (simulation.count i n % type.modulus)))
  inRange : ∀ value, .ok (some value) ∈ simulation.reads i polled.log → InSmiRange value

end Simulation

section Wrapping

variable {simulation : Simulation ι ρ} {polled : Polled ι ρ} {i : ι} {type : CounterType}

theorem count_nonneg (h : simulation.IsCounter i type) (n : ℕ) : 0 ≤ simulation.count i n := by
  have hstart := h.start_nonneg
  have hproduct := Int.mul_nonneg (Int.natCast_nonneg n) h.increment_nonneg
  unfold Simulation.count
  omega

theorem wrapped_iff (h : simulation.IsCounter i type) (n : ℕ) :
    simulation.count i n % type.modulus = simulation.count i n ↔ simulation.count i n < type.modulus := by
  have hpos : 0 < type.modulus := by cases type <;> decide
  constructor
  · intro heq
    rw [← heq]
    exact Int.emod_lt_of_pos _ hpos
  · exact Int.emod_eq_of_lt (count_nonneg h n)

theorem simulated_counter_wraps_iff (h : simulation.IsCounter i type) (hreached : simulation.polling.Reachable polled) :
    simulation.Wraps i type polled ↔
      ∀ n < (simulation.reads i polled.log).length, simulation.count i n < type.modulus := by
  have hcounted : simulation.Counted i polled := reachable_counted hreached
  have hread : ∀ n < (simulation.reads i polled.log).length, (simulation.reads i polled.log)[n]? =
      some (.ok (some (type.value (simulation.count i n)))) := by
    intro n hn
    rw [hcounted.reads, List.getElem?_map, List.getElem?_range hn, Option.map_some, h.valueType]
  constructor
  · intro hwraps n hn
    have hvalue := hwraps.wrapped n _ (hread n hn)
    rw [Except.ok.injEq, Option.some.injEq] at hvalue
    exact (wrapped_iff h n).mp (type.value_injective hvalue).symm
  · intro hfits
    constructor
    · intro n result hresult
      have hn := (List.getElem?_eq_some_iff.mp hresult).1
      rw [hread n hn] at hresult
      rw [(wrapped_iff h n).mpr (hfits n hn)]
      exact (Option.some.inj hresult).symm
    · intro value hvalue
      obtain ⟨n, hn, hget⟩ := List.mem_iff_getElem.mp hvalue
      have hshown := hread n hn
      rw [List.getElem?_eq_getElem hn, hget, Option.some.injEq, Except.ok.injEq, Option.some.injEq] at hshown
      rw [hshown, CounterType.inSmiRange_value_iff]
      exact ⟨count_nonneg h n, hfits n hn⟩

end Wrapping

def oneCounter (start : ℤ) : Simulation Unit Unit where
  counters _ := { increment := 1, valueType := .counter32Value }
  start _ := start
  objects oid := if oid = [1, 3] then some (.counter ()) else none
  source :=
    { bundle := none
      values := AList.insert [1, 3] (.rule (CounterRule.getValue { increment := 1, valueType := .counter32Value } ())) ∅
      sortedOids := [[1, 3]] }
  lookup_eq oid := by
    by_cases h : oid = [1, 3]
    · subst h
      rw [AList.lookup_insert, if_pos rfl]
      rfl
    · rw [AList.lookup_insert_ne h, if_neg h]
      rfl

def readTwice (start : ℤ) : Polled Unit Unit :=
  (oneCounter start).poll ((oneCounter start).poll ⟨⟨fun _ => start, ()⟩, []⟩ (.exact [1, 3]) ()) (.next [1]) ()

theorem oneCounter_polls (start : ℤ) (polled : Polled Unit Unit) (lookup : Lookup)
    (h : (oneCounter start).polling.Reachable polled) :
    (oneCounter start).polling.Reachable ((oneCounter start).poll polled lookup ()) := by
  have hnext : (oneCounter start).polling.next polled (lookup, ()) =
      some ((oneCounter start).poll polled lookup ()) := rfl
  exact .step h trivial hnext

theorem readTwice_reachable (start : ℤ) : (oneCounter start).polling.Reachable (readTwice start) :=
  oneCounter_polls _ _ _ (oneCounter_polls _ _ _ (.initial ⟨rfl, rfl⟩))

theorem readTwice_reads (start : ℤ) : (oneCounter start).reads () (readTwice start).log =
    [.ok (some (.counter32Value start)), .ok (some (.counter32Value (start + 1)))] := by
  have hexact : (oneCounter start).reader (.exact [1, 3]) = some () := rfl
  have hfound : ([[1, 3]] : List OID)[Bisect.bisectRight ([[1, 3]] : List OID) [1]]? = some [1, 3] := by decide
  have hkey : (Lookup.next [1]).key (oneCounter start).source = some [1, 3] := hfound
  have hnext : (oneCounter start).reader (.next [1]) = some () := by
    rw [Simulation.reader, hkey]
    rfl
  simp only [readTwice, poll_counter _ hexact, poll_counter _ hnext, reads_append, hexact, hnext, if_true,
    Function.update_self]
  rfl

theorem oneCounter_isCounter {start : ℤ} (hnonneg : 0 ≤ start) (hlt : start < 2 ^ 32) :
    (oneCounter start).IsCounter () .counter32 where
  valueType := rfl
  start_nonneg := hnonneg
  start_lt := hlt
  increment_nonneg := Int.one_nonneg

theorem simulated_counter_wraps_sample : (oneCounter 10).Wraps () .counter32 (readTwice 10) := by
  have hcounter : (oneCounter 10).IsCounter () .counter32 := oneCounter_isCounter (by decide) (by decide)
  apply (simulated_counter_wraps_iff hcounter (readTwice_reachable 10)).mpr
  rw [readTwice_reads]
  intro n hn
  simp only [List.length_cons, List.length_nil] at hn
  simp only [Simulation.count, oneCounter, CounterType.modulus]
  omega

theorem counter_runs_past : (oneCounter 4294967295).IsCounter () .counter32 ∧
    (oneCounter 4294967295).polling.Reachable (readTwice 4294967295) ∧
    (oneCounter 4294967295).reads () (readTwice 4294967295).log =
      [.ok (some (.counter32Value 4294967295)), .ok (some (.counter32Value 4294967296))] ∧
    encodeValue (.counter32Value 4294967296) = .ok [0x41, 0x05, 0x01, 0x00, 0x00, 0x00, 0x00] ∧
    ¬ (oneCounter 4294967295).Wraps () .counter32 (readTwice 4294967295) := by
  refine ⟨oneCounter_isCounter (by decide) (by decide), readTwice_reachable _, readTwice_reads _, by decide +kernel, ?_⟩
  intro hwraps
  have hsecond := hwraps.wrapped 1 (.ok (some (.counter32Value 4294967296))) rfl
  have hzero : (SnmpValue.counter32Value 4294967296) = .counter32Value 0 := Option.some.inj (Except.ok.inj hsecond)
  cases hzero

section Answers

variable {simulation : Simulation ι ρ} {α β : Type}

def Simulation.Traced (simulation : Simulation ι ρ) (x : StateT (World (Heap ι ρ)) (Except Error) α)
    (P : α → List Reading → Prop) : Prop :=
  ∀ heap a world, x { source := simulation.source, rules := heap } = .ok (a, world) → world.source = simulation.source ∧
    ∃ readings, P a readings ∧ ∀ log, simulation.polling.Leads ⟨heap, log⟩ ⟨world.rules, log ++ readings⟩

def Shows (readings : List Reading) (varbind : RawVarBind) : Prop :=
  varbind.value = .noSuchObjectValue ∨ varbind.value = .endOfMibViewValue ∨
    ∃ reading ∈ readings, reading.result = .ok (some varbind.value)

theorem Shows.mono {readings readings' : List Reading} {varbind : RawVarBind} (h : Shows readings varbind)
    (hsub : readings ⊆ readings') : Shows readings' varbind := by
  obtain h | h | ⟨reading, hmem, hresult⟩ := h
  · exact .inl h
  · exact .inr (.inl h)
  · exact .inr (.inr ⟨reading, hsub hmem, hresult⟩)

theorem Simulation.Traced.pure {P : α → List Reading → Prop} {a : α} (h : P a []) :
    simulation.Traced (Pure.pure a) P := by
  intro heap b world hrun
  obtain ⟨rfl, rfl⟩ := Prod.mk.inj (Except.ok.inj hrun)
  refine ⟨rfl, [], h, fun log => ?_⟩
  rw [List.append_nil]
  exact .refl

theorem Simulation.Traced.bind {x : StateT (World (Heap ι ρ)) (Except Error) α}
    {f : α → StateT (World (Heap ι ρ)) (Except Error) β}
    {P : α → List Reading → Prop} {Q : β → List Reading → Prop} (hx : simulation.Traced x P)
    (hf : ∀ a readings, P a readings → simulation.Traced (f a) fun b more => Q b (readings ++ more)) :
    simulation.Traced (x >>= f) Q := by
  intro heap b world hrun
  obtain ⟨⟨a, world'⟩, hrun', hrest⟩ := bind_ok_iff.mp hrun
  obtain ⟨hsource, readings, ha, hleads⟩ := hx heap a world' hrun'
  obtain ⟨_, heap'⟩ := world'
  obtain rfl : _ = simulation.source := hsource
  obtain ⟨hsource', more, hb, hleads'⟩ := hf a readings ha heap' b world hrest
  refine ⟨hsource', readings ++ more, hb, fun log => ?_⟩
  rw [← List.append_assoc]
  exact (hleads log).trans (hleads' _)

theorem run_traced (simulation : Simulation ι ρ) (lookup : Lookup) :
    simulation.Traced lookup.run fun value readings => readings = [⟨lookup, .ok value⟩] := by
  intro heap value world hrun
  have hsource : world.source = simulation.source := by
    cases hstored : (lookup.key simulation.source).bind simulation.objects with
    | none =>
      obtain hnone | ⟨e, he⟩ := run_missing heap hstored
      · cases hnone.symm.trans hrun
        rfl
      · cases he.symm.trans hrun
    | some stored =>
      rw [run_stored hstored, map_run] at hrun
      obtain ⟨pair, hpair, hshown⟩ := map_ok_iff.mp hrun
      cases hshown
      exact (current_keeps _ heap pair.1 pair.2 hpair).1
  refine ⟨hsource, _, rfl, fun log => .single ⟨⟨lookup, world.rules.rest⟩, ?_⟩⟩
  simp only [Simulation.polling, Simulation.poll, hrun]

theorem lookupExactVarbind_traced (oid : OID) :
    simulation.Traced (lookupExactVarbind asSource oid) fun varbind readings => Shows readings varbind := by
  have hlookup := run_traced simulation (.exact oid)
  refine .bind hlookup fun value readings hreadings => ?_
  subst hreadings
  cases value with
  | none => exact .pure (.inl rfl)
  | some value => exact .pure (.inr (.inr ⟨_, List.mem_append_left _ (List.mem_singleton_self _), rfl⟩))

theorem lookupNext_traced (oid : OID) : simulation.Traced (lookupNext oid) fun found readings =>
    readings = [⟨.next oid, .ok (found.map Prod.snd)⟩] := by
  intro heap found world hrun
  have hvalue : (Lookup.next oid).run { source := simulation.source, rules := heap } =
      .ok (found.map Prod.snd, world) := by
    rw [Lookup.run, map_run, hrun]
    rfl
  exact run_traced simulation (.next oid) heap _ world hvalue

theorem lookupNextVarbind_traced (oid : OID) :
    simulation.Traced (lookupNextVarbind asSource oid) fun varbind readings => Shows readings varbind := by
  refine .bind (lookupNext_traced oid) fun found readings hreadings => ?_
  subst hreadings
  cases found with
  | none => exact .pure (.inr (.inl rfl))
  | some found => exact .pure (.inr (.inr ⟨_, List.mem_append_left _ (List.mem_singleton_self _), rfl⟩))

theorem shows_append {varbinds more : List RawVarBind} {readings readings' : List Reading}
    (h : ∀ varbind ∈ varbinds, Shows readings varbind) (hmore : ∀ varbind ∈ more, Shows readings' varbind) :
    ∀ varbind ∈ varbinds ++ more, Shows (readings ++ readings') varbind := by
  intro varbind hmem
  obtain hmem | hmem := List.mem_append.mp hmem
  · exact (h varbind hmem).mono (List.subset_append_left _ _)
  · exact (hmore varbind hmem).mono (List.subset_append_right _ _)

theorem mapM_traced {γ : Type} {f : γ → StateT (World (Heap ι ρ)) (Except Error) RawVarBind}
    (hf : ∀ x, simulation.Traced (f x) fun varbind readings => Shows readings varbind) (xs : List γ) :
    simulation.Traced (xs.mapM f) fun varbinds readings => ∀ varbind ∈ varbinds, Shows readings varbind := by
  induction xs with
  | nil => exact .pure fun _ hmem => absurd hmem List.not_mem_nil
  | cons x xs ih =>
    rw [List.mapM_cons]
    refine .bind (hf x) fun varbind readings hvarbind => .bind ih fun varbinds more hvarbinds => .pure ?_
    rw [List.append_nil]
    exact shows_append (List.forall_mem_singleton.mpr hvarbind) hvarbinds

theorem bulkRow_traced (oids : List OID) :
    simulation.Traced (bulkRow asSource oids) fun row readings => ∀ varbind ∈ row.1, Shows readings varbind := by
  induction oids with
  | nil => exact .pure fun _ hmem => absurd hmem List.not_mem_nil
  | cons oid oids ih =>
    rw [bulkRow]
    refine .bind (lookupNextVarbind_traced oid) fun varbind readings hvarbind =>
      .bind ih fun row more hrow => .pure ?_
    rw [List.append_nil]
    exact shows_append (List.forall_mem_singleton.mpr hvarbind) hrow

theorem bulkRows_traced (repetitions : ℕ) (oids : List OID) :
    simulation.Traced (bulkRows asSource repetitions oids) fun varbinds readings =>
      ∀ varbind ∈ varbinds, Shows readings varbind := by
  induction repetitions generalizing oids with
  | zero => exact .pure fun _ hmem => absurd hmem List.not_mem_nil
  | succ repetitions ih =>
    rw [bulkRows]
    refine .bind (bulkRow_traced oids) fun row readings hrow => .bind (ih row.2) fun rows more hrows => .pure ?_
    rw [List.append_nil]
    exact shows_append hrow hrows

theorem buildBulkVarbinds_traced (varbinds : List RawVarBind) (nonRepeaters maxRepetitions : ℤ) :
    simulation.Traced (buildBulkVarbinds asSource varbinds nonRepeaters maxRepetitions) fun varbinds readings =>
      ∀ varbind ∈ varbinds, Shows readings varbind := by
  rw [buildBulkVarbinds_clamped]
  refine .bind (mapM_traced lookupNextVarbind_traced _) fun first readings hfirst =>
    .bind (bulkRows_traced _ _) fun rows more hrows => .pure ?_
  rw [List.append_nil]
  exact shows_append hfirst hrows

theorem buildResponsePdu_traced {pdu : Pdu} (hset : pdu.pduType ≠ .set) :
    simulation.Traced (buildResponsePdu asSource pdu) fun response readings =>
      ∀ shown ∈ response, ∀ varbind ∈ shown.varbinds, Shows readings varbind := by
  have hanswer : ∀ {x : StateT (World (Heap ι ρ)) (Except Error) (List RawVarBind)},
      (simulation.Traced x fun varbinds readings => ∀ varbind ∈ varbinds, Shows readings varbind) →
      simulation.Traced (do return some (responsePdu pdu (← x))) fun response readings =>
        ∀ shown ∈ response, ∀ varbind ∈ shown.varbinds, Shows readings varbind := by
    intro x hx
    refine .bind hx fun varbinds readings hvarbinds => .pure ?_
    rintro shown ⟨⟩
    rw [List.append_nil]
    exact hvarbinds
  have hnone : simulation.Traced (pure none) fun response readings =>
      ∀ shown ∈ response, ∀ varbind ∈ Pdu.varbinds shown, Shows readings varbind := by
    apply Simulation.Traced.pure
    rintro shown ⟨⟩
  unfold buildResponsePdu
  cases hpdu : pdu.pduType with
  | get => exact hanswer (mapM_traced (fun varbind : RawVarBind => lookupExactVarbind_traced varbind.oid) _)
  | getNext => exact hanswer (mapM_traced (fun varbind : RawVarBind => lookupNextVarbind_traced varbind.oid) _)
  | getBulk => exact hanswer (buildBulkVarbinds_traced _ _ _)
  | set => exact absurd hpdu hset
  | _ => exact hnone

theorem answer_reads {polled : Polled ι ρ} {pdu shown : Pdu} {world : World (Heap ι ρ)} (hset : pdu.pduType ≠ .set)
    (hreached : simulation.polling.Reachable polled)
    (h : buildResponsePdu asSource pdu { source := simulation.source, rules := polled.heap } =
      .ok (some shown, world)) :
    ∃ readings, simulation.polling.Reachable ⟨world.rules, polled.log ++ readings⟩ ∧
      ∀ varbind ∈ shown.varbinds, Shows readings varbind := by
  obtain ⟨-, readings, hshows, hleads⟩ := buildResponsePdu_traced hset polled.heap (some shown) world h
  exact ⟨readings, System.reachable_of_leads hreached (hleads polled.log), hshows shown rfl⟩

end Answers

end TrishulSnmp.Responder
