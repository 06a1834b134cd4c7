import Mathlib.Data.List.AList
import TrishulSnmp.Library.Bisect
import TrishulSnmp.Runtime

namespace TrishulSnmp.Responder

open Mib Outcome

variable {σ : Type}

/-- `get_value` of a rule object. It reads and changes `σ`: the rules' own fields, the clock, the
random numbers. -/
abbrev SimulationRule (σ : Type) := StateT σ (Except Error) SnmpValue

inductive ObjectValue (σ : Type)
  | value (value : SnmpValue)
  | rule (rule : SimulationRule σ)

structure InMemoryObjectSource (σ : Type) where
  bundle : Option Resolver
  values : AList fun _ : OID => ObjectValue σ
  sortedOids : List OID

structure World (σ : Type) where
  source : InMemoryObjectSource σ
  rules : σ

structure ResponderSource (m : Type → Type) where
  lookupExact : OID → m (Option SnmpValue)
  lookupNext : OID → m (Option (OID × SnmpValue))

namespace ObjectValue

def current : ObjectValue σ → StateT (World σ) (Except Error) SnmpValue
  | .value stored => pure stored
  | .rule getValue => fun world => do
    let (current, rules) ← getValue world.rules
    return (current, { world with rules := rules })

end ObjectValue

namespace InMemoryObjectSource

def new (bundle : Option Resolver) : InMemoryObjectSource σ := { bundle := bundle, values := ∅, sortedOids := [] }

def lookupExact (oid : OID) : StateT (World σ) (Except Error) (Option SnmpValue) := do
  match (← get).source.values.lookup oid with
  | none => return none
  | some stored => return some (← stored.current)

def lookupNext (oid : OID) : StateT (World σ) (Except Error) (Option (OID × SnmpValue)) := do
  let source := (← get).source
  match source.sortedOids[Bisect.bisectRight source.sortedOids oid]? with
  | none => return none
  | some nextOid =>
    match source.values.lookup nextOid with
    | none => throw (.keyError nextOid)
    | some stored => return some (nextOid, ← stored.current)

def asSource : ResponderSource (StateT (World σ) (Except Error)) :=
  { lookupExact := lookupExact, lookupNext := lookupNext }

def normalizeTarget (source : InMemoryObjectSource σ) (target : Target) : Except Error OID := do
  match ← normalizeTargets [target] source.bundle with
  | oid :: _ => .ok oid
  | [] => .error (.indexError "tuple index out of range")

def setObject (source : InMemoryObjectSource σ) (target : Target) (value : ObjectValue σ) :
    Except Error (OID × InMemoryObjectSource σ) := do
  let oid ← source.normalizeTarget target
  let sortedOids := if oid ∈ source.values then source.sortedOids else Bisect.insort source.sortedOids oid
  return (oid, { source with values := source.values.insert oid value, sortedOids := sortedOids })

/-- The objects before one that is refused stay set. -/
def setObjects (source : InMemoryObjectSource σ) :
    List (Target × ObjectValue σ) → Except Error (List OID) × InMemoryObjectSource σ
  | [] => (.ok [], source)
  | (target, value) :: objects =>
    match source.setObject target value with
    | .error e => (.error e, source)
    | .ok (oid, source) =>
      let (oids, source) := source.setObjects objects
      (oids.map (oid :: ·), source)

def deleteObject (source : InMemoryObjectSource σ) (target : Target) :
    Except Error (Bool × InMemoryObjectSource σ) := do
  let oid ← source.normalizeTarget target
  if oid ∉ source.values then return (false, source)
  else if oid ∉ source.sortedOids then .error (.valueError "list.remove(x): x not in list")
  else
    return (true, { source with values := source.values.erase oid, sortedOids := source.sortedOids.erase oid })

def clear (source : InMemoryObjectSource σ) : InMemoryObjectSource σ := { source with values := ∅, sortedOids := [] }

structure Coherent (source : InMemoryObjectSource σ) : Prop where
  sorted : source.sortedOids.Pairwise (· < ·)
  mem_iff : ∀ oid, oid ∈ source.sortedOids ↔ oid ∈ source.values

inductive Reached : InMemoryObjectSource σ → Prop
  | new (bundle : Option Resolver) : Reached (new bundle)
  | setObject {source source' : InMemoryObjectSource σ} {target : Target} {value : ObjectValue σ} {oid : OID} :
      Reached source → target.Proper source.bundle → source.setObject target value = .ok (oid, source') →
        Reached source'
  | setObjects {source source' : InMemoryObjectSource σ} {objects : List (Target × ObjectValue σ)}
      {oids : List OID} : Reached source → (∀ object ∈ objects, object.1.Proper source.bundle) →
      source.setObjects objects = (.ok oids, source') → Reached source'
  | deleteObject {source source' : InMemoryObjectSource σ} {target : Target} {deleted : Bool} :
      Reached source → source.deleteObject target = .ok (deleted, source') → Reached source'
  | clear {source : InMemoryObjectSource σ} : Reached source → Reached source.clear

structure Inv (source : InMemoryObjectSource σ) : Prop where
  coherent : source.Coherent
  wellFormed : ∀ oid ∈ source.values, WellFormed oid

theorem new_inv (bundle : Option Resolver) : (new bundle : InMemoryObjectSource σ).Inv where
  coherent := { sorted := .nil, mem_iff := by simp [new] }
  wellFormed := by simp [new]

theorem clear_inv (source : InMemoryObjectSource σ) : source.clear.Inv where
  coherent := { sorted := .nil, mem_iff := by simp [clear] }
  wellFormed := by simp [clear]

theorem normalizeTarget_eq (source : InMemoryObjectSource σ) (target : Target) :
    source.normalizeTarget target = TrishulSnmp.normalizeTarget source.bundle target := by
  rw [normalizeTarget, normalizeTargets_singleton]
  cases TrishulSnmp.normalizeTarget source.bundle target <;> rfl

theorem lookupExact_run (world : World σ) (oid : OID) : lookupExact oid world =
    StateT.run (match world.source.values.lookup oid with
      | none => pure none
      | some stored => some <$> stored.current) world := rfl

theorem lookupNext_run (world : World σ) (oid : OID) : lookupNext oid world =
    StateT.run (match world.source.sortedOids[Bisect.bisectRight world.source.sortedOids oid]? with
      | none => pure none
      | some nextOid =>
        match world.source.values.lookup nextOid with
        | none => throw (.keyError nextOid)
        | some stored => (fun value => some (nextOid, value)) <$> stored.current) world := rfl

theorem lookupExact_none {world : World σ} {oid : OID} (h : world.source.values.lookup oid = none) :
    lookupExact oid world = .ok (none, world) := by
  rw [lookupExact_run, h]
  rfl

theorem lookupExact_stored {world : World σ} {oid : OID} {stored : ObjectValue σ}
    (h : world.source.values.lookup oid = some stored) : lookupExact oid world = (some <$> stored.current) world := by
  rw [lookupExact_run, h]
  rfl

theorem lookupNext_none {world : World σ} {oid : OID}
    (h : world.source.sortedOids[Bisect.bisectRight world.source.sortedOids oid]? = none) :
    lookupNext oid world = .ok (none, world) := by
  rw [lookupNext_run, h]
  rfl

theorem lookupNext_missing {world : World σ} {oid nextOid : OID}
    (h : world.source.sortedOids[Bisect.bisectRight world.source.sortedOids oid]? = some nextOid)
    (hmissing : world.source.values.lookup nextOid = none) : lookupNext oid world = .error (.keyError nextOid) := by
  rw [lookupNext_run, h]
  simp only [hmissing]
  rfl

theorem lookupNext_stored {world : World σ} {oid nextOid : OID} {stored : ObjectValue σ}
    (h : world.source.sortedOids[Bisect.bisectRight world.source.sortedOids oid]? = some nextOid)
    (hstored : world.source.values.lookup nextOid = some stored) :
    lookupNext oid world = ((fun value => some (nextOid, value)) <$> stored.current) world := by
  rw [lookupNext_run, h]
  simp only [hstored]
  rfl

theorem setObject_cases {source source' : InMemoryObjectSource σ} {target : Target} {value : ObjectValue σ}
    {oid : OID} (h : source.setObject target value = .ok (oid, source')) :
    TrishulSnmp.normalizeTarget source.bundle target = .ok oid ∧ source'.bundle = source.bundle ∧
      source'.values = source.values.insert oid value ∧
      source'.sortedOids =
        if oid ∈ source.values then source.sortedOids else Bisect.insort source.sortedOids oid := by
  obtain ⟨oid', hoid, h⟩ := bind_ok_iff.mp h
  obtain ⟨rfl, rfl⟩ := Prod.mk.inj (pure_ok_iff.mp h)
  rw [normalizeTarget_eq] at hoid
  exact ⟨hoid, rfl, rfl, rfl⟩

theorem deleteObject_cases {source source' : InMemoryObjectSource σ} {target : Target} {deleted : Bool}
    (h : source.deleteObject target = .ok (deleted, source')) : source' = source ∨
      ∃ oid, source'.bundle = source.bundle ∧ source'.values = source.values.erase oid ∧
        source'.sortedOids = source.sortedOids.erase oid := by
  obtain ⟨oid, -, h⟩ := bind_ok_iff.mp h
  obtain ⟨-, h⟩ | ⟨-, h⟩ := ite_cases h
  · obtain ⟨-, rfl⟩ := Prod.mk.inj (pure_ok_iff.mp h)
    exact .inl rfl
  · obtain ⟨-, h⟩ | ⟨-, h⟩ := ite_cases h
    · cases h
    · obtain ⟨-, rfl⟩ := Prod.mk.inj (pure_ok_iff.mp h)
      exact .inr ⟨oid, rfl, rfl, rfl⟩

theorem setObject_coherent {source source' : InMemoryObjectSource σ} {target : Target} {value : ObjectValue σ}
    {oid : OID} (hi : source.Coherent) (h : source.setObject target value = .ok (oid, source')) :
    source'.Coherent := by
  obtain ⟨-, -, hvalues, hsorted⟩ := setObject_cases h
  obtain ⟨hpair, hmem⟩ := hi
  have hle := hpair.imp fun {a b : OID} (hab : a < b) => hab.le
  constructor
  · rw [hsorted]
    split_ifs with hin
    · exact hpair
    · exact Bisect.pairwise_insort hpair ((hmem oid).not.mpr hin)
  · intro o
    rw [hsorted, hvalues, AList.mem_insert]
    split_ifs with hin
    · rw [hmem]
      constructor
      · exact .inr
      · rintro (rfl | ho)
        · exact hin
        · exact ho
    · rw [Bisect.mem_insort hle, hmem]

theorem setObject_inv {source source' : InMemoryObjectSource σ} {target : Target} {value : ObjectValue σ}
    {oid : OID} (hi : source.Inv) (hn : target.Proper source.bundle)
    (h : source.setObject target value = .ok (oid, source')) :
    source'.Inv := by
  refine ⟨setObject_coherent hi.coherent h, fun o ho => ?_⟩
  obtain ⟨hoid, -, hvalues, -⟩ := setObject_cases h
  rw [hvalues, AList.mem_insert] at ho
  obtain rfl | ho := ho
  · exact normalizeTarget_wellFormed hn hoid
  · exact hi.wellFormed o ho

theorem setObjects_inv {source source' : InMemoryObjectSource σ} {objects : List (Target × ObjectValue σ)}
    {result : Except Error (List OID)} (hi : source.Inv) (hn : ∀ object ∈ objects, object.1.Proper source.bundle)
    (h : source.setObjects objects = (result, source')) : source'.Inv := by
  induction objects generalizing source result with
  | nil =>
    obtain ⟨-, rfl⟩ := Prod.mk.inj h
    exact hi
  | cons object objects ih =>
    obtain ⟨target, value⟩ := object
    rw [setObjects] at h
    cases hset : source.setObject target value with
    | error e =>
      rw [hset] at h
      obtain ⟨-, rfl⟩ := Prod.mk.inj h
      exact hi
    | ok stored =>
      rw [hset] at h
      obtain ⟨-, rfl⟩ := Prod.mk.inj h
      have hbundle := (setObject_cases hset).2.1
      exact ih (setObject_inv hi (hn (target, value) (by simp)) hset)
        (fun object ho => hbundle ▸ hn object (by simp [ho])) rfl

theorem erase_coherent {source source' : InMemoryObjectSource σ} {oid : OID} (hi : source.Coherent)
    (hvalues : source'.values = source.values.erase oid) (hsorted : source'.sortedOids = source.sortedOids.erase oid) :
    source'.Coherent := by
  obtain ⟨hpair, hmem⟩ := hi
  have hnodup : source.sortedOids.Nodup := hpair.imp fun hab => ne_of_lt hab
  constructor
  · rw [hsorted]
    exact hpair.sublist List.erase_sublist
  · intro o
    rw [hsorted, hvalues, AList.mem_erase, hnodup.mem_erase_iff, hmem]

theorem deleteObject_inv {source source' : InMemoryObjectSource σ} {target : Target} {deleted : Bool}
    (hi : source.Inv) (h : source.deleteObject target = .ok (deleted, source')) : source'.Inv := by
  obtain rfl | ⟨oid, -, hvalues, hsorted⟩ := deleteObject_cases h
  · exact hi
  · refine ⟨erase_coherent hi.coherent hvalues hsorted, fun o ho => ?_⟩
    rw [hvalues, AList.mem_erase] at ho
    exact hi.wellFormed o ho.2

theorem Reached.inv {source : InMemoryObjectSource σ} (h : Reached source) : source.Inv := by
  induction h with
  | new bundle => exact new_inv bundle
  | setObject _ hn hset ih => exact setObject_inv ih hn hset
  | setObjects _ hn hset ih => exact setObjects_inv ih hn hset
  | deleteObject _ hdel ih => exact deleteObject_inv ih hdel
  | @clear source _ _ => exact clear_inv source

end InMemoryObjectSource

end TrishulSnmp.Responder
