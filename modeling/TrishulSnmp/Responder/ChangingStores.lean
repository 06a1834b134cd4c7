import TrishulSnmp.Responder.Histories
import TrishulSnmp.Responder.Simulators

namespace TrishulSnmp.Responder

open Mib Outcome Wire Asn1 InMemoryObjectSource

section Stores

variable {σ : Type} {source : InMemoryObjectSource σ} {good : σ → Prop} {shows : OID → SnmpValue → Prop}

def Call.objects : Call σ → List (Target × ObjectValue σ)
  | .setObject target value => [(target, value)]
  | .setObjects objects => objects
  | .deleteObject _ | .clear => []

def Call.Suits (bundle : Option Resolver) (good : σ → Prop) (shows : OID → SnmpValue → Prop) (call : Call σ) : Prop :=
  ∀ object ∈ call.objects, object.1.Proper bundle ∧
    ∀ oid, normalizeTarget bundle object.1 = .ok oid → object.2.Reads good (shows oid)

theorem mem_batchWrites {bundle : Option Resolver} {objects : List (Target × ObjectValue σ)} {oid : OID}
    {value : ObjectValue σ} (h : .set oid value ∈ batchWrites bundle objects) :
    ∃ object ∈ objects, normalizeTarget bundle object.1 = .ok oid ∧ object.2 = value := by
  induction objects with
  | nil => cases h
  | cons object objects ih =>
    obtain ⟨target, stored⟩ := object
    rw [batchWrites] at h
    cases htarget : normalizeTarget bundle target with
    | error e => simp [htarget] at h
    | ok written =>
      rw [htarget] at h
      obtain heq | hrest := List.mem_cons.mp h
      · cases heq
        exact ⟨_, List.mem_cons_self, htarget, rfl⟩
      · obtain ⟨object, hmem, hobject⟩ := ih hrest
        exact ⟨object, List.mem_cons_of_mem _ hmem, hobject⟩

theorem mem_writes {bundle : Option Resolver} {call : Call σ} {oid : OID} {value : ObjectValue σ}
    (h : .set oid value ∈ call.writes bundle) :
    ∃ object ∈ call.objects, normalizeTarget bundle object.1 = .ok oid ∧ object.2 = value := by
  cases call with
  | setObject target stored => exact mem_batchWrites h
  | setObjects objects => exact mem_batchWrites h
  | deleteObject target =>
    rw [Call.writes] at h
    cases htarget : normalizeTarget bundle target <;> simp [htarget] at h
  | clear => simp [Call.writes] at h

theorem new_simulates (bundle : Option Resolver) (good : σ → Prop)
    (hvalues : ∀ oid value, shows oid value → (∃ enc, encodeValue value = .ok enc) ∧ Asn1.Preserved value)
    (hnoEnd : ∀ oid, ¬ shows oid .endOfMibViewValue) : Simulates (new bundle : InMemoryObjectSource σ) good shows where
  inv := new_inv bundle
  reads := by
    intro oid stored hlookup
    cases hlookup
  values := hvalues
  noEnd := hnoEnd

theorem perform_simulates (h : Simulates source good shows) {call : Call σ}
    (hcall : call.Suits source.bundle good shows) : Simulates (source.perform call) good shows := by
  have hcarries := perform_carries source call
  have hstored : ∀ oid stored, (source.perform call).values.lookup oid = some stored →
      WellFormed oid ∧ stored.Reads good (shows oid) := by
    intro oid stored hlookup
    obtain hbefore | hwritten := Write.replay_eq_some ((congrFun hcarries.values oid).symm.trans hlookup)
    · have hmem : oid ∈ source.values := AList.lookup_isSome.mp (hbefore ▸ rfl)
      exact ⟨h.inv.wellFormed oid hmem, h.reads oid stored hbefore⟩
    · obtain ⟨object, hmem, htarget, rfl⟩ := mem_writes hwritten
      obtain ⟨hproper, hreads⟩ := hcall object hmem
      exact ⟨normalizeTarget_wellFormed hproper htarget, hreads oid htarget⟩
  refine ⟨⟨hcarries.coherent h.inv.coherent, fun oid hmem => ?_⟩, ?_, h.values, h.noEnd⟩
  · obtain ⟨stored, hlookup⟩ := Option.isSome_iff_exists.mp (AList.lookup_isSome.mpr hmem)
    exact (hstored oid stored hlookup).1
  · exact fun oid stored hlookup => (hstored oid stored hlookup).2

theorem run_simulates (h : Simulates source good shows) {calls : List (Call σ)}
    (hcalls : ∀ call ∈ calls, call.Suits source.bundle good shows) :
    Simulates (calls.foldl perform source) good shows := by
  induction calls generalizing source with
  | nil => exact h
  | cons call calls ih =>
    obtain ⟨hcall, hcalls⟩ := List.forall_mem_cons.mp hcalls
    have hbundle := (perform_carries source call).bundle
    exact ih (perform_simulates h hcall) (hbundle.symm ▸ hcalls)

def ObjectValue.CanRead (good : σ → Prop) : ObjectValue σ → SnmpValue → Prop
  | .value stored, read => read = stored
  | .rule getValue, read => ∃ rules rules', good rules ∧ getValue rules = .ok (read, rules')

def InMemoryObjectSource.view (source : InMemoryObjectSource σ) (good : σ → Prop) (oid : OID) (value : SnmpValue) :
    Prop :=
  ∃ stored, source.values.lookup oid = some stored ∧ stored.CanRead good value

theorem ObjectValue.Reads.canRead {stored : ObjectValue σ} {P : SnmpValue → Prop} (h : stored.Reads good P) :
    stored.Reads good (stored.CanRead good) ∧ ∀ value, stored.CanRead good value → P value := by
  cases stored with
  | value stored =>
    refine ⟨rfl, fun value heq => ?_⟩
    obtain rfl : value = stored := heq
    exact h
  | rule getValue =>
    constructor
    · intro rules hgood
      obtain ⟨value, rules', hrun, hgood', -⟩ := h rules hgood
      exact ⟨value, rules', hrun, hgood', rules, rules', hgood, hrun⟩
    · rintro value ⟨rules, rules', hgood, hrun⟩
      obtain ⟨read, read', hread, -, hP⟩ := h rules hgood
      rw [hread] at hrun
      cases hrun
      exact hP

theorem view_shows (h : Simulates source good shows) {oid : OID} {value : SnmpValue}
    (hview : source.view good oid value) :
    shows oid value := by
  obtain ⟨stored, hlookup, hread⟩ := hview
  exact (h.reads oid stored hlookup).canRead.2 value hread

theorem Simulates.view (h : Simulates source good shows) : Simulates source good (source.view good) where
  inv := h.inv
  reads := by
    intro oid stored hlookup
    exact (h.reads oid stored hlookup).canRead.1.imp fun value hread => ⟨stored, hlookup, hread⟩
  values := fun oid value hview => h.values oid value (view_shows h hview)
  noEnd := fun oid hview => h.noEnd oid (view_shows h hview)

theorem mem_values_iff_view (h : Simulates source good shows) {rules : σ} (hgood : good rules) {oid : OID} :
    oid ∈ source.values ↔ ∃ value, source.view good oid value := by
  constructor
  · intro hmem
    obtain ⟨stored, hlookup⟩ := Option.isSome_iff_exists.mp (AList.lookup_isSome.mpr hmem)
    have hreads := (h.reads oid stored hlookup).canRead.1
    cases stored with
    | value stored => exact ⟨stored, _, hlookup, rfl⟩
    | rule getValue =>
      obtain ⟨value, -, -, -, hread⟩ := hreads rules hgood
      exact ⟨value, _, hlookup, hread⟩
  · rintro ⟨value, stored, hlookup, -⟩
    exact AList.lookup_isSome.mp (hlookup ▸ rfl)

end Stores

section Pauses

variable {σ : Type} {source : InMemoryObjectSource σ} {good : σ → Prop} {shows : OID → SnmpValue → Prop}

structure Pause (σ : Type) where
  calls : List (Call σ)
  rules : σ → σ

def Pause.act (pause : Pause σ) (world : World σ) : World σ :=
  { source := pause.calls.foldl perform world.source, rules := pause.rules world.rules }

structure Pause.Suits (bundle : Option Resolver) (good : σ → Prop) (shows : OID → SnmpValue → Prop)
    (pause : Pause σ) : Prop where
  calls : ∀ call ∈ pause.calls, call.Suits bundle good shows
  rules : ∀ rules, good rules → good (pause.rules rules)

def storeAfter (source : InMemoryObjectSource σ) (pauses : ℕ → Pause σ) : ℕ → InMemoryObjectSource σ
  | 0 => source
  | k + 1 => (pauses k).calls.foldl perform (storeAfter source pauses k)

theorem storeAfter_simulates (h : Simulates source good shows) {pauses : ℕ → Pause σ}
    (hpauses : ∀ k, (pauses k).Suits source.bundle good shows) (k : ℕ) :
    Simulates (storeAfter source pauses k) good shows ∧ (storeAfter source pauses k).bundle = source.bundle := by
  induction k with
  | zero => exact ⟨h, rfl⟩
  | succ k ih =>
    obtain ⟨hstore, hbundle⟩ := ih
    exact ⟨run_simulates hstore (hbundle.symm ▸ (hpauses k).calls), (run_carries _ _).bundle.trans hbundle⟩

theorem act_simulating {pauses : ℕ → Pause σ} (hpauses : ∀ k, (pauses k).Suits source.bundle good shows) {k : ℕ}
    {world : World σ} (h : Simulating (storeAfter source pauses k) good world) :
    Simulating (storeAfter source pauses (k + 1)) good ((pauses k).act world) := by
  refine ⟨?_, (hpauses k).rules _ h.2⟩
  rw [storeAfter, ← h.1]
  rfl

end Pauses

end TrishulSnmp.Responder
