import TrishulSnmp.Library.WriteHistory
import TrishulSnmp.Responder.Bulk

namespace TrishulSnmp.Responder

open Mib Outcome

/-! The store after a history of calls, some of which raise. -/

section Histories

variable {σ : Type}

inductive Call (σ : Type)
  | setObject (target : Target) (value : ObjectValue σ)
  | setObjects (objects : List (Target × ObjectValue σ))
  | deleteObject (target : Target)
  | clear

namespace InMemoryObjectSource

def init (bundle : Option Resolver) (objects : List (Target × ObjectValue σ)) :
    Except Error (InMemoryObjectSource σ) :=
  match (new bundle : InMemoryObjectSource σ).setObjects objects with
  | (.ok _, source) => .ok source
  | (.error e, _) => .error e

def perform (source : InMemoryObjectSource σ) : Call σ → InMemoryObjectSource σ
  | .setObject target value =>
    match source.setObject target value with
    | .ok (_, stored) => stored
    | .error _ => source
  | .setObjects objects => (source.setObjects objects).2
  | .deleteObject target =>
    match source.normalizeTarget target with
    | .ok oid =>
      if oid ∈ source.values then
        -- `remove` raises after `del` where the list lacks the OID, and then leaves the list as it is
        { source with values := source.values.erase oid, sortedOids := source.sortedOids.erase oid }
      else source
    | .error _ => source
  | .clear => source.clear

end InMemoryObjectSource

open InMemoryObjectSource

variable (bundle : Option Resolver)

def batchWrites : List (Target × ObjectValue σ) → List (Write OID (ObjectValue σ))
  | [] => []
  | (target, value) :: objects =>
    match normalizeTarget bundle target with
    | .ok oid => .set oid value :: batchWrites objects
    | .error _ => []

def Call.writes : Call σ → List (Write OID (ObjectValue σ))
  | .setObject target value => batchWrites bundle [(target, value)]
  | .setObjects objects => batchWrites bundle objects
  | .deleteObject target =>
    match normalizeTarget bundle target with
    | .ok oid => [.delete oid]
    | .error _ => []
  | .clear => [.clear]

variable {bundle}

structure Carries (source source' : InMemoryObjectSource σ) (writes : List (Write OID (ObjectValue σ))) : Prop where
  bundle : source'.bundle = source.bundle
  coherent : source.Coherent → source'.Coherent
  values : (fun oid => source'.values.lookup oid) = Write.replay (fun oid => source.values.lookup oid) writes

theorem Carries.refl (source : InMemoryObjectSource σ) : Carries source source [] where
  bundle := rfl
  coherent := id
  values := rfl

theorem Carries.trans {source source' source'' : InMemoryObjectSource σ}
    {writes later : List (Write OID (ObjectValue σ))} (h : Carries source source' writes)
    (h' : Carries source' source'' later) : Carries source source'' (writes ++ later) where
  bundle := h'.bundle.trans h.bundle
  coherent := h'.coherent ∘ h.coherent
  values := by rw [h'.values, h.values, Write.replay_append]

theorem setObject_carries {source source' : InMemoryObjectSource σ} {target : Target} {value : ObjectValue σ}
    {oid : OID} (h : source.setObject target value = .ok (oid, source')) : Carries source source' [.set oid value] where
  bundle := (setObject_cases h).2.1
  coherent := fun hcoherent => setObject_coherent hcoherent h
  values := by
    rw [Write.replay_set, (setObject_cases h).2.2.1]
    funext other
    by_cases hsame : other = oid
    · rw [hsame, AList.lookup_insert, Function.update_self]
    · rw [AList.lookup_insert_ne hsame, Function.update_of_ne hsame]

theorem setObject_error {source : InMemoryObjectSource σ} {target : Target} {value : ObjectValue σ} {e : Error}
    (h : source.setObject target value = .error e) : normalizeTarget source.bundle target = .error e := by
  rw [← normalizeTarget_eq]
  obtain hrefused | ⟨oid, -, h⟩ := bind_error_iff.mp h
  · exact hrefused
  · cases h

theorem setObjects_carries (source : InMemoryObjectSource σ) (objects : List (Target × ObjectValue σ)) :
    Carries source (source.setObjects objects).2 (batchWrites source.bundle objects) := by
  induction objects generalizing source with
  | nil => exact .refl source
  | cons object objects ih =>
    obtain ⟨target, value⟩ := object
    cases hset : source.setObject target value with
    | error e =>
      rw [setObjects, hset, batchWrites, setObject_error hset]
      exact .refl source
    | ok stored =>
      obtain ⟨oid, stored⟩ := stored
      have hcarries := setObject_carries hset
      have htarget := (setObject_cases hset).1
      rw [setObjects, hset, batchWrites, htarget]
      have hrest := ih stored
      rw [hcarries.bundle] at hrest
      exact hcarries.trans hrest

theorem setObject_perform (source : InMemoryObjectSource σ) (target : Target) (value : ObjectValue σ) :
    Carries source (source.perform (.setObject target value)) (batchWrites source.bundle [(target, value)]) := by
  rw [perform]
  cases hset : source.setObject target value with
  | error e =>
    rw [batchWrites, setObject_error hset]
    exact .refl source
  | ok stored =>
    rw [batchWrites, (setObject_cases hset).1]
    exact setObject_carries hset

theorem deleteObject_perform (source : InMemoryObjectSource σ) (target : Target) :
    Carries source (source.perform (.deleteObject target)) ((Call.deleteObject target).writes source.bundle) := by
  rw [perform, Call.writes, normalizeTarget_eq]
  cases normalizeTarget source.bundle target with
  | error e => exact .refl source
  | ok oid =>
    simp only
    split_ifs with hmem
    · refine ⟨rfl, fun hcoherent => erase_coherent hcoherent rfl rfl, ?_⟩
      rw [Write.replay_delete]
      funext other
      by_cases hsame : other = oid
      · rw [hsame, AList.lookup_erase, Function.update_self]
      · rw [AList.lookup_erase_ne hsame, Function.update_of_ne hsame]
    · refine ⟨rfl, id, ?_⟩
      rw [Write.replay_delete, Function.update_eq_self_iff.mpr (AList.lookup_eq_none.mpr hmem).symm]

theorem perform_carries (source : InMemoryObjectSource σ) (call : Call σ) :
    Carries source (source.perform call) (call.writes source.bundle) := by
  cases call with
  | setObject target value => exact setObject_perform source target value
  | setObjects objects => exact setObjects_carries source objects
  | deleteObject target => exact deleteObject_perform source target
  | clear => exact ⟨rfl, fun _ => (clear_inv source).coherent, funext fun oid => AList.lookup_empty oid⟩

theorem run_carries (source : InMemoryObjectSource σ) (calls : List (Call σ)) :
    Carries source (calls.foldl perform source) (calls.flatMap (Call.writes source.bundle)) := by
  induction calls generalizing source with
  | nil => exact .refl source
  | cons call calls ih =>
    have hcall := perform_carries source call
    have hrest := ih (source.perform call)
    rw [hcall.bundle] at hrest
    exact hcall.trans hrest

theorem init_carries {objects : List (Target × ObjectValue σ)} {source : InMemoryObjectSource σ}
    (h : init bundle objects = .ok source) : Carries (new bundle) source (batchWrites bundle objects) := by
  have hbatch := setObjects_carries (new bundle : InMemoryObjectSource σ) objects
  unfold init at h
  cases hset : (new bundle : InMemoryObjectSource σ).setObjects objects with
  | mk result stored =>
    rw [hset] at h hbatch
    cases result with
    | error e => cases h
    | ok oids =>
      cases h
      exact hbatch

theorem successor_none_iff {source : InMemoryObjectSource σ} (h : source.Coherent) {oid : OID} :
    source.successor oid = none ↔ ∀ other ∈ source.values, ¬ oid < other := by
  rw [successor, List.find?_eq_none]
  simp only [decide_eq_true_eq, h.mem_iff]

theorem lookupNext_least {source : InMemoryObjectSource σ} (h : source.Coherent) {oid : OID}
    (habove : ∃ other ∈ source.values, oid < other) :
    ∃ next stored, IsLeast {other | other ∈ source.values ∧ oid < other} next ∧
      source.values.lookup next = some stored ∧
      ∀ rules, lookupNext oid { source := source, rules := rules } =
        ((fun value => some (next, value)) <$> stored.current) { source := source, rules := rules } := by
  obtain ⟨next, hnext⟩ : ∃ next, source.successor oid = some next := by
    apply Option.ne_none_iff_exists'.mp
    intro hnone
    obtain ⟨other, hother, hlt⟩ := habove
    exact (successor_none_iff h).mp hnone other hother hlt
  obtain ⟨hmem, hlt, hleast⟩ := (successor_eq_some_iff h).mp hnext
  obtain ⟨stored, hstored⟩ := Option.isSome_iff_exists.mp (AList.lookup_isSome.mpr hmem)
  refine ⟨next, stored, ⟨⟨hmem, hlt⟩, fun other hother => hleast other hother.1 hother.2⟩, hstored, fun rules => ?_⟩
  exact lookupNext_stored ((bisect_successor h oid).trans hnext) hstored

theorem lookupNext_none_iff {source : InMemoryObjectSource σ} (h : source.Coherent) (oid : OID) (rules : σ) :
    (∃ world, lookupNext oid { source := source, rules := rules } = .ok (none, world)) ↔
      ∀ other ∈ source.values, ¬ oid < other := by
  rw [← successor_none_iff h]
  constructor
  · rintro ⟨world, hworld⟩
    obtain ⟨-, hfound⟩ := lookupNext_keeps h oid rules none world hworld
    cases hsuccessor : source.successor oid with
    | none => rfl
    | some next =>
      rw [hsuccessor] at hfound
      obtain ⟨value, stored, hsome, -⟩ := hfound
      cases hsome
  · intro hnone
    exact ⟨_, lookupNext_none ((bisect_successor h oid).trans hnone)⟩

theorem history_kept {objects : List (Target × ObjectValue σ)} {source : InMemoryObjectSource σ}
    (hinit : init bundle objects = .ok source) (calls : List (Call σ)) :
    let final := calls.foldl perform source
    let writes := batchWrites bundle objects ++ calls.flatMap (Call.writes bundle)
    (final.sortedOids.Pairwise (· < ·) ∧ ∀ oid, oid ∈ final.sortedOids ↔ oid ∈ final.values) ∧
    (∀ oid stored rules, Write.Current writes oid stored →
      lookupExact oid { source := final, rules := rules } =
        (some <$> stored.current) { source := final, rules := rules }) ∧
    (∀ oid rules, (¬ ∃ stored, Write.Current writes oid stored) →
      lookupExact oid { source := final, rules := rules } = .ok (none, { source := final, rules := rules })) ∧
    (∀ oid rules, (∃ other ∈ final.values, oid < other) →
      ∃ next stored, IsLeast {other | other ∈ final.values ∧ oid < other} next ∧ Write.Current writes next stored ∧
        lookupNext oid { source := final, rules := rules } =
          ((fun value => some (next, value)) <$> stored.current) { source := final, rules := rules }) ∧
    ∀ oid rules, (∃ world, lookupNext oid { source := final, rules := rules } = .ok (none, world)) ↔
      ∀ other ∈ final.values, ¬ oid < other := by
  intro final writes
  have hcarries : Carries (new bundle) final writes := by
    have hrun := run_carries source calls
    rw [(init_carries hinit).bundle] at hrun
    exact (init_carries hinit).trans hrun
  have hcoherent : final.Coherent := hcarries.coherent (new_inv bundle).coherent
  have hcurrent : ∀ oid stored, final.values.lookup oid = some stored ↔ Write.Current writes oid stored := by
    intro oid stored
    rw [← Write.replay_eq_some_iff]
    exact (congrFun hcarries.values oid).symm ▸ Iff.rfl
  refine ⟨⟨hcoherent.sorted, hcoherent.mem_iff⟩, ?_, ?_, ?_, ?_⟩
  · intro oid stored rules h
    exact lookupExact_stored ((hcurrent oid stored).mpr h)
  · intro oid rules h
    apply lookupExact_none
    by_contra hsome
    obtain ⟨stored, hstored⟩ := Option.ne_none_iff_exists'.mp hsome
    exact h ⟨stored, (hcurrent oid stored).mp hstored⟩
  · intro oid rules habove
    obtain ⟨next, stored, hleast, hstored, hlookup⟩ := lookupNext_least hcoherent habove
    exact ⟨next, stored, hleast, (hcurrent next stored).mp hstored, hlookup rules⟩
  · exact lookupNext_none_iff hcoherent

def rewriting : List (Call Unit) :=
  [.setObject (.text "ifIndex") (.value (.integerValue 6)), .deleteObject (.sequence [1, 3, 6] (.ok "")),
    .setObject (.sequence [1, 3, 6] (.ok "")) (.value (.integerValue 7))]

def rewritten : List (Target × ObjectValue Unit) := [(.sequence [1, 3, 6] (.ok ""), .value (.integerValue 5))]

theorem history_kept_sample : ∃ source, init none rewritten = .ok source ∧
    ∃ world, lookupExact [1, 3, 6] { source := rewriting.foldl perform source, rules := () } =
      .ok (some (.integerValue 7), world) := by
  obtain ⟨source, hinit⟩ : ∃ source, init none rewritten = .ok source := ⟨_, rfl⟩
  refine ⟨source, hinit, { source := rewriting.foldl perform source, rules := () }, ?_⟩
  apply (history_kept hinit rewriting).2.1 [1, 3, 6] (.value (.integerValue 7)) ()
  exact ⟨[.set [1, 3, 6] (.value (.integerValue 5)), .delete [1, 3, 6]], [], rfl, by simp⟩

end Histories

end TrishulSnmp.Responder
