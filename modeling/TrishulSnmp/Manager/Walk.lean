import Mathlib.Data.List.Infix
import TrishulSnmp.Library.Sweep
import TrishulSnmp.Types

namespace TrishulSnmp.Manager

def isWithinSubtree (root oid : OID) : Bool :=
  decide (root.length ≤ oid.length ∧ oid.take root.length = root)

structure WalkRequest where
  current : OID
  maxRepetitions : Option ℤ
  deriving DecidableEq

abbrev Agent (α : Type) := α → WalkRequest → Except Error (Response × α)

structure WalkState where
  current : OID
  results : List VarBind
  lastOid : Option OID

def WalkState.start (root : OID) : WalkState := { current := root, results := [], lastOid := none }

def collect (root : OID) (state : WalkState) (varbind : VarBind) : Option WalkState :=
  if varbind.value = .endOfMibViewValue then none
  else if !isWithinSubtree root varbind.oid then none
  -- before the first varbind is collected there is no OID to compare with, not even the root's
  else if state.lastOid.any (varbind.oid ≤ ·) then none
  else some { current := varbind.oid, results := state.results ++ [varbind], lastOid := some varbind.oid }

def collectBatch (root : OID) : WalkState → List VarBind → WalkState × Bool
  | state, [] => (state, false)
  | state, varbind :: varbinds =>
    match collect root state varbind with
    | none => (state, true)
    | some state => collectBatch root state varbinds

inductive WalkOutcome
  | returned (results : List VarBind) (requests : ℕ)
  | raised (e : Error) (requests : ℕ)
  | running
  deriving DecidableEq

variable {α : Type}

def walkLoop (agent : Agent α) (root : OID) (maxRepetitions : Option ℤ) :
    ℕ → ℕ → WalkState → α → WalkOutcome
  | 0, _, _, _ => .running
  | allowance + 1, requests, state, world =>
    match agent world { current := state.current, maxRepetitions := maxRepetitions } with
    | .error e => .raised e (requests + 1)
    | .ok (response, world) =>
      if response.varbinds = [] then .returned state.results (requests + 1)
      else
        let (state, stop) := collectBatch root state response.varbinds
        if stop then .returned state.results (requests + 1)
        else walkLoop agent root maxRepetitions allowance (requests + 1) state world

def walkSubtree (agent : Agent α) (root : OID) (maxRepetitions : Option ℤ) (allowance : ℕ) (world : α) : WalkOutcome :=
  walkLoop agent root maxRepetitions allowance 0 (.start root) world

inductive Phase
  | asking
  | awaiting
  | reading (response : Response) (position : ℕ)

/-- The moments of the walk over `agent` from `world`: the number of requests sent, the local
variables, the agent's state. -/
inductive Moment (agent : Agent α) (root : OID) (maxRepetitions : Option ℤ) (world : α) :
    ℕ → WalkState → α → Phase → Prop
  | start : Moment agent root maxRepetitions world 0 (.start root) world .asking
  | send {requests : ℕ} {state : WalkState} {a : α} :
      Moment agent root maxRepetitions world requests state a .asking →
      Moment agent root maxRepetitions world (requests + 1) state a .awaiting
  | receive {requests : ℕ} {state : WalkState} {a a' : α} {response : Response} :
      Moment agent root maxRepetitions world requests state a .awaiting →
      agent a { current := state.current, maxRepetitions := maxRepetitions } = .ok (response, a') →
      Moment agent root maxRepetitions world requests state a' (.reading response 0)
  | collect {requests : ℕ} {state state' : WalkState} {a : α} {response : Response} {position : ℕ} {varbind : VarBind} :
      Moment agent root maxRepetitions world requests state a (.reading response position) →
      response.varbinds[position]? = some varbind → collect root state varbind = some state' →
      Moment agent root maxRepetitions world requests state' a (.reading response (position + 1))
  | again {requests : ℕ} {state : WalkState} {a : α} {response : Response} :
      Moment agent root maxRepetitions world requests state a (.reading response response.varbinds.length) →
      response.varbinds ≠ [] →
      Moment agent root maxRepetitions world requests state a .asking

structure Collected (root : OID) (results : List VarBind) : Prop where
  increasing : results.Pairwise fun a b => a.oid < b.oid
  within : ∀ varbind ∈ results, root <+: varbind.oid
  values : ∀ varbind ∈ results, varbind.value ≠ .endOfMibViewValue

theorem isWithinSubtree_iff (root oid : OID) : isWithinSubtree root oid = true ↔ root <+: oid := by
  rw [isWithinSubtree, decide_eq_true_eq, List.prefix_iff_eq_take, eq_comm (a := root)]
  constructor
  · exact fun h => h.2
  · intro h
    refine ⟨?_, h⟩
    have := congrArg List.length h
    rw [List.length_take] at this
    omega

theorem collect_eq_some_iff {root : OID} {state state' : WalkState} {varbind : VarBind} :
    collect root state varbind = some state' ↔ varbind.value ≠ .endOfMibViewValue ∧ root <+: varbind.oid ∧
      (∀ last, state.lastOid = some last → last < varbind.oid) ∧
      state' = { current := varbind.oid, results := state.results ++ [varbind], lastOid := some varbind.oid } := by
  have hlast : state.lastOid.any (varbind.oid ≤ ·) = false ↔
      ∀ last, state.lastOid = some last → last < varbind.oid := by
    cases state.lastOid <;> simp
  rw [← hlast, ← isWithinSubtree_iff, collect]
  split_ifs with h1 h2 h3
  · simp [h1]
  · simp_all
  · simp_all
  · rw [Option.some.injEq]
    constructor
    · intro h
      exact ⟨h1, by simpa using h2, by simpa using h3, h.symm⟩
    · intro h
      exact h.2.2.2.symm

structure WalkState.Inv (root : OID) (state : WalkState) : Prop where
  collected : Collected root state.results
  lastOid : state.lastOid = state.results.getLast?.map VarBind.oid

theorem start_inv (root : OID) : (WalkState.start root).Inv root where
  collected := { increasing := .nil, within := by simp [WalkState.start], values := by simp [WalkState.start] }
  lastOid := rfl

theorem collect_inv {root : OID} {state state' : WalkState} {varbind : VarBind} (hi : state.Inv root)
    (h : collect root state varbind = some state') :
    state'.Inv root ∧ state'.results = state.results ++ [varbind] := by
  obtain ⟨hvalue, hroot, hlast, rfl⟩ := collect_eq_some_iff.mp h
  obtain ⟨⟨hinc, hwithin, hvalues⟩, hlastOid⟩ := hi
  refine ⟨⟨⟨?_, ?_, ?_⟩, by simp⟩, rfl⟩
  · refine List.pairwise_append.mpr ⟨hinc, List.pairwise_singleton _ _, fun a ha b hb => ?_⟩
    obtain rfl := List.mem_singleton.mp hb
    obtain ⟨last, hgetLast⟩ := Option.isSome_iff_exists.mp (List.getLast?_isSome.mpr (List.ne_nil_of_mem ha))
    have hlt := hlast last.oid (by rw [hlastOid, hgetLast]; rfl)
    obtain ⟨init, hinit⟩ := List.getLast?_eq_some_iff.mp hgetLast
    rw [hinit, List.mem_append, List.mem_singleton] at ha
    obtain ha | rfl := ha
    · rw [hinit, List.pairwise_append] at hinc
      exact (hinc.2.2 a ha last (List.mem_singleton_self _)).trans hlt
    · exact hlt
  · simpa [or_imp, forall_and] using ⟨hwithin, hroot⟩
  · simpa [or_imp, forall_and] using ⟨hvalues, hvalue⟩

def Phase.Paid (requests collected : ℕ) : Phase → Prop
  | asking => requests ≤ collected
  | awaiting => requests ≤ collected + 1
  | reading _ position => requests ≤ collected + 1 ∧ (0 < position → requests ≤ collected)

variable {agent : Agent α} {root : OID} {maxRepetitions : Option ℤ} {world : α}

theorem Moment.inv {requests : ℕ} {state : WalkState} {a : α} {phase : Phase}
    (h : Moment agent root maxRepetitions world requests state a phase) :
    state.Inv root ∧ phase.Paid requests state.results.length := by
  induction h with
  | start => exact ⟨start_inv root, le_rfl⟩
  | send _ ih => exact ⟨ih.1, Nat.add_le_add_right ih.2 1⟩
  | receive _ _ ih => exact ⟨ih.1, ih.2, fun h => absurd h (lt_irrefl 0)⟩
  | collect _ _ hcollect ih =>
    obtain ⟨hinv, hresults⟩ := collect_inv ih.1 hcollect
    refine ⟨hinv, ?_⟩
    have hlen := congrArg List.length hresults
    rw [List.length_append, List.length_singleton] at hlen
    have hpaid := ih.2.1
    rw [hlen]
    exact ⟨by omega, fun _ => hpaid⟩
  | again _ hne ih => exact ⟨ih.1, ih.2.2 (List.length_pos_iff.mpr hne)⟩

theorem Phase.Paid.le {requests collected : ℕ} {phase : Phase} (h : phase.Paid requests collected) :
    requests ≤ collected + 1 := by
  cases phase with
  | asking => exact Nat.le_succ_of_le h
  | awaiting => exact h
  | reading => exact h.1

theorem moment_collectBatch {requests : ℕ} {state : WalkState} {a : α} {response : Response} {position : ℕ}
    (h : Moment agent root maxRepetitions world requests state a (.reading response position))
    (hle : position ≤ response.varbinds.length) :
    (∃ position', Moment agent root maxRepetitions world requests
      (collectBatch root state (response.varbinds.drop position)).1 a (.reading response position')) ∧
    ((collectBatch root state (response.varbinds.drop position)).2 = false →
      Moment agent root maxRepetitions world requests
        (collectBatch root state (response.varbinds.drop position)).1 a
        (.reading response response.varbinds.length)) := by
  induction hrest : response.varbinds.drop position generalizing state position with
  | nil =>
    have hlen := congrArg List.length hrest
    rw [List.length_drop, List.length_nil] at hlen
    obtain rfl : position = response.varbinds.length := by omega
    exact ⟨⟨_, h⟩, fun _ => h⟩
  | cons varbind varbinds ih =>
    have hget : response.varbinds[position]? = some varbind := by
      rw [← Nat.add_zero position, ← List.getElem?_drop, hrest]
      rfl
    have hdrop : response.varbinds.drop (position + 1) = varbinds := by
      rw [← List.drop_drop, hrest]
      rfl
    rw [collectBatch]
    cases hcollect : collect root state varbind with
    | none => exact ⟨⟨_, h⟩, fun hfalse => by cases hfalse⟩
    | some state' =>
      obtain ⟨hlt, -⟩ := List.getElem?_eq_some_iff.mp hget
      exact ih (h.collect hget hcollect) hlt hdrop

theorem moment_of_returned {allowance requests requests' : ℕ} {state : WalkState} {a : α} {results : List VarBind}
    (h : Moment agent root maxRepetitions world requests state a .asking)
    (hreturned : walkLoop agent root maxRepetitions allowance requests state a = .returned results requests') :
    ∃ state' a' phase, Moment agent root maxRepetitions world requests' state' a' phase ∧ state'.results = results := by
  induction allowance generalizing requests state a with
  | zero => cases hreturned
  | succ allowance ih =>
    rw [walkLoop] at hreturned
    cases hanswer : agent a { current := state.current, maxRepetitions := maxRepetitions } with
    | error e =>
      rw [hanswer] at hreturned
      cases hreturned
    | ok answer =>
      obtain ⟨response, a'⟩ := answer
      have hreceive := h.send.receive hanswer
      rw [hanswer] at hreturned
      simp only at hreturned
      by_cases hnil : response.varbinds = []
      · rw [if_pos hnil] at hreturned
        cases hreturned
        exact ⟨state, a', _, hreceive, rfl⟩
      · rw [if_neg hnil] at hreturned
        obtain ⟨⟨position, hstop⟩, hgo⟩ := moment_collectBatch hreceive (Nat.zero_le _)
        rw [List.drop_zero] at hstop hgo
        by_cases hflag : (collectBatch root state response.varbinds).2 = true
        · rw [if_pos hflag] at hreturned
          cases hreturned
          exact ⟨_, a', _, hstop, rfl⟩
        · rw [if_neg hflag] at hreturned
          exact ih ((hgo (by simpa using hflag)).again hnil) hreturned

theorem moment_of_running {allowance requests : ℕ} {state : WalkState} {a : α}
    (h : Moment agent root maxRepetitions world requests state a .asking)
    (hrunning : walkLoop agent root maxRepetitions allowance requests state a = .running) :
    ∃ state' a', Moment agent root maxRepetitions world (requests + allowance) state' a' .asking := by
  induction allowance generalizing requests state a with
  | zero => exact ⟨state, a, h⟩
  | succ allowance ih =>
    rw [walkLoop] at hrunning
    cases hanswer : agent a { current := state.current, maxRepetitions := maxRepetitions } with
    | error e =>
      rw [hanswer] at hrunning
      cases hrunning
    | ok answer =>
      obtain ⟨response, a'⟩ := answer
      have hreceive := h.send.receive hanswer
      rw [hanswer] at hrunning
      simp only at hrunning
      by_cases hnil : response.varbinds = []
      · rw [if_pos hnil] at hrunning
        cases hrunning
      · rw [if_neg hnil] at hrunning
        obtain ⟨-, hgo⟩ := moment_collectBatch hreceive (Nat.zero_le _)
        rw [List.drop_zero] at hgo
        by_cases hflag : (collectBatch root state response.varbinds).2 = true
        · rw [if_pos hflag] at hrunning
          cases hrunning
        · rw [if_neg hflag] at hrunning
          rw [← Nat.add_assoc, Nat.add_right_comm]
          exact ih ((hgo (by simpa using hflag)).again hnil) hrunning

theorem requests_le {allowance requests : ℕ} {state : WalkState} {a : α} :
    match walkLoop agent root maxRepetitions allowance requests state a with
    | .returned _ n | .raised _ n => n ≤ requests + allowance
    | .running => True := by
  induction allowance generalizing requests state a with
  | zero => trivial
  | succ allowance ih =>
    rw [walkLoop]
    cases agent a { current := state.current, maxRepetitions := maxRepetitions } with
    | error e => simp only; omega
    | ok answer =>
      simp only
      split_ifs
      · simp only; omega
      · simp only; omega
      · have := @ih (requests + 1) (collectBatch root state answer.1.varbinds).1 answer.2
        rw [Nat.add_right_comm, Nat.add_assoc] at this
        exact this

def ReturnsOnly (agent : Agent α) (root : OID) (maxRepetitions : Option ℤ) (world : α) (oids : Finset OID) : Prop :=
  ∀ requests state a response a', Moment agent root maxRepetitions world requests state a .awaiting →
    agent a { current := state.current, maxRepetitions := maxRepetitions } = .ok (response, a') →
    ∀ varbind ∈ response.varbinds, varbind.oid ∈ oids

theorem Moment.collected_mem {oids : Finset OID} (hagent : ReturnsOnly agent root maxRepetitions world oids)
    {requests : ℕ} {state : WalkState} {a : α} {phase : Phase}
    (h : Moment agent root maxRepetitions world requests state a phase) :
    (∀ varbind ∈ state.results, varbind.oid ∈ oids) ∧
      ∀ response position, phase = .reading response position → ∀ varbind ∈ response.varbinds, varbind.oid ∈ oids := by
  induction h with
  | start => exact ⟨by simp [WalkState.start], fun _ _ h => by cases h⟩
  | send _ ih => exact ⟨ih.1, fun _ _ h => by cases h⟩
  | receive hawaiting hanswer ih =>
    refine ⟨ih.1, fun response position h => ?_⟩
    cases h
    exact hagent _ _ _ _ _ hawaiting hanswer
  | collect _ hget hcollect ih =>
    have hbatch := ih.2 _ _ rfl
    have hresults := (collect_eq_some_iff.mp hcollect).2.2.2
    refine ⟨?_, fun response position h => ?_⟩
    · rw [hresults]
      simpa [or_imp, forall_and] using ⟨ih.1, hbatch _ (List.mem_of_getElem? hget)⟩
    · cases h
      exact hbatch
  | again _ _ ih => exact ⟨ih.1, fun _ _ h => by cases h⟩

theorem walk_safe (agent : Agent α) (root : OID) (maxRepetitions : Option ℤ) (world : α) :
    (∀ requests state a phase, Moment agent root maxRepetitions world requests state a phase →
      Collected root state.results ∧ requests ≤ state.results.length + 1) ∧
    (∀ allowance results requests,
      walkSubtree agent root maxRepetitions allowance world = .returned results requests →
      Collected root results ∧ requests ≤ results.length + 1) ∧
    ∀ oids : Finset OID, ReturnsOnly agent root maxRepetitions world oids →
      ∃ requests ≤ oids.card + 1,
        (∃ results, walkSubtree agent root maxRepetitions (oids.card + 1) world = .returned results requests) ∨
        ∃ e, walkSubtree agent root maxRepetitions (oids.card + 1) world = .raised e requests := by
  have hmoment : ∀ requests state a phase, Moment agent root maxRepetitions world requests state a phase →
      Collected root state.results ∧ requests ≤ state.results.length + 1 := by
    intro requests state a phase h
    exact ⟨h.inv.1.collected, h.inv.2.le⟩
  refine ⟨hmoment, ?_, ?_⟩
  · intro allowance results requests hreturned
    obtain ⟨state, a, phase, h, rfl⟩ := moment_of_returned .start hreturned
    exact hmoment _ _ _ _ h
  · intro oids hagent
    have hle := @requests_le _ agent root maxRepetitions (oids.card + 1) 0 (.start root) world
    rw [Nat.zero_add] at hle
    cases houtcome : walkSubtree agent root maxRepetitions (oids.card + 1) world with
    | returned results requests =>
      rw [walkSubtree] at houtcome
      rw [houtcome] at hle
      exact ⟨requests, hle, .inl ⟨results, rfl⟩⟩
    | raised e requests =>
      rw [walkSubtree] at houtcome
      rw [houtcome] at hle
      exact ⟨requests, hle, .inr ⟨e, rfl⟩⟩
    | running =>
      obtain ⟨state, a, h⟩ := moment_of_running .start houtcome
      have hpaid : 0 + (oids.card + 1) ≤ state.results.length := h.inv.2
      have hcard := length_le_card_of_increasing h.inv.1.collected.increasing (h.collected_mem hagent).1
      omega

def pacedOids : ℕ → List OID
  | 0 => [[1, 3, 1], [1, 3, 2]]
  | 1 => [[1, 3, 3], [1, 3, 5]]
  | _ => [[1, 3, 4], [1, 3, 6]]

def pacedAgent : Agent ℕ := fun count _ =>
  let varbinds := (pacedOids count).map fun oid => { oid := oid, value := .integerValue 7 }
  .ok ({ requestId := 1, errorStatus := .noError, errorIndex := 0, varbinds := varbinds }, count + 1)

theorem pacedOids_subset (count : ℕ) :
    ∀ oid ∈ pacedOids count, oid ∈ ([[1, 3, 1], [1, 3, 2], [1, 3, 3], [1, 3, 4], [1, 3, 5], [1, 3, 6]] : List OID) := by
  match count with
  | 0 => decide
  | 1 => decide
  | _ + 2 =>
    change ∀ oid ∈ ([[1, 3, 4], [1, 3, 6]] : List OID), _
    decide

theorem walk_safe_sample : ∃ results, ∃ requests ≤ 7,
    walkSubtree pacedAgent [1, 3] (some 2) 7 0 = .returned results requests ∧ Collected [1, 3] results ∧
    results.map VarBind.oid = [[1, 3, 1], [1, 3, 2], [1, 3, 3], [1, 3, 5]] := by
  have hpaced : ReturnsOnly pacedAgent [1, 3] (some 2) 0
      ([[1, 3, 1], [1, 3, 2], [1, 3, 3], [1, 3, 4], [1, 3, 5], [1, 3, 6]] : List OID).toFinset := by
    intro requests state count response count' _ hanswer varbind hmem
    cases hanswer
    obtain ⟨oid, hoid, rfl⟩ := List.mem_map.mp hmem
    exact List.mem_toFinset.mpr (pacedOids_subset count oid hoid)
  have hwalk : walkSubtree pacedAgent [1, 3] (some 2) 7 0 = .returned
      ([[1, 3, 1], [1, 3, 2], [1, 3, 3], [1, 3, 5]].map fun oid => { oid := oid, value := .integerValue 7 }) 3 := by
    decide +kernel
  obtain ⟨-, hreturned, honly⟩ := walk_safe pacedAgent [1, 3] (some 2) 0
  obtain ⟨requests, hle, ⟨results, hrun⟩ | ⟨e, hrun⟩⟩ := honly _ hpaced
  · refine ⟨results, requests, hle, hrun, (hreturned _ _ _ hrun).1, ?_⟩
    cases hwalk.symm.trans hrun
    rfl
  · cases hwalk.symm.trans hrun

end TrishulSnmp.Manager
