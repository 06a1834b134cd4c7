import TrishulSnmp.Manager.Client
import TrishulSnmp.Manager.WalkErrors
import TrishulSnmp.Mib.Render
import TrishulSnmp.Responder.Answers
import TrishulSnmp.Responder.Serving

namespace TrishulSnmp.Manager

open Mib Outcome Responder Wire

section Batches

variable {table : ObjectTable} {root : OID}

def batch (table : ObjectTable) : ℕ → OID → List RawVarBind
  | 0, _ => []
  | repetitions + 1, current =>
    nextVarbind table current :: batch table repetitions (nextCurrent current (nextVarbind table current))

theorem bulkRows_singleton (repetitions : ℕ) (current : OID) :
    Id.run (bulkRows (tableSource table) repetitions [current]) = batch table repetitions current := by
  induction repetitions generalizing current with
  | zero => rfl
  | succ repetitions ih =>
    rw [bulkRows_succ, bulkRow_cons]
    exact congrArg (nextVarbind table current :: ·) (ih _)

def remaining (table : ObjectTable) (root current : OID) : List (OID × SnmpValue) :=
  (table.after current).takeWhile fun entry => root <+: entry.1

theorem remaining_of_none {current : OID} (h : table.next current = none) : remaining table root current = [] := by
  rw [remaining, SortedTable.next_eq_none_iff.mp h, List.takeWhile_nil]

theorem remaining_of_inside {current : OID} {entry : OID × SnmpValue} (h : table.next current = some entry)
    (hroot : root <+: entry.1) : remaining table root current = entry :: remaining table root entry.1 := by
  rw [remaining, SortedTable.after_of_next h, List.takeWhile_cons_of_pos (by simpa using hroot), remaining]

theorem remaining_of_outside {current : OID} {entry : OID × SnmpValue} (h : table.next current = some entry)
    (hroot : ¬ root <+: entry.1) : remaining table root current = [] := by
  rw [remaining, SortedTable.after_of_next h, List.takeWhile_cons_of_neg (by simpa using hroot)]

theorem prefix_of_between {root oid oid' : OID} (hroot : root < oid) (hlt : oid < oid') (h : root <+: oid') :
    root <+: oid := by
  induction root generalizing oid oid' with
  | nil => exact List.nil_prefix
  | cons arc root ih =>
    obtain ⟨rest, rfl⟩ := h
    cases oid with
    | nil => exact absurd hroot (List.not_lt_nil _)
    | cons arc' oid =>
      rw [List.cons_append] at hlt
      rw [List.cons_lt_cons_iff] at hroot hlt
      obtain ⟨rfl, hroot, hlt⟩ : arc = arc' ∧ root < oid ∧ oid < root ++ rest := by
        rcases hroot with hroot | ⟨rfl, hroot⟩ <;> rcases hlt with hlt | ⟨heq, hlt⟩
        · exact absurd hlt hroot.asymm
        · exact absurd heq hroot.ne'
        · exact absurd hlt (lt_irrefl _)
        · exact ⟨rfl, hroot, hlt⟩
      exact List.cons_prefix_cons.mpr ⟨rfl, ih hroot hlt (List.prefix_append _ _)⟩

theorem remaining_sorted (table : ObjectTable) (root current : OID) :
    (remaining table root current).Pairwise fun a b => a.1 < b.1 :=
  (SortedTable.after_sorted table current).sublist (List.takeWhile_sublist _)

theorem mem_remaining_root {entry : OID × SnmpValue} :
    entry ∈ remaining table root root ↔ entry ∈ table.entries ∧ root <+: entry.1 ∧ entry.1 ≠ root := by
  rw [remaining, SortedTable.takeWhile_after fun _ _ => prefix_of_between, List.mem_filter, SortedTable.mem_after,
    decide_eq_true_eq, and_assoc]
  apply and_congr_right
  intro _
  rw [and_comm]
  apply and_congr_right
  intro hroot
  exact ⟨fun hlt => hlt.ne', fun hne => lt_of_le_of_ne (prefix_le hroot) hne.symm⟩

end Batches

section Walk

variable {α : Type} {table : ObjectTable} {root : OID} {shown : OID → SnmpValue → Display}

def present (shown : OID → SnmpValue → Display) (rawVarbind : RawVarBind) : VarBind :=
  (shown rawVarbind.oid rawVarbind.value).varbind rawVarbind

def entryVarbind (shown : OID → SnmpValue → Display) (entry : OID × SnmpValue) : VarBind :=
  present shown { oid := entry.1, value := entry.2 }

def WalkState.push (shown : OID → SnmpValue → Display) (state : WalkState) (entry : OID × SnmpValue) : WalkState :=
  { current := entry.1, results := state.results ++ [entryVarbind shown entry], lastOid := some entry.1 }

def WalkState.Synced (state : WalkState) : Prop := ∀ last, state.lastOid = some last → last = state.current

theorem push_synced (state : WalkState) (entry : OID × SnmpValue) : (state.push shown entry).Synced := by
  intro last h
  exact (Option.some.inj h).symm

theorem foldl_push_synced {state : WalkState} (h : state.Synced) (entries : List (OID × SnmpValue)) :
    (entries.foldl (WalkState.push shown) state).Synced := by
  induction entries generalizing state with
  | nil => exact h
  | cons entry entries ih => exact ih (push_synced state entry)

theorem foldl_push_results (state : WalkState) (entries : List (OID × SnmpValue)) :
    (entries.foldl (WalkState.push shown) state).results = state.results ++ entries.map (entryVarbind shown) := by
  induction entries generalizing state with
  | nil => rw [List.foldl_nil, List.map_nil, List.append_nil]
  | cons entry entries ih =>
    rw [List.foldl_cons, ih, List.map_cons, WalkState.push]
    exact List.append_assoc _ _ _

theorem foldl_push_current (state : WalkState) {entries : List (OID × SnmpValue)} (h : entries ≠ []) :
    ∃ entry ∈ entries, (entries.foldl (WalkState.push shown) state).current = entry.1 := by
  induction entries generalizing state with
  | nil => exact absurd rfl h
  | cons entry entries ih =>
    by_cases hnil : entries = []
    · subst hnil
      exact ⟨entry, List.mem_cons_self, rfl⟩
    · obtain ⟨last, hlast, hcurrent⟩ := ih (state.push shown entry) hnil
      exact ⟨last, List.mem_cons_of_mem _ hlast, hcurrent⟩

theorem remaining_foldl_push (state : WalkState) (m : ℕ) :
    remaining table root (((remaining table root state.current).take m).foldl (WalkState.push shown) state).current =
      (remaining table root state.current).drop m := by
  induction m generalizing state with
  | zero => rfl
  | succ m ih =>
    cases hnext : table.next state.current with
    | none => rw [remaining_of_none hnext, List.take_nil, List.drop_nil, List.foldl_nil, remaining_of_none hnext]
    | some entry =>
      by_cases hroot : root <+: entry.1
      · rw [remaining_of_inside hnext hroot, List.take_succ_cons, List.drop_succ_cons, List.foldl_cons]
        exact ih (state.push shown entry)
      · rw [remaining_of_outside hnext hroot, List.take_nil, List.drop_nil, List.foldl_nil,
          remaining_of_outside hnext hroot]

theorem collectBatch_batch (hend : ∀ entry ∈ table.entries, entry.2 ≠ .endOfMibViewValue) (m : ℕ)
    {state : WalkState} (h : state.Synced) :
    collectBatch root state ((batch table m state.current).map (present shown)) =
      (((remaining table root state.current).take m).foldl (WalkState.push shown) state,
        decide ((remaining table root state.current).length < m)) := by
  induction m generalizing state with
  | zero => rfl
  | succ m ih =>
    rw [batch, List.map_cons, collectBatch]
    cases hnext : table.next state.current with
    | none =>
      have hcollect : collect root state (present shown (nextVarbind table state.current)) = none := by
        rw [nextVarbind, hnext]
        exact if_pos rfl
      rw [hcollect, remaining_of_none hnext]
      rfl
    | some entry =>
      obtain ⟨hmem, hlt, -⟩ := SortedTable.next_eq_some_iff.mp hnext
      have hvarbind : nextVarbind table state.current = { oid := entry.1, value := entry.2 } := by
        rw [nextVarbind, hnext]
      have hcurrent : nextCurrent state.current (nextVarbind table state.current) = entry.1 := by
        rw [hvarbind]
        exact if_neg (hend entry hmem)
      rw [hcurrent, hvarbind]
      by_cases hroot : root <+: entry.1
      · have hcollect : collect root state (entryVarbind shown entry) = some (state.push shown entry) := by
          apply collect_eq_some_iff.mpr
          refine ⟨hend entry hmem, hroot, ?_, rfl⟩
          intro last hlast
          exact (h last hlast).symm ▸ hlt
        rw [entryVarbind] at hcollect
        rw [hcollect, remaining_of_inside hnext hroot, List.take_succ_cons, List.foldl_cons, List.length_cons]
        simp only [Nat.add_lt_add_iff_right]
        exact ih (push_synced state entry)
      · have hcollect : collect root state (present shown { oid := entry.1, value := entry.2 }) = none := by
          rw [Option.eq_none_iff_forall_ne_some]
          intro state' hsome
          exact hroot (collect_eq_some_iff.mp hsome).2.1
        rw [hcollect, remaining_of_outside hnext hroot]
        rfl

def AnswersBatches (agent : Agent α) (shown : OID → SnmpValue → Display) (table : ObjectTable)
    (maxRepetitions : Option ℤ) (m : ℕ) (P : α → Prop) (Askable : OID → Prop) : Prop :=
  ∀ a current, P a → Askable current →
    ∃ response a', agent a { current := current, maxRepetitions := maxRepetitions } = .ok (response, a') ∧ P a' ∧
      response.varbinds = (batch table m current).map (present shown)

theorem walkLoop_batches {agent : Agent α} {maxRepetitions : Option ℤ} {m : ℕ} {P : α → Prop} {Askable : OID → Prop}
    (hm : 0 < m) (hend : ∀ entry ∈ table.entries, entry.2 ≠ .endOfMibViewValue)
    (haskable : ∀ entry ∈ table.entries, Askable entry.1)
    (hagent : AnswersBatches agent shown table maxRepetitions m P Askable) {state : WalkState} (hstate : state.Synced)
    (hcurrent : Askable state.current) {a : α} (ha : P a) :
    ∃ n, ∀ requests allowance, n ≤ allowance → walkLoop agent root maxRepetitions allowance requests state a =
      .returned (state.results ++ (remaining table root state.current).map (entryVarbind shown)) (requests + n) := by
  -- the entries that remain become fewer by a whole batch, or the batch stops the walk
  induction hlength : (remaining table root state.current).length using Nat.strong_induction_on
    generalizing state a with
  | _ length ih =>
    obtain ⟨response, a', hanswer, ha', hvarbinds⟩ := hagent a state.current ha hcurrent
    have hne : response.varbinds ≠ [] := by
      obtain ⟨m, rfl⟩ := Nat.exists_eq_add_one.mpr hm
      rw [hvarbinds]
      exact List.cons_ne_nil _ _
    have hbatch := @collectBatch_batch table root shown hend m state hstate
    rw [← hvarbinds] at hbatch
    by_cases hless : length < m
    · refine ⟨1, fun requests allowance hle => ?_⟩
      obtain ⟨allowance, rfl⟩ := Nat.exists_eq_add_one.mpr hle
      rw [walkLoop, hanswer]
      simp only [if_neg hne, hbatch, hlength, decide_eq_true hless, if_pos]
      rw [foldl_push_results, List.take_of_length_le (by omega)]
    · have hdrop := @remaining_foldl_push table root shown state m
      have htake : (remaining table root state.current).take m ≠ [] := by
        rw [← List.length_pos_iff, List.length_take]
        omega
      obtain ⟨last, hlast, hlastCurrent⟩ := @foldl_push_current shown state _ htake
      have hlastAskable : Askable last.1 := by
        have hin := (List.takeWhile_sublist _).subset (List.mem_of_mem_take hlast)
        exact haskable last (SortedTable.mem_after.mp hin).1
      have hfewer := congrArg List.length hdrop
      rw [List.length_drop] at hfewer
      obtain ⟨n, hn⟩ := ih _ (by omega) (foldl_push_synced hstate _) (hlastCurrent ▸ hlastAskable) ha' hfewer
      refine ⟨n + 1, fun requests allowance hle => ?_⟩
      obtain ⟨allowance, rfl⟩ := Nat.exists_eq_add_one.mpr (Nat.lt_of_lt_of_le (Nat.succ_pos n) hle)
      rw [walkLoop, hanswer]
      simp only [if_neg hne, hbatch, hlength, decide_eq_false hless, Bool.false_eq_true, if_false]
      rw [hn _ _ (by omega), foldl_push_results, hdrop, List.append_assoc, ← List.map_append, List.take_append_drop,
        Nat.add_right_comm, Nat.add_assoc]

theorem walkSubtree_batches {agent : Agent α} {maxRepetitions : Option ℤ} {m : ℕ} {P : α → Prop} {Askable : OID → Prop}
    (hm : 0 < m) (hend : ∀ entry ∈ table.entries, entry.2 ≠ .endOfMibViewValue)
    (haskable : ∀ entry ∈ table.entries, Askable entry.1)
    (hagent : AnswersBatches agent shown table maxRepetitions m P Askable) (hroot : Askable root) {a : α} (ha : P a) :
    ∃ n, ∀ allowance, n ≤ allowance → walkSubtree agent root maxRepetitions allowance a =
      .returned ((remaining table root root).map (entryVarbind shown)) n := by
  have hsynced : (WalkState.start root).Synced := by
    intro last h
    cases h
  obtain ⟨n, hn⟩ := @walkLoop_batches _ _ root _ _ _ _ _ _ hm hend haskable hagent _ hsynced hroot a ha
  refine ⟨n, fun allowance hle => ?_⟩
  have hwalk := hn 0 allowance hle
  rwa [Nat.zero_add] at hwalk

end Walk

section Responder

variable {table : ObjectTable}

def repetitions (maxRepetitions : Option ℤ) : ℕ := (maxRepetitions.getD 1).toNat

theorem repetitions_pos {maxRepetitions : Option ℤ} (h : ∀ m, maxRepetitions = some m → 1 ≤ m) :
    0 < repetitions maxRepetitions := by
  cases maxRepetitions with
  | none => exact Nat.one_pos
  | some m =>
    have := h m rfl
    simp only [repetitions, Option.getD_some]
    omega

theorem answer_walkPdu (requestId : ℤ) (request : WalkRequest) : ∃ pdu,
    answer table (walkPdu requestId request) = some pdu ∧ pdu.errorStatus = 0 ∧
      pdu.varbinds = batch table (repetitions request.maxRepetitions) request.current := by
  obtain ⟨current, maxRepetitions⟩ := request
  cases maxRepetitions with
  | none => exact ⟨_, rfl, rfl, rfl⟩
  | some maxRepetitions =>
    refine ⟨_, rfl, rfl, ?_⟩
    rw [← bulkRows_singleton]
    exact bulkVarbinds_eq [⟨current, .nullValue⟩] 0 maxRepetitions

/-- What the requests of a walk from `root` are answered with can be displayed. -/
def Displays (enrich : Enricher) (shows : OID → SnmpValue → Prop) (root : OID) : Prop :=
  ∀ oid value, value = .endOfMibViewValue ∧ (oid = root ∨ ∃ shown, shows oid shown) ∨ shows oid value →
    ∃ display, enrich oid value = .ok display

theorem displays_enrichVarbind {bundle : Option MibRegistry} {shows : OID → SnmpValue → Prop} {root : OID}
    (hroot : WellFormed root) (hshows : ∀ oid value, shows oid value →
      WellFormed oid ∧ ∀ named, value = .objectIdentifierValue named → WellFormed named)
    (hprintable : ∀ oid value, value = .endOfMibViewValue ∧ (oid = root ∨ ∃ shown, shows oid shown) ∨ shows oid value →
      ∀ n ∈ shownIntegers bundle oid value, PyText.Printable n) : Displays (enrichVarbind bundle) shows root := by
  intro oid value h
  apply (enrichVarbind_isOk_iff bundle ?_ ?_).mpr (hprintable oid value h)
  · obtain ⟨-, rfl | ⟨shown, hshown⟩⟩ | hvalue := h
    · exact hroot
    · exact (hshows oid shown hshown).1
    · exact (hshows oid value hvalue).1
  · rintro named rfl
    obtain ⟨hend, -⟩ | hvalue := h
    · cases hend
    · exact (hshows oid _ hvalue).2 named rfl

def Askable (table : ObjectTable) (root current : OID) : Prop :=
  current = root ∨ ∃ value, (current, value) ∈ table.entries

theorem Askable.nextCurrent {root current : OID} (h : Askable table root current) :
    Askable table root (nextCurrent current (nextVarbind table current)) := by
  rw [Responder.nextCurrent, nextVarbind]
  cases hnext : table.next current with
  | none => exact h
  | some entry =>
    split_ifs
    · exact h
    · exact .inr ⟨entry.2, (SortedTable.next_eq_some_iff.mp hnext).1⟩

theorem mem_batch {root : OID} {repetitions : ℕ} {current : OID} (hcurrent : Askable table root current)
    {rawVarbind : RawVarBind} (h : rawVarbind ∈ batch table repetitions current) :
    rawVarbind.value = .endOfMibViewValue ∧ Askable table root rawVarbind.oid ∨
      (rawVarbind.oid, rawVarbind.value) ∈ table.entries := by
  induction repetitions generalizing current with
  | zero => cases h
  | succ repetitions ih =>
    obtain rfl | h := List.mem_cons.mp h
    · rw [nextVarbind]
      cases hnext : table.next current with
      | none => exact .inl ⟨rfl, hcurrent⟩
      | some entry => exact .inr (SortedTable.next_eq_some_iff.mp hnext).1
    · exact ih hcurrent.nextCurrent h

theorem responseFromPdu_eq {enrich : Enricher} {shown : OID → SnmpValue → Display} {pdu : Pdu}
    (hstatus : pdu.errorStatus = 0)
    (h : ∀ rawVarbind ∈ pdu.varbinds, enrich rawVarbind.oid rawVarbind.value =
      .ok (shown rawVarbind.oid rawVarbind.value)) :
    ∃ response, responseFromPdu enrich pdu = .ok response ∧ response.varbinds = pdu.varbinds.map (present shown) := by
  have hvarbinds : pdu.varbinds.mapM (publicVarbind enrich) = .ok (pdu.varbinds.map (present shown)) := by
    apply mapM_eq_ok
    intro rawVarbind hmem
    rw [publicVarbind, h rawVarbind hmem]
    rfl
  rw [responseFromPdu, hstatus, hvarbinds]
  exact ⟨_, rfl, rfl⟩

variable {w : Type}

theorem responderAgent_answersBatches {source : ResponderSource (StateT w (Except Error))} {world : w}
    (h : AnswersFrom source table world) (maxRepetitions : Option ℤ) :
    AnswersBatches (responderAgent source) (fun _ _ => ⟨none, none, none⟩) table maxRepetitions
      (repetitions maxRepetitions) (· = world) fun _ => True := by
  rintro _ current rfl -
  obtain ⟨pdu, hpdu, hstatus, hvarbinds⟩ := @answer_walkPdu table 1 ⟨current, maxRepetitions⟩
  obtain ⟨response, hresponse, hshown⟩ := @responseFromPdu_eq (fun _ _ => .ok ⟨none, none, none⟩)
    (fun _ _ => ⟨none, none, none⟩) pdu hstatus fun _ _ => rfl
  rw [responderAgent, buildResponsePdu_eq h, buildResponsePdu_table, hpdu, ok_bind]
  simp only [hresponse, ok_bind]
  exact ⟨response, _, rfl, rfl, hvarbinds ▸ hshown⟩

open InMemoryObjectSource

variable {σ : Type} {source : InMemoryObjectSource σ}

theorem table_values (hc : source.Coherent) (hend : ∀ oid, source.storedValue oid ≠ some .endOfMibViewValue) :
    ∀ entry ∈ (source.table hc).entries, entry.2 ≠ .endOfMibViewValue := by
  intro entry hentry heq
  exact hend entry.1 (heq ▸ (mem_table hc).mp hentry)

theorem walk_responder_exact (hreached : source.Reached) (hstatic : source.Static)
    (hend : ∀ oid, source.storedValue oid ≠ some .endOfMibViewValue) (rules : σ) (root : OID) :
    ∃ objects : List (OID × SnmpValue), objects.Pairwise (fun a b => a.1 < b.1) ∧
      (∀ oid value, (oid, value) ∈ objects ↔ source.storedValue oid = some value ∧ root <+: oid ∧ oid ≠ root) ∧
      ∀ maxRepetitions : Option ℤ, (∀ m, maxRepetitions = some m → 1 ≤ m) → ∃ n, ∀ allowance, n ≤ allowance →
        walkSubtree (responderAgent asSource) root maxRepetitions allowance { source := source, rules := rules } =
        .returned (objects.map fun object => { oid := object.1, value := object.2 }) n := by
  have hc := hreached.inv.coherent
  refine ⟨remaining (source.table hc) root root, remaining_sorted _ _ _, fun oid value => ?_, ?_⟩
  · rw [mem_remaining_root, mem_table hc]
  · intro maxRepetitions hm
    exact walkSubtree_batches (repetitions_pos hm) (table_values hc hend) (fun _ _ => trivial)
      (responderAgent_answersBatches (answersFrom_table hc hstatic rules) maxRepetitions) trivial rfl

theorem walk_responder_sample : ∃ objects : List (OID × SnmpValue),
    (∀ object ∈ [([1, 3, 6], .integerValue 1), ([1, 3, 6, 1], .octetStringValue [0x75, 0x70])], object ∈ objects) ∧
    ([1, 4], .counter32Value 5) ∉ objects ∧
    ∃ n, walkSubtree (responderAgent asSource) [1, 3] (some 1) n { source := sampleStore, rules := () } =
      .returned (objects.map fun object => { oid := object.1, value := object.2 }) n := by
  have hstatic : sampleStore.Static := by
    intro key stored hstored
    obtain ⟨object, -, -, rfl⟩ := lookup_sampleStore hstored
    exact ⟨_, rfl⟩
  obtain ⟨objects, -, hmem, hwalk⟩ := walk_responder_exact sampleStore_reached hstatic sampleStore_values () [1, 3]
  obtain ⟨n, hn⟩ := hwalk (some 1) (by simp)
  refine ⟨objects, ?_, fun houtside => ?_, n, hn n le_rfl⟩
  · simp only [List.forall_mem_cons, hmem]
    exact ⟨⟨rfl, by decide, by decide⟩, ⟨rfl, by decide, by decide⟩, by simp⟩
  · exact absurd ((hmem _ _).mp houtside).2.1 (by decide)

end Responder

namespace DirectManager

open InMemoryObjectSource

variable {w : Type} {manager : DirectManager w} {table : ObjectTable}

def shownBy (enrich : Enricher) (oid : OID) (value : SnmpValue) : Display :=
  match enrich oid value with
  | .ok display => display
  | .error _ => ⟨none, none, none⟩

theorem walkRequest_eq (exchange : Exchange w) {request : WalkRequest} (hcurrent : WellFormed request.current) :
    manager.walkRequest exchange request = do
      let (answer, world) ← buildResponsePdu manager.source (walkPdu exchange.nextId request) exchange.world
      match answer with
      | none => .error (.requestTimeoutError "SNMP request timed out waiting for a response")
      | some pdu =>
        let response ← responseFromPdu manager.enrich pdu
        return (response, { nextId := exchange.nextId + 1, world := world }) := by
  obtain ⟨current, maxRepetitions⟩ := request
  have htargets : normalizeTargets [.sequence current (tupleText current)] manager.bundle = .ok [current] := by
    rw [normalizeTargets_singleton, normalizeTarget_sequence hcurrent]
    rfl
  cases maxRepetitions with
  | none =>
    simp only [walkRequest, getNext, request, htargets, ok_bind]
    rfl
  | some maxRepetitions =>
    simp only [walkRequest, getBulk, request, htargets, ok_bind]
    rfl

theorem walkRequest_answersBatches {world : w} (h : AnswersFrom manager.source table world) {root : OID}
    (hdisplays : Displays manager.enrich (fun oid value => (oid, value) ∈ table.entries) root)
    (maxRepetitions : Option ℤ) :
    AnswersBatches manager.walkRequest (shownBy manager.enrich) table maxRepetitions (repetitions maxRepetitions)
      (fun exchange => exchange.world = world) fun current => WellFormed current ∧ Askable table root current := by
  rintro exchange current hworld ⟨hcurrent, haskable⟩
  obtain ⟨pdu, hpdu, hstatus, hvarbinds⟩ := @answer_walkPdu table exchange.nextId ⟨current, maxRepetitions⟩
  have hshown : ∀ rawVarbind ∈ pdu.varbinds, manager.enrich rawVarbind.oid rawVarbind.value =
      .ok (shownBy manager.enrich rawVarbind.oid rawVarbind.value) := by
    intro rawVarbind hmem
    rw [hvarbinds] at hmem
    obtain ⟨display, hdisplay⟩ := hdisplays _ _ (mem_batch haskable hmem)
    rw [shownBy, hdisplay]
  obtain ⟨response, hresponse, hpresent⟩ := responseFromPdu_eq hstatus hshown
  rw [walkRequest_eq exchange hcurrent, hworld, buildResponsePdu_eq h, buildResponsePdu_table, hpdu, ok_bind]
  simp only [hresponse, ok_bind]
  exact ⟨response, _, rfl, rfl, hvarbinds ▸ hpresent⟩

theorem walk_exact {σ : Type} {source : InMemoryObjectSource σ} (hreached : source.Reached) (hstatic : source.Static)
    (hend : ∀ oid, source.storedValue oid ≠ some .endOfMibViewValue) (rules : σ) (bundle : Option Resolver)
    {enrich : Enricher} {root : Target} (hproper : root.Proper bundle) {rootOid : OID}
    (hroot : normalizeTarget bundle root = .ok rootOid)
    (hdisplays : Displays enrich (fun oid value => source.storedValue oid = some value) rootOid)
    {maxRepetitions : Option ℤ} (hm : ∀ m, maxRepetitions = some m → 1 ≤ m) (nextId : ℕ) :
    ∃ n, ∀ allowance, n ≤ allowance →
      walk { bundle := bundle, enrich := enrich, source := asSource } root maxRepetitions allowance
        { nextId := nextId, world := { source := source, rules := rules } } =
      .returned ((remaining (source.table hreached.inv.coherent) rootOid rootOid).map
        (entryVarbind (shownBy enrich))) n := by
  have hc := hreached.inv.coherent
  have haskable : ∀ entry ∈ (source.table hc).entries, WellFormed entry.1 ∧ Askable (source.table hc) rootOid entry.1 :=
    fun entry hentry => ⟨hreached.inv.wellFormed _ (mem_values_of_mem_table hc hentry), .inr ⟨entry.2, hentry⟩⟩
  simp only [← mem_table hc] at hdisplays
  have hagent := @walkRequest_answersBatches _ { bundle := bundle, enrich := enrich, source := asSource } _ _
    (answersFrom_table hc hstatic rules) _ hdisplays maxRepetitions
  obtain ⟨n, hn⟩ := walkSubtree_batches (repetitions_pos hm) (table_values hc hend) haskable hagent
    ⟨normalizeTarget_wellFormed hproper hroot, .inl rfl⟩
    (a := { nextId := nextId, world := { source := source, rules := rules } }) rfl
  refine ⟨n, fun allowance hle => ?_⟩
  have htargets : normalizeTargets [root] bundle = .ok [rootOid] := by
    rw [normalizeTargets_singleton, hroot]
    rfl
  rw [walk, htargets]
  exact hn allowance hle

end DirectManager

end TrishulSnmp.Manager
