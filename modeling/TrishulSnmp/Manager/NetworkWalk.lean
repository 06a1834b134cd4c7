import TrishulSnmp.Manager.Network
import TrishulSnmp.Manager.WalkResponder

namespace TrishulSnmp.Manager

open Mib Outcome Wire Responder Transport InMemoryObjectSource

/-! The walk of a manager whose requests and responses travel as datagrams. -/

inductive WalkProgress
  | asking (state : WalkState)
  | returned (results : List VarBind)
  | raised (e : Error)

def walkQuery (maxRepetitions : Option ℤ) (current : OID) : Query :=
  let targets := [.sequence current (tupleText current)]
  match maxRepetitions with
  | none => { pduType := .getNext, targets := targets, errorStatus := 0, errorIndex := 0 }
  | some maxRepetitions => { pduType := .getBulk, targets := targets, errorStatus := 0, errorIndex := maxRepetitions }

namespace WalkProgress

def question (maxRepetitions : Option ℤ) : WalkProgress → Option Query
  | .asking state => some (walkQuery maxRepetitions state.current)
  | .returned _ | .raised _ => none

def read (enrich : Enricher) (root : OID) (state : WalkState) (pdu : Pdu) : Except Error WalkProgress := do
  let response ← responseFromPdu enrich pdu
  if response.varbinds = [] then return .returned state.results
  else
    let (state, stop) := collectBatch root state response.varbinds
    if stop then return .returned state.results else return .asking state

def resume (enrich : Enricher) (root : OID) (progress : WalkProgress) (outcome : Except Error Pdu) : WalkProgress :=
  match progress with
  | .asking state =>
    match outcome >>= read enrich root state with
    | .ok progress => progress
    | .error e => .raised e
  | .returned _ | .raised _ => progress

end WalkProgress

def outcomeAgent (enrich : Enricher) (outcome : ℕ → Query → Except Error Pdu) : Agent ℕ := fun id request => do
  let response ← outcome id (walkQuery request.maxRepetitions request.current) >>= responseFromPdu enrich
  return (response, id + 1)

section Loop

variable {w d τ : Type} {network : DatagramNetwork WalkProgress w Query Pdu d τ Error} {enrich : Enricher}
  {root : OID} {maxRepetitions : Option ℤ}

theorem talk_of_walkLoop (hquestion : network.question = WalkProgress.question maxRepetitions)
    (hresume : network.resume = WalkProgress.resume enrich root) (outcome : ℕ → Query → Except Error Pdu)
    {allowance requests n id : ℕ} {state : WalkState} {results : List VarBind}
    (h : walkLoop (outcomeAgent enrich outcome) root maxRepetitions allowance requests state id = .returned results n) :
    network.talk outcome allowance id (.asking state) = .returned results := by
  have hended {fuel id : ℕ} (results : List VarBind) :
      network.talk outcome fuel id (.returned results) = .returned results := by
    cases fuel with
    | zero => rfl
    | succ fuel =>
      rw [DatagramNetwork.talk, hquestion]
      rfl
  induction allowance generalizing requests id state with
  | zero => cases h
  | succ allowance ih =>
    have hasks : network.question (.asking state) = some (walkQuery maxRepetitions state.current) := by
      rw [hquestion]
      rfl
    rw [DatagramNetwork.talk, hasks]
    simp only [hresume]
    rw [walkLoop] at h
    cases hresponse : outcome id (walkQuery maxRepetitions state.current) >>= responseFromPdu enrich with
    | error e =>
      simp only [outcomeAgent, hresponse, error_bind] at h
      cases h
    | ok response =>
      have hread : outcome id (walkQuery maxRepetitions state.current) >>= WalkProgress.read enrich root state =
          if response.varbinds = [] then .ok (.returned state.results)
          else if (collectBatch root state response.varbinds).2 then
            .ok (.returned (collectBatch root state response.varbinds).1.results)
          else .ok (.asking (collectBatch root state response.varbinds).1) := by
        obtain ⟨pdu, hpdu, hresponse⟩ := bind_ok_iff.mp hresponse
        rw [hpdu, ok_bind, WalkProgress.read, hresponse, ok_bind]
        rfl
      simp only [outcomeAgent, hresponse, ok_bind] at h
      change (if response.varbinds = [] then _ else _) = _ at h
      rw [WalkProgress.resume, hread]
      by_cases hnil : response.varbinds = []
      · rw [if_pos hnil] at h ⊢
        cases h
        exact hended _
      · rw [if_neg hnil] at h ⊢
        cases hstop : (collectBatch root state response.varbinds).2 with
        | true =>
          simp only [hstop, if_true] at h ⊢
          cases h
          exact hended _
        | false =>
          simp only [hstop, Bool.false_eq_true, if_false] at h ⊢
          exact ih h

end Loop

def wireTable (table : ObjectTable) : ObjectTable := table.mapValues Asn1.onWire

section WireTable

variable {table : ObjectTable}

theorem onWire_eq_endOfMibView {value : SnmpValue} :
    Asn1.onWire value = .endOfMibViewValue ↔ value = .endOfMibViewValue := by
  cases value with
  | ipAddressValue text =>
    rw [Asn1.onWire]
    cases Asn1.encodeIpAddress text <;> simp
  | _ => rfl

theorem askable_wireTable {root oid : OID} : Askable (wireTable table) root oid ↔ Askable table root oid := by
  apply or_congr_right
  constructor
  · rintro ⟨value, hentry⟩
    obtain ⟨stored, hmem, -⟩ := (SortedTable.mem_mapValues _).mp hentry
    exact ⟨stored, hmem⟩
  · rintro ⟨value, hentry⟩
    exact ⟨_, (SortedTable.mem_mapValues _).mpr ⟨value, hentry, rfl⟩⟩

theorem nextVarbind_wireTable (oid : OID) : nextVarbind (wireTable table) oid = (nextVarbind table oid).onWire := by
  rw [nextVarbind, nextVarbind, wireTable, SortedTable.next_mapValues]
  cases table.next oid <;> rfl

theorem nextCurrent_onWire (current : OID) (varbind : RawVarBind) :
    nextCurrent current varbind.onWire = nextCurrent current varbind := by
  simp only [nextCurrent, RawVarBind.onWire, onWire_eq_endOfMibView]

theorem batch_wireTable (repetitions : ℕ) (current : OID) :
    batch (wireTable table) repetitions current = (batch table repetitions current).map RawVarBind.onWire := by
  induction repetitions generalizing current with
  | zero => rfl
  | succ repetitions ih => rw [batch, batch, List.map_cons, nextVarbind_wireTable, nextCurrent_onWire, ih]

theorem wireTable_values (h : ∀ entry ∈ table.entries, entry.2 ≠ .endOfMibViewValue) :
    ∀ entry ∈ (wireTable table).entries, entry.2 ≠ .endOfMibViewValue := by
  intro entry hentry heq
  obtain ⟨value, hmem, hvalue⟩ := (SortedTable.mem_mapValues _).mp hentry
  exact h _ hmem (onWire_eq_endOfMibView.mp (hvalue.trans heq))

end WireTable

section Walk

variable {manager : SnmpManager} {table : ObjectTable} {root : OID} {maxRepetitions : Option ℤ}

theorem oids_walkQuery {current : OID} (h : WellFormed current) :
    normalizeTargets (walkQuery maxRepetitions current).targets manager.bundle = .ok [current] := by
  have htargets : (walkQuery maxRepetitions current).targets = [.sequence current (tupleText current)] := by
    cases maxRepetitions <;> rfl
  rw [htargets, normalizeTargets_singleton, normalizeTarget_sequence h]
  rfl

theorem walkQuery_asks {current : OID} (h : WellFormed current) : manager.Asks (walkQuery maxRepetitions current) where
  pduType := by cases maxRepetitions <;> simp [walkQuery]
  nonneg := by
    rw [normalizeTargets_oids (oids_walkQuery h), List.forall_mem_singleton]
    exact h.2

theorem queryPdu_walkQuery (requestId : ℕ) (current : OID) :
    queryPdu requestId (walkQuery maxRepetitions current) [current] = walkPdu requestId ⟨current, maxRepetitions⟩ := by
  cases maxRepetitions <;> rfl

theorem expected_walkQuery (requestId : ℕ) {current : OID} (h : WellFormed current) :
    (manager.expected table requestId (walkQuery maxRepetitions current)).errorStatus = 0 ∧
      (manager.expected table requestId (walkQuery maxRepetitions current)).varbinds =
        batch (wireTable table) (repetitions maxRepetitions) current := by
  obtain ⟨response, hresponse, hexpected⟩ :=
    @expected_eq manager table requestId _ (walkQuery_asks h)
  obtain ⟨pdu, hpdu, hstatus, hvarbinds⟩ := @answer_walkPdu table requestId ⟨current, maxRepetitions⟩
  rw [normalizeTargets_oids (oids_walkQuery h), queryPdu_walkQuery, hpdu] at hresponse
  obtain rfl := Option.some.inj hresponse
  rw [hexpected, batch_wireTable, ← hvarbinds]
  exact ⟨hstatus, rfl⟩

theorem responseFromPdu_expected
    (hdisplays : Displays manager.enrich (fun oid value => (oid, value) ∈ (wireTable table).entries) root)
    (requestId : ℕ) {current : OID} (h : WellFormed current) (hcurrent : Askable table root current) :
    ∃ response, responseFromPdu manager.enrich
        (manager.expected table requestId (walkQuery maxRepetitions current)) = .ok response ∧
      response.varbinds =
        (batch (wireTable table) (repetitions maxRepetitions) current).map
          (present (DirectManager.shownBy manager.enrich)) := by
  obtain ⟨hstatus, hvarbinds⟩ := @expected_walkQuery manager table maxRepetitions requestId _ h
  rw [← hvarbinds]
  refine responseFromPdu_eq hstatus fun rawVarbind hmem => ?_
  rw [hvarbinds] at hmem
  obtain ⟨display, hdisplay⟩ := hdisplays _ _ (mem_batch (askable_wireTable.mpr hcurrent) hmem)
  rw [DirectManager.shownBy, hdisplay]

def listing (manager : SnmpManager) (table : ObjectTable) (root : OID) : List VarBind :=
  (remaining (wireTable table) root root).map (entryVarbind (DirectManager.shownBy manager.enrich))

structure AskingInv (manager : SnmpManager) (table : ObjectTable) (root : OID) (start nextId : ℕ) (state : WalkState) :
    Prop where
  synced : state.Synced
  current : Askable table root state.current
  collected : state.results ++
    (remaining (wireTable table) root state.current).map (entryVarbind (DirectManager.shownBy manager.enrich)) =
      listing manager table root
  paid : nextId ≤ start + state.results.length

def WalkInv (manager : SnmpManager) (table : ObjectTable) (root : OID) (start nextId : ℕ) (progress : WalkProgress)
    (_ : List Bytes) : Prop :=
  match progress with
  | .asking state => AskingInv manager table root start nextId state
  | .returned results => results = listing manager table root ∧ nextId ≤ start + results.length + 1
  | .raised e => NetworkFailure e ∧ nextId ≤ start + (listing manager table root).length + 1

theorem AskingInv.length_le {start nextId : ℕ} {state : WalkState}
    (h : AskingInv manager table root start nextId state) :
    state.results.length ≤ (listing manager table root).length := by
  rw [← h.collected, List.length_append]
  omega

theorem WalkInv.nextId_le {start nextId : ℕ} {progress : WalkProgress} {served : List Bytes}
    (h : WalkInv manager table root start nextId progress served) :
    nextId ≤ start + (listing manager table root).length + 1 := by
  cases progress with
  | asking state =>
    have hpaid := h.paid
    have hcollected := h.length_le
    omega
  | returned results =>
    obtain ⟨rfl, hpaid⟩ := h
    exact hpaid
  | raised e => exact h.2

theorem WalkInv.nextId_lt {start nextId : ℕ} {progress : WalkProgress} {served : List Bytes} {query : Query}
    (h : WalkInv manager table root start nextId progress served)
    (hasks : progress.question maxRepetitions = some query) :
    nextId < start + (listing manager table root).length + 1 := by
  cases progress with
  | asking state =>
    have hpaid := h.paid
    have hcollected := h.length_le
    omega
  | returned results => cases hasks
  | raised e => cases hasks

variable (hend : ∀ entry ∈ table.entries, entry.2 ≠ .endOfMibViewValue)
  (hdisplays : Displays manager.enrich (fun oid value => (oid, value) ∈ (wireTable table).entries) root)
  (hm : ∀ m, maxRepetitions = some m → 1 ≤ m)

include hend hdisplays hm

theorem read_expected (requestId : ℕ) {state : WalkState} (hsynced : state.Synced)
    (hwellFormed : WellFormed state.current) (hcurrent : Askable table root state.current) :
    WalkProgress.read manager.enrich root state
      (manager.expected table requestId (walkQuery maxRepetitions state.current)) =
      let rest := remaining (wireTable table) root state.current
      let collected := (rest.take (repetitions maxRepetitions)).foldl
        (WalkState.push (DirectManager.shownBy manager.enrich)) state
      .ok (if rest.length < repetitions maxRepetitions then .returned collected.results else .asking collected) := by
  obtain ⟨response, hresponse, hvarbinds⟩ :=
    @responseFromPdu_expected manager table _ maxRepetitions hdisplays requestId _ hwellFormed hcurrent
  have hpos := repetitions_pos hm
  have hne : response.varbinds ≠ [] := by
    obtain ⟨m, hm⟩ := Nat.exists_eq_add_one.mpr hpos
    rw [hvarbinds, hm]
    exact List.cons_ne_nil _ _
  have hbatch := @collectBatch_batch (wireTable table) root (DirectManager.shownBy manager.enrich)
    (wireTable_values hend)
    (repetitions maxRepetitions) state hsynced
  rw [WalkProgress.read, hresponse, ok_bind, if_neg hne, hvarbinds, hbatch]
  by_cases hless : (remaining (wireTable table) root state.current).length < repetitions maxRepetitions
  · simp [hless]
  · simp [hless]

theorem AskingInv.answered {start nextId : ℕ} {state : WalkState} (h : AskingInv manager table root start nextId state)
    (hwellFormed : WellFormed state.current) {served : List Bytes} :
    WalkInv manager table root start (nextId + 1) (WalkProgress.resume manager.enrich root (.asking state)
      (.ok (manager.expected table nextId (walkQuery maxRepetitions state.current)))) served := by
  have hpos := repetitions_pos hm
  have hresults := @foldl_push_results (DirectManager.shownBy manager.enrich) state
    ((remaining (wireTable table) root state.current).take (repetitions maxRepetitions))
  have hdrop := @remaining_foldl_push (wireTable table) root (DirectManager.shownBy manager.enrich) state
    (repetitions maxRepetitions)
  have hlength := congrArg List.length hresults
  rw [List.length_append, List.length_map, List.length_take] at hlength
  have hpaid := h.paid
  rw [WalkProgress.resume, ok_bind, read_expected hend hdisplays hm nextId h.synced hwellFormed h.current]
  simp only
  split_ifs with hless
  · refine ⟨?_, by omega⟩
    rw [hresults, List.take_of_length_le hless.le, h.collected]
  · refine ⟨foldl_push_synced h.synced _, ?_, ?_, by omega⟩
    · have htake : (remaining (wireTable table) root state.current).take (repetitions maxRepetitions) ≠ [] := by
        rw [← List.length_pos_iff, List.length_take]
        omega
      obtain ⟨entry, hentry, hcurrent⟩ :=
        @foldl_push_current (DirectManager.shownBy manager.enrich) state _ htake
      have hafter := (List.takeWhile_sublist _).subset (List.mem_of_mem_take hentry)
      obtain ⟨value, hvalue, -⟩ := (SortedTable.mem_mapValues _).mp (SortedTable.mem_after.mp hafter).1
      rw [hcurrent]
      exact .inr ⟨value, hvalue⟩
    · rw [hresults, hdrop, List.append_assoc, ← List.map_append, List.take_append_drop, h.collected]

theorem walk_preserves {σ : Type} (responder : V2cResponder (World σ)) {limit : ℕ} {sendFails : ℕ → ℕ → Bool}
    {Sound : World σ → Prop} {Good : ℕ → Query → Prop} {start : ℕ}
    (hgood : ∀ requestId current, Askable table root current →
      requestId ≤ start + (listing manager table root).length → Good requestId (walkQuery maxRepetitions current))
    (hlegal : ∀ current, Askable table root current → WellFormed current ∧
      ∃ content, Asn1.encodeOid current = .ok content) :
    (managerNetwork manager responder limit sendFails (WalkProgress.question maxRepetitions)
      (WalkProgress.resume manager.enrich root)).Preserves Sound Good (manager.expected table) NetworkFailure
      (WalkInv manager table root start) where
  serve := fun _ h => h
  good := by
    intro requestId progress served query h hasks
    cases progress with
    | asking state =>
      cases hasks
      exact hgood requestId state.current h.current (h.paid.trans (Nat.add_le_add_left h.length_le start))
    | returned results => cases hasks
    | raised e => cases hasks
  resume := by
    intro requestId progress served query outcome h hasks houtcome
    cases progress with
    | asking state =>
      cases hasks
      obtain ⟨hwellFormed, hencodes⟩ := hlegal state.current h.current
      have hpaid := h.paid
      have hle := h.length_le
      obtain ⟨data, hdata⟩ : ∃ data, manager.prepareRequest requestId (walkQuery maxRepetitions state.current) =
          .ok data :=
        prepareRequest_ok requestId (oids_walkQuery hwellFormed) (by simpa using hencodes)
      have hnumber : (managerNetwork manager responder limit sendFails (WalkProgress.question maxRepetitions)
          (WalkProgress.resume manager.enrich root)).numberAfter requestId (walkQuery maxRepetitions state.current) =
            requestId + 1 := DatagramNetwork.numberAfter_of_prepare hdata
      rw [hnumber]
      cases houtcome with
      | refused hrefused =>
        have heq := hrefused.symm.trans hdata
        cases heq
      | failed hfailure => exact ⟨hfailure, by omega⟩
      | answered _ _ => exact h.answered hend hdisplays hm hwellFormed
    | returned results => cases hasks
    | raised e => cases hasks

end Walk

section Run

variable {σ : Type} {source : InMemoryObjectSource σ} {limit : ℕ}

abbrev WalkRunState (σ : Type) := DatagramNetwork.State WalkProgress (World σ) Query Bytes Reception

def walkStart (root : OID) (nextId : ℕ) (world : World σ) : WalkRunState σ :=
  { nextId := nextId
    program := .asking (.start root)
    phase := .ready
    requests := []
    world := world
    served := []
    replies := [] }

def walkNetwork (manager : SnmpManager) (responder : V2cResponder (World σ)) (limit : ℕ) (sendFails : ℕ → ℕ → Bool)
    (root : OID) (maxRepetitions : Option ℤ) : DatagramNetwork WalkProgress (World σ) Query Pdu Bytes Reception Error :=
  managerNetwork manager responder limit sendFails (WalkProgress.question maxRepetitions)
    (WalkProgress.resume manager.enrich root)

theorem walkStart_inv {manager : SnmpManager} {table : ObjectTable} {root : OID} {maxRepetitions : Option ℤ}
    (responder : V2cResponder (World σ)) (sendFails : ℕ → ℕ → Bool) (nextId : ℕ) (world : World σ) :
    (walkNetwork manager responder limit sendFails root maxRepetitions).Inv (· = world)
      manager.dispatcher.accept (manager.expected table) (WalkInv manager table root nextId)
      (walkStart root nextId world) where
  world := rfl
  program := ⟨nofun, .inl rfl, rfl, le_rfl⟩
  requests := by simp [walkStart]
  replies := by simp [walkStart]

theorem legal_askable (h : Servable source) {root : OID} (hroot : WellFormed root)
    (hencodes : ∃ content, Asn1.encodeOid root = .ok content) {current : OID}
    (hcurrent : Askable (source.table h.reached.inv.coherent) root current) :
    WellFormed current ∧ ∃ content, Asn1.encodeOid current = .ok content := by
  obtain rfl | ⟨value, hentry⟩ := hcurrent
  · exact ⟨hroot, hencodes⟩
  · have hmem := mem_values_of_mem_table h.reached.inv.coherent hentry
    exact ⟨h.reached.inv.wellFormed _ hmem, h.oids _ hmem⟩

theorem mem_listed (hservable : Servable source) (root : OID) (oid : OID) (value : SnmpValue) :
    (oid, value) ∈ remaining (wireTable (source.table hservable.reached.inv.coherent)) root root ↔
      (∃ stored, source.storedValue oid = some stored ∧ value = Asn1.onWire stored) ∧ root <+: oid ∧ oid ≠ root := by
  rw [mem_remaining_root, wireTable, SortedTable.mem_mapValues]
  simp only [mem_table, eq_comm]

theorem displays_table (hservable : Servable source) {enrich : Enricher} {root : OID}
    (h : Displays enrich (fun oid value => ∃ stored, source.storedValue oid = some stored ∧ value = Asn1.onWire stored)
      root) :
    Displays enrich (fun oid value => (oid, value) ∈ (wireTable (source.table hservable.reached.inv.coherent)).entries)
      root := by
  simpa only [Displays, wireTable, SortedTable.mem_mapValues, mem_table, eq_comm] using h

theorem networked_walk_exact (manager : SnmpManager) (hservable : Servable source) (rules : σ)
    (communities : Option (List String))
    (hallowed : communityAllowed (normalizeCommunities communities) manager.security.community)
    (hlimit : limit < lengthLimit) (hread : limit ≤ manager.maxDatagramSize) (sendFails : ℕ → ℕ → Bool)
    (hend : ∀ oid, source.storedValue oid ≠ some .endOfMibViewValue)
    {target : Target} (hproper : target.Proper manager.bundle) {root : OID}
    (hroot : normalizeTarget manager.bundle target = .ok root) (hdisplays : Displays manager.enrich (fun oid value =>
      ∃ stored, source.storedValue oid = some stored ∧ value = Asn1.onWire stored) root)
    (hencodes : ∃ content, Asn1.encodeOid root = .ok content) (nextId : ℕ) :
    ∃ objects : List (OID × SnmpValue), objects.Pairwise (fun a b => a.1 < b.1) ∧
      (∀ oid value, (oid, value) ∈ objects ↔ (∃ stored, source.storedValue oid = some stored ∧
        value = Asn1.onWire stored) ∧ root <+: oid ∧ oid ≠ root) ∧
      ∀ maxRepetitions : Option ℤ, (∀ m, maxRepetitions = some m → 1 ≤ m) →
        let network := walkNetwork manager (V2cResponder.new communities asSource) limit sendFails root maxRepetitions
        let collected := objects.map (entryVarbind (DirectManager.shownBy manager.enrich))
        ∀ state, (network.system (walkStart root nextId { source := source, rules := rules })).Reachable state →
          (match state.program with
            | .asking walk => walk.results <+: collected
            | .returned results => results = collected
            | .raised e => NetworkFailure e) ∧
          (network.transmitted state).length ≤ (manager.retries + 1) * (objects.length + 1) := by
  let table := source.table hservable.reached.inv.coherent
  refine ⟨remaining (wireTable table) root root, remaining_sorted _ _ _, mem_listed hservable root, ?_⟩
  intro maxRepetitions hm network collected state hreachable
  have hlegal := fun current => @legal_askable _ _ hservable root (normalizeTarget_wellFormed hproper hroot) hencodes
    current
  have hlawful : network.Lawful (· = ⟨source, rules⟩)
      (fun _ => manager.Asks) _ (manager.expected table) NetworkFailure :=
    managerNetwork_lawful hservable hallowed hlimit hread fun _ _ h => h
  have hkept : network.Preserves (· = ⟨source, rules⟩) (fun _ => manager.Asks) (manager.expected table) NetworkFailure
      (WalkInv manager table root nextId) :=
    walk_preserves (table_values _ hend) (displays_table hservable hdisplays) hm _
      (fun _ current hcurrent _ => walkQuery_asks (hlegal current hcurrent).1) hlegal
  have hinv := DatagramNetwork.reachable_inv hlawful hkept (walkStart_inv _ sendFails nextId _) hreachable
  have hsent := DatagramNetwork.transmitted_length_le dispatcherNetwork_copies rfl hreachable
  have hlength : (listing manager table root).length = (remaining (wireTable table) root root).length :=
    List.length_map _
  refine ⟨?_, hsent.trans ?_⟩
  · have hprogram := hinv.program
    cases hprogress : state.program with
    | asking walk =>
      rw [hprogress] at hprogram
      exact ⟨_, hprogram.collected⟩
    | returned results =>
      rw [hprogress] at hprogram
      exact hprogram.1
    | raised e =>
      rw [hprogress] at hprogram
      exact hprogram.1
  · have hle : state.nextId ≤ nextId + (listing manager table root).length + 1 :=
      hinv.nextId_le WalkInv.nextId_le WalkInv.nextId_lt
    simp only [walkStart, List.length_nil, Nat.zero_add]
    apply Nat.mul_le_mul_left
    omega

theorem listing_length_le (manager : SnmpManager) (hc : source.Coherent) (root : OID) :
    (listing manager (source.table hc) root).length ≤ source.sortedOids.length := by
  rw [listing, List.length_map]
  calc (remaining (wireTable (source.table hc)) root root).length
      ≤ ((wireTable (source.table hc)).after root).length := (List.takeWhile_sublist _).length_le
    _ ≤ (wireTable (source.table hc)).entries.length := List.length_filter_le _ _
    _ = (source.table hc).entries.length := List.length_map _
    _ ≤ source.sortedOids.length := List.length_filterMap_le _ _

theorem sampleStore_displays : Displays (enrichVarbind (some sampleRegistry))
    (fun oid value => ∃ stored, sampleStore.storedValue oid = some stored ∧ value = Asn1.onWire stored) [1, 3] := by
  have hnames : ∀ object ∈ sampleObjects, WellFormed object.1 ∧ ∀ named, Asn1.onWire object.2 ≠
      .objectIdentifierValue named := by
    simp only [sampleObjects, List.forall_mem_cons, Asn1.onWire, ne_eq, reduceCtorEq, not_false_eq_true, implies_true,
      and_true]
    exact ⟨by decide, by decide, by decide, by simp⟩
  have hprintable : ∀ object ∈ sampleObjects, ∀ value ∈ [.endOfMibViewValue, Asn1.onWire object.2],
      ∀ n ∈ shownIntegers (some sampleRegistry) object.1 value, PyText.Printable n := by decide +kernel
  have hroot : WellFormed [1, 3] := by decide
  refine displays_enrichVarbind hroot ?_ ?_
  · rintro oid _ ⟨stored, hstored, rfl⟩
    obtain ⟨object, hmem, rfl, rfl⟩ := storedValue_storeHolding hstored
    exact ⟨(hnames object hmem).1, fun named heq => absurd heq ((hnames object hmem).2 named)⟩
  · rintro oid value (⟨rfl, rfl | ⟨_, stored, hstored, -⟩⟩ | ⟨stored, hstored, rfl⟩)
    · decide +kernel
    · obtain ⟨object, hmem, rfl, -⟩ := storedValue_storeHolding hstored
      exact hprintable object hmem _ List.mem_cons_self
    · obtain ⟨object, hmem, rfl, rfl⟩ := storedValue_storeHolding hstored
      exact hprintable object hmem _ (List.mem_cons_of_mem _ List.mem_cons_self)

abbrev sampleWalk := walkNetwork sampleManager (V2cResponder.new none (asSource (σ := Unit))) 65507
  (fun _ _ => false) [1, 3] none

def laterRequests : List Bytes := [
  [48, 27, 2, 1, 1, 4, 1, 112, 161, 19, 2, 1, 2, 2, 1, 0, 2, 1, 0, 48, 8, 48, 6, 6, 2, 43, 6, 5, 0],
  [48, 28, 2, 1, 1, 4, 1, 112, 161, 20, 2, 1, 3, 2, 1, 0, 2, 1, 0, 48, 9, 48, 7, 6, 3, 43, 6, 1, 5, 0]]

def laterReplies : List Bytes := [
  [48, 30, 2, 1, 1, 4, 1, 112, 162, 22, 2, 1, 2, 2, 1, 0, 2, 1, 0, 48, 11, 48, 9, 6, 3, 43, 6, 1, 4, 2, 117, 112],
  [48, 27, 2, 1, 1, 4, 1, 112, 162, 19, 2, 1, 3, 2, 1, 0, 2, 1, 0, 48, 8, 48, 6, 6, 1, 44, 65, 1, 5]]

def sampleWalkRun : List (DatagramNetwork.Action Bytes Reception) := [
  .ask, .serve (sampleRequest 1), .give .timedOut, .give (.datagram (sampleReply 1)),
  .ask, .give (.datagram (sampleReply 1)), .serve laterRequests[0], .give (.datagram laterReplies[0]),
  .ask, .serve laterRequests[1], .give (.datagram laterReplies[1])]

def WalkProgress.results? : WalkProgress → Option (List VarBind)
  | .returned results => some results
  | _ => none

theorem sampleWalk_reached : ∃ (state : WalkRunState Unit) (results : List VarBind),
    (sampleWalk.system (walkStart [1, 3] 1 sampleWorld)).Reachable state ∧ state.program = .returned results := by
  let system := sampleWalk.system (walkStart [1, 3] 1 sampleWorld)
  obtain ⟨state, -, hreached, hreturned⟩ : ∃ state, system.run (fun _ _ => True) _ sampleWalkRun = some state ∧
      system.Reaches (fun _ _ => True) state ∧ state.program.results?.isSome :=
    System.exists_of_run rfl (by decide +kernel)
  cases hprogram : state.program with
  | returned results => exact ⟨state, results, hreached, hprogram⟩
  | _ =>
    rw [hprogram] at hreturned
    cases hreturned

theorem networked_walk_exact_sample : ∃ objects : List (OID × SnmpValue),
    (∀ object ∈ [([1, 3, 6], .integerValue 1), ([1, 3, 6, 1], .octetStringValue [0x75, 0x70])], object ∈ objects) ∧
    ∃ state : WalkRunState Unit,
      state.program = .returned (objects.map (entryVarbind (DirectManager.shownBy sampleManager.enrich))) ∧
      (sampleWalk.transmitted state).length ≤ 2 * (objects.length + 1) := by
  have hlimit : 65507 < lengthLimit := by decide
  have htarget : (Target.sequence [1, 3] (tupleText [1, 3])).Proper sampleManager.bundle := .inl trivial
  obtain ⟨objects, -, hmem, hwalk⟩ := networked_walk_exact sampleManager sampleStore_servable () none rfl hlimit
    (by decide) (fun _ _ => false) sampleStore_values htarget rfl sampleStore_displays ⟨[43], by decide⟩ 1
  obtain ⟨state, results, hreached, hprogram⟩ := sampleWalk_reached
  obtain ⟨hresults, hsent⟩ := hwalk none (by simp) state hreached
  rw [hprogram] at hresults
  refine ⟨objects, ?_, state, hresults ▸ hprogram, hsent⟩
  simp only [List.forall_mem_cons, hmem]
  exact ⟨⟨⟨_, rfl, rfl⟩, by decide, by decide⟩, ⟨⟨_, rfl, rfl⟩, by decide, by decide⟩, by simp⟩

theorem talk_asking {w : Type} {manager : SnmpManager} {table : ObjectTable} {root : OID} {maxRepetitions : Option ℤ}
    {start id : ℕ} {state : WalkState}
    (network : DatagramNetwork WalkProgress w Query Pdu Bytes Reception Error)
    (hquestion : network.question = WalkProgress.question maxRepetitions)
    (hresume : network.resume = WalkProgress.resume manager.enrich root)
    (hend : ∀ entry ∈ table.entries, entry.2 ≠ .endOfMibViewValue)
    (hdisplays : Displays manager.enrich (fun oid value => (oid, value) ∈ (wireTable table).entries) root)
    (hm : ∀ m, maxRepetitions = some m → 1 ≤ m)
    (hwellFormed : ∀ current, Askable table root current → WellFormed current)
    (h : AskingInv manager table root start id state) : ∃ fuel,
    network.talk (fun id query => .ok (manager.expected table id query)) (fuel + 1) id (.asking state) =
      .returned (listing manager table root) := by
  have hagent : AnswersBatches (outcomeAgent manager.enrich fun id query => .ok (manager.expected table id query))
      (DirectManager.shownBy manager.enrich) (wireTable table) maxRepetitions (repetitions maxRepetitions)
      (fun _ => True) (Askable table root) := by
    intro id current _ hcurrent
    obtain ⟨response, hresponse, hvarbinds⟩ :=
      @responseFromPdu_expected manager table _ maxRepetitions hdisplays id _ (hwellFormed current hcurrent) hcurrent
    refine ⟨response, id + 1, ?_, trivial, hvarbinds⟩
    rw [outcomeAgent, ok_bind, hresponse]
    rfl
  have haskable : ∀ entry ∈ (wireTable table).entries, Askable table root entry.1 := by
    intro entry hentry
    obtain ⟨value, hvalue, -⟩ := (SortedTable.mem_mapValues _).mp hentry
    exact .inr ⟨value, hvalue⟩
  obtain ⟨n, hn⟩ := @walkLoop_batches _ _ root _ _ _ _ _ _ (repetitions_pos hm) (wireTable_values hend) haskable hagent
    _ h.synced h.current id trivial
  refine ⟨n, ?_⟩
  rw [← h.collected]
  exact talk_of_walkLoop hquestion hresume _ (hn 0 (n + 1) (Nat.le_succ n))

theorem networked_walk_completes (manager : SnmpManager) (hservable : Servable source) (rules : σ)
    (communities : Option (List String))
    (hallowed : communityAllowed (normalizeCommunities communities) manager.security.community)
    (hlimit : limit < lengthLimit) (hread : limit ≤ manager.maxDatagramSize)
    (hend : ∀ oid, source.storedValue oid ≠ some .endOfMibViewValue)
    {target : Target} (hproper : target.Proper manager.bundle) {root : OID}
    (hroot : normalizeTarget manager.bundle target = .ok root) (hdisplays : Displays manager.enrich (fun oid value =>
      ∃ stored, source.storedValue oid = some stored ∧ value = Asn1.onWire stored) root)
    (hencodes : ∃ content, Asn1.encodeOid root = .ok content) {maxRepetitions : Option ℤ}
    (hm : ∀ m, maxRepetitions = some m → 1 ≤ m) (nextId : ℕ)
    (hfits : ∀ requestId ≤ nextId + source.sortedOids.length, ∀ current, current = root ∨ current ∈ source.values →
      Fits manager (V2cResponder.new communities asSource) limit { source := source, rules := rules } requestId
        (walkQuery maxRepetitions current)) :
    let network := walkNetwork manager (V2cResponder.new communities asSource) limit
      (fun _ _ => false) root maxRepetitions
    let system := network.system (walkStart root nextId { source := source, rules := rules })
    ∃ objects : List (OID × SnmpValue), objects.Pairwise (fun a b => a.1 < b.1) ∧
      (∀ oid value, (oid, value) ∈ objects ↔ (∃ stored, source.storedValue oid = some stored ∧
        value = Asn1.onWire stored) ∧ root <+: oid ∧ oid ≠ root) ∧
      ∀ state, system.Reachable state → (∀ e, state.program ≠ .raised e) → ∃ final, system.Leads state final ∧
        final.program = .returned (objects.map (entryVarbind (DirectManager.shownBy manager.enrich))) := by
  intro network system
  let table := source.table hservable.reached.inv.coherent
  refine ⟨remaining (wireTable table) root root, remaining_sorted _ _ _, mem_listed hservable root, ?_⟩
  intro state hreachable hraised
  have hlegal := fun current => @legal_askable _ _ hservable root (normalizeTarget_wellFormed hproper hroot) hencodes
    current
  have hvalues := table_values hservable.reached.inv.coherent hend
  have hdisplays := displays_table hservable hdisplays
  let Good (requestId : ℕ) (query : Query) : Prop := ∃ current, query = walkQuery maxRepetitions current ∧
    Askable table root current ∧ requestId ≤ nextId + (listing manager table root).length
  have hasks : ∀ requestId query, Good requestId query → manager.Asks query := by
    rintro requestId _ ⟨current, rfl, hcurrent, -⟩
    exact walkQuery_asks (hlegal current hcurrent).1
  have hlawful : network.Lawful (· = ⟨source, rules⟩) Good _ (manager.expected table) NetworkFailure :=
    managerNetwork_lawful hservable hallowed hlimit hread hasks
  have hkept : network.Preserves (· = ⟨source, rules⟩) Good (manager.expected table) NetworkFailure
      (WalkInv manager table root nextId) :=
    walk_preserves hvalues hdisplays hm _ (fun requestId current hcurrent hle => ⟨current, rfl, hcurrent, hle⟩) hlegal
  have hdelivers : network.Delivers (· = ⟨source, rules⟩) Good manager.dispatcher.accept := by
    apply managerNetwork_delivers hservable hallowed hlimit
    rintro requestId _ ⟨current, rfl, hcurrent, hle⟩
    obtain ⟨hwellFormed, hencodes⟩ := hlegal current hcurrent
    have hlength := listing_length_le manager hservable.reached.inv.coherent root
    refine ⟨walkQuery_asks hwellFormed,
      prepareRequest_ok requestId (oids_walkQuery hwellFormed) (by simpa using hencodes), ?_⟩
    apply hfits requestId (hle.trans (Nat.add_le_add_left hlength nextId)) current
    exact hcurrent.imp_right fun ⟨value, hentry⟩ => mem_values_of_mem_table _ hentry
  have hstart : network.Inv (· = ⟨source, rules⟩) manager.dispatcher.accept (manager.expected table)
      (WalkInv manager table root nextId) (walkStart root nextId ⟨source, rules⟩) := walkStart_inv _ _ nextId _
  have hprogram := (DatagramNetwork.reachable_inv hlawful hkept hstart hreachable).program
  cases hprogress : state.program with
  | asking walk =>
    rw [hprogress] at hprogram
    obtain ⟨fuel, htalk⟩ := talk_asking network rfl rfl hvalues hdisplays hm
      (fun current h => (hlegal current h).1) hprogram
    obtain ⟨final, hleads, -, hfinal⟩ :=
      DatagramNetwork.reachable_talk _ hlawful hkept hdelivers hstart hreachable fuel
    exact ⟨final, hleads, by rw [hfinal, hprogress, htalk]; rfl⟩
  | returned results =>
    rw [hprogress] at hprogram
    exact ⟨state, .refl, by rw [hprogress, hprogram.1]; rfl⟩
  | raised e => exact absurd hprogress (hraised e)

theorem sampleWalk_fits (requestId : ℕ) (hle : requestId ≤ 4) (current : OID)
    (hcurrent : current ∈ [[1, 3], [1, 3, 6, 1], [1, 4], [1, 3, 6]]) :
    Fits sampleManager (V2cResponder.new none asSource) 65507 sampleWorld requestId (walkQuery none current) := by
  have hsent : ∃ data reply, sampleManager.prepareRequest requestId (walkQuery none current) = .ok data ∧
      data.length ≤ 65507 ∧ (V2cResponder.new none asSource).reply data sampleWorld = .ok (some reply, sampleWorld) ∧
      reply.length ≤ 65507 := by
    simp only [List.mem_cons, List.not_mem_nil, or_false] at hcurrent
    interval_cases requestId <;> rcases hcurrent with rfl | rfl | rfl | rfl <;>
      exact ⟨_, _, rfl, by decide +kernel, rfl, by decide +kernel⟩
  obtain ⟨data, reply, hdata, hlen, hreply, hshort⟩ := hsent
  intro data' hdata'
  obtain rfl := Except.ok.inj (hdata.symm.trans hdata')
  refine ⟨hlen, fun reply' world' hreply' => ?_⟩
  rw [hreply] at hreply'
  cases hreply'
  exact hshort

theorem networked_walk_completes_sample : ∃ objects : List (OID × SnmpValue), ([1, 3, 6], .integerValue 1) ∈ objects ∧
    ∃ final, (sampleWalk.system (walkStart [1, 3] 1 sampleWorld)).Leads (walkStart [1, 3] 1 sampleWorld) final ∧
      final.program = .returned (objects.map (entryVarbind (DirectManager.shownBy sampleManager.enrich))) := by
  have hlimit : 65507 < lengthLimit := by decide
  have htarget : (Target.sequence [1, 3] (tupleText [1, 3])).Proper sampleManager.bundle := .inl trivial
  have hm : ∀ m : ℤ, none = some m → 1 ≤ m := by simp
  have hcurrents : ∀ current, current = [1, 3] ∨ current ∈ sampleStore.values →
      current ∈ [[1, 3], [1, 3, 6, 1], [1, 4], [1, 3, 6]] := by
    rintro current (rfl | hmem)
    · exact List.mem_cons_self
    · obtain ⟨object, hobject, rfl⟩ := mem_storeHolding hmem
      exact List.mem_cons_of_mem _ (List.mem_map_of_mem hobject)
  obtain ⟨objects, -, hmem, hwalk⟩ := networked_walk_completes sampleManager sampleStore_servable () none rfl hlimit
    (by decide) sampleStore_values htarget rfl sampleStore_displays ⟨[43], by decide⟩ hm 1
    fun requestId hle current hcurrent => sampleWalk_fits requestId hle current (hcurrents current hcurrent)
  exact ⟨objects, (hmem _ _).mpr ⟨⟨.integerValue 1, rfl, rfl⟩, by decide, by decide⟩, hwalk _ (.initial rfl) nofun⟩

end Run

end TrishulSnmp.Manager
