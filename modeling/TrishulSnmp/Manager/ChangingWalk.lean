import TrishulSnmp.Library.Sweep
import TrishulSnmp.Manager.WalkResponder
import TrishulSnmp.Responder.ChangingStores

namespace TrishulSnmp.Manager

open Mib Outcome Responder Wire Asn1 InMemoryObjectSource

/-! A walk over objects that are set and deleted, and that change their values, between its requests. -/

section Sweep

variable {α : Type} {root : OID} {shown : OID → SnmpValue → Display} {view : OID → SnmpValue → Prop}

def keys (view : OID → SnmpValue → Prop) : Set OID := {oid | ∃ value, view oid value}

/-- The varbinds of a response read out of one view, each at the next key from the one before. -/
inductive Follows (view : OID → SnmpValue → Prop) : OID → List RawVarBind → Prop
  | nil {current : OID} : Follows view current []
  | found {current : OID} {varbind : RawVarBind} {varbinds : List RawVarBind} :
      IsLeast {oid | current < oid ∧ oid ∈ keys view} varbind.oid → view varbind.oid varbind.value →
      Follows view varbind.oid varbinds → Follows view current (varbind :: varbinds)
  | ended {current : OID} {varbinds : List RawVarBind} :
      (∀ oid ∈ keys view, ¬ current < oid) → Follows view current varbinds →
      Follows view current ({ oid := current, value := .endOfMibViewValue } :: varbinds)

structure Sweeping (views : ℕ → OID → SnmpValue → Prop) (n : ℕ) (root : OID) (shown : OID → SnmpValue → Display)
    (state : WalkState) (found : List (OID × SnmpValue)) : Prop where
  results : state.results = found.map (entryVarbind shown)
  synced : state.Synced
  swept : Swept views n root state.current found
  within : ∀ entry ∈ found, root <+: entry.1

variable {views : ℕ → OID → SnmpValue → Prop} {n : ℕ} {state : WalkState} {found : List (OID × SnmpValue)}

theorem Sweeping.start (views : ℕ → OID → SnmpValue → Prop) (root : OID) (shown : OID → SnmpValue → Display) :
    Sweeping views 0 root shown (.start root) [] where
  results := rfl
  synced := by
    intro last h
    cases h
  swept := .start_at views 0 root
  within := by simp

theorem Sweeping.read (h : Sweeping views n root shown state found) : Sweeping views (n + 1) root shown state found :=
  { h with swept := h.swept.read }

theorem Sweeping.push (h : Sweeping views n root shown state found) {k : ℕ} (hk : k < n) {varbind : RawVarBind}
    (hleast : IsLeast {oid | state.current < oid ∧ oid ∈ keys (views k)} varbind.oid)
    (hview : views k varbind.oid varbind.value) (hroot : root <+: varbind.oid) :
    Sweeping views n root shown (state.push shown (varbind.oid, varbind.value))
      (found ++ [(varbind.oid, varbind.value)]) where
  results := by
    rw [WalkState.push, h.results, List.map_append]
    rfl
  synced := push_synced state _
  swept := h.swept.step hk hleast hview
  within := by
    intro entry hentry
    obtain hentry | hentry := List.mem_append.mp hentry
    · exact h.within entry hentry
    · rw [List.mem_singleton.mp hentry]
      exact hroot

theorem collect_of_within (hsynced : state.Synced) {varbind : RawVarBind} (hlt : state.current < varbind.oid)
    (hvalue : varbind.value ≠ .endOfMibViewValue) (hroot : root <+: varbind.oid) :
    collect root state (present shown varbind) = some (state.push shown (varbind.oid, varbind.value)) := by
  apply collect_eq_some_iff.mpr
  refine ⟨hvalue, hroot, ?_, rfl⟩
  intro last hlast
  exact (hsynced last hlast).symm ▸ hlt

theorem le_of_outside (hcurrent : root ≤ state.current) {next oid : OID} (hlt : state.current < next)
    (hleast : ∀ oid ∈ keys view, state.current < oid → next ≤ oid) (houtside : ¬ root <+: next)
    (hkey : oid ∈ keys view) (hroot : root <+: oid) : oid ≤ state.current := by
  by_contra hgt
  have hnext := hleast oid hkey (not_le.mp hgt)
  obtain heq | hbetween := hnext.eq_or_lt
  · exact houtside (heq ▸ hroot)
  · exact houtside (prefix_of_between (hcurrent.trans_lt hlt) hbetween hroot)

theorem collectBatch_follows {k : ℕ} (hk : k < n) (hend : ∀ oid, ¬ views k oid .endOfMibViewValue)
    {varbinds : List RawVarBind} (hfollows : Follows (views k) state.current varbinds)
    (h : Sweeping views n root shown state found) :
    ∃ state' found' stop, collectBatch root state (varbinds.map (present shown)) = (state', stop) ∧
      Sweeping views n root shown state' (found ++ found') ∧
      (stop = true → ∀ oid ∈ keys (views k), root <+: oid → oid ≤ state'.current) ∧
      (stop = false → found'.length = varbinds.length ∧ (varbinds ≠ [] → state'.current ∈ keys (views k))) := by
  induction varbinds generalizing state found with
  | nil => exact ⟨state, [], false, rfl, by rwa [List.append_nil], by simp, by simp⟩
  | cons varbind varbinds ih =>
    rw [List.map_cons, collectBatch]
    cases hfollows with
    | ended hnone _ =>
      refine ⟨state, [], true, rfl, by rwa [List.append_nil], fun _ oid hkey _ => ?_, by simp⟩
      exact not_lt.mp (hnone oid hkey)
    | found hleast hview hrest =>
      have hvalue : varbind.value ≠ .endOfMibViewValue := fun heq => hend varbind.oid (heq ▸ hview)
      by_cases hroot : root <+: varbind.oid
      · rw [collect_of_within h.synced hleast.1.1 hvalue hroot]
        obtain ⟨state', found', stop, hbatch, hsweeping, hstop, hgo⟩ := ih hrest (h.push hk hleast hview hroot)
        refine ⟨state', (varbind.oid, varbind.value) :: found', stop, hbatch, ?_, hstop, fun hfalse => ?_⟩
        · rwa [List.append_assoc] at hsweeping
        · obtain ⟨hlength, hcurrent⟩ := hgo hfalse
          refine ⟨by rw [List.length_cons, List.length_cons, hlength], fun _ => ?_⟩
          cases varbinds with
          | nil =>
            cases hbatch
            exact ⟨varbind.value, hview⟩
          | cons next varbinds => exact hcurrent (List.cons_ne_nil _ _)
      · have hcollect : collect root state (present shown varbind) = none := by
          rw [Option.eq_none_iff_forall_ne_some]
          intro state' hsome
          exact hroot (collect_eq_some_iff.mp hsome).2.1
        rw [hcollect]
        refine ⟨state, [], true, rfl, by rwa [List.append_nil], fun _ oid hkey hwithin => ?_, by simp⟩
        exact le_of_outside h.swept.le hleast.1.1 (fun oid hkey hlt => hleast.2 ⟨hlt, hkey⟩) hroot hkey hwithin

/-- The agent answers its request number `k` out of the view of that number. -/
def AnswersViews (agent : Agent α) (shown : OID → SnmpValue → Display) (views : ℕ → OID → SnmpValue → Prop)
    (maxRepetitions : Option ℤ) (P : ℕ → α → Prop) (Askable : OID → Prop) : Prop :=
  ∀ k a current, P k a → Askable current →
    ∃ response a' varbinds, agent a { current := current, maxRepetitions := maxRepetitions } = .ok (response, a') ∧
      P (k + 1) a' ∧ varbinds ≠ [] ∧ Follows (views k) current varbinds ∧
      response.varbinds = varbinds.map (present shown)

structure Listed (views : ℕ → OID → SnmpValue → Prop) (n : ℕ) (root : OID) (found : List (OID × SnmpValue)) : Prop where
  sorted : found.Pairwise fun a b => a.1 < b.1
  sound : ∀ entry ∈ found, root <+: entry.1 ∧ ∃ k < n, views k entry.1 entry.2
  complete : ∀ oid, root <+: oid → oid ≠ root → (∀ k < n, oid ∈ keys (views k)) → ∃ value, (oid, value) ∈ found

theorem Sweeping.listed (h : Sweeping views (n + 1) root shown state found)
    (hend : ∀ oid ∈ keys (views n), root <+: oid → oid ≤ state.current) : Listed views (n + 1) root found where
  sorted := h.swept.sorted
  sound := fun entry hentry => ⟨h.within entry hentry, h.swept.sound entry hentry⟩
  complete := by
    intro oid hroot hne hviews
    have hlt : root < oid := lt_of_le_of_ne (prefix_le hroot) hne.symm
    exact h.swept.complete oid hlt (hend oid (hviews n (Nat.lt_succ_self n)) hroot) hviews

theorem Sweeping.length_le_card (h : Sweeping views n root shown state found) {oids : Finset OID}
    (hoids : ∀ k < n, ∀ oid ∈ keys (views k), root <+: oid → oid ∈ oids) : found.length ≤ oids.card := by
  apply length_le_card_of_increasing h.swept.sorted
  intro entry hentry
  obtain ⟨k, hk, hview⟩ := h.swept.sound entry hentry
  exact hoids k hk entry.1 ⟨entry.2, hview⟩ (h.within entry hentry)

theorem walkLoop_sweeps {agent : Agent α} {maxRepetitions : Option ℤ} {P : ℕ → α → Prop} {Askable : OID → Prop}
    (hend : ∀ k oid, ¬ views k oid .endOfMibViewValue) (haskable : ∀ k, ∀ oid ∈ keys (views k), Askable oid)
    (hagent : AnswersViews agent shown views maxRepetitions P Askable) (allowance : ℕ) {requests : ℕ} {a : α}
    (h : Sweeping views requests root shown state found) (hpaid : requests ≤ found.length) (ha : P requests a)
    (hcurrent : Askable state.current) :
    match walkLoop agent root maxRepetitions allowance requests state a with
    | .returned results n => ∃ listed, results = listed.map (entryVarbind shown) ∧ Listed views n root listed ∧
        n ≤ listed.length + 1
    | .raised _ _ => False
    | .running => ∃ state' listed, Sweeping views (requests + allowance) root shown state' listed ∧
        requests + allowance ≤ listed.length := by
  induction allowance generalizing requests state found a with
  | zero => exact ⟨state, found, h, hpaid⟩
  | succ allowance ih =>
    obtain ⟨response, a', varbinds, hanswer, ha', hne, hfollows, hvarbinds⟩ :=
      hagent requests a state.current ha hcurrent
    have hresponse : response.varbinds ≠ [] := by
      rw [hvarbinds]
      exact fun hnil => hne (List.map_eq_nil_iff.mp hnil)
    obtain ⟨state', found', stop, hbatch, hsweeping, hstop, hgo⟩ :=
      collectBatch_follows (Nat.lt_add_one requests) (hend requests) hfollows h.read
    rw [walkLoop, hanswer]
    simp only [if_neg hresponse]
    rw [hvarbinds, hbatch]
    cases stop with
    | true =>
      refine ⟨found ++ found', hsweeping.results, hsweeping.listed (hstop rfl), ?_⟩
      rw [List.length_append]
      omega
    | false =>
      obtain ⟨hlength, hkey⟩ := hgo rfl
      have hpos := List.length_pos_iff.mpr hne
      have hpaid' : requests + 1 ≤ (found ++ found').length := by
        rw [List.length_append]
        omega
      have hsum : requests + (allowance + 1) = requests + 1 + allowance := by omega
      rw [hsum]
      exact ih hsweeping hpaid' ha' (haskable requests _ (hkey hne))

theorem walkSubtree_sweeps {agent : Agent α} {maxRepetitions : Option ℤ} {P : ℕ → α → Prop} {Askable : OID → Prop}
    (hend : ∀ k oid, ¬ views k oid .endOfMibViewValue) (haskable : ∀ k, ∀ oid ∈ keys (views k), Askable oid)
    (hagent : AnswersViews agent shown views maxRepetitions P Askable) (hroot : Askable root) (a : α) (ha : P 0 a)
    (allowance : ℕ) :
    match walkSubtree agent root maxRepetitions allowance a with
    | .returned results n => ∃ listed, results = listed.map (entryVarbind shown) ∧ Listed views n root listed ∧
        n ≤ listed.length + 1
    | .raised _ _ => False
    | .running => ∃ state listed, Sweeping views allowance root shown state listed ∧ allowance ≤ listed.length := by
  have hwalk := walkLoop_sweeps hend haskable hagent allowance (.start views root shown) le_rfl ha hroot
  rwa [Nat.zero_add] at hwalk

end Sweep

section Store

variable {σ : Type} {source : InMemoryObjectSource σ} {good : σ → Prop} {shows : OID → SnmpValue → Prop}
  {view : OID → SnmpValue → Prop} {current : OID} {varbinds : List RawVarBind}

theorem Follows.shown {root : OID} (hcurrent : current = root ∨ ∃ value, shows current value)
    (hview : ∀ oid value, view oid value → shows oid value) (h : Follows view current varbinds) :
    ∀ varbind ∈ varbinds, varbind.value = .endOfMibViewValue ∧ (varbind.oid = root ∨ ∃ value, shows varbind.oid value) ∨
      shows varbind.oid varbind.value := by
  induction h with
  | nil => simp
  | found _ hfound _ ih =>
    have hshows := hview _ _ hfound
    exact List.forall_mem_cons.mpr ⟨.inr hshows, ih (.inr ⟨_, hshows⟩)⟩
  | ended _ _ ih => exact List.forall_mem_cons.mpr ⟨.inl ⟨rfl, hcurrent⟩, ih hcurrent⟩

theorem follows_rows (h : Simulates source good shows) {rules : σ} (hgood : good rules) {repetitions steps : ℕ}
    (hrows : List.Forall₂ (ShowsAt source (source.view good)) (rowPositions [current] (steps + 1) repetitions)
      varbinds) : Follows (source.view good) (source.lastOid steps current) varbinds := by
  induction repetitions generalizing steps varbinds with
  | zero =>
    cases hrows
    exact .nil
  | succ repetitions ih =>
    rw [rowPositions, List.range'_succ, List.flatMap_cons, List.map_singleton, List.singleton_append] at hrows
    obtain ⟨varbind, rest, hshown, hrest, rfl⟩ := List.forall₂_cons_left_iff.mp hrows
    have hrest := ih hrest
    have hkey := @successor_lastOid _ source steps current
    unfold ShowsAt at hshown
    rw [lastOid] at hrest
    cases hiterated : source.iterated (steps + 1) current with
    | none =>
      rw [hiterated] at hshown hrest hkey
      obtain rfl : varbind = _ := hshown
      have hlast : source.lastOid (steps + 1) current = source.lastOid steps current := by
        rw [lastOid, hiterated, Option.getD_none]
      rw [hlast]
      refine .ended (fun oid hoid => ?_) hrest
      exact (successor_none_iff h.inv.coherent).mp hkey oid ((mem_values_iff_view h hgood).mpr hoid)
    | some key =>
      rw [hiterated] at hshown hrest hkey
      obtain ⟨rfl, hview⟩ := hshown
      obtain ⟨-, hlt, hleast⟩ := (successor_eq_some_iff h.inv.coherent).mp hkey
      refine .found ⟨⟨hlt, _, hview⟩, fun oid hoid => ?_⟩ hview hrest
      exact hleast oid ((mem_values_iff_view h hgood).mpr hoid.2) hoid.1

theorem walkPdu_follows (h : Simulates source good shows) {rules : σ} (hgood : good rules) {requestId : ℤ}
    {request : WalkRequest} (hm : ∀ m, request.maxRepetitions = some m → 1 ≤ m)
    (hshown : Shown source (source.view good) (walkPdu requestId request) varbinds) :
    varbinds ≠ [] ∧ Follows (source.view good) request.current varbinds := by
  obtain ⟨current, maxRepetitions⟩ := request
  have hrows : ∃ repetitions, 0 < repetitions ∧
      List.Forall₂ (ShowsAt source (source.view good)) (rowPositions [current] 1 repetitions) varbinds := by
    cases maxRepetitions with
    | none =>
      have hrow : List.Forall₂ (fun (asked : RawVarBind) => ShowsAt source (source.view good) (1, asked.oid))
          [{ oid := current, value := .nullValue }] varbinds := hshown
      exact ⟨1, Nat.one_pos, List.forall₂_map_left_iff.mpr hrow⟩
    | some m =>
      refine ⟨m.toNat, ?_, hshown⟩
      have := hm m rfl
      omega
  obtain ⟨repetitions, hpos, hrows⟩ := hrows
  refine ⟨?_, follows_rows h hgood hrows⟩
  rintro rfl
  have hlength := hrows.length_eq
  simp [rowPositions] at hlength
  omega

end Store

namespace DirectManager

variable {σ : Type} {source : InMemoryObjectSource σ} {good : σ → Prop} {shows : OID → SnmpValue → Prop}
  {manager : DirectManager (World σ)} {maxRepetitions : Option ℤ}

def walkRequestAmid (manager : DirectManager (World σ)) (pauses : ℕ → Pause σ) : Agent (ℕ × Exchange (World σ)) :=
  fun (count, exchange) request => do
    let exchange := { exchange with world := (pauses count).act exchange.world }
    let (response, exchange) ← manager.walkRequest exchange request
    return (response, (count + 1, exchange))

def walkAmid (manager : DirectManager (World σ)) (pauses : ℕ → Pause σ) (root : Target) (maxRepetitions : Option ℤ)
    (allowance : ℕ) (exchange : Exchange (World σ)) : WalkOutcome :=
  match normalizeTargets [root] manager.bundle with
  | .error e => .raised e 0
  | .ok [] => .raised (.indexError "tuple index out of range") 0
  | .ok (rootOid :: _) => walkSubtree (manager.walkRequestAmid pauses) rootOid maxRepetitions allowance (0, exchange)

theorem walkRequest_follows (h : Simulates source good shows) (hsource : manager.source = asSource) {root : OID}
    (hdisplays : Displays manager.enrich shows root) (request : WalkRequest) (hcurrent : WellFormed request.current)
    (hasked : request.current = root ∨ ∃ value, shows request.current value)
    (hm : ∀ m, request.maxRepetitions = some m → 1 ≤ m) (exchange : Exchange (World σ))
    (hworld : Simulating source good exchange.world) :
    ∃ response exchange' varbinds, manager.walkRequest exchange request = .ok (response, exchange') ∧
      Simulating source good exchange'.world ∧ varbinds ≠ [] ∧ Follows (source.view good) request.current varbinds ∧
      response.varbinds = varbinds.map (present (shownBy manager.enrich)) := by
  have htype : (walkPdu exchange.nextId request).pduType ∈ [.get, .getNext, .getBulk, .set] := by
    unfold walkPdu
    cases request.maxRepetitions <;> simp
  obtain ⟨built, world', hbuilt, hworld', pdu, rfl, hanswered⟩ :=
    buildResponsePdu_total h.view htype exchange.world hworld
  obtain ⟨hne, hfollows⟩ := walkPdu_follows h hworld.2 hm hanswered.varbinds
  have hstatus : pdu.errorStatus = 0 := by
    rw [hanswered.errorStatus, if_neg]
    unfold walkPdu
    cases request.maxRepetitions <;> simp
  have henriched : ∀ varbind ∈ pdu.varbinds, manager.enrich varbind.oid varbind.value =
      .ok (shownBy manager.enrich varbind.oid varbind.value) := by
    intro varbind hmem
    obtain ⟨display, hdisplay⟩ := hdisplays varbind.oid varbind.value
      (hfollows.shown hasked (fun _ _ => view_shows h) varbind hmem)
    rw [shownBy, hdisplay]
  obtain ⟨response, hresponse, hpresent⟩ := responseFromPdu_eq hstatus henriched
  refine ⟨response, { nextId := exchange.nextId + 1, world := world' }, pdu.varbinds, ?_, hworld', hne, hfollows,
    hpresent⟩
  rw [walkRequest_eq exchange hcurrent, hsource, hbuilt, ok_bind]
  simp only [hresponse, ok_bind]
  rfl

theorem walkRequestAmid_answersViews (h : Simulates source good shows) (hsource : manager.source = asSource)
    {root : OID} (hdisplays : Displays manager.enrich shows root) {pauses : ℕ → Pause σ}
    (hpauses : ∀ k, (pauses k).Suits source.bundle good shows) (hm : ∀ m, maxRepetitions = some m → 1 ≤ m) :
    AnswersViews (manager.walkRequestAmid pauses) (shownBy manager.enrich)
      (fun k => (storeAfter source pauses (k + 1)).view good) maxRepetitions
      (fun k a => a.1 = k ∧ Simulating (storeAfter source pauses k) good a.2.world)
      (fun oid => WellFormed oid ∧ (oid = root ∨ ∃ value, shows oid value)) := by
  rintro k ⟨count, exchange⟩ current ⟨rfl, hworld⟩ ⟨hcurrent, hasked⟩
  have hworld := act_simulating hpauses hworld
  obtain ⟨response, exchange', varbinds, hanswer, hworld', hne, hfollows, hvarbinds⟩ :=
    walkRequest_follows (storeAfter_simulates h hpauses (count + 1)).1 hsource hdisplays
      { current := current, maxRepetitions := maxRepetitions } hcurrent hasked hm
      { exchange with world := (pauses count).act exchange.world } hworld
  refine ⟨response, (count + 1, exchange'), varbinds, ?_, ⟨rfl, hworld'⟩, hne, hfollows, hvarbinds⟩
  rw [walkRequestAmid, hanswer]
  rfl

def numbered (oid : OID) : Target := .sequence oid (tupleText oid)

def flipping : SimulationRule ℕ := fun reads => .ok (.integerValue (reads % 2), reads + 1)

def movingStore : InMemoryObjectSource ℕ := perform (new none) (.setObjects [(numbered [1, 3, 6], .rule flipping),
  (numbered [1, 4], .value (.counter32Value 5)), (numbered [1, 3, 6, 1], .value (.octetStringValue [0x75, 0x70]))])

def moves (k : ℕ) : Pause ℕ where
  calls := if k = 1 then
      [.deleteObject (numbered [1, 3, 6]), .setObject (numbered [1, 3, 6, 5]) (.value (.integerValue 7))]
    else []
  rules := (· + k)

def Sendable (_ : OID) (value : SnmpValue) : Prop :=
  ((∃ enc, encodeValue value = .ok enc) ∧ Asn1.Preserved value) ∧ value ≠ .endOfMibViewValue ∧
    ∃ text, value.toDisplayString = .ok text

theorem sendable_displays (root : OID) : Displays (enrichVarbind none) Sendable root := by
  intro oid value h
  obtain ⟨text, htext⟩ : ∃ text, value.toDisplayString = .ok text := by
    obtain ⟨rfl, -⟩ | ⟨-, -, htext⟩ := h
    · exact ⟨_, rfl⟩
    · exact htext
  rw [enrichVarbind, htext]
  exact ⟨_, rfl⟩

theorem numbered_suits {oid : OID} (hoid : WellFormed oid) {stored : ObjectValue ℕ} {shows : OID → SnmpValue → Prop}
    (hreads : stored.Reads (fun _ => True) (shows oid)) : (numbered oid).Proper none ∧
      ∀ key, normalizeTarget none (numbered oid) = .ok key → stored.Reads (fun _ => True) (shows key) := by
  refine ⟨.inl trivial, fun key hkey => ?_⟩
  rw [numbered, normalizeTarget_sequence hoid] at hkey
  cases hkey
  exact hreads

theorem flipping_reads (oid : OID) : (ObjectValue.rule flipping).Reads (fun _ => True) (Sendable oid) := by
  intro reads _
  refine ⟨.integerValue (reads % 2), reads + 1, rfl, trivial, ?_⟩
  obtain hbit | hbit := Int.emod_two_eq_zero_or_one reads
  · rw [hbit]
    exact ⟨⟨⟨_, rfl⟩, trivial⟩, by simp, ⟨_, rfl⟩⟩
  · rw [hbit]
    exact ⟨⟨⟨_, rfl⟩, trivial⟩, by simp, ⟨_, rfl⟩⟩

theorem movingStore_simulates : Simulates movingStore (fun _ => True) Sendable := by
  apply perform_simulates (new_simulates none _ (fun _ _ h => h.1) fun _ h => h.2.1 rfl)
  simp only [Call.Suits, Call.objects, List.forall_mem_cons]
  exact ⟨numbered_suits (by decide) (flipping_reads _),
    numbered_suits (by decide) ⟨⟨⟨_, rfl⟩, trivial⟩, by simp, ⟨_, rfl⟩⟩,
    numbered_suits (by decide) ⟨⟨⟨_, rfl⟩, trivial⟩, by simp, SnmpValue.toDisplayString_isOk_iff.mpr (by decide)⟩,
    by simp⟩

theorem moves_suit (k : ℕ) : (moves k).Suits none (fun _ => True) Sendable := by
  refine ⟨?_, fun _ _ => trivial⟩
  by_cases hk : k = 1
  · simp only [moves, if_pos hk, List.forall_mem_cons, Call.Suits, Call.objects]
    exact ⟨by simp, ⟨numbered_suits (by decide) ⟨⟨⟨_, rfl⟩, trivial⟩, by simp, ⟨_, rfl⟩⟩, by simp⟩, by simp⟩
  · simp [moves, hk]

def movingWalk (enrich : Enricher) : WalkOutcome :=
  walkAmid { bundle := none, enrich := enrich, source := asSource } moves (numbered [1, 3]) none 5
    { nextId := 1, world := { source := movingStore, rules := 0 } }

end DirectManager

end TrishulSnmp.Manager
