import TrishulSnmp.Library.Runs
import TrishulSnmp.Notify.Handshake
import TrishulSnmp.Transport.SessionSafety

namespace TrishulSnmp.Discovery

open Outcome Wire Asn1

/-! `UsmModel.prepare` over `RequestDispatcher.send_raw_and_receive`: any number of calls, one after the
other or at once, on one socket. -/

inductive Position
  | sending (probe : Bytes) (left : ℕ)
  | receiving (probe : Bytes) (left : ℕ)
  deriving DecidableEq

inductive Outcome
  | returned (probe : Bytes) (engine : UsmLocalEngine)
  | raised (e : Error)
  | cancelled
  deriving DecidableEq

inductive Progress
  | goes (position : Position)
  | ends (outcome : Outcome)

def start (retries : ℕ) (model : UsmModel) : Progress × UsmModel :=
  let built := model.buildDiscoveryProbe
  match built.1 with
  | .error e => (.ends (.raised e), built.2)
  | .ok probe => (.goes (.sending probe retries), built.2)

def retry (probe : Bytes) : ℕ → Progress
  | 0 => .ends (.raised Transport.receiveTimeout)
  | left + 1 => .goes (.sending probe left)

def parseReport (probe data : Bytes) (model : UsmModel) : Progress × UsmModel :=
  match model.parseDiscoveryResponse data with
  | .error e => (.ends (.raised e), model)
  | .ok found => (.ends (.returned probe found.peerEngine), found)

/-- One stretch between two awaits; `none` where it cannot be woken like this. -/
def resume (position : Position) (wakeup : Transport.Wakeup) (model : UsmModel) : Option (Progress × UsmModel) :=
  match position, wakeup with
  | _, .cancelled => some (.ends .cancelled, model)
  | .sending probe left, .sent => some (.goes (.receiving probe left), model)
  | .sending _ _, .sendFailed => some (.ends (.raised Transport.sendFailure), model)
  | .receiving probe _, .received (.datagram data) => some (parseReport probe data model)
  | .receiving probe left, .received .timedOut => some (retry probe left, model)
  | .receiving _ _, .received .failed => some (.ends (.raised Transport.receiveFailure), model)
  | _, _ => none

inductive Status
  | idle
  | preparing (position : Position)
  | ended (outcome : Outcome)
  deriving DecidableEq

def Progress.status : Progress → Status
  | goes position => .preparing position
  | ends outcome => .ended outcome

structure State (τ : Type) where
  tasks : τ → Status
  model : UsmModel
  socket : List Bytes
  peerSent : List Bytes

/-- A task makes one call of `prepare`. In between the model also wraps requests; whoever else reads the
socket loses datagrams, as the network does. -/
inductive Action (τ : Type)
  | prepares (task : τ)
  | resumes (task : τ) (wakeup : Transport.Wakeup)
  | wraps (salt : Bytes) (pdu : Pdu)
  | peerSends (data : Bytes)
  | delivers (data : Bytes)
  | loses (index : ℕ)

variable {τ : Type} [DecidableEq τ]

def next (crypto : Crypto) (retries : ℕ) (state : State τ) : Action τ → Option (State τ)
  | .prepares task =>
    match state.tasks task with
    | .idle =>
      let started := start retries state.model
      some { state with tasks := Function.update state.tasks task started.1.status, model := started.2 }
    | _ => none
  | .resumes task wakeup =>
    match state.tasks task, wakeup.socket state.socket with
    | .preparing position, some socket =>
      match resume position wakeup state.model with
      | some (progress, model) => some
        { state with
          tasks := Function.update state.tasks task progress.status
          model := model
          socket := socket }
      | none => none
    | _, _ => none
  | .wraps salt pdu => some { state with model := (state.model.wrapPdu crypto salt pdu).2 }
  | .peerSends data => some { state with peerSent := data :: state.peerSent }
  | .delivers data =>
    if state.peerSent.contains data then some { state with socket := state.socket ++ [data] } else none
  | .loses index => some { state with socket := state.socket.eraseIdx index }

def calls (crypto : Crypto) (retries : ℕ) : System (State τ) (Action τ) where
  Initial := fun state => (∀ task, state.tasks task = .idle) ∧ ∀ data ∈ state.socket, data ∈ state.peerSent
  next := next crypto retries

def report? (data : Bytes) : Option V3MessageView :=
  match decodeV3Message data with
  | .error _ => none
  | .ok view =>
    match UsmModel.peekScopedPdu view.msgDataBytes with
    | .error _ => none
    | .ok (_, _, tag, _) => if tag = reportPduTag then some view else none

def reportedEngine (view : V3MessageView) : UsmLocalEngine where
  engineId := view.usmParams.engineId
  engineBoots := view.usmParams.engineBoots
  engineTime := view.usmParams.engineTime

def answers (probe data : Bytes) : Bool :=
  match decodeV3Message probe, report? data with
  | .ok sent, some view => view.msgId = sent.msgId
  | _, _ => false

def tells (data : Bytes) : Option UsmLocalEngine :=
  (report? data).bind fun view => if view.usmParams.engineId = [] then none else some (reportedEngine view)

theorem parse_ok_iff {model found : UsmModel} {data : Bytes} : model.parseDiscoveryResponse data = .ok found ↔
    ∃ engine, tells data = some engine ∧ found = Notify.knows model engine := by
  unfold tells report? UsmModel.parseDiscoveryResponse
  cases decodeV3Message data with
  | error e => simp [Except.mapError]
  | ok view =>
    simp only [Except.mapError, ok_bind]
    cases UsmModel.peekScopedPdu view.msgDataBytes with
    | error e => simp
    | ok fields =>
      obtain ⟨engineId, contextName, tag, stop⟩ := fields
      simp only [ok_bind]
      by_cases htag : tag = reportPduTag
      · by_cases hid : view.usmParams.engineId = []
        · simp [htag, hid]
        · simp only [htag, hid, ne_eq, not_true_eq_false, if_true, if_false, pure_ok_iff, Option.bind_some,
            Option.some.injEq, exists_eq_left']
          exact eq_comm
      · simp [htag]

def Status.Believes (peerSent : List Bytes) : Status → Prop
  | .ended (.returned probe engine) => ∃ data ∈ peerSent, answers probe data ∧ tells data = some engine
  | _ => True

def State.Believes (state : State τ) : Prop := ∀ task, (state.tasks task).Believes state.peerSent

/-- No call takes a REPORT that answers another probe off the socket. -/
def State.expected (state : State τ) : Action τ → Bool
  | .resumes task (.received (.datagram data)) =>
    match state.tasks task with
    | .preparing (.receiving probe _) => (tells data).isNone || answers probe data
    | _ => true
  | _ => true

section Step

variable {crypto : Crypto} {retries : ℕ} {state state' : State τ} {action : Action τ}

theorem Status.Believes.mono {peerSent peerSent' : List Bytes} {status : Status} (h : status.Believes peerSent)
    (hsent : ∀ data ∈ peerSent, data ∈ peerSent') : status.Believes peerSent' := by
  unfold Status.Believes at h ⊢
  split
  · obtain ⟨data, hdata, hanswers⟩ := h
    exact ⟨data, hsent data hdata, hanswers⟩
  · trivial

theorem parseReport_believes {probe data : Bytes} {model : UsmModel} {peerSent : List Bytes} (hdata : data ∈ peerSent)
    (hexpected : (tells data).isNone ∨ answers probe data) :
    (parseReport probe data model).1.status.Believes peerSent := by
  unfold parseReport
  cases hparse : model.parseDiscoveryResponse data with
  | error e => trivial
  | ok found =>
    obtain ⟨engine, htells, rfl⟩ := parse_ok_iff.mp hparse
    have hanswers := hexpected.resolve_left (by simp [htells])
    exact ⟨data, hdata, hanswers, htells⟩

theorem start_believes (model : UsmModel) (peerSent : List Bytes) :
    (start retries model).1.status.Believes peerSent := by
  unfold start
  cases model.buildDiscoveryProbe with
  | mk built model' => cases built <;> trivial

theorem resume_believes {position : Position} {wakeup : Transport.Wakeup} {model : UsmModel}
    {progress : Progress × UsmModel} {peerSent : List Bytes} (h : resume position wakeup model = some progress)
    (hreport : ∀ probe left data, position = .receiving probe left → wakeup = .received (.datagram data) →
      data ∈ peerSent ∧ ((tells data).isNone ∨ answers probe data)) : progress.1.status.Believes peerSent := by
  unfold resume at h
  split at h
  · cases h
    trivial
  · cases h
    trivial
  · cases h
    trivial
  · cases h
    obtain ⟨hdata, hexpected⟩ := hreport _ _ _ rfl rfl
    exact parseReport_believes hdata hexpected
  · rename_i probe left
    cases h
    cases left <;> trivial
  · cases h
    trivial
  · cases h

structure State.Inv (state : State τ) : Prop where
  socket : ∀ data ∈ state.socket, data ∈ state.peerSent
  believes : state.Believes

theorem believes_update (hi : state.Inv) {task : τ} {status : Status} (hstatus : status.Believes state.peerSent)
    (other : τ) : (Function.update state.tasks task status other).Believes state.peerSent := by
  rw [Function.update_apply]
  split_ifs
  · exact hstatus
  · exact hi.believes other

theorem next_inv (hi : state.Inv) (hexpected : state.expected action = true)
    (h : next crypto retries state action = some state') : state'.Inv := by
  cases action with
  | prepares task =>
    simp only [next] at h
    split at h
    · cases h
      exact ⟨hi.socket, believes_update hi (start_believes _ _)⟩
    · cases h
  | resumes task wakeup =>
    simp only [next] at h
    split at h
    · rename_i position socket hposition hsocket
      obtain ⟨hrest, hwoken⟩ := Transport.mem_of_socket hsocket
      split at h
      · rename_i progress model hresume
        cases h
        refine ⟨fun data hmem => hi.socket data (hrest data hmem), believes_update hi (resume_believes hresume ?_)⟩
        rintro probe left data rfl rfl
        rw [State.expected, hposition] at hexpected
        exact ⟨hi.socket data (hwoken data rfl), by simpa using hexpected⟩
      · cases h
    · cases h
  | wraps salt pdu =>
    cases h
    exact ⟨hi.socket, hi.believes⟩
  | peerSends data =>
    cases h
    exact ⟨fun other hmem => List.mem_cons_of_mem _ (hi.socket other hmem),
      fun task => (hi.believes task).mono fun other hmem => List.mem_cons_of_mem _ hmem⟩
  | delivers data =>
    simp only [next] at h
    split_ifs at h with hcontains
    have hsent := List.contains_iff_mem.mp hcontains
    cases h
    refine ⟨fun other hmem => ?_, hi.believes⟩
    obtain hmem | hmem := List.mem_append.mp hmem
    · exact hi.socket other hmem
    · exact List.mem_singleton.mp hmem ▸ hsent
  | loses index =>
    cases h
    exact ⟨fun data hmem => hi.socket data (List.mem_of_mem_eraseIdx hmem), hi.believes⟩

theorem stray_misleads {task : τ} {probe data : Bytes} {left : ℕ} {engine : UsmLocalEngine} {rest : List Bytes}
    (htask : state.tasks task = .preparing (.receiving probe left)) (hsocket : state.socket = data :: rest)
    (htells : tells data = some engine) (hown : ∀ own ∈ state.peerSent, answers probe own → tells own ≠ some engine) :
    ∃ state', next crypto retries state (.resumes task (.received (.datagram data))) = some state' ∧
      state'.model = Notify.knows state.model engine ∧ ¬ state'.Believes := by
  have hparse : state.model.parseDiscoveryResponse data = .ok (Notify.knows state.model engine) :=
    parse_ok_iff.mpr ⟨engine, htells, rfl⟩
  let misled : State τ := {
    state with
    tasks := Function.update state.tasks task (.ended (.returned probe engine))
    model := Notify.knows state.model engine
    socket := rest }
  have hnext : next crypto retries state (.resumes task (.received (.datagram data))) = some misled := by
    simp only [next, htask, hsocket, Transport.Wakeup.socket, if_true, resume, parseReport, hparse]
    rfl
  refine ⟨misled, hnext, rfl, fun hbelieves => ?_⟩
  have hreturned := hbelieves task
  rw [show misled.tasks task = .ended (.returned probe engine) from Function.update_self _ _ _] at hreturned
  obtain ⟨own, hmem, hanswers, hsame⟩ := hreturned
  exact hown own hmem hanswers hsame

end Step

theorem discovery_believes_own_answer (crypto : Crypto) (retries : ℕ) {state : State τ}
    (h : (calls crypto retries).Reaches (fun state action => state.expected action) state) : state.Believes := by
  have hi : state.Inv := by
    refine h.invariant ?_ ?_
    · rintro state ⟨htasks, hsocket⟩
      refine ⟨hsocket, fun task => ?_⟩
      rw [htasks]
      trivial
    · exact fun state action state' hi hexpected hnext => next_inv hi hexpected hnext
  exact hi.believes

def State.fresh : State τ where
  tasks := fun _ => .idle
  model := { user := UsmModel.sampleUser }
  socket := []
  peerSent := []

theorem fresh_initial (crypto : Crypto) (retries : ℕ) : (calls crypto retries).Initial (State.fresh : State τ) :=
  ⟨fun _ => rfl, by simp [State.fresh]⟩

instance (peerSent : List Bytes) : (status : Status) → Decidable (status.Believes peerSent)
  | .ended (.returned probe engine) =>
    inferInstanceAs (Decidable (∃ data ∈ peerSent, answers probe data ∧ tells data = some engine))
  | .ended (.raised _) | .ended .cancelled | .idle | .preparing _ => inferInstanceAs (Decidable True)

instance (state : State Bool) : Decidable state.Believes :=
  inferInstanceAs (Decidable (∀ task, (state.tasks task).Believes state.peerSent))

def probe (msgId : UInt8) : Bytes :=
  [48, 72, 2, 1, 3, 48, 14, 2, 1, msgId, 2, 3, 0, 255, 227, 4, 1, 4, 2, 1, 3, 4, 16, 48, 14, 4, 0, 2, 1, 0, 2, 1, 0,
    4, 0, 4, 0, 4, 0, 48, 33, 4, 0, 4, 0, 160, 27, 2, 1, msgId, 2, 1, 0, 2, 1, 0, 48, 16, 48, 14, 6, 10, 43, 6, 1, 6,
    3, 15, 1, 1, 4, 0, 5, 0]

def report (msgId boots : UInt8) : Bytes :=
  [48, 80, 2, 1, 3, 48, 14, 2, 1, msgId, 2, 3, 0, 255, 227, 4, 1, 0, 2, 1, 3, 4, 23, 48, 21, 4, 6, 128, 0, 31, 136,
    4, 1, 2, 1, boots, 2, 2, 2, 188, 4, 0, 4, 0, 4, 0, 48, 34, 4, 0, 4, 0, 168, 28, 2, 1, msgId, 2, 1, 0, 2, 1, 0, 48,
    17, 48, 15, 6, 10, 43, 6, 1, 6, 3, 15, 1, 1, 4, 0, 65, 1, 1]

def ownAnswer : List (Action Bool) :=
  [.prepares false, .resumes false .sent, .peerSends (report 1 3), .resumes false (.received .timedOut), .prepares true,
    .delivers (report 1 3), .loses 0, .resumes true .sent, .peerSends (report 2 4), .delivers (report 2 4),
    .resumes true (.received (.datagram (report 2 4)))]

theorem discovery_believes_own_answer_sample : ∃ state,
    (calls UsmModel.sampleCrypto 0).run (fun state action => state.expected action) .fresh ownAnswer = some state ∧
      state.tasks true = .ended (.returned (probe 2) ⟨[128, 0, 31, 136, 4, 1], 4, 700⟩) ∧ state.Believes := by
  have hended : ((calls UsmModel.sampleCrypto 0).run (fun state action => state.expected action) .fresh ownAnswer).any
      (fun state => state.tasks true = .ended (.returned (probe 2) ⟨[128, 0, 31, 136, 4, 1], 4, 700⟩)) = true := by
    decide +kernel
  obtain ⟨state, hrun, hreaches, hbelieved⟩ := System.exists_of_run (fresh_initial UsmModel.sampleCrypto 0) hended
  exact ⟨state, hrun, hbelieved, discovery_believes_own_answer _ _ hreaches⟩

def lateAnswer : List (Action Bool) :=
  [.prepares false, .resumes false .sent, .peerSends (report 1 3), .resumes false (.received .timedOut), .prepares true,
    .delivers (report 1 3), .resumes true .sent, .peerSends (report 2 4), .delivers (report 2 4),
    .resumes true (.received (.datagram (report 1 3)))]

theorem late_report_believed : ∃ state : State Bool, (calls UsmModel.sampleCrypto 0).Reachable state ∧
    state.tasks true = .ended (.returned (probe 2) ⟨[128, 0, 31, 136, 4, 1], 3, 700⟩) ∧ ¬ state.Believes := by
  have hended : ((calls UsmModel.sampleCrypto 0).run (fun _ _ => True) .fresh lateAnswer).any (fun state =>
      state.tasks true = .ended (.returned (probe 2) ⟨[128, 0, 31, 136, 4, 1], 3, 700⟩) ∧ ¬ state.Believes) = true := by
    decide +kernel
  obtain ⟨state, -, hreaches, hbelieved⟩ := System.exists_of_run (fresh_initial UsmModel.sampleCrypto 0) hended
  exact ⟨state, hreaches, hbelieved⟩

end TrishulSnmp.Discovery
