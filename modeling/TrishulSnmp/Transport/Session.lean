import Mathlib.Logic.Function.Basic
import TrishulSnmp.Library.Runs
import TrishulSnmp.Security.Community
import TrishulSnmp.Transport.Dispatcher

namespace TrishulSnmp.Transport

structure SecurityModel (μ : Type) where
  wrapPdu : Pdu → μ → Except Error Bytes × μ
  unwrapMessage : μ → Unwrap

structure Discovery (μ : Type) where
  peerEngineDiscovered : μ → Bool
  buildDiscoveryProbe : μ → Except Error Bytes × μ
  parseDiscoveryResponse : Bytes → μ → Except Error Unit × μ

structure Session (μ : Type) where
  security : SecurityModel μ
  discovery : Discovery μ
  retries : ℕ

/-- What a task asks of the session. A trap is sent only; `discovers` marks the informs of `V3Notifier`. -/
structure Call where
  pduType : PduType
  errorStatus : ℤ := 0
  errorIndex : ℤ := 0
  varbinds : List RawVarBind
  sendOnly : Bool := false
  discovers : Bool := false
  deriving DecidableEq

inductive Position
  | entered
  | sendingProbe (probe : Bytes) (left : ℕ)
  | receivingReport (probe : Bytes) (left : ℕ)
  | sending (request : PreparedRequest) (left : ℕ)
  | receiving (request : PreparedRequest) (left : ℕ)
  deriving DecidableEq

inductive CallOutcome
  | returned (requestId : ℕ) (pdu : Pdu)
  | sent (requestId : ℕ)
  | raised (e : Error)
  | cancelled
  deriving DecidableEq

inductive Progress
  | goes (position : Position)
  | ends (outcome : CallOutcome)

inductive Wakeup
  | started
  | sent
  | sendFailed
  | received (reception : Reception)
  | cancelled

structure Allotment (τ : Type) where
  task : τ
  requestId : ℕ
  call : Call
  deriving DecidableEq

structure Shared (τ μ : Type) where
  nextId : ℕ
  handedOut : List (Allotment τ)
  model : μ

variable {τ μ : Type}

namespace Session

variable (session : Session μ)

def prepareRequest (task : τ) (call : Call) (shared : Shared τ μ) : Progress × Shared τ μ :=
  let pdu := {
    pduType := call.pduType
    requestId := shared.nextId
    errorStatus := call.errorStatus
    errorIndex := call.errorIndex
    varbinds := call.varbinds }
  let wrapped := session.security.wrapPdu pdu shared.model
  let shared' := {
    nextId := shared.nextId + 1
    handedOut := shared.handedOut ++ [{ task := task, requestId := shared.nextId, call := call }]
    model := wrapped.2 }
  match wrapped.1 with
  | .error e => (.ends (.raised e), shared')
  | .ok encodedMessage =>
    (.goes (.sending { requestId := shared.nextId, encodedMessage := encodedMessage } session.retries), shared')

def enter (task : τ) (call : Call) (shared : Shared τ μ) : Progress × Shared τ μ :=
  if call.discovers ∧ ¬ session.discovery.peerEngineDiscovered shared.model then
    let built := session.discovery.buildDiscoveryProbe shared.model
    match built.1 with
    | .error e => (.ends (.raised e), { shared with model := built.2 })
    | .ok probe => (.goes (.sendingProbe probe session.retries), { shared with model := built.2 })
  else session.prepareRequest task call shared

def retry (e : Error) (again : ℕ → Position) (left : ℕ) : Progress :=
  if isRequestTimeout e then
    match left with
    | 0 => .ends (.raised e)
    | left + 1 => .goes (again left)
  else .ends (.raised e)

def parseReport (task : τ) (call : Call) (data : Bytes) (shared : Shared τ μ) : Progress × Shared τ μ :=
  let parsed := session.discovery.parseDiscoveryResponse data shared.model
  match parsed.1 with
  | .error e => (.ends (.raised e), { shared with model := parsed.2 })
  | .ok () => session.prepareRequest task call { shared with model := parsed.2 }

def receiveDatagram (request : PreparedRequest) (left : ℕ) (data : Bytes) (shared : Shared τ μ) : Progress :=
  match matchResponse (session.security.unwrapMessage shared.model) request.requestId data with
  | .error e => retry e (.sending request) left
  | .ok none => .goes (.receiving request left)
  | .ok (some pdu) => .ends (.returned request.requestId pdu)

def resume (task : τ) (call : Call) (position : Position) (wakeup : Wakeup) (shared : Shared τ μ) :
    Option (Progress × Shared τ μ) :=
  match position, wakeup with
  | _, .cancelled => some (.ends .cancelled, shared)
  | .entered, .started => some (session.enter task call shared)
  | .sendingProbe probe left, .sent => some (.goes (.receivingReport probe left), shared)
  | .sending request left, .sent =>
    if call.sendOnly then some (.ends (.sent request.requestId), shared)
    else some (.goes (.receiving request left), shared)
  | .sendingProbe _ _, .sendFailed | .sending _ _, .sendFailed => some (.ends (.raised sendFailure), shared)
  | .receivingReport _ _, .received (.datagram data) => some (session.parseReport task call data shared)
  | .receivingReport probe left, .received .timedOut =>
    some (retry receiveTimeout (.sendingProbe probe) left, shared)
  | .receiving request left, .received (.datagram data) =>
    some (session.receiveDatagram request left data shared, shared)
  | .receiving request left, .received .timedOut => some (retry receiveTimeout (.sending request) left, shared)
  | .receivingReport _ _, .received .failed | .receiving _ _, .received .failed =>
    some (.ends (.raised receiveFailure), shared)
  | _, _ => none

end Session

inductive Status
  | idle
  | queued (call : Call)
  | holding (call : Call) (position : Position)
  | ended (call : Call) (outcome : CallOutcome)
  deriving DecidableEq

structure SessionState (τ μ : Type) where
  tasks : τ → Status
  lock : Option τ
  shared : Shared τ μ
  socket : List Bytes
  peerSent : List Bytes

/-- What can happen: a task goes on, or the peer and the network do something. The network delivers
what the peer sent, in any order and any number of times, or loses it. -/
inductive Action (τ : Type)
  | call (task : τ) (call : Call)
  | acquire (task : τ)
  | withdraw (task : τ)
  | resume (task : τ) (wakeup : Wakeup)
  | peerSends (data : Bytes)
  | delivers (data : Bytes)
  | loses (index : ℕ)

def Progress.status (call : Call) : Progress → Status
  | goes position => .holding call position
  | ends outcome => .ended call outcome

def Progress.lock (task : τ) : Progress → Option τ
  | goes _ => some task
  | ends _ => none

def Wakeup.socket : Wakeup → List Bytes → Option (List Bytes)
  | .received (.datagram data), socket =>
    match socket with
    | front :: rest => if front = data then some rest else none
    | [] => none
  | _, socket => some socket

variable [DecidableEq τ]

def SessionState.setTask (state : SessionState τ μ) (task : τ) (status : Status) : SessionState τ μ :=
  { state with tasks := Function.update state.tasks task status }

@[simp] theorem setTask_self (state : SessionState τ μ) (task : τ) (status : Status) :
    (state.setTask task status).tasks task = status := Function.update_self _ _ _

@[simp] theorem setTask_other (state : SessionState τ μ) {task other : τ} (h : other ≠ task) (status : Status) :
    (state.setTask task status).tasks other = state.tasks other := Function.update_of_ne h _ _

/-- An open session that nobody has used yet. The socket may hold what came before. -/
structure SessionState.Initial (state : SessionState τ μ) : Prop where
  tasks : ∀ task, state.tasks task = .idle
  lock : state.lock = none
  nextId : state.shared.nextId = 1
  handedOut : state.shared.handedOut = []
  socket : ∀ data ∈ state.socket, data ∈ state.peerSent

namespace Session

variable (session : Session μ)

def next (state : SessionState τ μ) : Action τ → Option (SessionState τ μ)
  | .call task call =>
    match state.tasks task with
    | .idle => some (state.setTask task (.queued call))
    | _ => none
  | .acquire task =>
    match state.tasks task, state.lock with
    | .queued call, none => some { state.setTask task (.holding call .entered) with lock := some task }
    | _, _ => none
  | .withdraw task =>
    match state.tasks task with
    | .queued call => some (state.setTask task (.ended call .cancelled))
    | _ => none
  | .resume task wakeup =>
    match state.tasks task, wakeup.socket state.socket with
    | .holding call position, some socket =>
      match session.resume task call position wakeup state.shared with
      | some (progress, shared) => some
        { state.setTask task (progress.status call) with
          lock := progress.lock task
          shared := shared
          socket := socket }
      | none => none
    | _, _ => none
  | .peerSends data => some { state with peerSent := data :: state.peerSent }
  | .delivers data =>
    if data ∈ state.peerSent then some { state with socket := state.socket ++ [data] } else none
  | .loses index => some { state with socket := state.socket.eraseIdx index }

def system (τ : Type) [DecidableEq τ] : System (SessionState τ μ) (Action τ) where
  Initial := SessionState.Initial
  next := session.next

end Session

end TrishulSnmp.Transport
