import Mathlib.Logic.Function.Basic
import TrishulSnmp.Errors
import TrishulSnmp.Library.Runs
import TrishulSnmp.Types

namespace TrishulSnmp

structure UdpClient where
  host : String
  port : ℤ

structure SnmpSession where
  client : UdpClient
  hasPrepare : Bool

namespace UdpClient

def unresolved (client : UdpClient) : Error :=
  .transportError s!"Unable to resolve UDP target {client.host}:{client.port}"

def notCreated : Error := .transportError "Unable to create UDP socket"

def unconnected (client : UdpClient) : Error :=
  .transportError s!"Unable to connect UDP socket to {client.host}:{client.port}"

structure Socket where
  number : ℕ
  sockaddr : SocketAddress
  deriving DecidableEq

/-- `UdpClient._socket`, and what has happened to sockets so far. -/
structure ClientState where
  socket : Option Socket := none
  created : ℕ := 0
  unclosed : List Socket := []
  closedSinceOpen : Bool := false

namespace ClientState

variable (client : ClientState)

def newSocket (sockaddr : SocketAddress) : Socket := { number := client.created, sockaddr := sockaddr }

def createSocket (sockaddr : SocketAddress) : ClientState :=
  { client with created := client.created + 1, unclosed := client.newSocket sockaddr :: client.unclosed }

def closeSocket (sock : Socket) : ClientState :=
  { client with unclosed := client.unclosed.filter fun other => other ≠ sock }

def close : ClientState :=
  match client.socket with
  | some sock => { client.closeSocket sock with socket := none, closedSinceOpen := true }
  | none => { client with closedSinceOpen := true }

end ClientState

structure Shared where
  client : ClientState := {}
  opened : Bool := false

inductive Opener
  | client
  | session (skipPrepare : Bool)
  deriving DecidableEq

inductive Position
  | resolving
  | connecting (sock : Socket)
  | preparing
  deriving DecidableEq

inductive Outcome
  | returned
  | raised (e : Error)
  | cancelled
  deriving DecidableEq

inductive Progress
  | goes (position : Position)
  | ends (outcome : Outcome)

inductive Wakeup
  | resolved (infos : List SocketAddress) (creates : Bool)
  | connected
  | prepared
  | failed
  | raised (e : Error)
  | cancelled

section Stretches

variable (session : SnmpSession)

def opened (opener : Opener) (shared : Shared) : Progress × Shared :=
  match opener with
  | .client => (.ends .returned, shared)
  | .session skipPrepare =>
    if ¬ skipPrepare ∧ session.hasPrepare then (.goes .preparing, shared)
    else (.ends .returned, { shared with opened := true })

def openClient (opener : Opener) (shared : Shared) : Progress × Shared :=
  let shared := { shared with client := { shared.client with closedSinceOpen := false } }
  if shared.client.socket.isSome then opened session opener shared else (.goes .resolving, shared)

def start (opener : Opener) (shared : Shared) : Progress × Shared :=
  match opener with
  | .client => openClient session opener shared
  | .session _ => if shared.opened then (.ends .returned, shared) else openClient session opener shared

/-- One stretch between two awaits; `none` where it cannot be woken like this. -/
def resume (opener : Opener) (position : Position) (wakeup : Wakeup) (shared : Shared) : Option (Progress × Shared) :=
  match position, wakeup with
  | .resolving, .resolved [] _ | .resolving, .failed => some (.ends (.raised session.client.unresolved), shared)
  | .resolving, .resolved (_ :: _) false => some (.ends (.raised notCreated), shared)
  | .resolving, .resolved (sockaddr :: _) true =>
    some (.goes (.connecting (shared.client.newSocket sockaddr)),
      { shared with client := shared.client.createSocket sockaddr })
  | .connecting sock, .connected =>
    some (opened session opener { shared with client := { shared.client with socket := some sock } })
  | .connecting sock, .failed =>
    some (.ends (.raised session.client.unconnected), { shared with client := shared.client.closeSocket sock })
  -- `except OSError` does not catch a cancellation
  | .resolving, .cancelled | .connecting _, .cancelled => some (.ends .cancelled, shared)
  | .preparing, .prepared => some (.ends .returned, { shared with opened := true })
  | .preparing, .raised e => some (.ends (.raised e), { shared with client := shared.client.close })
  | .preparing, .cancelled => some (.ends .cancelled, { shared with client := shared.client.close })
  | _, _ => none

end Stretches

inductive Status
  | idle
  | opening (opener : Opener) (position : Position)
  | ended (outcome : Outcome)
  deriving DecidableEq

structure State (τ : Type) where
  tasks : τ → Status
  shared : Shared

inductive Action (τ : Type)
  | opens (task : τ) (opener : Opener)
  | resumes (task : τ) (wakeup : Wakeup)
  | closes
  | closesSession

def Progress.status (opener : Opener) : Progress → Status
  | goes position => .opening opener position
  | ends outcome => .ended outcome

variable {τ : Type} [DecidableEq τ]

def State.put (state : State τ) (task : τ) (opener : Opener) (progress : Progress × Shared) : State τ where
  tasks := Function.update state.tasks task (progress.1.status opener)
  shared := progress.2

def next (session : SnmpSession) (state : State τ) : Action τ → Option (State τ)
  | .opens task opener =>
    match state.tasks task with
    | .idle => some (state.put task opener (start session opener state.shared))
    | _ => none
  | .resumes task wakeup =>
    match state.tasks task with
    | .opening opener position => (resume session opener position wakeup state.shared).map (state.put task opener)
    | _ => none
  | .closes => some { state with shared := { state.shared with client := state.shared.client.close } }
  | .closesSession => some { state with shared := { client := state.shared.client.close, opened := false } }

def calls (session : SnmpSession) : System (State τ) (Action τ) where
  Initial := fun state => (∀ task, state.tasks task = .idle) ∧ state.shared = {}
  next := next session

end UdpClient

end TrishulSnmp
