import Mathlib.Logic.Function.Basic
import TrishulSnmp.Errors
import TrishulSnmp.Library.Runs
import TrishulSnmp.Library.WaitQueue
import TrishulSnmp.Types

namespace TrishulSnmp

structure ReceivedDatagram where
  data : Bytes
  sourceAddress : SocketAddress
  deriving DecidableEq, Repr

namespace UdpServer

def notOpen : Error := .transportError "UDP server is not open"

def isClosed : Error := .transportError "UDP server is closed"

inductive Item
  | datagram (received : ReceivedDatagram)
  | serverClosed (cause : Option String)
  deriving DecidableEq

def Item.datagram? : Item → Option ReceivedDatagram
  | datagram received => some received
  | serverClosed _ => none

inductive Status
  | idle
  | receiving
  | returned (received : ReceivedDatagram)
  | raised (e : Error) (cause : Option String)
  deriving DecidableEq

def Item.status : Item → Status
  | datagram received => .returned received
  | serverClosed cause => .raised isClosed cause

/-- How far `close()` is: it has not been called, and the server is open; it awaits the future that
`connection_lost` ends; or it has returned. -/
inductive Closing
  | isOpen
  | awaiting
  | returned
  deriving DecidableEq

structure State (τ : Type) where
  queue : WaitQueue τ Item := .empty
  closing : Closing := .isOpen
  lost : Bool := false
  tasks : τ → Status := fun _ => .idle
  arrived : List ReceivedDatagram := []
  delivered : List (τ × ReceivedDatagram) := []

/-- `arrives` has no address where it is not one of a host and a port. -/
inductive Action (τ : Type)
  | receives (task : τ)
  | resumes (task : τ)
  | arrives (data : Bytes) (address : Option SocketAddress)
  | loses (cause : Option String)
  | closes
  | resumesClose

namespace State

variable {τ : Type} (state : State τ)

def datagramReceived (data : Bytes) : Option SocketAddress → State τ
  | none => state
  | some address =>
    let received := { data := data, sourceAddress := address }
    { state with queue := state.queue.put (.datagram received), arrived := state.arrived ++ [received] }

def connectionLost (cause : Option String) : State τ :=
  { state with queue := state.queue.put (.serverClosed cause), lost := true }

def close : State τ :=
  match state.closing with
  | .isOpen => { state with closing := if state.lost then .returned else .awaiting }
  | _ => state

variable [DecidableEq τ]

def turned (task : τ) : Option Item × WaitQueue τ Item → State τ
  | (none, queue) => { state with queue := queue, tasks := Function.update state.tasks task .receiving }
  | (some item, queue) =>
    { state with
      queue := queue
      tasks := Function.update state.tasks task item.status
      delivered := state.delivered ++ item.datagram?.toList.map (task, ·) }

def receive (task : τ) : State τ :=
  match state.closing with
  | .isOpen => state.turned task (state.queue.get task)
  | _ => { state with tasks := Function.update state.tasks task (.raised notOpen none) }

/-- After `transport.close()` no more data is received, and only then is the connection lost without a cause. -/
def next : Action τ → Option (State τ)
  | .receives task => if state.tasks task = .idle then some (state.receive task) else none
  | .resumes task => if task ∈ state.queue.woken then some (state.turned task (state.queue.resume task)) else none
  | .arrives data address =>
    if state.closing = .isOpen ∧ ¬ state.lost then some (state.datagramReceived data address) else none
  | .loses cause =>
    if ¬ state.lost ∧ (cause = none → state.closing ≠ .isOpen) then some (state.connectionLost cause) else none
  | .closes => some state.close
  | .resumesClose =>
    if state.closing = .awaiting ∧ state.lost then some { state with closing := .returned } else none

end State

def serving (τ : Type) [DecidableEq τ] : System (State τ) (Action τ) where
  Initial := fun state => state = {}
  next := fun state action => state.next action

end UdpServer

end TrishulSnmp
