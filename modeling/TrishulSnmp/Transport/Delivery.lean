import TrishulSnmp.Library.DatagramCalls
import TrishulSnmp.Transport.ForeignTraffic

namespace TrishulSnmp.Transport

open Outcome

def NetworkFailure (e : Error) : Prop := e = receiveTimeout ∨ e = receiveFailure ∨ e = sendFailure

variable {unwrap : Unwrap} {requestId : ℤ}

theorem receive_ends {receives rest : List Reception} {result : Except Error Pdu}
    (h : receiveMatchingResponse unwrap requestId receives = some (result, rest)) :
    (∀ reception ∈ rest, reception ∈ receives) ∧ ((∃ e, result = .error e ∧ NetworkFailure e) ∨
      ∃ data, .datagram data ∈ receives ∧ matchResponse unwrap requestId data = result.map some) := by
  induction receives with
  | nil => cases h
  | cons reception receives ih =>
    cases reception with
    | timedOut =>
      cases h
      exact ⟨fun _ => List.mem_cons_of_mem _, .inl ⟨_, rfl, .inl rfl⟩⟩
    | failed =>
      cases h
      exact ⟨fun _ => List.mem_cons_of_mem _, .inl ⟨_, rfl, .inr (.inl rfl)⟩⟩
    | datagram data =>
      rw [receiveMatchingResponse] at h
      cases hmatch : matchResponse unwrap requestId data with
      | error e =>
        simp only [hmatch] at h
        cases h
        exact ⟨fun _ => List.mem_cons_of_mem _, .inr ⟨data, List.mem_cons_self, hmatch⟩⟩
      | ok found =>
        simp only [hmatch] at h
        cases found with
        | some pdu =>
          cases h
          exact ⟨fun _ => List.mem_cons_of_mem _, .inr ⟨data, List.mem_cons_self, hmatch⟩⟩
        | none =>
          obtain ⟨hrest, hresult⟩ := ih h
          refine ⟨fun reception hmem => List.mem_cons_of_mem _ (hrest reception hmem), hresult.imp_right ?_⟩
          rintro ⟨data', hmem, hmatch'⟩
          exact ⟨data', List.mem_cons_of_mem _ hmem, hmatch'⟩

variable {request : PreparedRequest} {sendFails : ℕ → Bool} {left attempt : ℕ} {receives : List Reception}

theorem sendAttempts_decided {result : Except Error Pdu}
    (h : (sendAttempts unwrap request sendFails left attempt receives).outcome = some result) :
    (∃ e, result = .error e ∧ NetworkFailure e) ∨
      ∃ data, .datagram data ∈ receives ∧ matchResponse unwrap request.requestId data = result.map some := by
  fun_induction sendAttempts unwrap request sendFails left attempt receives with
  | case1 =>
    cases h
    exact .inl ⟨_, rfl, .inr (.inr rfl)⟩
  | case2 => cases h
  | case3 _ _ _ _ _ _ hreceive | case4 _ _ _ _ _ hreceive | case6 _ _ _ _ _ _ hreceive =>
    cases h
    exact (receive_ends hreceive).2
  | case5 _ _ _ _ _ hreceive _ _ _ ih =>
    refine (ih h).imp_right ?_
    rintro ⟨data, hmem, hmatch⟩
    exact ⟨data, (receive_ends hreceive).1 _ hmem, hmatch⟩

theorem sendAttempts_sent : ∀ data ∈ (sendAttempts unwrap request sendFails left attempt receives).sent,
    data = request.encodedMessage := by
  fun_induction sendAttempts unwrap request sendFails left attempt receives with
  | case5 _ _ _ _ _ _ _ _ dispatched ih => simpa [dispatched] using ih
  | _ => simp

theorem sendAttempts_sent_length_le :
    (sendAttempts unwrap request sendFails left attempt receives).sent.length ≤ left + 1 := by
  fun_induction sendAttempts unwrap request sendFails left attempt receives with
  | case5 _ _ _ _ _ _ _ _ dispatched ih => simpa [dispatched] using ih
  | _ => simp

theorem Waits.sent (h : Waits unwrap request sendFails left attempt receives) :
    request.encodedMessage ∈ (sendAttempts unwrap request sendFails left attempt receives).sent := by
  induction h with
  | receiving hsend hwait =>
    unfold sendAttempts
    simp [hsend, hwait]
  | retry hsend hend htimeout _ _ =>
    unfold sendAttempts
    simp [hsend, hend, htimeout]

structure RequestDispatcher where
  unwrap : Unwrap
  retries : ℕ
  maxDatagramSize : ℕ

namespace RequestDispatcher

variable (dispatcher : RequestDispatcher)

def unwrapReceived : Unwrap := fun data => dispatcher.unwrap (data.take dispatcher.maxDatagramSize)

def dispatch (sendFails : ℕ → ℕ → Bool) (requestId : ℕ) (data : Bytes) (given : List Reception) : Dispatched :=
  sendPreparedRequest dispatcher.unwrapReceived dispatcher.retries ⟨requestId, data⟩ (sendFails requestId) given

def accept (requestId : ℕ) (data : Bytes) : Except Error (Option Pdu) :=
  matchResponse dispatcher.unwrapReceived requestId data

end RequestDispatcher

def carried : Reception → Option Bytes
  | .datagram data => some data
  | .timedOut | .failed => none

section Network

variable {σ w q v : Type} (dispatcher : RequestDispatcher) (sendFails : ℕ → ℕ → Bool) (arguments : q → Except Error v)
  (wrap : ℕ → q → v → Except Error Bytes) (serve : w → Bytes → w × Option Bytes) (question : σ → Option q)
  (resume : σ → Except Error Pdu → σ)

/-- A request takes its number after its `arguments` and before it is wrapped. `sendFails` tells of each
request which of its sends the socket refuses. -/
def dispatcherNetwork : DatagramNetwork σ w q Pdu Bytes Reception Error where
  question := question
  resume := resume
  numbers := fun query => (arguments query).toBool
  prepare := fun requestId query => arguments query >>= wrap requestId query
  call := fun requestId data given => (dispatcher.dispatch sendFails requestId data given).outcome
  sent := fun requestId data given => (dispatcher.dispatch sendFails requestId data given).sent
  carried := carried
  serve := serve
  numbers_of_prepare := by
    intro requestId query data h
    obtain ⟨arguments, harguments, -⟩ := bind_ok_iff.mp h
    rw [harguments]
    rfl

variable {dispatcher sendFails arguments wrap serve question resume}

theorem dispatcherNetwork_copies (requestId : ℕ) (data : Bytes) (given : List Reception) :
    ((dispatcherNetwork dispatcher sendFails arguments wrap serve question resume).sent requestId data given).length ≤
      dispatcher.retries + 1 := sendAttempts_sent_length_le

variable {Sound : w → Prop} {Good : ℕ → q → Prop} {expected : ℕ → q → Pdu}

theorem dispatcherNetwork_lawful (hserves : ∀ {requestId query data}, Good requestId query →
      arguments query >>= wrap requestId query = .ok data → ∀ world, Sound world → Sound (serve world data).1 ∧
        ∀ reply, (serve world data).2 = some reply →
          DatagramNetwork.Answers dispatcher.accept expected requestId query reply) :
    (dispatcherNetwork dispatcher sendFails arguments wrap serve question resume).Lawful Sound Good dispatcher.accept
      expected NetworkFailure where
  answered := by
    intro id data given pdu h
    obtain ⟨e, he, -⟩ | ⟨reply, hmem, hmatch⟩ := sendAttempts_decided h
    · cases he
    · exact ⟨_, hmem, reply, rfl, hmatch⟩
  failed := by
    intro id data given e h
    obtain ⟨e', he, hfailure⟩ | ⟨reply, hmem, hmatch⟩ := sendAttempts_decided h
    · cases he
      exact .inl hfailure
    · exact .inr ⟨_, hmem, reply, rfl, hmatch⟩
  sends := sendAttempts_sent
  serves := hserves

theorem dispatcherNetwork_delivers (hreplies : ∀ {requestId query}, Good requestId query →
      ∃ data, arguments query >>= wrap requestId query = .ok data ∧
        ∀ world, Sound world → ∃ reply, (serve world data).2 = some reply) :
    (dispatcherNetwork dispatcher (fun _ _ => false) arguments wrap serve question resume).Delivers Sound Good
      dispatcher.accept where
  starts := by
    intro id query data _
    change (sendAttempts _ _ _ _ _ []).outcome = none
    unfold sendAttempts
    rfl
  waits := fun h => (waits_of_waiting h).sent
  finishes := by
    intro id data given event reply pdu hcall hevent hmatch
    cases event with
    | datagram received =>
      obtain rfl := Option.some.inj hevent
      exact sendAttempts_answer (waits_of_waiting hcall) hmatch []
    | timedOut => cases hevent
    | failed => cases hevent
  carries := fun reply => ⟨.datagram reply, rfl⟩
  replies := hreplies

theorem answers_of_unwrap {requestId : ℕ} {query : q} {reply : Bytes}
    (hread : reply.length ≤ dispatcher.maxDatagramSize)
    (hunwrap : dispatcher.unwrap reply = .ok (some (expected requestId query)))
    (htype : (expected requestId query).pduType = .response) (hid : (expected requestId query).requestId = requestId) :
    DatagramNetwork.Answers dispatcher.accept expected requestId query reply := by
  have hreceived : dispatcher.unwrapReceived reply = .ok (some (expected requestId query)) := by
    rw [RequestDispatcher.unwrapReceived, List.take_of_length_le hread]
    exact hunwrap
  refine ⟨matchResponse_answer hreceived htype hid, fun later hlater => ?_⟩
  refine matchResponse_other hreceived htype ?_
  rw [hid, ne_eq, Nat.cast_inj]
  omega

end Network

end TrishulSnmp.Transport
