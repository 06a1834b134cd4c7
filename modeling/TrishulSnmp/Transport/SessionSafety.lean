import Mathlib.Data.List.Pairwise
import TrishulSnmp.Transport.ForeignTraffic
import TrishulSnmp.Transport.Session

namespace TrishulSnmp.Transport

open Outcome

/-! No answer of a shared session reaches a task that did not ask for it. -/

variable {τ μ : Type}

def Position.request? : Position → Option ℕ
  | sending request _ | receiving request _ => some request.requestId
  | _ => none

def Status.Holding : Status → Prop
  | .holding _ _ => True
  | _ => False

def Status.OnSocket : Status → Prop
  | .holding _ position => position ≠ .entered
  | _ => False

theorem Status.OnSocket.holding {status : Status} (h : status.OnSocket) : status.Holding := by
  cases status with
  | holding call position => trivial
  | _ => exact h.elim

def Status.Allotted : Status → Prop
  | .holding _ position => position.request?.isSome
  | .ended _ _ => True
  | _ => False

def Status.Consistent (unwrapMessage : μ → Unwrap) (handedOut : List (Allotment τ)) (peerSent : List Bytes) (task : τ) :
    Status → Prop
  | .holding call position =>
    ∀ id, position.request? = some id → { task := task, requestId := id, call := call } ∈ handedOut
  | .ended call (.returned id pdu) => { task := task, requestId := id, call := call } ∈ handedOut ∧
      pdu.pduType = .response ∧ pdu.requestId = id ∧
      ∃ data ∈ peerSent, ∃ model, unwrapMessage model data = .ok (some pdu)
  | .ended call (.sent id) => { task := task, requestId := id, call := call } ∈ handedOut
  | _ => True

theorem matchResponse_some {unwrap : Unwrap} {requestId : ℤ} {data : Bytes} {pdu : Pdu}
    (h : matchResponse unwrap requestId data = .ok (some pdu)) :
    unwrap data = .ok (some pdu) ∧ pdu.pduType = .response ∧ pdu.requestId = requestId := by
  obtain ⟨answer, hanswer, h⟩ := bind_ok_iff.mp h
  cases answer with
  | none => cases h
  | some answer =>
    simp only at h
    obtain ⟨htype, h⟩ := ite_ok_iff.mp h
    obtain ⟨-, h⟩ | ⟨hid, h⟩ := ite_cases h
    · cases h
    · cases h
      exact ⟨hanswer, not_not.mp htype, not_not.mp hid⟩

section Resume

variable {session : Session μ} {task : τ} {call : Call} {shared shared' : Shared τ μ} {progress : Progress}

def Progress.Continues (unwrap : Unwrap) (position : Position) (wakeup : Wakeup) : Progress → Prop
  | .goes position' => position'.request? = position.request?
  | .ends (.returned id pdu) => position.request? = some id ∧
      ∃ data, wakeup = .received (.datagram data) ∧ matchResponse unwrap id data = .ok (some pdu)
  | .ends (.sent id) => position.request? = some id
  | .ends _ => True

def Progress.Prepares (id : ℕ) : Progress → Prop
  | .goes position => position.request? = some id
  | .ends (.raised _) => True
  | .ends _ => False

def Keeps (shared shared' : Shared τ μ) : Prop :=
  shared'.nextId = shared.nextId ∧ shared'.handedOut = shared.handedOut

def HandsOut (task : τ) (call : Call) (shared shared' : Shared τ μ) : Prop :=
  shared'.nextId = shared.nextId + 1 ∧
    shared'.handedOut = shared.handedOut ++ [{ task := task, requestId := shared.nextId, call := call }]

theorem prepareRequest_cases (h : session.prepareRequest task call shared = (progress, shared')) :
    HandsOut task call shared shared' ∧ progress.Prepares shared.nextId := by
  unfold Session.prepareRequest at h
  simp only at h
  split at h
  · cases h
    exact ⟨⟨rfl, rfl⟩, trivial⟩
  · cases h
    exact ⟨⟨rfl, rfl⟩, rfl⟩

theorem enter_cases {unwrap : Unwrap} (h : session.enter task call shared = (progress, shared')) :
    (Keeps shared shared' ∧ progress.Continues unwrap .entered .started) ∨
      (HandsOut task call shared shared' ∧ progress.Prepares shared.nextId) := by
  unfold Session.enter at h
  obtain ⟨-, h⟩ | ⟨-, h⟩ := ite_cases h
  · simp only at h
    split at h
    · cases h
      exact .inl ⟨⟨rfl, rfl⟩, trivial⟩
    · cases h
      exact .inl ⟨⟨rfl, rfl⟩, rfl⟩
  · exact .inr (prepareRequest_cases h)

theorem parseReport_cases {data : Bytes} (h : session.parseReport task call data shared = (progress, shared')) :
    (Keeps shared shared' ∧ ∃ e, progress = .ends (.raised e)) ∨
      (HandsOut task call shared shared' ∧ progress.Prepares shared.nextId) := by
  unfold Session.parseReport at h
  simp only at h
  split at h
  · cases h
    exact .inl ⟨⟨rfl, rfl⟩, _, rfl⟩
  · have hprepared := prepareRequest_cases h
    exact .inr hprepared

theorem retry_continues {unwrap : Unwrap} {position : Position} {wakeup : Wakeup} {e : Error} {again : ℕ → Position}
    (hagain : ∀ left, (again left).request? = position.request?) (left : ℕ) :
    (Session.retry e again left).Continues unwrap position wakeup := by
  unfold Session.retry
  split_ifs
  · cases left with
    | zero => trivial
    | succ left => exact hagain left
  · trivial

theorem receiveDatagram_continues {request : PreparedRequest} {left : ℕ} {data : Bytes} :
    (session.receiveDatagram request left data shared).Continues (session.security.unwrapMessage shared.model)
      (.receiving request left) (.received (.datagram data)) := by
  unfold Session.receiveDatagram
  cases hmatch : matchResponse (session.security.unwrapMessage shared.model) request.requestId data with
  | error e =>
    apply retry_continues
    intro left
    rfl
  | ok answer =>
    cases answer with
    | none => rfl
    | some pdu => exact ⟨rfl, data, rfl, hmatch⟩

theorem resume_cases {position : Position} {wakeup : Wakeup}
    (h : session.resume task call position wakeup shared = some (progress, shared')) :
    (Keeps shared shared' ∧
      progress.Continues (session.security.unwrapMessage shared.model) position wakeup) ∨
    (position.request? = none ∧ HandsOut task call shared shared' ∧ progress.Prepares shared.nextId) := by
  unfold Session.resume at h
  split at h
  · cases h
    exact .inl ⟨⟨rfl, rfl⟩, trivial⟩
  · obtain hkeeps | hhands := enter_cases (Option.some.inj h)
    · exact .inl hkeeps
    · exact .inr ⟨rfl, hhands⟩
  · cases h
    exact .inl ⟨⟨rfl, rfl⟩, rfl⟩
  · obtain ⟨-, h⟩ | ⟨-, h⟩ := ite_cases h
    · cases h
      exact .inl ⟨⟨rfl, rfl⟩, rfl⟩
    · cases h
      exact .inl ⟨⟨rfl, rfl⟩, rfl⟩
  · cases h
    exact .inl ⟨⟨rfl, rfl⟩, trivial⟩
  · cases h
    exact .inl ⟨⟨rfl, rfl⟩, trivial⟩
  · obtain ⟨hkeeps, e, rfl⟩ | hhands := parseReport_cases (Option.some.inj h)
    · exact .inl ⟨hkeeps, trivial⟩
    · exact .inr ⟨rfl, hhands⟩
  · cases h
    refine .inl ⟨⟨rfl, rfl⟩, ?_⟩
    apply retry_continues
    intro left
    rfl
  · cases h
    exact .inl ⟨⟨rfl, rfl⟩, receiveDatagram_continues⟩
  · cases h
    refine .inl ⟨⟨rfl, rfl⟩, ?_⟩
    apply retry_continues
    intro left
    rfl
  · cases h
    exact .inl ⟨⟨rfl, rfl⟩, trivial⟩
  · cases h
    exact .inl ⟨⟨rfl, rfl⟩, trivial⟩
  · cases h

end Resume

variable [DecidableEq τ] {session : Session μ} {state state' : SessionState τ μ}

theorem mem_of_socket {wakeup : Wakeup} {socket socket' : List Bytes} (h : wakeup.socket socket = some socket') :
    (∀ data ∈ socket', data ∈ socket) ∧ ∀ data, wakeup = .received (.datagram data) → data ∈ socket := by
  unfold Wakeup.socket at h
  split at h
  · split at h
    · split_ifs at h with hfront
      cases h
      refine ⟨fun data hmem => List.mem_cons_of_mem _ hmem, fun data hdata => ?_⟩
      cases hdata
      exact hfront ▸ List.mem_cons_self
    · cases h
  · cases h
    refine ⟨fun data hmem => hmem, fun data hdata => ?_⟩
    subst hdata
    simp_all

inductive Stepped (session : Session μ) (state : SessionState τ μ) : SessionState τ μ → Prop
  | calls (task : τ) (call : Call) (hidle : state.tasks task = .idle) :
      Stepped session state (state.setTask task (.queued call))
  | acquires (task : τ) (call : Call) (hqueued : state.tasks task = .queued call) (hlock : state.lock = none) :
      Stepped session state { state.setTask task (.holding call .entered) with lock := some task }
  | withdraws (task : τ) (call : Call) (hqueued : state.tasks task = .queued call) :
      Stepped session state (state.setTask task (.ended call .cancelled))
  | resumes (task : τ) (wakeup : Wakeup) {call : Call} {position : Position} {progress : Progress}
      {shared : Shared τ μ} {socket : List Bytes} (hholding : state.tasks task = .holding call position)
      (hsocket : wakeup.socket state.socket = some socket)
      (hresume : session.resume task call position wakeup state.shared = some (progress, shared)) :
      Stepped session state { state.setTask task (progress.status call) with
        lock := progress.lock task
        shared := shared
        socket := socket }
  | peerSends (data : Bytes) : Stepped session state { state with peerSent := data :: state.peerSent }
  | carries (socket : List Bytes) (hsocket : ∀ data ∈ socket, data ∈ state.socket ∨ data ∈ state.peerSent) :
      Stepped session state { state with socket := socket }

theorem next_stepped {action : Action τ} (h : session.next state action = some state') :
    Stepped session state state' := by
  cases action with
  | call task call =>
    simp only [Session.next] at h
    split at h
    · rename_i hidle
      cases h
      exact .calls task call hidle
    · cases h
  | acquire task =>
    simp only [Session.next] at h
    split at h
    · rename_i call hqueued hlock
      cases h
      exact .acquires task call hqueued hlock
    · cases h
  | withdraw task =>
    simp only [Session.next] at h
    split at h
    · rename_i call hqueued
      cases h
      exact .withdraws task call hqueued
    · cases h
  | resume task wakeup =>
    simp only [Session.next] at h
    split at h
    · rename_i call position socket hholding hsocket
      split at h
      · rename_i progress shared hresume
        cases h
        exact .resumes task wakeup hholding hsocket hresume
      · cases h
    · cases h
  | peerSends data =>
    cases h
    exact .peerSends data
  | delivers data =>
    simp only [Session.next] at h
    split_ifs at h with hmem
    cases h
    refine .carries _ fun other hother => ?_
    obtain hother | hother := List.mem_append.mp hother
    · exact .inl hother
    · exact .inr (List.mem_singleton.mp hother ▸ hmem)
  | loses index =>
    cases h
    exact .carries _ fun other hother => .inl (List.mem_of_mem_eraseIdx hother)

/-- The lock has the one task that is inside, ids are handed out once and in order, and each task is
at the request that was handed out to it. -/
structure Inv (session : Session μ) (state : SessionState τ μ) : Prop where
  lock : ∀ task, state.lock = some task ↔ (state.tasks task).Holding
  distinct : state.shared.handedOut.Pairwise fun a b => a.requestId < b.requestId ∧ a.task ≠ b.task
  below : ∀ a ∈ state.shared.handedOut, a.requestId < state.shared.nextId
  allotted : ∀ a ∈ state.shared.handedOut, (state.tasks a.task).Allotted
  consistent : ∀ task, (state.tasks task).Consistent session.security.unwrapMessage state.shared.handedOut
    state.peerSent task
  socket : ∀ data ∈ state.socket, data ∈ state.peerSent

omit [DecidableEq τ] in
theorem initial_inv (h : state.Initial) : Inv session state where
  lock := by
    intro task
    rw [h.lock, h.tasks]
    constructor
    · intro hnone
      cases hnone
    · exact False.elim
  distinct := by rw [h.handedOut]; exact .nil
  below := by simp [h.handedOut]
  allotted := by simp [h.handedOut]
  consistent := by
    intro task
    rw [h.tasks]
    trivial
  socket := h.socket

omit [DecidableEq τ] in
theorem Status.Consistent.mono {unwrapMessage : μ → Unwrap} {handedOut handedOut' : List (Allotment τ)}
    {peerSent peerSent' : List Bytes} {task : τ} {status : Status}
    (h : status.Consistent unwrapMessage handedOut peerSent task) (hhanded : ∀ a ∈ handedOut, a ∈ handedOut')
    (hsent : ∀ data ∈ peerSent, data ∈ peerSent') : status.Consistent unwrapMessage handedOut' peerSent' task := by
  match status with
  | .idle | .queued _ | .ended _ (.raised _) | .ended _ .cancelled => trivial
  | .holding _ _ => exact fun id hid => hhanded _ (h id hid)
  | .ended _ (.sent _) => exact hhanded _ h
  | .ended _ (.returned _ _) =>
    obtain ⟨hmem, htype, hid, data, hdata, model, hunwrap⟩ := h
    exact ⟨hhanded _ hmem, htype, hid, data, hsent data hdata, model, hunwrap⟩

theorem consistent_setTask (hi : Inv session state) {task : τ} {status : Status} {handedOut : List (Allotment τ)}
    (hhanded : ∀ a ∈ state.shared.handedOut, a ∈ handedOut)
    (hstatus : status.Consistent session.security.unwrapMessage handedOut state.peerSent task) (other : τ) :
    ((state.setTask task status).tasks other).Consistent session.security.unwrapMessage handedOut state.peerSent
      other := by
  by_cases heq : other = task
  · subst heq
    rw [setTask_self]
    exact hstatus
  · rw [setTask_other _ heq]
    exact (hi.consistent other).mono hhanded fun _ hdata => hdata

theorem allotted_setTask (hi : Inv session state) {task : τ} {status : Status}
    (hstatus : (state.tasks task).Allotted → status.Allotted) :
    ∀ a ∈ state.shared.handedOut, ((state.setTask task status).tasks a.task).Allotted := by
  intro a hmem
  by_cases heq : a.task = task
  · rw [heq, setTask_self]
    exact hstatus (heq ▸ hi.allotted a hmem)
  · rw [setTask_other _ heq]
    exact hi.allotted a hmem

theorem lock_setTask {task : τ} {status : Status} {lock : Option τ} (hlock : lock = some task ↔ status.Holding)
    (hothers : ∀ other, other ≠ task → (lock = some other ↔ (state.tasks other).Holding)) (other : τ) :
    lock = some other ↔ ((state.setTask task status).tasks other).Holding := by
  by_cases heq : other = task
  · subst heq
    rw [setTask_self]
    exact hlock
  · rw [setTask_other _ heq]
    exact hothers other heq

omit [DecidableEq τ] in
theorem not_holding_others (hi : Inv session state) {task other : τ} (hholding : (state.tasks task).Holding)
    (hne : other ≠ task) : ¬ (state.tasks other).Holding := by
  intro hother
  have hlock := ((hi.lock task).mpr hholding).symm.trans ((hi.lock other).mpr hother)
  exact hne (Option.some.inj hlock).symm

theorem setTask_inv (hi : Inv session state) {task : τ} {status : Status} (hold : ¬ (state.tasks task).Holding)
    (hnew : ¬ status.Holding) (hallotted : (state.tasks task).Allotted → status.Allotted)
    (hconsistent : status.Consistent session.security.unwrapMessage state.shared.handedOut state.peerSent task) :
    Inv session (state.setTask task status) where
  lock := by
    apply lock_setTask
    · exact ⟨fun hlock => absurd ((hi.lock task).mp hlock) hold, fun h => absurd h hnew⟩
    · exact fun other _ => hi.lock other
  distinct := hi.distinct
  below := hi.below
  allotted := allotted_setTask hi hallotted
  consistent := consistent_setTask hi (fun _ hmem => hmem) hconsistent
  socket := hi.socket

theorem acquire_inv (hi : Inv session state) {task : τ} {call : Call} (hqueued : state.tasks task = .queued call)
    (hlock : state.lock = none) :
    Inv session { state.setTask task (.holding call .entered) with lock := some task } where
  lock := by
    apply lock_setTask
    · exact ⟨fun _ => trivial, fun _ => rfl⟩
    · intro other hne
      rw [← hi.lock other, hlock]
      exact ⟨fun h => absurd (Option.some.inj h).symm hne, fun h => by cases h⟩
  distinct := hi.distinct
  below := hi.below
  allotted := by
    apply allotted_setTask hi
    rw [hqueued]
    exact False.elim
  consistent := by
    apply consistent_setTask hi (fun _ hmem => hmem)
    intro id hid
    cases hid
  socket := hi.socket

theorem lock_progress (hi : Inv session state) {task : τ} {call : Call} {position : Position}
    (hholding : state.tasks task = .holding call position) (progress : Progress) (other : τ) :
    progress.lock task = some other ↔ ((state.setTask task (progress.status call)).tasks other).Holding := by
  have hothers : ∀ other, other ≠ task → ¬ (state.tasks other).Holding := by
    intro other
    apply not_holding_others hi
    rw [hholding]
    trivial
  apply lock_setTask
  · cases progress with
    | goes position => exact ⟨fun _ => trivial, fun _ => rfl⟩
    | ends outcome =>
      constructor
      · intro h
        cases h
      · exact False.elim
  · intro other hne
    refine ⟨fun h => ?_, fun h => absurd h (hothers other hne)⟩
    cases progress with
    | goes position => exact absurd (Option.some.inj h).symm hne
    | ends outcome => cases h

theorem keeps_inv (hi : Inv session state) {task : τ} {wakeup : Wakeup} {call : Call} {position : Position}
    {progress : Progress} {shared : Shared τ μ} {socket : List Bytes}
    (hholding : state.tasks task = .holding call position) (hsocket : wakeup.socket state.socket = some socket)
    (hkeeps : Keeps state.shared shared)
    (hcontinues : progress.Continues (session.security.unwrapMessage state.shared.model) position wakeup) :
    Inv session { state.setTask task (progress.status call) with
      lock := progress.lock task
      shared := shared
      socket := socket } := by
  obtain ⟨hnext, hhanded⟩ := hkeeps
  obtain ⟨hrest, hwoken⟩ := mem_of_socket hsocket
  have hown := hi.consistent task
  rw [hholding] at hown
  refine ⟨lock_progress hi hholding progress, hhanded ▸ hi.distinct, ?_, ?_, ?_, ?_⟩
  · rw [hhanded, hnext]
    exact hi.below
  · rw [hhanded]
    apply allotted_setTask hi
    rw [hholding]
    intro hallotted
    cases progress with
    | goes position' =>
      change position'.request?.isSome
      rw [show position'.request? = position.request? from hcontinues]
      exact hallotted
    | ends outcome => trivial
  · rw [hhanded]
    apply consistent_setTask hi (fun _ hmem => hmem)
    match progress with
    | .goes position' =>
      intro id hid
      exact hown id (hcontinues ▸ hid)
    | .ends (.returned id pdu) =>
      -- the datagram that matched was read from the socket, where only the peer's datagrams are
      obtain ⟨hid, data, rfl, hmatch⟩ := hcontinues
      obtain ⟨hunwrap, htype, hrequest⟩ := matchResponse_some hmatch
      exact ⟨hown id hid, htype, hrequest, data, hi.socket data (hwoken data rfl), _, hunwrap⟩
    | .ends (.sent id) => exact hown id hcontinues
    | .ends (.raised _) | .ends .cancelled => trivial
  · exact fun data hdata => hi.socket data (hrest data hdata)

omit [DecidableEq τ] in
theorem prepared_allotted {progress : Progress} {call : Call} {id : ℕ} (h : progress.Prepares id) :
    (progress.status call).Allotted := by
  cases progress with
  | goes position =>
    change position.request?.isSome
    rw [show position.request? = some id from h]
    rfl
  | ends outcome => trivial

omit [DecidableEq τ] in
theorem prepared_consistent {progress : Progress} {call : Call} {unwrap : μ → Unwrap} {handedOut : List (Allotment τ)}
    {peerSent : List Bytes} {task : τ} {id : ℕ} (h : progress.Prepares id)
    (hhanded : { task := task, requestId := id, call := call } ∈ handedOut) :
    (progress.status call).Consistent unwrap handedOut peerSent task := by
  match progress with
  | .goes position =>
    intro other hother
    obtain rfl : id = other := Option.some.inj ((show position.request? = _ from h).symm.trans hother)
    exact hhanded
  | .ends (.raised _) => trivial
  | .ends (.returned _ _) | .ends (.sent _) | .ends .cancelled => exact h.elim

theorem handsOut_inv (hi : Inv session state) {task : τ} {wakeup : Wakeup} {call : Call} {position : Position}
    {progress : Progress} {shared : Shared τ μ} {socket : List Bytes}
    (hholding : state.tasks task = .holding call position) (hsocket : wakeup.socket state.socket = some socket)
    (hnone : position.request? = none) (hhands : HandsOut task call state.shared shared)
    (hprepares : progress.Prepares state.shared.nextId) :
    Inv session { state.setTask task (progress.status call) with
      lock := progress.lock task
      shared := shared
      socket := socket } := by
  obtain ⟨hnext, hhanded⟩ := hhands
  obtain ⟨hrest, -⟩ := mem_of_socket hsocket
  -- until now nothing was handed out to the task
  have hfresh : ∀ a ∈ state.shared.handedOut, a.task ≠ task := by
    intro a hmem heq
    have hallotted := hi.allotted a hmem
    rw [heq, hholding] at hallotted
    change position.request?.isSome at hallotted
    rw [hnone] at hallotted
    cases hallotted
  refine ⟨lock_progress hi hholding progress, ?_, ?_, ?_, ?_, ?_⟩
  · rw [hhanded]
    refine List.pairwise_append.mpr ⟨hi.distinct, List.pairwise_singleton _ _, fun a ha b hb => ?_⟩
    obtain rfl := List.mem_singleton.mp hb
    exact ⟨hi.below a ha, hfresh a ha⟩
  · rw [hhanded, hnext]
    intro a hmem
    obtain hmem | hmem := List.mem_append.mp hmem
    · exact Nat.lt_succ_of_lt (hi.below a hmem)
    · obtain rfl := List.mem_singleton.mp hmem
      exact Nat.lt_succ_self _
  · rw [hhanded]
    intro a hmem
    obtain hmem | hmem := List.mem_append.mp hmem
    · rw [setTask_other _ (hfresh a hmem)]
      exact hi.allotted a hmem
    · obtain rfl := List.mem_singleton.mp hmem
      rw [setTask_self]
      exact prepared_allotted hprepares
  · rw [hhanded]
    apply consistent_setTask hi (fun _ hmem => List.mem_append_left _ hmem)
    exact prepared_consistent hprepares (List.mem_append_right _ (List.mem_singleton_self _))
  · exact fun data hdata => hi.socket data (hrest data hdata)

theorem resume_inv (hi : Inv session state) {task : τ} {wakeup : Wakeup} {call : Call} {position : Position}
    {progress : Progress} {shared : Shared τ μ} {socket : List Bytes}
    (hholding : state.tasks task = .holding call position) (hsocket : wakeup.socket state.socket = some socket)
    (hresume : session.resume task call position wakeup state.shared = some (progress, shared)) :
    Inv session { state.setTask task (progress.status call) with
      lock := progress.lock task
      shared := shared
      socket := socket } := by
  obtain ⟨hkeeps, hcontinues⟩ | ⟨hnone, hhands, hprepares⟩ := resume_cases hresume
  · exact keeps_inv hi hholding hsocket hkeeps hcontinues
  · exact handsOut_inv hi hholding hsocket hnone hhands hprepares

theorem next_inv {action : Action τ} (hi : Inv session state) (h : session.next state action = some state') :
    Inv session state' := by
  cases next_stepped h with
  | calls task call hidle =>
    apply setTask_inv hi
    · rw [hidle]
      exact id
    · exact id
    · rw [hidle]
      exact id
    · trivial
  | acquires task call hqueued hlock => exact acquire_inv hi hqueued hlock
  | withdraws task call hqueued =>
    apply setTask_inv hi
    · rw [hqueued]
      exact id
    · exact id
    · exact fun _ => trivial
    · trivial
  | resumes task wakeup hholding hsocket hresume => exact resume_inv hi hholding hsocket hresume
  | peerSends data =>
    exact { hi with
      consistent := fun task => (hi.consistent task).mono (fun _ hmem => hmem) fun _ => List.mem_cons_of_mem _
      socket := fun data hmem => List.mem_cons_of_mem _ (hi.socket data hmem) }
  | carries socket hsocket =>
    exact { hi with socket := fun data hmem => (hsocket data hmem).elim (hi.socket data) id }

theorem reachable_inv (h : (session.system τ).Reachable state) : Inv session state := by
  refine h.invariant (fun state hinitial => initial_inv hinitial) ?_
  intro state action state' hinv _ hnext
  exact next_inv hinv hnext

theorem no_crossed_answers (h : (session.system τ).Reachable state) :
    (∀ task other, (state.tasks task).OnSocket → (state.tasks other).OnSocket → task = other) ∧
    (state.shared.handedOut.map Allotment.requestId).Nodup ∧
    ∀ task call id pdu, state.tasks task = .ended call (.returned id pdu) →
      { task := task, requestId := id, call := call } ∈ state.shared.handedOut ∧
      (∀ a ∈ state.shared.handedOut, a.task = task ↔ a.requestId = id) ∧
      pdu.pduType = .response ∧ pdu.requestId = id ∧
      ∀ Answers : Allotment τ → Pdu → Prop,
        (∀ data ∈ state.peerSent, ∀ model answer, session.security.unwrapMessage model data = .ok (some answer) →
          answer.pduType = .response → ∀ a ∈ state.shared.handedOut, answer.requestId = a.requestId →
            Answers a answer) →
        Answers { task := task, requestId := id, call := call } pdu := by
  have hi := reachable_inv h
  refine ⟨?_, ?_, ?_⟩
  · intro task other htask hother
    by_contra hne
    exact not_holding_others hi hother.holding hne htask.holding
  · rw [List.nodup_iff_pairwise_ne, List.pairwise_map]
    exact hi.distinct.imp fun hlt => hlt.1.ne
  · intro task call id pdu hended
    have hconsistent := hi.consistent task
    rw [hended] at hconsistent
    obtain ⟨hmem, htype, hid, data, hdata, model, hunwrap⟩ := hconsistent
    refine ⟨hmem, ?_, htype, hid, ?_⟩
    · have hsame : state.shared.handedOut.Pairwise fun a b => a.task = b.task ↔ a.requestId = b.requestId :=
        hi.distinct.imp fun hlt => iff_of_false hlt.2 hlt.1.ne
      have hflip : state.shared.handedOut.Pairwise (flip fun a b => a.task = b.task ↔ a.requestId = b.requestId) :=
        hi.distinct.imp fun hlt => iff_of_false hlt.2.symm hlt.1.ne'
      intro a ha
      refine hsame.forall_of_forall_of_flip ?_ hflip ha hmem
      exact fun _ _ => iff_of_true rfl rfl
    · intro Answers hpeer
      exact hpeer data hdata model pdu hunwrap htype _ hmem hid

def communitySession : Session CommunityModel where
  security := {
    wrapPdu := fun pdu model => (model.wrapPdu pdu, model)
    unwrapMessage := CommunityModel.unwrapMessage }
  discovery := {
    peerEngineDiscovered := fun _ => true
    buildDiscoveryProbe := fun model => (.ok [], model)
    parseDiscoveryResponse := fun _ model => (.ok (), model) }
  retries := 0

def unused : SessionState Bool CommunityModel where
  tasks := fun _ => .idle
  lock := none
  shared := {
    nextId := 1
    handedOut := []
    model := ⟨"p"⟩ }
  socket := []
  peerSent := []

def getCall : Call := { pduType := .get, varbinds := [] }

def lateAnswer : List (Action Bool) :=
  [.call false getCall, .call true getCall, .acquire false, .resume false .started, .resume false .sent,
    .resume false .cancelled, .acquire true, .resume true .started, .resume true .sent,
    .peerSends (ShippedModel.responseTo 1), .peerSends (ShippedModel.responseTo 2),
    .delivers (ShippedModel.responseTo 1), .delivers (ShippedModel.responseTo 2),
    .resume true (.received (.datagram (ShippedModel.responseTo 1))),
    .resume true (.received (.datagram (ShippedModel.responseTo 2)))]

theorem no_crossed_answers_sample : ∃ state, (communitySession.system Bool).Reachable state ∧
    state.tasks true = .ended getCall (.returned 2 ⟨.response, 2, 0, 0, []⟩) ∧
    ∀ a ∈ state.shared.handedOut, a.task = true ↔ a.requestId = 2 := by
  have hinitial : (communitySession.system Bool).Initial unused := ⟨fun _ => rfl, rfl, rfl, rfl, by simp [unused]⟩
  obtain ⟨state, -, hreachable, hstatus⟩ : ∃ state,
      (communitySession.system Bool).run (fun _ _ => True) unused lateAnswer = some state ∧
      (communitySession.system Bool).Reaches (fun _ _ => True) state ∧
      state.tasks true = .ended getCall (.returned 2 ⟨.response, 2, 0, 0, []⟩) :=
    System.exists_of_run hinitial (by decide +kernel)
  exact ⟨state, hreachable, hstatus, ((no_crossed_answers hreachable).2.2 _ _ _ _ hstatus).2.1⟩

end TrishulSnmp.Transport
