import Mathlib.Data.List.Nodup
import TrishulSnmp.Transport.UdpServer

namespace TrishulSnmp.UdpServer

open WaitQueue

/-! Who is in `receive()` when a server closes, and who got which datagram. -/

variable {τ : Type} [DecidableEq τ]

structure State.Quiescent (state : State τ) : Prop where
  closer : state.next .resumesClose = none
  receivers : ∀ task, state.next (.resumes task) = none

/-- Every call of `receive` has ended with a datagram or a `TransportError`. -/
structure State.Released (state : State τ) : Prop where
  ended : ∀ task, state.tasks task ≠ .receiving
  transportError : ∀ task e cause, state.tasks task = .raised e cause → e.isTransportError

structure State.Delivers (state : State τ) : Prop where
  inOrder : state.delivered.map Prod.snd <+: state.arrived
  once : (state.delivered.map Prod.fst).Nodup
  returned : ∀ task received, state.tasks task = .returned received ↔ (task, received) ∈ state.delivered

/-- Nothing is put after the end of the connection, so that by then there must be an item for every task. -/
def State.leavesEnough (state : State τ) : Action τ → Bool
  | .receives _ => !(state.lost && decide (state.closing = .isOpen)) ||
      decide (state.queue.takers.length < state.queue.items.length)
  | .loses _ => state.queue.takers.length ≤ state.queue.items.length + 1
  | _ => true

inductive Effect (state : State τ) : State τ → Bool → Prop
  | datagram (received : ReceivedDatagram) (hlost : state.lost = false) :
      Effect state { state with
        queue := state.queue.put (.datagram received)
        arrived := state.arrived ++ [received] } true
  | ends (cause : Option String) (hlost : state.lost = false) :
      Effect state (state.connectionLost cause) (state.leavesEnough (.loses cause))
  | starts (task : τ) {got : Option Item} {queue : WaitQueue τ Item} (htask : state.tasks task = .idle)
      (hopen : state.closing = .isOpen) (hturn : Turn state.queue.items state.queue.takers task got queue) :
      Effect state (state.turned task (got, queue)) (state.leavesEnough (.receives task))
  | resumes (task : τ) {others : List τ} {got : Option Item} {queue : WaitQueue τ Item}
      (hothers : state.queue.takers.Perm (task :: others)) (hturn : Turn state.queue.items others task got queue) :
      Effect state (state.turned task (got, queue)) true
  | refuses (task : τ) (htask : state.tasks task = .idle) :
      Effect state { state with tasks := Function.update state.tasks task (.raised notOpen none) } true
  | closes (closing : Closing) (hlost : closing = .returned → state.lost = true ∨ state.closing = .returned) :
      Effect state { state with closing := closing } true

section Steps

variable {state state' : State τ}

theorem close_effect (state : State τ) : Effect state state.close true := by
  unfold State.close
  cases hclosing : state.closing with
  | isOpen =>
    refine .closes _ fun h => .inl ?_
    by_contra hlost
    rw [if_neg hlost] at h
    cases h
  | awaiting => exact .closes state.closing .inr
  | returned => exact .closes state.closing .inr

theorem receive_effect {task : τ} (htask : state.tasks task = .idle) :
    Effect state (state.receive task) (state.leavesEnough (.receives task)) := by
  unfold State.receive
  split
  · rename_i hopen
    exact .starts task htask hopen (get_turn state.queue task)
  · rename_i hclosing
    have henough : state.leavesEnough (.receives task) = true := by
      rw [State.leavesEnough, decide_eq_false hclosing, Bool.and_false]
      rfl
    rw [henough]
    exact .refuses task htask

theorem next_effect {action : Action τ} (h : state.next action = some state') :
    Effect state state' (state.leavesEnough action) := by
  cases action with
  | receives task =>
    obtain ⟨htask, ⟨⟩⟩ := Option.ite_none_right_eq_some.mp h
    exact receive_effect htask
  | resumes task =>
    obtain ⟨hmem, ⟨⟩⟩ := Option.ite_none_right_eq_some.mp h
    obtain ⟨others, hothers, hturn⟩ := resume_turn hmem
    exact .resumes task hothers hturn
  | arrives data address =>
    obtain ⟨⟨hopen, hlost⟩, ⟨⟩⟩ := Option.ite_none_right_eq_some.mp h
    cases address with
    | none => exact .closes state.closing .inr
    | some address => exact .datagram _ (Bool.eq_false_iff.mpr hlost)
  | loses cause =>
    obtain ⟨⟨hlost, -⟩, ⟨⟩⟩ := Option.ite_none_right_eq_some.mp h
    exact .ends cause (Bool.eq_false_iff.mpr hlost)
  | closes =>
    cases h
    exact close_effect state
  | resumesClose =>
    obtain ⟨⟨-, hlost⟩, ⟨⟩⟩ := Option.ite_none_right_eq_some.mp h
    exact .closes .returned fun _ => .inl hlost

end Steps

structure Waits (state : State τ) : Prop where
  receiving : ∀ task, state.tasks task = .receiving ↔ task ∈ state.queue.takers
  nodup : state.queue.takers.Nodup

structure Accounts (state : State τ) : Prop where
  arrived : state.arrived = state.delivered.map Prod.snd ++ state.queue.items.filterMap Item.datagram?
  once : (state.delivered.map Prod.fst).Nodup
  returned : ∀ task received, state.tasks task = .returned received ↔ (task, received) ∈ state.delivered

structure Inv (state : State τ) : Prop where
  waits : Waits state
  accounts : Accounts state
  transportError : ∀ task e cause, state.tasks task = .raised e cause → e.isTransportError
  lost : state.closing = .returned → state.lost = true

structure Apart (state : State τ) (task : τ) (others : List τ) : Prop where
  nodup : (task :: others).Nodup
  receiving : ∀ other ≠ task, state.tasks other = .receiving ↔ other ∈ others
  pending : ∀ received, state.tasks task ≠ .returned received

section Turns

omit [DecidableEq τ] in
theorem Waits.starting {state : State τ} {task : τ} (h : Waits state) (htask : state.tasks task = .idle) :
    Apart state task state.queue.takers where
  nodup := by
    refine List.nodup_cons.mpr ⟨fun hmem => ?_, h.nodup⟩
    have hreceiving := (h.receiving task).mpr hmem
    rw [htask] at hreceiving
    cases hreceiving
  receiving := fun other _ => h.receiving other
  pending := by simp [htask]

omit [DecidableEq τ] in
theorem Waits.resuming {state : State τ} {task : τ} {others : List τ} (h : Waits state)
    (hothers : state.queue.takers.Perm (task :: others)) : Apart state task others where
  nodup := hothers.nodup_iff.mp h.nodup
  receiving := by
    intro other hne
    rw [h.receiving, hothers.mem_iff, List.mem_cons]
    exact or_iff_right hne
  pending := by
    have hreceiving := (h.receiving task).mpr (hothers.mem_iff.mpr List.mem_cons_self)
    simp [hreceiving]

variable (state : State τ) (task : τ) (got : Option Item) (queue : WaitQueue τ Item)

@[simp] theorem turned_queue : (state.turned task (got, queue)).queue = queue := by cases got <;> rfl

@[simp] theorem turned_closing : (state.turned task (got, queue)).closing = state.closing := by cases got <;> rfl

@[simp] theorem turned_lost : (state.turned task (got, queue)).lost = state.lost := by cases got <;> rfl

@[simp] theorem turned_arrived : (state.turned task (got, queue)).arrived = state.arrived := by cases got <;> rfl

@[simp] theorem turned_tasks : (state.turned task (got, queue)).tasks =
    Function.update state.tasks task (got.elim .receiving Item.status) := by cases got <;> rfl

@[simp] theorem turned_delivered : (state.turned task (got, queue)).delivered =
    state.delivered ++ (got.bind Item.datagram?).toList.map (task, ·) := by
  cases got with
  | none => exact (List.append_nil _).symm
  | some item => rfl

variable {state task got queue}

theorem status_eq_receiving_iff : got.elim Status.receiving Item.status = .receiving ↔ got = none := by
  cases got with
  | none => simp
  | some item => cases item <;> simp [Item.status]

theorem status_eq_returned_iff {received : ReceivedDatagram} :
    got.elim Status.receiving Item.status = .returned received ↔ got.bind Item.datagram? = some received := by
  cases got with
  | none => simp
  | some item => cases item <;> simp [Item.status, Item.datagram?]

theorem transportError_of_status {e : Error} {cause : Option String}
    (h : got.elim Status.receiving Item.status = .raised e cause) : e.isTransportError := by
  cases got with
  | none => cases h
  | some item =>
    cases item with
    | datagram received => cases h
    | serverClosed cause =>
      cases h
      rfl

theorem datagrams_toList : got.toList.filterMap Item.datagram? = (got.bind Item.datagram?).toList := by
  cases got with
  | none => rfl
  | some item => cases item <;> rfl

variable {others : List τ}

theorem turned_waits (h : Apart state task others) (hturn : Turn state.queue.items others task got queue) :
    Waits (state.turned task (got, queue)) := by
  obtain ⟨htask, hnodup⟩ := List.nodup_cons.mp h.nodup
  have hother : ∀ other ≠ task, (state.turned task (got, queue)).tasks other = .receiving ↔ other ∈ others := by
    intro other hne
    rw [turned_tasks, Function.update_of_ne hne]
    exact h.receiving other hne
  have hself : (state.turned task (got, queue)).tasks task = .receiving ↔ got = none := by
    rw [turned_tasks, Function.update_self]
    exact status_eq_receiving_iff
  cases hturn with
  | waits _ _ htakers =>
    refine ⟨fun other => ?_, htakers.nodup_iff.mpr h.nodup⟩
    rw [turned_queue, htakers.mem_iff, List.mem_cons]
    obtain rfl | hne := eq_or_ne other task
    · exact iff_of_true (hself.mpr rfl) (.inl rfl)
    · rw [hother other hne]
      exact (or_iff_right hne).symm
  | takes _ htakers =>
    refine ⟨fun other => ?_, htakers.nodup_iff.mpr hnodup⟩
    rw [turned_queue, htakers.mem_iff]
    obtain rfl | hne := eq_or_ne other task
    · exact iff_of_false (fun hreceiving => Option.some_ne_none _ (hself.mp hreceiving)) htask
    · exact hother other hne

theorem turned_accounts (ha : Accounts state) (h : Apart state task others)
    (hturn : Turn state.queue.items others task got queue) : Accounts (state.turned task (got, queue)) := by
  have hfresh : ∀ received, (task, received) ∉ state.delivered := by
    intro received hmem
    exact h.pending received ((ha.returned task received).mpr hmem)
  constructor
  · rw [turned_arrived, turned_queue, turned_delivered, ha.arrived, hturn.items_eq, List.filterMap_append,
      datagrams_toList, List.map_append, List.append_assoc, List.map_map]
    exact congrArg _ (congrArg (· ++ _) (List.map_id _).symm)
  · have hnew : task ∉ state.delivered.map Prod.fst := by
      intro hmem
      obtain ⟨⟨_, received⟩, hdelivered, rfl⟩ := List.mem_map.mp hmem
      exact hfresh received hdelivered
    rw [turned_delivered, List.map_append]
    cases got.bind Item.datagram? with
    | none => simpa using ha.once
    | some received =>
      rw [Option.toList_some, List.map_singleton, List.map_singleton, ← List.concat_eq_append]
      exact List.Nodup.concat hnew ha.once
  · intro other received
    rw [turned_tasks, turned_delivered, List.mem_append]
    obtain rfl | hne := eq_or_ne other task
    · rw [Function.update_self, status_eq_returned_iff, or_iff_right (hfresh received)]
      simp
    · rw [Function.update_of_ne hne, ha.returned, or_iff_left]
      simp [hne.symm]

theorem turned_inv (hi : Inv state) (h : Apart state task others)
    (hturn : Turn state.queue.items others task got queue) : Inv (state.turned task (got, queue)) where
  waits := turned_waits h hturn
  accounts := turned_accounts hi.accounts h hturn
  transportError := by
    intro other e cause hraised
    rw [turned_tasks] at hraised
    obtain rfl | hne := eq_or_ne other task
    · rw [Function.update_self] at hraised
      exact transportError_of_status hraised
    · rw [Function.update_of_ne hne] at hraised
      exact hi.transportError other e cause hraised
  lost := by
    rw [turned_closing, turned_lost]
    exact hi.lost

theorem refused_inv (hi : Inv state) (htask : state.tasks task = .idle) :
    Inv { state with tasks := Function.update state.tasks task (.raised notOpen none) } := by
  have happart := hi.waits.starting htask
  refine ⟨⟨fun other => ?_, hi.waits.nodup⟩, ⟨hi.accounts.arrived, hi.accounts.once, fun other received => ?_⟩,
    fun other e cause hraised => ?_, hi.lost⟩
  · obtain rfl | hne := eq_or_ne other task
    · simpa using (List.nodup_cons.mp happart.nodup).1
    · simpa [Function.update_of_ne hne] using hi.waits.receiving other
  · rw [← hi.accounts.returned]
    obtain rfl | hne := eq_or_ne other task
    · simp [htask]
    · simp [Function.update_of_ne hne]
  · simp only at hraised
    obtain rfl | hne := eq_or_ne other task
    · rw [Function.update_self] at hraised
      cases hraised
      rfl
    · rw [Function.update_of_ne hne] at hraised
      exact hi.transportError other e cause hraised

end Turns

section Runs

variable {state state' : State τ} {enough : Bool}

omit [DecidableEq τ] in
theorem Waits.put (h : Waits state) (item : Item) : Waits { state with queue := state.queue.put item } where
  receiving := fun task => (h.receiving task).trans (put_takers state.queue item).mem_iff.symm
  nodup := (put_takers state.queue item).nodup_iff.mpr h.nodup

theorem Effect.inv (h : Effect state state' enough) (hi : Inv state) : Inv state' := by
  cases h with
  | datagram received hlost =>
    refine ⟨⟨(hi.waits.put _).receiving, (hi.waits.put _).nodup⟩, ⟨?_, hi.accounts.once, hi.accounts.returned⟩,
      hi.transportError, hi.lost⟩
    rw [hi.accounts.arrived, WaitQueue.put, List.filterMap_append, List.append_assoc]
    rfl
  | ends cause hlost =>
    refine ⟨⟨(hi.waits.put _).receiving, (hi.waits.put _).nodup⟩, ⟨?_, hi.accounts.once, hi.accounts.returned⟩,
      hi.transportError, fun _ => rfl⟩
    simp only [State.connectionLost, WaitQueue.put, List.filterMap_append]
    rw [hi.accounts.arrived]
    exact congrArg _ (List.append_nil _).symm
  | starts task htask hopen hturn => exact turned_inv hi (hi.waits.starting htask) hturn
  | resumes task hothers hturn => exact turned_inv hi (hi.waits.resuming hothers) hturn
  | refuses task htask => exact refused_inv hi htask
  | closes closing hlost =>
    refine ⟨⟨hi.waits.receiving, hi.waits.nodup⟩, ⟨hi.accounts.arrived, hi.accounts.once, hi.accounts.returned⟩,
      hi.transportError, fun h => ?_⟩
    exact (hlost h).elim id hi.lost

theorem Effect.sufficient (h : Effect state state' enough) (henough : enough = true)
    (hi : state.lost = true → ¬ state.queue.Short) : state'.lost = true → ¬ state'.queue.Short := by
  cases h with
  | datagram received hlost =>
    intro hend
    cases hlost.symm.trans hend
  | ends cause hlost =>
    intro _
    have hbound := of_decide_eq_true henough
    rw [State.connectionLost, put_short_iff]
    omega
  | starts task htask hopen hturn =>
    intro hend
    rw [turned_lost] at hend
    simp only [State.leavesEnough, hend, hopen, decide_true, Bool.and_self, Bool.not_true, Bool.false_or,
      decide_eq_true_eq] at henough
    rw [turned_queue, hturn.short_iff]
    omega
  | resumes task hothers hturn =>
    rw [turned_queue, turned_lost, hturn.short_resumed_iff hothers]
    exact hi
  | refuses task htask => exact hi
  | closes closing hlost => exact hi

theorem Effect.short (h : Effect state state' enough) (hend : state.lost = true) (hshort : state.queue.Short) :
    state'.lost = true ∧ state'.queue.Short := by
  cases h with
  | datagram received hlost => cases hlost.symm.trans hend
  | ends cause hlost => cases hlost.symm.trans hend
  | starts task htask hopen hturn =>
    rw [turned_queue, turned_lost, hturn.short_iff]
    exact ⟨hend, Nat.le_of_lt hshort⟩
  | resumes task hothers hturn =>
    rw [turned_queue, turned_lost, hturn.short_resumed_iff hothers]
    exact ⟨hend, hshort⟩
  | refuses task htask => exact ⟨hend, hshort⟩
  | closes closing hlost => exact ⟨hend, hshort⟩

theorem Effect.insufficient (h : Effect state state' enough) (henough : enough = false) :
    state'.lost = true ∧ state'.queue.Short := by
  cases h with
  | ends cause hlost =>
    have hbound := of_decide_eq_false henough
    refine ⟨rfl, (put_short_iff _ _).mpr ?_⟩
    omega
  | starts task htask hopen hturn =>
    rw [State.leavesEnough, Bool.or_eq_false_iff, Bool.not_eq_false', Bool.and_eq_true] at henough
    rw [turned_queue, turned_lost, hturn.short_iff]
    exact ⟨henough.1.1, Nat.le_of_not_lt (of_decide_eq_false henough.2)⟩
  | _ => cases henough

end Runs

omit [DecidableEq τ] in
theorem initial_inv : Inv ({} : State τ) where
  waits := ⟨by simp [WaitQueue.empty, takers], List.nodup_nil⟩
  accounts := ⟨rfl, List.nodup_nil, by simp⟩
  transportError := by simp
  lost := by simp

theorem reachable_inv {state : State τ} {Allowed : State τ → Action τ → Prop} (h : (serving τ).Reaches Allowed state) :
    Inv state := by
  apply System.Reaches.invariant _ _ h
  · rintro state rfl
    exact initial_inv
  · intro state action state' hi _ hnext
    exact (next_effect hnext).inv hi

section Closed

variable {state : State τ}

theorem quiescent_iff (state : State τ) :
    state.Quiescent ↔ ¬ (state.closing = .awaiting ∧ state.lost = true) ∧ state.queue.woken = [] := by
  constructor
  · rintro ⟨hcloser, hreceivers⟩
    refine ⟨fun h => ?_, List.eq_nil_iff_forall_not_mem.mpr fun task hmem => ?_⟩
    · rw [State.next, if_pos h] at hcloser
      cases hcloser
    · have hstuck := hreceivers task
      rw [State.next, if_pos hmem] at hstuck
      cases hstuck
  · rintro ⟨hcloser, hwoken⟩
    refine ⟨if_neg hcloser, fun task => if_neg ?_⟩
    rw [hwoken]
    exact List.not_mem_nil

instance (state : State τ) : Decidable state.Quiescent := decidable_of_iff _ (quiescent_iff state).symm

theorem State.Quiescent.woken (h : state.Quiescent) : state.queue.woken = [] := ((quiescent_iff state).mp h).2

omit [DecidableEq τ] in
theorem Inv.delivers (hi : Inv state) : state.Delivers where
  inOrder := ⟨_, hi.accounts.arrived.symm⟩
  once := hi.accounts.once
  returned := hi.accounts.returned

theorem close_releases_waiters (h : (serving τ).Reaches (fun state action => state.leavesEnough action) state)
    (hclosed : state.closing = .returned) (hquiescent : state.Quiescent) : state.Released ∧ state.Delivers := by
  have hi := reachable_inv h
  have hinitial (state : State τ) (h : (serving τ).Initial state) (hend : state.lost = true) : ¬ state.queue.Short := by
    obtain rfl : state = {} := h
    cases hend
  have hstep (state : State τ) (action : Action τ) (state' : State τ) (hi : state.lost = true → ¬ state.queue.Short)
      (henough : state.leavesEnough action = true) (hnext : (serving τ).next state action = some state') :
      state'.lost = true → ¬ state'.queue.Short := (next_effect hnext).sufficient henough hi
  have hshort := System.Reaches.invariant hinitial hstep h (hi.lost hclosed)
  have htakers := (takers_eq_nil_iff hquiescent.woken).mpr hshort
  refine ⟨⟨fun task hreceiving => ?_, hi.transportError⟩, hi.delivers⟩
  have hmem := (hi.waits.receiving task).mp hreceiving
  rw [htakers] at hmem
  cases hmem

def loopback : SocketAddress := .inet "127.0.0.1" 162

def contended : List (Action Bool) :=
  [.receives false, .arrives [0x30] (some loopback), .receives true, .resumes false, .closes, .loses none,
    .resumes false, .resumesClose]

theorem close_releases_waiters_sample : ∃ state : State Bool,
    (serving Bool).run (fun state action => state.leavesEnough action) {} contended = some state ∧
      state.tasks true = .returned ⟨[0x30], loopback⟩ ∧ state.tasks false = .raised isClosed none ∧
      state.Released ∧ state.Delivers := by
  have hended : ((serving Bool).run (fun state action => state.leavesEnough action) {} contended).any
      (fun state => decide (state.closing = .returned ∧ state.Quiescent ∧
        state.tasks true = .returned ⟨[0x30], loopback⟩ ∧ state.tasks false = .raised isClosed none)) = true := by
    decide +kernel
  obtain ⟨state, hrun, hreaches, hclosed, hquiescent, hreturned, hraised⟩ := System.exists_of_run rfl hended
  exact ⟨state, hrun, hreturned, hraised, close_releases_waiters hreaches hclosed hquiescent⟩

def overlooked : List (Action Bool) :=
  [.receives false, .receives true, .closes, .loses none, .resumes false, .resumesClose]

theorem close_leaves_waiter : ∃ state : State Bool, (serving Bool).run (fun _ _ => True) {} overlooked = some state ∧
    (serving Bool).Reachable state ∧ state.closing = .returned ∧ state.Quiescent ∧
      state.tasks false = .raised isClosed none ∧ state.tasks true = .receiving ∧ ¬ state.Released := by
  have hended : ((serving Bool).run (fun _ _ => True) {} overlooked).any
      (fun state => decide (state.closing = .returned ∧ state.Quiescent ∧
        state.tasks false = .raised isClosed none ∧ state.tasks true = .receiving)) = true := by
    decide +kernel
  obtain ⟨state, hrun, hreaches, hclosed, hquiescent, hraised, hreceiving⟩ := System.exists_of_run rfl hended
  exact ⟨state, hrun, hreaches, hclosed, hquiescent, hraised, hreceiving, fun h => h.ended true hreceiving⟩

theorem shortage_blocks {state' later : State τ} {action : Action τ} (h : (serving τ).Reachable state)
    (hnext : (serving τ).next state action = some state') (henough : state.leavesEnough action = false)
    (hlater : (serving τ).Leads state' later) (hquiescent : later.Quiescent) :
    ∃ task, later.tasks task = .receiving := by
  have hi := reachable_inv (System.reachable_of_leads (.step h trivial hnext) hlater)
  have hstep (state : State τ) (action : Action τ) (state' : State τ) (hshort : state.lost = true ∧ state.queue.Short)
      (hnext : (serving τ).next state action = some state') : state'.lost = true ∧ state'.queue.Short :=
    (next_effect hnext).short hshort.1 hshort.2
  have hshort := System.Leads.invariant hstep hlater ((next_effect hnext).insufficient henough)
  have htakers := mt (takers_eq_nil_iff hquiescent.woken).mp (not_not_intro hshort.2)
  obtain ⟨task, htask⟩ := List.exists_mem_of_ne_nil _ htakers
  exact ⟨task, (hi.waits.receiving task).mpr htask⟩

end Closed

end TrishulSnmp.UdpServer
