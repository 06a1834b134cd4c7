import Mathlib.Data.Nat.Notation
import TrishulSnmp.Library.Runs

namespace TrishulSnmp

/-! Calls over a network that may lose, repeat, delay and reorder every datagram. -/

/-- A program that asks one question after another, and the two ends it does so by. `numbers` tells which
questions take a number, `call` what a call has come to by what its socket gave so far, and `sent` what it
has put on the network by then. -/
structure DatagramNetwork (σ w q r d τ ε : Type) where
  question : σ → Option q
  resume : σ → Except ε r → σ
  numbers : q → Bool
  prepare : ℕ → q → Except ε d
  call : ℕ → d → List τ → Option (Except ε r)
  sent : ℕ → d → List τ → List d
  carried : τ → Option d
  serve : w → d → w × Option d
  numbers_of_prepare : ∀ {id question data}, prepare id question = .ok data → numbers question

namespace DatagramNetwork

inductive Phase (q d τ : Type)
  | ready
  | calling (id : ℕ) (question : q) (data : d) (given : List τ)

structure State (σ w q d τ : Type) where
  nextId : ℕ
  program : σ
  phase : Phase q d τ
  requests : List d
  world : w
  served : List d
  replies : List d

inductive Action (d τ : Type)
  | ask
  | serve (data : d)
  | give (event : τ)

variable {σ w q r d τ ε : Type} (network : DatagramNetwork σ w q r d τ ε)

def transmitted (state : State σ w q d τ) : List d :=
  match state.phase with
  | .ready => state.requests
  | .calling id _ data given => state.requests ++ network.sent id data given

def settle (state : State σ w q d τ) (id : ℕ) (question : q) (data : d) (given : List τ) : State σ w q d τ :=
  match network.call id data given with
  | none => { state with phase := .calling id question data given }
  | some outcome =>
    { state with
      program := network.resume state.program outcome
      phase := .ready
      requests := state.requests ++ network.sent id data given }

def numberAfter (id : ℕ) (question : q) : ℕ := if network.numbers question then id + 1 else id

theorem numberAfter_of_prepare {network : DatagramNetwork σ w q r d τ ε} {id : ℕ} {question : q} {data : d}
    (h : network.prepare id question = .ok data) : network.numberAfter id question = id + 1 :=
  if_pos (network.numbers_of_prepare h)

theorem le_numberAfter (id : ℕ) (question : q) : id ≤ network.numberAfter id question := by
  rw [numberAfter]
  split <;> omega

def ask (state : State σ w q d τ) : Option (State σ w q d τ) :=
  match state.phase, network.question state.program with
  | .ready, some question =>
    let asked := { state with nextId := network.numberAfter state.nextId question }
    match network.prepare state.nextId question with
    | .error e => some { asked with program := network.resume state.program (.error e) }
    | .ok data => some (network.settle asked state.nextId question data [])
  | _, _ => none

def handle (state : State σ w q d τ) (data : d) : State σ w q d τ :=
  let (world, reply) := network.serve state.world data
  { state with world := world, served := data :: state.served, replies := reply.toList ++ state.replies }

section System

variable [DecidableEq d]

/-- Nothing leaves the network: what was sent once can arrive at any later moment, again and again, or never. -/
def next (state : State σ w q d τ) : Action d τ → Option (State σ w q d τ)
  | .ask => network.ask state
  | .serve data => if data ∈ network.transmitted state then some (network.handle state data) else none
  | .give event =>
    match state.phase with
    | .ready => none
    | .calling id question data given =>
      if (network.carried event).all (· ∈ state.replies) then
        some (network.settle state id question data (given ++ [event]))
      else none

def system (start : State σ w q d τ) : System (State σ w q d τ) (Action d τ) where
  Initial := (· = start)
  next := network.next

end System

def State.callId (state : State σ w q d τ) : ℕ :=
  match state.phase with
  | .ready => state.nextId
  | .calling id .. => id

inductive Step (state : State σ w q d τ) : State σ w q d τ → Prop
  | refused {question : q} {e : ε} : state.phase = .ready → network.question state.program = some question →
      network.prepare state.nextId question = .error e →
      Step state { state with
        nextId := network.numberAfter state.nextId question
        program := network.resume state.program (.error e) }
  | asked {question : q} {data : d} : state.phase = .ready → network.question state.program = some question →
      network.prepare state.nextId question = .ok data →
      Step state (network.settle { state with nextId := state.nextId + 1 } state.nextId question data [])
  | handled {data : d} : data ∈ network.transmitted state → Step state (network.handle state data)
  | given {id : ℕ} {question : q} {data : d} {given : List τ} {event : τ} :
      state.phase = .calling id question data given →
      (∀ reply, network.carried event = some reply → reply ∈ state.replies) →
      Step state (network.settle state id question data (given ++ [event]))

theorem next_step [DecidableEq d] {network : DatagramNetwork σ w q r d τ ε} {state state' : State σ w q d τ}
    {action : Action d τ} (hnext : network.next state action = some state') : network.Step state state' := by
  cases action with
  | ask =>
    rw [next, ask] at hnext
    split at hnext
    · rename_i hphase hasks
      cases hprepare : network.prepare state.nextId _ with
      | error e =>
        rw [hprepare] at hnext
        obtain rfl := Option.some.inj hnext
        exact .refused hphase hasks hprepare
      | ok data =>
        rw [hprepare] at hnext
        obtain rfl := Option.some.inj hnext
        rw [numberAfter_of_prepare hprepare]
        exact .asked hphase hasks hprepare
    · cases hnext
  | serve data =>
    rw [next] at hnext
    obtain ⟨hmem, ⟨⟩⟩ := Option.ite_none_right_eq_some.mp hnext
    exact .handled hmem
  | give event =>
    rw [next] at hnext
    split at hnext
    · cases hnext
    · rename_i hphase
      obtain ⟨hcarried, ⟨⟩⟩ := Option.ite_none_right_eq_some.mp hnext
      refine .given hphase fun reply hreply => ?_
      rw [hreply] at hcarried
      simpa using hcarried

section World

variable {network} {state start : State σ w q d τ}

theorem settle_world (id : ℕ) (question : q) (data : d) (given : List τ) :
    (network.settle state id question data given).world = state.world ∧
      (network.settle state id question data given).served = state.served := by
  rw [settle]
  cases network.call id data given <;> exact ⟨rfl, rfl⟩

variable [DecidableEq d]

theorem next_world {action : Action d τ} {state' : State σ w q d τ} (hnext : network.next state action = some state') :
    state'.world = state.world ∧ state'.served = state.served ∨
      ∃ data, state'.world = (network.serve state.world data).1 ∧ state'.served = data :: state.served := by
  cases next_step hnext with
  | refused => exact .inl ⟨rfl, rfl⟩
  | asked => exact .inl (settle_world _ _ _ _)
  | handled => exact .inr ⟨_, rfl, rfl⟩
  | given => exact .inl (settle_world _ _ _ _)

theorem reachable_world (hserved : start.served = []) (h : (network.system start).Reachable state) :
    state.world = state.served.reverse.foldl (fun world data => (network.serve world data).1) start.world := by
  let Folded (state : State σ w q d τ) : Prop :=
    state.world = state.served.reverse.foldl (fun world data => (network.serve world data).1) start.world
  suffices Folded state from this
  refine h.invariant ?_ ?_
  · intro state hstate
    change state.world = _
    rw [hstate, hserved]
    rfl
  · intro state action state' hworld _ hnext
    change state.world = _ at hworld
    change state'.world = _
    obtain ⟨hworld', hserved'⟩ | ⟨data, hworld', hserved'⟩ := next_world hnext
    · rw [hworld', hserved', hworld]
    · rw [hworld', hserved', hworld, List.reverse_cons, List.foldl_append]
      rfl

end World

section Laws

variable (Sound : w → Prop) (Good : ℕ → q → Prop) (accept : ℕ → d → Except ε (Option r)) (answer : ℕ → q → r)
  (Fails : ε → Prop)

def StaleReply (id : ℕ) (reply : d) : Prop := ∀ later, id ≤ later → accept later reply = .ok none

def StaleRequest (id : ℕ) (data : d) : Prop :=
  ∀ world, Sound world → Sound (network.serve world data).1 ∧
    ∀ reply, (network.serve world data).2 = some reply → StaleReply accept id reply

def Answers (id : ℕ) (question : q) (reply : d) : Prop :=
  accept id reply = .ok (some (answer id question)) ∧ StaleReply accept (id + 1) reply

structure Lawful : Prop where
  answered : ∀ {id data given a}, network.call id data given = some (.ok a) →
    ∃ event ∈ given, ∃ reply, network.carried event = some reply ∧ accept id reply = .ok (some a)
  failed : ∀ {id data given e}, network.call id data given = some (.error e) →
    Fails e ∨ ∃ event ∈ given, ∃ reply, network.carried event = some reply ∧ accept id reply = .error e
  sends : ∀ {id data given}, ∀ copy ∈ network.sent id data given, copy = data
  serves : ∀ {id question data}, Good id question → network.prepare id question = .ok data →
    ∀ world, Sound world → Sound (network.serve world data).1 ∧
      ∀ reply, (network.serve world data).2 = some reply → Answers accept answer id question reply

def Handled (served : List d) (data : d) : Prop :=
  data ∈ served ∧ ∃ world reply, Sound world ∧ (network.serve world data).2 = some reply

inductive Outcome (id : ℕ) (question : q) (served : List d) : Except ε r → Prop
  | refused {e : ε} : network.prepare id question = .error e → Outcome id question served (.error e)
  | failed {e : ε} : Fails e → Outcome id question served (.error e)
  | answered {data : d} : network.prepare id question = .ok data → network.Handled Sound served data →
      Outcome id question served (.ok (answer id question))

structure Preserves (J : ℕ → σ → List d → Prop) : Prop where
  serve : ∀ {id program served} data, J id program served → J id program (data :: served)
  good : ∀ {id program served question}, J id program served → network.question program = some question →
    Good id question
  resume : ∀ {id program served question outcome}, J id program served → network.question program = some question →
    network.Outcome Sound answer Fails id question served outcome →
    J (network.numberAfter id question) (network.resume program outcome) served

structure Quiet (J : ℕ → σ → List d → Prop) (state : State σ w q d τ) : Prop where
  world : Sound state.world
  program : J state.nextId state.program state.served
  requests : ∀ data ∈ state.requests, network.StaleRequest Sound accept state.nextId data
  replies : ∀ reply ∈ state.replies, StaleReply accept state.nextId reply

structure Calling (J : ℕ → σ → List d → Prop) (state : State σ w q d τ) (id : ℕ) (question : q) (data : d)
    (given : List τ) : Prop where
  world : Sound state.world
  nextId : state.nextId = id + 1
  program : J id state.program state.served
  asks : network.question state.program = some question
  prepared : network.prepare id question = .ok data
  requests : ∀ data ∈ state.requests, network.StaleRequest Sound accept id data
  replies : ∀ reply ∈ state.replies, StaleReply accept id reply ∨
    Answers accept answer id question reply ∧ network.Handled Sound state.served data
  given : ∀ event ∈ given, ∀ reply, network.carried event = some reply → reply ∈ state.replies

def Inv (J : ℕ → σ → List d → Prop) (state : State σ w q d τ) : Prop :=
  match state.phase with
  | .ready => network.Quiet Sound accept J state
  | .calling id question data given =>
    network.Calling Sound accept answer J state id question data given ∧ network.call id data given = none

end Laws

section Runs

variable {network} {Sound : w → Prop} {Good : ℕ → q → Prop} {accept : ℕ → d → Except ε (Option r)} {answer : ℕ → q → r}
  {Fails : ε → Prop} {J : ℕ → σ → List d → Prop} {state : State σ w q d τ}

theorem Handled.later {served : List d} {data : d} (h : network.Handled Sound served data) (request : d) :
    network.Handled Sound (request :: served) data := ⟨List.mem_cons_of_mem _ h.1, h.2⟩

theorem StaleReply.later {id : ℕ} {reply : d} (h : StaleReply accept id reply) {id' : ℕ} (hle : id ≤ id') :
    StaleReply accept id' reply := fun later hlater => h later (Nat.le_trans hle hlater)

theorem StaleRequest.later {id : ℕ} {data : d} (h : network.StaleRequest Sound accept id data) {id' : ℕ}
    (hle : id ≤ id') : network.StaleRequest Sound accept id' data := by
  intro world hworld
  obtain ⟨hsound, hreply⟩ := h world hworld
  exact ⟨hsound, fun reply h => (hreply reply h).later hle⟩

theorem Inv.quiet (h : network.Inv Sound accept answer J state) (hphase : state.phase = .ready) :
    network.Quiet Sound accept J state := by
  rw [Inv, hphase] at h
  exact h

theorem Inv.calling (h : network.Inv Sound accept answer J state) {id : ℕ} {question : q} {data : d} {given : List τ}
    (hphase : state.phase = .calling id question data given) :
    network.Calling Sound accept answer J state id question data given ∧ network.call id data given = none := by
  rw [Inv, hphase] at h
  exact h

theorem Inv.program (h : network.Inv Sound accept answer J state) : J state.callId state.program state.served := by
  unfold Inv at h
  rw [State.callId]
  split at h
  · exact h.program
  · exact h.1.program

theorem Inv.nextId_le (h : network.Inv Sound accept answer J state) {bound : ℕ}
    (hready : ∀ {id program served}, J id program served → id ≤ bound)
    (hcalling : ∀ {id program served question}, J id program served → network.question program = some question →
      id < bound) : state.nextId ≤ bound := by
  unfold Inv at h
  split at h
  · exact hready h.program
  · rw [h.1.nextId]
    exact hcalling h.1.program h.1.asks

variable (hlawful : network.Lawful Sound Good accept answer Fails)
  (hkept : network.Preserves Sound Good answer Fails J)

include hlawful hkept

omit hkept in
theorem Calling.outcome {id : ℕ} {question : q} {data : d} {given : List τ}
    (h : network.Calling Sound accept answer J state id question data given) {outcome : Except ε r}
    (hcall : network.call id data given = some outcome) :
    network.Outcome Sound answer Fails id question state.served outcome := by
  -- a stale reply is passed over, so what decides the call is an answer to its own request
  have hown : ∀ event ∈ given, ∀ reply, network.carried event = some reply → accept id reply = .ok none ∨
      accept id reply = .ok (some (answer id question)) ∧ network.Handled Sound state.served data := by
    intro event hevent reply hreply
    obtain hstale | ⟨⟨hanswer, -⟩, hhandled⟩ := h.replies reply (h.given event hevent reply hreply)
    · exact .inl (hstale id (Nat.le_refl id))
    · exact .inr ⟨hanswer, hhandled⟩
  cases outcome with
  | error e =>
    obtain hfails | ⟨event, hevent, reply, hreply, haccept⟩ := hlawful.failed hcall
    · exact .failed hfails
    · obtain hnone | ⟨hanswer, -⟩ := hown event hevent reply hreply
      · rw [hnone] at haccept
        cases haccept
      · rw [hanswer] at haccept
        cases haccept
  | ok a =>
    obtain ⟨event, hevent, reply, hreply, haccept⟩ := hlawful.answered hcall
    obtain hnone | ⟨hanswer, hhandled⟩ := hown event hevent reply hreply
    · rw [hnone] at haccept
      cases haccept
    · rw [hanswer] at haccept
      cases haccept
      exact .answered h.prepared hhandled

theorem Calling.staleRequest {id : ℕ} {question : q} {data : d} {given : List τ}
    (h : network.Calling Sound accept answer J state id question data given) :
    network.StaleRequest Sound accept (id + 1) data := by
  intro world hworld
  obtain ⟨hsound, hreply⟩ := hlawful.serves (hkept.good h.program h.asks) h.prepared world hworld
  exact ⟨hsound, fun reply hsome => (hreply reply hsome).2⟩

theorem Calling.settle {id : ℕ} {question : q} {data : d} {given : List τ}
    (h : network.Calling Sound accept answer J state id question data given) :
    network.Inv Sound accept answer J (network.settle state id question data given) := by
  rw [DatagramNetwork.settle]
  cases hcall : network.call id data given with
  | none => exact ⟨⟨h.world, h.nextId, h.program, h.asks, h.prepared, h.requests, h.replies, h.given⟩, hcall⟩
  | some outcome =>
    refine ⟨h.world, ?_, ?_, ?_⟩
    · have hresume := hkept.resume h.program h.asks (h.outcome hlawful hcall)
      rwa [numberAfter_of_prepare h.prepared, ← h.nextId] at hresume
    · simp only [h.nextId, List.mem_append]
      rintro request (hrequest | hrequest)
      · exact (h.requests request hrequest).later (Nat.le_succ id)
      · exact hlawful.sends request hrequest ▸ h.staleRequest hlawful hkept
    · simp only [h.nextId]
      intro reply hreply
      obtain hstale | ⟨⟨-, hstale⟩, -⟩ := h.replies reply hreply
      · exact hstale.later (Nat.le_succ id)
      · exact hstale

omit hlawful hkept in
theorem Quiet.ask (h : network.Quiet Sound accept J state) {question : q}
    (hasks : network.question state.program = some question) {data : d}
    (hprepare : network.prepare state.nextId question = .ok data) :
    network.Calling Sound accept answer J { state with nextId := state.nextId + 1 } state.nextId question data [] where
  world := h.world
  nextId := rfl
  program := h.program
  asks := hasks
  prepared := hprepare
  requests := h.requests
  replies := fun reply hreply => .inl (h.replies reply hreply)
  given := by simp

omit hlawful in
theorem Quiet.handle (h : network.Quiet Sound accept J state) {data : d} (hdata : data ∈ state.requests) :
    network.Quiet Sound accept J (network.handle state data) := by
  obtain ⟨hsound, hreply⟩ := h.requests data hdata state.world h.world
  refine ⟨hsound, hkept.serve data h.program, h.requests, ?_⟩
  intro reply hmem
  obtain hmem | hmem := List.mem_append.mp hmem
  · exact hreply reply (Option.mem_toList.mp hmem)
  · exact h.replies reply hmem

theorem Calling.handle {id : ℕ} {question : q} {data : d} {given : List τ}
    (h : network.Calling Sound accept answer J state id question data given) {request : d}
    (hrequest : request ∈ state.requests ++ network.sent id data given) :
    network.Calling Sound accept answer J (network.handle state request) id question data given := by
  have hserves : Sound (network.serve state.world request).1 ∧
      ∀ reply, (network.serve state.world request).2 = some reply → StaleReply accept id reply ∨
        Answers accept answer id question reply ∧ network.Handled Sound (request :: state.served) data := by
    obtain hrequest | hrequest := List.mem_append.mp hrequest
    · obtain ⟨hsound, hreply⟩ := h.requests request hrequest state.world h.world
      exact ⟨hsound, fun reply hsome => .inl (hreply reply hsome)⟩
    · obtain rfl := hlawful.sends request hrequest
      obtain ⟨hsound, hreply⟩ := hlawful.serves (hkept.good h.program h.asks) h.prepared state.world h.world
      exact ⟨hsound, fun reply hsome =>
        .inr ⟨hreply reply hsome, List.mem_cons_self, state.world, reply, h.world, hsome⟩⟩
  refine ⟨hserves.1, h.nextId, hkept.serve request h.program, h.asks, h.prepared, h.requests, ?_, ?_⟩
  · intro reply hmem
    obtain hmem | hmem := List.mem_append.mp hmem
    · exact hserves.2 reply (Option.mem_toList.mp hmem)
    · exact (h.replies reply hmem).imp_right fun hanswers => ⟨hanswers.1, hanswers.2.later request⟩
  · intro event hevent reply hreply
    exact List.mem_append_right _ (h.given event hevent reply hreply)

theorem Inv.handle (h : network.Inv Sound accept answer J state) {data : d} (hdata : data ∈ network.transmitted state) :
    network.Inv Sound accept answer J (network.handle state data) := by
  obtain ⟨nextId, program, phase, requests, world, served, replies⟩ := state
  cases phase with
  | ready => exact Quiet.handle hkept h hdata
  | calling id question data' given => exact ⟨h.1.handle hlawful hkept hdata, h.2⟩

variable [DecidableEq d]

theorem next_inv {action : Action d τ} {state' : State σ w q d τ} (h : network.Inv Sound accept answer J state)
    (hnext : network.next state action = some state') : network.Inv Sound accept answer J state' := by
  cases next_step hnext with
  | refused hphase hasks hprepare =>
    have hquiet := h.quiet hphase
    have hresume := hkept.resume hquiet.program hasks (.refused hprepare)
    rw [Inv, hphase]
    exact ⟨hquiet.world, hresume, fun data hdata => (hquiet.requests data hdata).later (network.le_numberAfter _ _),
      fun reply hreply => (hquiet.replies reply hreply).later (network.le_numberAfter _ _)⟩
  | asked hphase hasks hprepare => exact ((h.quiet hphase).ask hasks hprepare).settle hlawful hkept
  | handled hmem => exact h.handle hlawful hkept hmem
  | given hphase hcarried =>
    have hcalling := (h.calling hphase).1
    refine Calling.settle hlawful hkept { hcalling with given := ?_ }
    intro event' hevent reply hreply
    obtain hevent | hevent := List.mem_append.mp hevent
    · exact hcalling.given event' hevent reply hreply
    · obtain rfl := List.mem_singleton.mp hevent
      exact hcarried reply hreply

theorem leads_inv {start state' : State σ w q d τ} (h : (network.system start).Leads state state')
    (hinv : network.Inv Sound accept answer J state) : network.Inv Sound accept answer J state' :=
  h.invariant (fun _ _ _ hinv hnext => next_inv hlawful hkept hinv hnext) hinv

theorem reachable_inv {start : State σ w q d τ} (hstart : network.Inv Sound accept answer J start)
    (h : (network.system start).Reachable state) : network.Inv Sound accept answer J state := by
  refine h.invariant ?_ ?_
  · rintro _ rfl
    exact hstart
  · intro state action state' hinv _ hnext
    exact next_inv hlawful hkept hinv hnext

structure Traced (P : d → Prop) (state : State σ w q d τ) : Prop where
  served : ∀ data ∈ state.served, P data
  requests : ∀ data ∈ state.requests, P data
  calling : ∀ id question data given, state.phase = .calling id question data given → P data

variable {P : d → Prop} (hprepared : ∀ {id program served question data}, J id program served →
  network.question program = some question → network.prepare id question = .ok data → P data)

omit [DecidableEq d] hkept in
theorem Traced.settle {id : ℕ} {question : q} {data : d} {given : List τ} (hserved : ∀ data ∈ state.served, P data)
    (hrequests : ∀ data ∈ state.requests, P data) (hdata : P data) :
    Traced P (network.settle state id question data given) := by
  rw [DatagramNetwork.settle]
  cases network.call id data given with
  | none =>
    refine ⟨hserved, hrequests, ?_⟩
    intro id' question' data' given' hphase
    cases hphase
    exact hdata
  | some outcome =>
    refine ⟨hserved, ?_, fun _ _ _ _ hphase => by cases hphase⟩
    simp only [List.mem_append]
    rintro request (hrequest | hrequest)
    · exact hrequests request hrequest
    · exact hlawful.sends request hrequest ▸ hdata

omit [DecidableEq d] hkept in
theorem Traced.transmitted (h : Traced P state) {data : d} (hdata : data ∈ network.transmitted state) : P data := by
  rw [DatagramNetwork.transmitted] at hdata
  split at hdata
  · exact h.requests data hdata
  · rename_i hphase
    obtain hdata | hdata := List.mem_append.mp hdata
    · exact h.requests data hdata
    · exact hlawful.sends data hdata ▸ h.calling _ _ _ _ hphase

omit hkept in
include hprepared in
theorem next_traced {action : Action d τ} {state' : State σ w q d τ} (hinv : network.Inv Sound accept answer J state)
    (h : Traced P state) (hnext : network.next state action = some state') : Traced P state' := by
  cases next_step hnext with
  | refused hphase => exact ⟨h.served, h.requests, fun id question data given => h.calling id question data given⟩
  | asked hphase hasks hprepare =>
    exact Traced.settle hlawful h.served h.requests (hprepared (hinv.quiet hphase).program hasks hprepare)
  | handled hmem => exact ⟨List.forall_mem_cons.mpr ⟨h.transmitted hlawful hmem, h.served⟩, h.requests, h.calling⟩
  | given hphase => exact Traced.settle hlawful h.served h.requests (h.calling _ _ _ _ hphase)

include hprepared in
theorem reachable_served {start : State σ w q d τ} (hstart : network.Inv Sound accept answer J start)
    (hready : start.phase = .ready) (hrequests : start.requests = []) (hserved : start.served = [])
    (h : (network.system start).Reachable state) : ∀ data ∈ state.served, P data := by
  let Both (state : State σ w q d τ) : Prop := network.Inv Sound accept answer J state ∧ Traced P state
  have htraced : Both state := by
    refine h.invariant ?_ ?_
    · rintro _ rfl
      refine ⟨hstart, by simp [hserved], by simp [hrequests], ?_⟩
      intro id question data given hphase
      rw [hready] at hphase
      cases hphase
    · intro state action state' hinv _ hnext
      exact ⟨next_inv hlawful hkept hinv.1 hnext, next_traced hlawful hprepared hinv.1 hinv.2 hnext⟩
  exact htraced.2.served

end Runs

section Transmissions

variable {network} {state start : State σ w q d τ} {copies : ℕ}

def Thrifty (copies : ℕ) (start state : State σ w q d τ) : Prop :=
  start.nextId ≤ state.callId ∧
    state.requests.length ≤ start.requests.length + copies * (state.callId - start.nextId) ∧
    (∀ id question data given, state.phase = .calling id question data given → state.nextId = id + 1)

variable (hcopies : ∀ id data given, (network.sent id data given).length ≤ copies)

include hcopies

theorem Thrifty.settle {id : ℕ} {question : q} {data : d} {given : List τ} (hnextId : state.nextId = id + 1)
    (hle : start.nextId ≤ id)
    (h : state.requests.length ≤ start.requests.length + copies * (id - start.nextId)) :
    Thrifty copies start (network.settle state id question data given) := by
  rw [DatagramNetwork.settle]
  cases network.call id data given with
  | none =>
    refine ⟨hle, h, ?_⟩
    intro id' question' data' given' hphase
    cases hphase
    exact hnextId
  | some outcome =>
    have hsent := hcopies id data given
    have hcall : id + 1 - start.nextId = (id - start.nextId) + 1 := by omega
    refine ⟨?_, ?_, fun _ _ _ _ hphase => by cases hphase⟩
    · simp only [State.callId, hnextId]
      omega
    · simp only [State.callId, hnextId, List.length_append, hcall, Nat.mul_add, Nat.mul_one]
      omega

variable [DecidableEq d]

theorem next_thrifty {action : Action d τ} {state' : State σ w q d τ} (h : Thrifty copies start state)
    (hnext : network.next state action = some state') : Thrifty copies start state' := by
  obtain ⟨hle, hlength, hnextId⟩ := h
  cases next_step hnext with
  | @refused question e hphase =>
    simp only [State.callId, hphase] at hle hlength
    have hlater := network.le_numberAfter state.nextId question
    refine ⟨?_, ?_, fun id question data given hcalling => ?_⟩
    · simp only [State.callId, hphase]
      exact Nat.le_trans hle hlater
    · simp only [State.callId, hphase]
      refine Nat.le_trans hlength (Nat.add_le_add_left (Nat.mul_le_mul_left _ ?_) _)
      omega
    · cases hphase.symm.trans hcalling
  | asked hphase =>
    rw [State.callId, hphase] at hle hlength
    exact Thrifty.settle hcopies rfl hle hlength
  | handled => exact ⟨hle, hlength, hnextId⟩
  | given hphase =>
    rw [State.callId, hphase] at hle hlength
    exact Thrifty.settle hcopies (hnextId _ _ _ _ hphase) hle hlength

theorem transmitted_length_le (hready : start.phase = .ready) (h : (network.system start).Reachable state) :
    (network.transmitted state).length ≤ start.requests.length + copies * (state.nextId - start.nextId) := by
  have hthrifty : Thrifty copies start state := by
    refine h.invariant ?_ ?_
    · intro state hstate
      obtain rfl : state = start := hstate
      refine ⟨?_, Nat.le_add_right _ _, ?_⟩
      · have hid : state.callId = state.nextId := by rw [State.callId, hready]
        exact Nat.le_of_eq hid.symm
      · intro id question data given hphase
        rw [hready] at hphase
        cases hphase
    · intro state action state' hthrifty _ hnext
      exact next_thrifty hcopies hthrifty hnext
  obtain ⟨nextId, program, phase, requests, world, served, replies⟩ := state
  obtain ⟨hle, hlength, hphase⟩ := hthrifty
  cases phase with
  | ready => exact hlength
  | calling id question data given =>
    obtain rfl : nextId = id + 1 := hphase _ _ _ _ rfl
    simp only [State.callId] at hle hlength
    have hsent := hcopies id data given
    have hcall : id + 1 - start.nextId = (id - start.nextId) + 1 := by omega
    simp only [transmitted, List.length_append, hcall, Nat.mul_add, Nat.mul_one]
    omega

end Transmissions

section Completion

def talk (outcome : ℕ → q → Except ε r) : ℕ → ℕ → σ → σ
  | 0, _, program => program
  | fuel + 1, id, program =>
    match network.question program with
    | none => program
    | some question => talk outcome fuel (id + 1) (network.resume program (outcome id question))

structure Delivers (Sound : w → Prop) (Good : ℕ → q → Prop) (accept : ℕ → d → Except ε (Option r)) : Prop where
  starts : ∀ {id question data}, network.prepare id question = .ok data → network.call id data [] = none
  waits : ∀ {id data given}, network.call id data given = none → data ∈ network.sent id data given
  finishes : ∀ {id data given event reply a}, network.call id data given = none →
    network.carried event = some reply → accept id reply = .ok (some a) →
    network.call id data (given ++ [event]) = some (.ok a)
  carries : ∀ reply, ∃ event, network.carried event = some reply
  replies : ∀ {id question}, Good id question → ∃ data, network.prepare id question = .ok data ∧
    ∀ world, Sound world → ∃ reply, (network.serve world data).2 = some reply

variable {network} {Sound : w → Prop} {Good : ℕ → q → Prop} {accept : ℕ → d → Except ε (Option r)} {answer : ℕ → q → r}
  {Fails : ε → Prop} {J : ℕ → σ → List d → Prop} [DecidableEq d] {state : State σ w q d τ}
  (start : State σ w q d τ) (hlawful : network.Lawful Sound Good accept answer Fails)
  (hkept : network.Preserves Sound Good answer Fails J) (hdelivers : network.Delivers Sound Good accept)

include hlawful hkept hdelivers

theorem calling_leads {id : ℕ} {question : q} {data : d} {given : List τ}
    (hphase : state.phase = .calling id question data given) (h : network.Inv Sound accept answer J state) :
    ∃ final, (network.system start).Leads state final ∧ final.phase = .ready ∧ final.nextId = id + 1 ∧
      final.program = network.resume state.program (.ok (answer id question)) := by
  obtain ⟨nextId, program, phase, requests, world, served, replies⟩ := state
  simp only at hphase
  subst hphase
  obtain ⟨hcalling, hcall⟩ := h
  obtain rfl := hcalling.nextId
  have hgood := hkept.good hcalling.program hcalling.asks
  obtain ⟨data', hprepared, hreplies⟩ := hdelivers.replies hgood
  obtain rfl : data = data' := Except.ok.inj (hcalling.prepared.symm.trans hprepared)
  obtain ⟨reply, hreply⟩ := hreplies world hcalling.world
  obtain ⟨event, hevent⟩ := hdelivers.carries reply
  have haccept := ((hlawful.serves hgood hprepared world hcalling.world).2 reply hreply).1
  have hfinish := hdelivers.finishes hcall hevent haccept
  have hsent : data ∈ requests ++ network.sent id data given := List.mem_append_right _ (hdelivers.waits hcall)
  have hmem : reply ∈ (network.serve world data).2.toList ++ replies := by
    rw [hreply]
    exact List.mem_cons_self
  refine ⟨_, .tail (.single ⟨.serve data, if_pos hsent⟩) ⟨.give event, if_pos ?_⟩, ?_⟩
  · rw [hevent]
    simpa [handle] using hmem
  · simp only [settle, hfinish, handle]
    exact ⟨trivial, trivial, trivial⟩

theorem talk_leads (fuel : ℕ) (hready : state.phase = .ready) (h : network.Inv Sound accept answer J state) :
    ∃ final, (network.system start).Leads state final ∧ final.phase = .ready ∧
      final.program = network.talk (fun id question => .ok (answer id question)) fuel state.nextId state.program := by
  induction fuel generalizing state with
  | zero => exact ⟨state, .refl, hready, rfl⟩
  | succ fuel ih =>
    cases hasks : network.question state.program with
    | none => exact ⟨state, .refl, hready, by simp only [talk, hasks]⟩
    | some question =>
      have hquiet : network.Quiet Sound accept J state := by
        rw [Inv, hready] at h
        exact h
      obtain ⟨data, hprepared, -⟩ := hdelivers.replies (hkept.good hquiet.program hasks)
      have hcall := hdelivers.starts hprepared
      have hask : network.next state .ask = some
          { state with nextId := state.nextId + 1, phase := .calling state.nextId question data [] } := by
        simp only [next, ask, hready, hasks, hprepared, settle, hcall, numberAfter_of_prepare hprepared]
      have hcalling := next_inv hlawful hkept h hask
      obtain ⟨middle, hleads, hmiddle, hnextId, hprogram⟩ := calling_leads start hlawful hkept hdelivers rfl hcalling
      have hinv := leads_inv hlawful hkept hleads hcalling
      obtain ⟨final, hfinal, hphase, htalk⟩ := ih hmiddle hinv
      refine ⟨final, (Relation.ReflTransGen.single ⟨.ask, hask⟩).trans (hleads.trans hfinal), hphase, ?_⟩
      rw [htalk, hnextId, hprogram]
      simp only [talk, hasks]

theorem reachable_talk (hstart : network.Inv Sound accept answer J start)
    (h : (network.system start).Reachable state) (fuel : ℕ) :
    ∃ final, (network.system start).Leads state final ∧ final.phase = .ready ∧ final.program =
      network.talk (fun id question => .ok (answer id question)) (fuel + 1) state.callId state.program := by
  have hinv := reachable_inv hlawful hkept hstart h
  cases hphase : state.phase with
  | ready =>
    obtain ⟨final, hleads, hready, hprogram⟩ := talk_leads start hlawful hkept hdelivers (fuel + 1) hphase hinv
    refine ⟨final, hleads, hready, ?_⟩
    rw [hprogram, State.callId, hphase]
  | calling id question data given =>
    obtain ⟨middle, hleads, hready, hnextId, hprogram⟩ :=
      calling_leads start hlawful hkept hdelivers hphase hinv
    have hinv' := leads_inv hlawful hkept hleads hinv
    obtain ⟨final, hfinal, hready', htalk⟩ := talk_leads start hlawful hkept hdelivers fuel hready hinv'
    have hasks : network.question state.program = some question := by
      rw [Inv, hphase] at hinv
      exact hinv.1.asks
    refine ⟨final, hleads.trans hfinal, hready', ?_⟩
    rw [htalk, hnextId, hprogram, State.callId, hphase]
    simp only [talk, hasks]

end Completion

structure Script (q r ε : Type) where
  pending : List q
  outcomes : List (Except ε r)

namespace Script

def question (script : Script q r ε) : Option q := script.pending.head?

def resume (script : Script q r ε) (outcome : Except ε r) : Script q r ε :=
  { pending := script.pending.tail, outcomes := script.outcomes ++ [outcome] }

end Script

section Script

variable {network : DatagramNetwork (Script q r ε) w q r d τ ε} {Sound : w → Prop} {answer : ℕ → q → r}
  {Fails : ε → Prop}

def number (network : DatagramNetwork (Script q r ε) w q r d τ ε) (questions : List q) (start i : ℕ) : ℕ :=
  start + (questions.take i).countP fun question => network.numbers question

def ScriptInv (network : DatagramNetwork (Script q r ε) w q r d τ ε) (Sound : w → Prop) (answer : ℕ → q → r)
    (Fails : ε → Prop) (questions : List q) (start nextId : ℕ) (script : Script q r ε) (served : List d) : Prop :=
  nextId = network.number questions start script.outcomes.length ∧
    questions.drop script.outcomes.length = script.pending ∧
    ∀ i outcome, script.outcomes[i]? = some outcome → ∃ question, questions[i]? = some question ∧
      network.Outcome Sound answer Fails (network.number questions start i) question served outcome

theorem number_succ {questions : List q} {i : ℕ} {question : q} (h : questions[i]? = some question) (start : ℕ) :
    network.number questions start (i + 1) = network.numberAfter (network.number questions start i) question := by
  rw [number, number, List.take_add_one, h, List.countP_append, numberAfter, Option.toList_some, List.countP_singleton]
  split <;> rfl

theorem Outcome.serve {σ : Type} {network : DatagramNetwork σ w q r d τ ε} {id : ℕ} {question : q} {served : List d}
    {outcome : Except ε r} (h : network.Outcome Sound answer Fails id question served outcome) (data : d) :
    network.Outcome Sound answer Fails id question (data :: served) outcome := by
  cases h with
  | refused h => exact .refused h
  | failed h => exact .failed h
  | answered hprepare hhandled => exact .answered hprepare (hhandled.later data)

variable {questions : List q} {start nextId : ℕ} {script : Script q r ε} {served : List d}

theorem script_preserves (hquestion : network.question = Script.question) (hresume : network.resume = Script.resume)
    {Good : ℕ → q → Prop} (hgood : ∀ id, ∀ question ∈ questions, Good id question) :
    network.Preserves Sound Good answer Fails (ScriptInv network Sound answer Fails questions start) where
  serve := by
    rintro id script served data ⟨hid, hpending, houtcomes⟩
    refine ⟨hid, hpending, fun i outcome hi => ?_⟩
    obtain ⟨question, hget, houtcome⟩ := houtcomes i outcome hi
    exact ⟨question, hget, houtcome.serve data⟩
  good := by
    intro id script served question h hasks
    rw [hquestion] at hasks
    have hmem : question ∈ script.pending := List.mem_of_head? hasks
    rw [← h.2.1] at hmem
    exact hgood id question (List.mem_of_mem_drop hmem)
  resume := by
    rintro id script served question outcome ⟨rfl, hpending, houtcomes⟩ hasks houtcome
    rw [hquestion] at hasks
    have hget : questions[script.outcomes.length]? = some question := by
      rw [← List.head?_drop, hpending]
      exact hasks
    rw [hresume]
    refine ⟨?_, ?_, ?_⟩
    · rw [Script.resume, List.length_append, List.length_singleton, number_succ hget]
    · simp [Script.resume, ← hpending, List.tail_drop]
    · intro i outcome' hi
      simp only [Script.resume] at hi
      obtain hlt | hge := Nat.lt_or_ge i script.outcomes.length
      · rw [List.getElem?_append_left hlt] at hi
        exact houtcomes i outcome' hi
      · rw [List.getElem?_append_right hge] at hi
        obtain ⟨hzero, rfl⟩ : i - script.outcomes.length = 0 ∧ outcome = outcome' := by
          simpa [List.getElem?_singleton] using hi
        obtain rfl : i = script.outcomes.length := by omega
        exact ⟨question, hget, houtcome⟩

def BurstFor (network : DatagramNetwork (Script q r ε) w q r d τ ε) (copies : ℕ) (questions : List q) (start i : ℕ)
    (burst : List d) : Prop :=
  burst.length ≤ copies ∧ ∃ question, questions[i]? = some question ∧
    ∀ data ∈ burst, network.prepare (network.number questions start i) question = .ok data

def InBursts (network : DatagramNetwork (Script q r ε) w q r d τ ε) (copies : ℕ) (questions : List q) (start : ℕ)
    (requests : List d) (count : ℕ) : Prop :=
  ∃ bursts : List (List d), requests = bursts.flatten ∧ bursts.length = count ∧
    ∀ i burst, bursts[i]? = some burst → network.BurstFor copies questions start i burst

theorem InBursts.append {copies : ℕ} {requests : List d} {count : ℕ}
    (h : network.InBursts copies questions start requests count) {burst : List d}
    (hburst : network.BurstFor copies questions start count burst) :
    network.InBursts copies questions start (requests ++ burst) (count + 1) := by
  obtain ⟨bursts, rfl, rfl, hbursts⟩ := h
  refine ⟨bursts ++ [burst], by simp, by simp, fun i other hi => ?_⟩
  obtain hlt | hge := Nat.lt_or_ge i bursts.length
  · rw [List.getElem?_append_left hlt] at hi
    exact hbursts i other hi
  · rw [List.getElem?_append_right hge] at hi
    obtain ⟨hzero, rfl⟩ : i - bursts.length = 0 ∧ burst = other := by
      simpa [List.getElem?_singleton] using hi
    obtain rfl : i = bursts.length := by omega
    exact hburst

theorem ScriptInv.asked (h : ScriptInv network Sound answer Fails questions start nextId script served) {question : q}
    (hasks : script.question = some question) : questions[script.outcomes.length]? = some question := by
  rw [← List.head?_drop, h.2.1]
  exact hasks

variable {Good : ℕ → q → Prop} {accept : ℕ → d → Except ε (Option r)} {copies : ℕ}
  {state : State (Script q r ε) w q d τ}

theorem Calling.burstFor (hquestion : network.question = Script.question)
    (hlawful : network.Lawful Sound Good accept answer Fails)
    (hcopies : ∀ id data given, (network.sent id data given).length ≤ copies) {id : ℕ} {question : q} {data : d}
    {given : List τ} (h : network.Calling Sound accept answer (ScriptInv network Sound answer Fails questions start)
      state id question data given) :
    network.BurstFor copies questions start state.program.outcomes.length (network.sent id data given) := by
  refine ⟨hcopies id data given, question, h.program.asked (hquestion ▸ h.asks), fun copy hcopy => ?_⟩
  rw [← h.program.1, hlawful.sends copy hcopy]
  exact h.prepared

theorem InBursts.settle (hquestion : network.question = Script.question) (hresume : network.resume = Script.resume)
    (hlawful : network.Lawful Sound Good accept answer Fails)
    (hcopies : ∀ id data given, (network.sent id data given).length ≤ copies) {id : ℕ} {question : q} {data : d}
    {given : List τ} (hcalling : network.Calling Sound accept answer
      (ScriptInv network Sound answer Fails questions start) state id question data given)
    (h : network.InBursts copies questions start state.requests state.program.outcomes.length) :
    network.InBursts copies questions start (network.settle state id question data given).requests
      (network.settle state id question data given).program.outcomes.length := by
  rw [DatagramNetwork.settle]
  cases network.call id data given with
  | none => exact h
  | some outcome =>
    simp only [hresume, Script.resume, List.length_append, List.length_singleton]
    exact h.append (hcalling.burstFor hquestion hlawful hcopies)

def scriptStart (questions : List q) (nextId : ℕ) (world : w) : State (Script q r ε) w q d τ :=
  { nextId := nextId
    program := { pending := questions, outcomes := [] }
    phase := .ready
    requests := []
    world := world
    served := []
    replies := [] }

theorem scriptStart_inv {world : w} (hworld : Sound world) (questions : List q) (nextId : ℕ) :
    network.Inv Sound accept answer (ScriptInv network Sound answer Fails questions nextId)
      (scriptStart questions nextId world) :=
  { world := hworld
    program := ⟨rfl, rfl, by simp [scriptStart]⟩
    requests := by simp [scriptStart]
    replies := by simp [scriptStart] }

variable [DecidableEq d]

theorem next_inBursts (hquestion : network.question = Script.question) (hresume : network.resume = Script.resume)
    (hlawful : network.Lawful Sound Good accept answer Fails)
    (hcopies : ∀ id data given, (network.sent id data given).length ≤ copies)
    {state' : State (Script q r ε) w q d τ} {action : Action d τ}
    (hinv : network.Inv Sound accept answer (ScriptInv network Sound answer Fails questions start) state)
    (h : network.InBursts copies questions start state.requests state.program.outcomes.length)
    (hnext : network.next state action = some state') :
    network.InBursts copies questions start state'.requests state'.program.outcomes.length := by
  cases next_step hnext with
  | @refused question e hphase hasks hprepare =>
    have hasked := (hinv.quiet hphase).program.asked (hquestion ▸ hasks)
    -- a question that cannot be put into a request has an empty burst
    have hburst : network.BurstFor copies questions start state.program.outcomes.length [] :=
      ⟨Nat.zero_le _, question, hasked, by simp⟩
    simp only [hresume, Script.resume, List.length_append, List.length_singleton]
    simpa using h.append hburst
  | asked hphase hasks hprepare =>
    exact InBursts.settle hquestion hresume hlawful hcopies ((hinv.quiet hphase).ask hasks hprepare) h
  | handled => exact h
  | given hphase hcarried =>
    have hcalling := (hinv.calling hphase).1
    refine InBursts.settle hquestion hresume hlawful hcopies { hcalling with given := ?_ } h
    intro event' hevent reply hreply
    obtain hevent | hevent := List.mem_append.mp hevent
    · exact hcalling.given event' hevent reply hreply
    · obtain rfl := List.mem_singleton.mp hevent
      exact hcarried reply hreply

/-- Whatever the network does, each outcome belongs to its own question, the server handles only what
was asked, and no question's request is sent more often than a call allows. -/
theorem script_reachable (hquestion : network.question = Script.question) (hresume : network.resume = Script.resume)
    (hlawful : network.Lawful Sound Good accept answer Fails) (hgood : ∀ id, ∀ question ∈ questions, Good id question)
    (hcopies : ∀ id data given, (network.sent id data given).length ≤ copies) {world : w} (hworld : Sound world)
    (h : (network.system (scriptStart questions nextId world)).Reachable state) :
    ScriptInv network Sound answer Fails questions nextId state.callId state.program state.served ∧
      (∀ data ∈ state.served, ∃ i question, questions[i]? = some question ∧
        network.prepare (network.number questions nextId i) question = .ok data) ∧
      ∃ bursts : List (List d), network.transmitted state = bursts.flatten ∧
        ∀ i burst, bursts[i]? = some burst → network.BurstFor copies questions nextId i burst := by
  have hkept : network.Preserves Sound Good answer Fails (ScriptInv network Sound answer Fails questions nextId) :=
    script_preserves hquestion hresume hgood
  have hstart : network.Inv Sound accept answer (ScriptInv network Sound answer Fails questions nextId)
      (scriptStart questions nextId world) := scriptStart_inv hworld questions nextId
  have hinv := reachable_inv hlawful hkept hstart h
  refine ⟨hinv.program, ?_, ?_⟩
  · refine reachable_served hlawful hkept ?_ hstart rfl rfl rfl h
    intro id script served question data hscript hasks hprepare
    exact ⟨_, question, hscript.asked (hquestion ▸ hasks), hscript.1 ▸ hprepare⟩
  · let Both (state : State (Script q r ε) w q d τ) : Prop :=
      network.Inv Sound accept answer (ScriptInv network Sound answer Fails questions nextId) state ∧
        network.InBursts copies questions nextId state.requests state.program.outcomes.length
    have hboth : Both state := by
      refine h.invariant ?_ ?_
      · rintro _ rfl
        exact ⟨hstart, [], rfl, rfl, by simp⟩
      · intro state action state' hboth _ hnext
        exact ⟨next_inv hlawful hkept hboth.1 hnext,
          next_inBursts hquestion hresume hlawful hcopies hboth.1 hboth.2 hnext⟩
    rw [transmitted]
    split
    · obtain ⟨bursts, hflatten, -, hbursts⟩ := hboth.2
      exact ⟨bursts, hflatten, hbursts⟩
    · rename_i hphase
      have hburst := ((hinv.calling hphase).1).burstFor hquestion hlawful hcopies
      obtain ⟨bursts, hflatten, -, hbursts⟩ := hboth.2.append hburst
      exact ⟨bursts, hflatten, hbursts⟩

end Script

end DatagramNetwork

end TrishulSnmp
