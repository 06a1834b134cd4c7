import TrishulSnmp.Transport.UdpClient

namespace TrishulSnmp.UdpClient

/-! Who has which socket, and which are left open. -/

variable {τ : Type} [DecidableEq τ]

def Status.isOpening : Status → Bool
  | opening _ _ => true
  | _ => false

def State.Quiescent (state : State τ) : Prop := ∀ task, (state.tasks task).isOpening = false

/-- Every socket that was created and not closed is the client's, and there is none after a `close()`
that no `open()` followed. -/
structure State.NoLeak (state : State τ) : Prop where
  held : ∀ sock ∈ state.shared.client.unclosed, state.shared.client.socket = some sock
  closed : state.shared.client.closedSinceOpen → state.shared.client.unclosed = []

def ClientState.ordered (client : ClientState) : Position → Wakeup → Bool
  | .connecting _, .cancelled => false
  | .connecting _, .connected => client.socket.isNone && !client.closedSinceOpen
  | _, _ => true

def State.ordered (state : State τ) : Action τ → Bool
  | .resumes task wakeup =>
    match state.tasks task with
    | .opening _ position => state.shared.client.ordered position wakeup
    | _ => true
  | _ => true

def Position.sock? : Position → Option Socket
  | connecting sock => some sock
  | _ => none

def Progress.sock? : Progress → Option Socket
  | goes position => position.sock?
  | ends _ => none

def Status.sock? : Status → Option Socket
  | opening _ position => position.sock?
  | _ => none

def State.pending (state : State τ) (task : τ) : Option Socket := (state.tasks task).sock?

inductive Effect (pending : τ → Option Socket) (client : ClientState) : (τ → Option Socket) → ClientState → Bool → Prop
  | nothing (closed : Bool) (hclosed : closed → client.closedSinceOpen) :
      Effect pending client pending { client with closedSinceOpen := closed } true
  | creates (task : τ) (sockaddr : SocketAddress) (htask : pending task = none) :
      Effect pending client (Function.update pending task (some (client.newSocket sockaddr)))
        (client.createSocket sockaddr) true
  | closes : Effect pending client pending client.close true
  | stores (task : τ) (sock : Socket) (htask : pending task = some sock) :
      Effect pending client (Function.update pending task none) { client with socket := some sock }
        (client.socket.isNone && !client.closedSinceOpen)
  | fails (task : τ) (sock : Socket) (htask : pending task = some sock) :
      Effect pending client (Function.update pending task none) (client.closeSocket sock) true
  | abandons (task : τ) (sock : Socket) (htask : pending task = some sock) :
      Effect pending client (Function.update pending task none) client false

section Effects

variable {session : SnmpSession} {opener : Opener} {shared : Shared}

theorem opened_quiet : (opened session opener shared).1.sock? = none ∧
    (opened session opener shared).2.client = shared.client := by
  unfold opened
  cases opener with
  | client => exact ⟨rfl, rfl⟩
  | session skipPrepare =>
    simp only
    split_ifs
    · exact ⟨rfl, rfl⟩
    · exact ⟨rfl, rfl⟩

theorem openClient_quiet : (openClient session opener shared).1.sock? = none ∧
    (openClient session opener shared).2.client = { shared.client with closedSinceOpen := false } := by
  unfold openClient
  simp only
  split_ifs
  · exact opened_quiet
  · exact ⟨rfl, rfl⟩

theorem start_quiet : (start session opener shared).1.sock? = none ∧ ∃ closed : Bool,
    (closed → shared.client.closedSinceOpen) ∧
      (start session opener shared).2.client = { shared.client with closedSinceOpen := closed } := by
  have hclient : ∃ closed : Bool, (closed → shared.client.closedSinceOpen) ∧
      (openClient session opener shared).2.client = { shared.client with closedSinceOpen := closed } :=
    ⟨false, fun h => absurd h Bool.false_ne_true, openClient_quiet.2⟩
  unfold start
  cases opener with
  | client => exact ⟨openClient_quiet.1, hclient⟩
  | session skipPrepare =>
    simp only
    split_ifs
    · exact ⟨rfl, shared.client.closedSinceOpen, id, rfl⟩
    · exact ⟨openClient_quiet.1, hclient⟩

variable {state state' : State τ} {task : τ}

theorem pending_put {progress : Progress × Shared} :
    (state.put task opener progress).pending = Function.update state.pending task progress.1.sock? := by
  have hstatus : (progress.1.status opener).sock? = progress.1.sock? := by cases progress.1 <;> rfl
  rw [← hstatus]
  exact Function.comp_update Status.sock? state.tasks task (progress.1.status opener)

theorem pending_put_none {progress : Progress × Shared} (htask : state.pending task = none)
    (hsock : progress.1.sock? = none) : (state.put task opener progress).pending = state.pending := by
  rw [pending_put, hsock, ← htask, Function.update_eq_self]

theorem resume_effect {position : Position} {wakeup : Wakeup} {progress : Progress × Shared}
    (htask : state.pending task = position.sock?)
    (h : resume session opener position wakeup state.shared = some progress) :
    Effect state.pending state.shared.client (state.put task opener progress).pending progress.2.client
      (state.shared.client.ordered position wakeup) := by
  unfold resume at h
  split at h
  · cases h
    rw [pending_put_none htask rfl]
    exact .nothing _ id
  · cases h
    rw [pending_put_none htask rfl]
    exact .nothing _ id
  · cases h
    rw [pending_put_none htask rfl]
    exact .nothing _ id
  · cases h
    rw [pending_put]
    exact .creates task _ htask
  · rename_i sock
    cases h
    obtain ⟨hsock, hclient⟩ :=
      @opened_quiet session opener { state.shared with client := { state.shared.client with socket := some sock } }
    rw [pending_put, hsock, hclient]
    exact .stores task sock htask
  · cases h
    rw [pending_put]
    exact .fails task _ htask
  · cases h
    rw [pending_put_none htask rfl]
    exact .nothing _ id
  · cases h
    rw [pending_put]
    exact .abandons task _ htask
  · cases h
    rw [pending_put_none htask rfl]
    exact .nothing _ id
  · cases h
    rw [pending_put_none htask rfl]
    exact .closes
  · cases h
    rw [pending_put_none htask rfl]
    exact .closes
  · cases h

theorem next_effect {action : Action τ} (h : next session state action = some state') :
    Effect state.pending state.shared.client state'.pending state'.shared.client (state.ordered action) := by
  cases action with
  | opens task opener =>
    simp only [next] at h
    split at h
    · rename_i hidle
      cases h
      obtain ⟨hsock, closed, hclosed, hclient⟩ := @start_quiet session opener state.shared
      have htask : state.pending task = none := by rw [State.pending, hidle]; rfl
      rw [pending_put_none htask hsock, State.put, hclient]
      exact .nothing closed hclosed
    · cases h
  | resumes task wakeup =>
    simp only [next] at h
    split at h
    · rename_i opener position hstatus
      obtain ⟨progress, hresume, rfl⟩ := Option.map_eq_some_iff.mp h
      have htask : state.pending task = position.sock? := by rw [State.pending, hstatus]; rfl
      rw [State.ordered, hstatus]
      exact resume_effect htask hresume
    · cases h
  | closes =>
    cases h
    exact .closes
  | closesSession =>
    cases h
    exact .closes

end Effects

section Operations

variable {client : ClientState} {sock other : Socket}

theorem mem_closeSocket : other ∈ (client.closeSocket sock).unclosed ↔ other ∈ client.unclosed ∧ other ≠ sock := by
  simp [ClientState.closeSocket]

@[simp] theorem close_socket (client : ClientState) : client.close.socket = none := by
  unfold ClientState.close
  split
  · rfl
  · assumption

@[simp] theorem close_created (client : ClientState) : client.close.created = client.created := by
  unfold ClientState.close
  split <;> rfl

theorem mem_close : sock ∈ client.close.unclosed ↔ sock ∈ client.unclosed ∧ client.socket ≠ some sock := by
  unfold ClientState.close
  cases client.socket with
  | none => simp
  | some held =>
    simp only [ne_eq, Option.some.injEq]
    rw [mem_closeSocket, ne_comm]

variable {pending : τ → Option Socket} {task task' : τ}

theorem pending_kept {value : Option Socket} (htask : pending task ≠ some sock) (hother : pending task' = some sock) :
    Function.update pending task value task' = some sock := by
  rw [Function.update_of_ne, hother]
  rintro rfl
  exact htask hother

theorem pending_of_update (h : Function.update pending task none task' = some sock) :
    task' ≠ task ∧ pending task' = some sock := by
  by_cases heq : task' = task
  · subst heq
    rw [Function.update_self] at h
    cases h
  · exact ⟨heq, by rwa [Function.update_of_ne heq] at h⟩

end Operations

variable {pending pending' : τ → Option Socket} {client client' : ClientState} {sock : Socket} {ordered : Bool}

structure Accounted (pending : τ → Option Socket) (client : ClientState) : Prop where
  unclosed : ∀ sock ∈ client.unclosed, client.socket = some sock ∨ ∃ task, pending task = some sock
  closed : client.closedSinceOpen → client.socket = none

theorem Accounted.keeps (hi : Accounted pending client) {task : τ} {value : Option Socket}
    (hmem : sock ∈ client.unclosed) (htask : pending task ≠ some sock) :
    client.socket = some sock ∨ ∃ task', Function.update pending task value task' = some sock := by
  obtain hheld | ⟨task', hother⟩ := hi.unclosed sock hmem
  · exact .inl hheld
  · exact .inr ⟨task', pending_kept htask hother⟩

theorem Effect.accounted (h : Effect pending client pending' client' ordered) (hordered : ordered = true)
    (hi : Accounted pending client) : Accounted pending' client' := by
  cases h with
  | nothing closed hclosed => exact ⟨hi.unclosed, fun h => hi.closed (hclosed h)⟩
  | creates task sockaddr htask =>
    refine ⟨fun sock hmem => ?_, hi.closed⟩
    obtain rfl | hmem := List.mem_cons.mp hmem
    · exact .inr ⟨task, Function.update_self _ _ _⟩
    · apply hi.keeps hmem
      simp [htask]
  | closes =>
    refine ⟨fun sock hmem => ?_, fun _ => close_socket client⟩
    obtain ⟨hmem, hother⟩ := mem_close.mp hmem
    exact .inr ((hi.unclosed sock hmem).resolve_left hother)
  | stores task sock htask =>
    simp only [Bool.and_eq_true, Option.isNone_iff_eq_none, Bool.not_eq_true'] at hordered
    obtain ⟨hempty, hopen⟩ := hordered
    refine ⟨fun other hmem => ?_, fun hclosed => ?_⟩
    · by_cases hsock : sock = other
      · exact .inl (congrArg some hsock)
      · have hne : pending task ≠ some other := by simpa [htask] using hsock
        exact .inr ((hi.keeps hmem hne).resolve_left (by simp [hempty]))
    · exact absurd (hclosed : client.closedSinceOpen = true) (by simp [hopen])
  | fails task sock htask =>
    refine ⟨fun other hmem => ?_, hi.closed⟩
    obtain ⟨hmem, hne⟩ := mem_closeSocket.mp hmem
    apply hi.keeps hmem
    simpa [htask] using hne.symm
  | abandons task sock htask => cases hordered

omit [DecidableEq τ] in
theorem Accounted.noLeak {state : State τ} (hi : Accounted state.pending state.shared.client)
    (hquiescent : state.Quiescent) : state.NoLeak := by
  have hpending : ∀ task, state.pending task = none := by
    intro task
    have hstatus := hquiescent task
    rw [State.pending]
    cases htask : state.tasks task with
    | opening opener position =>
      rw [htask] at hstatus
      cases hstatus
    | _ => rfl
  have hheld : ∀ sock ∈ state.shared.client.unclosed, state.shared.client.socket = some sock := by
    intro sock hmem
    apply (hi.unclosed sock hmem).resolve_right
    simp [hpending]
  refine ⟨hheld, fun hclosed => List.eq_nil_iff_forall_not_mem.mpr fun sock hmem => ?_⟩
  have hsocket := hheld sock hmem
  rw [hi.closed hclosed] at hsocket
  cases hsocket

theorem sockets_closed (session : SnmpSession) {state : State τ}
    (h : (calls session).Reaches (fun state action => state.ordered action) state) (hquiescent : state.Quiescent) :
    state.NoLeak := by
  have hinitial (state : State τ) (h : (calls session).Initial state) :
      Accounted state.pending state.shared.client := by
    rw [h.2]
    exact ⟨by simp, by simp⟩
  have hstep (state : State τ) (action : Action τ) (state' : State τ) (hi : Accounted state.pending state.shared.client)
      (hordered : state.ordered action = true) (hnext : (calls session).next state action = some state') :
      Accounted state'.pending state'.shared.client := (next_effect hnext).accounted hordered hi
  exact (System.Reaches.invariant hinitial hstep h).noLeak hquiescent

def State.fresh : State τ where
  tasks := fun _ => .idle
  shared := {}

theorem fresh_initial (session : SnmpSession) : (calls session).Initial (State.fresh : State τ) := ⟨fun _ => rfl, rfl⟩

instance (state : State Bool) : Decidable state.Quiescent := inferInstanceAs (Decidable (∀ _, _ = false))

instance (state : State τ) : Decidable state.NoLeak :=
  decidable_of_iff ((∀ sock ∈ state.shared.client.unclosed, state.shared.client.socket = some sock) ∧
    (state.shared.client.closedSinceOpen → state.shared.client.unclosed = []))
    ⟨fun h => ⟨h.1, h.2⟩, fun h => ⟨h.held, h.closed⟩⟩

def loopback : SocketAddress := .inet "127.0.0.1" 161

def localSession : SnmpSession := { client := { host := "127.0.0.1", port := 161 }, hasPrepare := true }

def failedPrepare : List (Action Bool) :=
  [.opens true (.session false), .resumes true (.resolved [loopback] true), .opens false .client,
    .resumes true .connected, .resumes false .cancelled, .resumes true (.raised localSession.client.unresolved)]

theorem sockets_closed_sample : ∃ state : State Bool,
    (calls localSession).run (fun state action => state.ordered action) .fresh failedPrepare = some state ∧
      state.shared.client.created = 1 ∧ state.shared.client.closedSinceOpen ∧ state.NoLeak := by
  have hended : ((calls localSession).run (fun state action => state.ordered action) .fresh failedPrepare).any
      (fun state => decide
        (state.Quiescent ∧ state.shared.client.created = 1 ∧ state.shared.client.closedSinceOpen)) = true := by
    decide +kernel
  obtain ⟨state, hrun, hreaches, hquiescent, hcreated, hclosed⟩ :=
    System.exists_of_run (fresh_initial localSession) hended
  exact ⟨state, hrun, hcreated, hclosed, sockets_closed localSession hreaches hquiescent⟩

def Leaks (actions : List (Action Bool)) : Prop :=
  ∃ state, (calls localSession).run (fun _ _ => True) .fresh actions = some state ∧
    (calls localSession).Reachable state ∧ state.Quiescent ∧ ¬ state.NoLeak

theorem leaks_of_run {actions : List (Action Bool)} (h : ((calls localSession).run (fun _ _ => True) .fresh actions).any
    (fun state => decide (state.Quiescent ∧ ¬ state.NoLeak)) = true) : Leaks actions := by
  obtain ⟨state, hrun, hreaches, hleaks⟩ := System.exists_of_run (fresh_initial localSession) h
  exact ⟨state, hrun, hreaches, hleaks⟩

theorem overlapping_calls_leak :
    Leaks [.opens false .client, .opens true .client, .resumes false (.resolved [loopback] true),
      .resumes true (.resolved [loopback] true), .resumes false .connected, .resumes true .connected] ∧
    Leaks [.opens false .client, .resumes false (.resolved [loopback] true), .resumes false .cancelled] ∧
    Leaks [.opens false .client, .closes, .resumes false (.resolved [loopback] true), .resumes false .connected] :=
  ⟨leaks_of_run (by decide +kernel), leaks_of_run (by decide +kernel), leaks_of_run (by decide +kernel)⟩

structure Distinct (pending : τ → Option Socket) (client : ClientState) : Prop where
  old : ∀ sock ∈ client.unclosed, sock.number < client.created
  held : ∀ sock, client.socket = some sock → sock ∈ client.unclosed
  owned : ∀ task sock, pending task = some sock → sock ∈ client.unclosed ∧ client.socket ≠ some sock
  owner : ∀ task other sock, pending task = some sock → pending other = some sock → other = task

structure Lost (sock : Socket) (pending : τ → Option Socket) (client : ClientState) : Prop where
  unclosed : sock ∈ client.unclosed
  old : sock.number < client.created
  held : client.socket ≠ some sock
  pending : ∀ task, pending task ≠ some sock

theorem Lost.released (hl : Lost sock pending client) (task task' : τ) :
    Function.update pending task none task' ≠ some sock :=
  fun h => hl.pending task' (pending_of_update h).2

theorem Effect.lost (h : Effect pending client pending' client' ordered) (hl : Lost sock pending client) :
    Lost sock pending' client' := by
  cases h with
  | nothing closed hclosed => exact ⟨hl.unclosed, hl.old, hl.held, hl.pending⟩
  | creates task sockaddr htask =>
    refine ⟨List.mem_cons_of_mem _ hl.unclosed, Nat.lt_succ_of_lt hl.old, hl.held, fun other => ?_⟩
    rw [Function.update_apply]
    split_ifs
    · rintro ⟨rfl⟩
      exact Nat.lt_irrefl _ hl.old
    · exact hl.pending other
  | closes => exact ⟨mem_close.mpr ⟨hl.unclosed, hl.held⟩, by simpa using hl.old, by simp, hl.pending⟩
  | stores task other htask =>
    refine ⟨hl.unclosed, hl.old, fun heq => ?_, hl.released task⟩
    exact hl.pending task (htask.trans heq)
  | fails task other htask =>
    refine ⟨mem_closeSocket.mpr ⟨hl.unclosed, ?_⟩, hl.old, hl.held, hl.released task⟩
    rintro rfl
    exact hl.pending task htask
  | abandons task other htask => exact ⟨hl.unclosed, hl.old, hl.held, hl.released task⟩

theorem Distinct.others (hi : Distinct pending client) {task task' : τ} {other : Socket}
    (htask : pending task = some sock) (hother : Function.update pending task none task' = some other) :
    pending task' = some other ∧ other ≠ sock := by
  obtain ⟨hne, hother⟩ := pending_of_update hother
  refine ⟨hother, ?_⟩
  rintro rfl
  exact hne (hi.owner _ _ _ htask hother)

theorem Distinct.released (hi : Distinct pending client) (task : τ) (task' other : τ) (sock : Socket)
    (h : Function.update pending task none task' = some sock)
    (hother : Function.update pending task none other = some sock) : other = task' :=
  hi.owner _ _ _ (pending_of_update h).2 (pending_of_update hother).2

theorem Distinct.create (hi : Distinct pending client) {task : τ} (sockaddr : SocketAddress) :
    Distinct (Function.update pending task (some (client.newSocket sockaddr))) (client.createSocket sockaddr) := by
  have hfresh : ∀ sock ∈ client.unclosed, sock ≠ client.newSocket sockaddr := by
    rintro sock hmem rfl
    exact Nat.lt_irrefl _ (hi.old _ hmem)
  have howned (other : τ) (sock : Socket)
      (h : Function.update pending task (some (client.newSocket sockaddr)) other = some sock) :
      (other = task ∧ sock = client.newSocket sockaddr) ∨ pending other = some sock := by
    rw [Function.update_apply] at h
    split_ifs at h with heq
    · exact .inl ⟨heq, (Option.some.inj h).symm⟩
    · exact .inr h
  constructor
  · intro sock hmem
    obtain rfl | hmem := List.mem_cons.mp hmem
    · exact Nat.lt_succ_self _
    · exact Nat.lt_succ_of_lt (hi.old sock hmem)
  · exact fun sock hheld => List.mem_cons_of_mem _ (hi.held sock hheld)
  · intro other sock hother
    obtain ⟨-, rfl⟩ | hother := howned other sock hother
    · exact ⟨List.mem_cons_self, fun hheld => hfresh _ (hi.held _ hheld) rfl⟩
    · obtain ⟨hmem, hheld⟩ := hi.owned other sock hother
      exact ⟨List.mem_cons_of_mem _ hmem, hheld⟩
  · intro other other' sock hother hother'
    obtain ⟨rfl, rfl⟩ | hother := howned other sock hother
    · obtain ⟨rfl, -⟩ | hother' := howned other' _ hother'
      · rfl
      · exact absurd rfl (hfresh _ (hi.owned _ _ hother').1)
    · obtain ⟨-, rfl⟩ | hother' := howned other' sock hother'
      · exact absurd rfl (hfresh _ (hi.owned _ _ hother).1)
      · exact hi.owner _ _ _ hother hother'

theorem Effect.distinct (h : Effect pending client pending' client' ordered) (hi : Distinct pending client) :
    Distinct pending' client' := by
  cases h with
  | nothing closed hclosed => exact ⟨hi.old, hi.held, hi.owned, hi.owner⟩
  | creates task sockaddr htask => exact hi.create sockaddr
  | closes =>
    refine ⟨?_, by simp, fun task sock htask => ?_, hi.owner⟩
    · intro sock hmem
      rw [close_created]
      exact hi.old sock (mem_close.mp hmem).1
    · exact ⟨mem_close.mpr (hi.owned task sock htask), by simp⟩
  | stores task sock htask =>
    refine ⟨hi.old, ?_, fun task' other hother => ?_, hi.released task⟩
    · rintro other ⟨rfl⟩
      exact (hi.owned task sock htask).1
    · obtain ⟨hother, hne⟩ := hi.others htask hother
      exact ⟨(hi.owned task' other hother).1, fun h => hne (Option.some.inj h).symm⟩
  | fails task sock htask =>
    refine ⟨?_, fun other hheld => ?_, fun task' other hother => ?_, hi.released task⟩
    · exact fun other hmem => hi.old other (mem_closeSocket.mp hmem).1
    · refine mem_closeSocket.mpr ⟨hi.held other hheld, ?_⟩
      rintro rfl
      exact (hi.owned task other htask).2 hheld
    · obtain ⟨hother, hne⟩ := hi.others htask hother
      obtain ⟨hmem, hheld⟩ := hi.owned task' other hother
      exact ⟨mem_closeSocket.mpr ⟨hmem, hne⟩, hheld⟩
  | abandons task sock htask =>
    refine ⟨hi.old, hi.held, fun task' other hother => ?_, hi.released task⟩
    exact hi.owned task' other (hi.others htask hother).1

theorem Effect.disordered (h : Effect pending client pending' client' ordered) (hordered : ordered = false)
    (hi : Distinct pending client) :
    (∃ sock, Lost sock pending' client') ∨ client'.closedSinceOpen ∧ client'.unclosed ≠ [] := by
  cases h with
  | stores task sock htask =>
    obtain ⟨hmem, hne⟩ := hi.owned task sock htask
    cases hheld : client.socket with
    | none =>
      have hclosed : client.closedSinceOpen = true := by simpa [hheld] using hordered
      exact .inr ⟨hclosed, List.ne_nil_of_mem hmem⟩
    | some held =>
      have hopen := hi.held held hheld
      refine .inl ⟨held, hopen, hi.old held hopen, fun heq => ?_, fun task' hother => ?_⟩
      · exact hne (hheld.trans heq.symm)
      · exact (hi.owned task' held (hi.others htask hother).1).2 hheld
  | abandons task sock htask =>
    obtain ⟨hmem, hheld⟩ := hi.owned task sock htask
    refine .inl ⟨sock, hmem, hi.old sock hmem, hheld, fun task' hother => ?_⟩
    exact (hi.others htask hother).2 rfl
  | _ => cases hordered

theorem disorder_leaks (session : SnmpSession) {state state' : State τ} {action : Action τ}
    (h : (calls session).Reachable state) (hnext : (calls session).next state action = some state')
    (hordered : state.ordered action = false) :
    (∃ sock, ∀ later, (calls session).Leads state' later → Lost sock later.pending later.shared.client) ∨
      state'.shared.client.closedSinceOpen ∧ state'.shared.client.unclosed ≠ [] := by
  have hinitial (state : State τ) (h : (calls session).Initial state) : Distinct state.pending state.shared.client := by
    have hpending : ∀ task, state.pending task = none := by simp [State.pending, h.1, Status.sock?]
    rw [h.2]
    exact ⟨by simp, by simp, by simp [hpending], by simp [hpending]⟩
  have hstep (state : State τ) (action : Action τ) (state' : State τ) (hi : Distinct state.pending state.shared.client)
      (_ : True) (hnext : (calls session).next state action = some state') :
      Distinct state'.pending state'.shared.client := (next_effect hnext).distinct hi
  have hdistinct := System.Reaches.invariant hinitial hstep h
  apply ((next_effect hnext).disordered hordered hdistinct).imp_left
  rintro ⟨sock, hlost⟩
  have hstep (state : State τ) (action : Action τ) (state' : State τ) (hl : Lost sock state.pending state.shared.client)
      (hnext : (calls session).next state action = some state') : Lost sock state'.pending state'.shared.client :=
    (next_effect hnext).lost hl
  refine ⟨sock, fun later hlater => ?_⟩
  have hlater := System.Leads.invariant hstep hlater hlost
  exact hlater

end TrishulSnmp.UdpClient
