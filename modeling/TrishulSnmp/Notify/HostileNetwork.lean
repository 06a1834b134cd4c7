import TrishulSnmp.Library.Runs
import TrishulSnmp.Notify.V3Sessions

namespace TrishulSnmp.Notify

open Outcome Asn1 Wire Responder Mib UsmModel Transport

/-! A session of `V3Notifier` and a listener of its user, on a network that is in the hands of somebody
else: what is sent can be read, lost, held back and brought to either of them any number of times, and so can
whatever can be made without the keys of the user. -/

structure Exchange (τ : Type) (user : UsmUser) where
  session : SessionState τ (UserModel user)
  sent : List Bytes
  results : List (Except Error NotificationEvent)

inductive ExchangeAction (τ : Type)
  | notifier (action : Action τ)
  | listener (arrival : Arrival)

def transmitted {τ : Type} (tasks : τ → Status) : Action τ → List Bytes
  | .resume task .sent =>
    match tasks task with
    | .holding _ (.sendingProbe probe _) => [probe]
    | .holding _ (.sending request _) => [request.encodedMessage]
    | _ => []
  | _ => []

def exchange (τ : Type) [DecidableEq τ] (crypto : Crypto) (user : UsmUser) (salts : ℤ → Bytes) (retries : ℕ)
    (listener : V3NotificationListener) : System (Exchange τ user) (ExchangeAction τ) where
  Initial := fun state =>
    state.session.Initial ∧ state.session.peerSent = [] ∧ state.sent = [] ∧ state.results = []
  next := fun state action =>
    match action with
    | .notifier action =>
      ((v3Session crypto user salts retries).next state.session action).map fun session =>
        { state with
          session := session
          sent := state.sent ++ transmitted state.session.tasks action }
    | .listener arrival =>
      let round := listener.receiveOne crypto arrival
      some { state with
        sent := state.sent ++ round.sent.map Sent.data
        results := state.results ++ round.ended.toList }

/-- The datagrams that the network can bring. -/
def Bringable (crypto : Crypto) (user : UsmUser) (limit : ℕ) (sent : List Bytes) (data : Bytes) : Prop :=
  data.length ≤ limit ∧ (data ∈ sent ∨ verified crypto user data = false)

instance (crypto : Crypto) (user : UsmUser) (limit : ℕ) (sent : List Bytes) (data : Bytes) :
    Decidable (Bringable crypto user limit sent data) := inferInstanceAs (Decidable (_ ∧ _))

def Notifies (call : Call) : Prop := call.pduType = .snmpv2Trap ∨ call.pduType = .informRequest

instance : DecidablePred Notifies := fun _ => inferInstanceAs (Decidable (_ ∨ _))

def ExchangeAction.Allowed {τ : Type} (crypto : Crypto) (user : UsmUser) (limit : ℕ) (state : Exchange τ user) :
    ExchangeAction τ → Prop
  | .notifier (.call _ call) => Notifies call
  | .notifier (.peerSends data) => Bringable crypto user limit state.sent data
  | .notifier _ => True
  | .listener arrival => arrival.salt.length = 8 ∧ Bringable crypto user limit state.sent arrival.received.data

instance {τ : Type} (crypto : Crypto) (user : UsmUser) (limit : ℕ) (state : Exchange τ user) :
    DecidablePred (ExchangeAction.Allowed crypto user limit state) := fun action =>
  match action with
  | .notifier (.call _ call) => inferInstanceAs (Decidable (Notifies call))
  | .notifier (.peerSends data) => inferInstanceAs (Decidable (Bringable crypto user limit state.sent data))
  | .notifier (.acquire _) | .notifier (.withdraw _) | .notifier (.resume _ _) | .notifier (.delivers _)
  | .notifier (.loses _) => inferInstanceAs (Decidable True)
  | .listener _ => inferInstanceAs (Decidable (_ ∧ _))

section Rounds

variable (crypto : Crypto) (listener : V3NotificationListener) (arrival : Arrival)

inductive RoundOf : Round → Prop
  | passes : RoundOf .passedOver
  | raises (e : Error) : RoundOf (.raised e)
  | reports {report : Bytes} (hreport : encodeDiscoveryReport arrival.received.data listener.localEngine = .ok report) :
      RoundOf { sent := [⟨report, arrival.received.sourceAddress⟩], ended := none }
  | traps {envelope : V3NotificationEnvelope}
      (haccept : decodeV3NotificationMessage crypto arrival.received.data listener.user = .ok (some envelope)) :
      RoundOf {
        sent := []
        ended := notificationEventFromV3Envelope envelope (some arrival.received.sourceAddress) listener.bundle }
  | acknowledges {envelope : V3NotificationEnvelope} {ack : Bytes}
      (haccept : decodeV3NotificationMessage crypto arrival.received.data listener.user = .ok (some envelope))
      (hinform : envelope.pdu.pduType = .informRequest)
      (hack : encodeInformResponse crypto arrival.salt envelope listener.user listener.localEngine = .ok ack) :
      RoundOf {
        sent := [⟨ack, arrival.received.sourceAddress⟩]
        ended := notificationEventFromV3Envelope envelope (some arrival.received.sourceAddress) listener.bundle }

variable {crypto listener arrival}

theorem orContinue_round {α : Type} {x : Except Error α} {k : α → Round}
    (h : ∀ a, x = .ok a → RoundOf crypto listener arrival (k a)) :
    RoundOf crypto listener arrival (orContinue x k) := by
  cases x with
  | ok a => exact h a rfl
  | error e =>
    simp only [orContinue]
    split
    · exact .passes
    · exact .raises e

theorem receiveOne_round : RoundOf crypto listener arrival (listener.receiveOne crypto arrival) := by
  unfold V3NotificationListener.receiveOne
  split
  · exact .raises _
  · exact orContinue_round fun report hreport => .reports hreport
  · apply orContinue_round
    intro found haccept
    cases found with
    | none => exact .passes
    | some envelope =>
      simp only [V3NotificationListener.receiveNotification]
      split
      · rename_i hinform
        split
        · exact .raises _
        · rename_i sent hsent
          obtain ⟨ack, hack, hsent⟩ := bind_ok_iff.mp hsent
          obtain rfl := pure_ok_iff.mp hsent
          exact .acknowledges haccept hinform hack
      · exact .traps haccept

end Rounds

structure Tells (user : UsmUser) (call : Call) (requestId : ℕ) (event : NotificationEvent) : Prop where
  requestId : event.requestId = requestId
  pduType : some event.pduType = pduTypeName? call.pduType
  username : event.username = some user.username
  securityLevel : event.securityLevel = some user.securityLevel
  varbinds : (∀ varbind ∈ call.varbinds, varbind.NonnegArcs) →
    event.varbinds.map rawVarbind = call.varbinds.map RawVarBind.onWire

section Hearing

variable {crypto : Crypto} {user : UsmUser} {bundle : Option MibRegistry}
  {results : List (Except Error NotificationEvent)} {call : Call} {requestId : ℕ} {envelope : V3NotificationEnvelope}
  {address : SocketAddress} {event : NotificationEvent}

structure Heard (crypto : Crypto) (user : UsmUser) (bundle : Option MibRegistry) (call : Call) (requestId : ℕ)
    (envelope : V3NotificationEnvelope) (result : Except Error NotificationEvent) : Prop where
  copied : Copies (callPdu call requestId) envelope.pdu
  accepted : ∃ data, decodeV3NotificationMessage crypto data user = .ok (some envelope)
  ended : ∃ address, result = notificationEventFromV3Envelope envelope (some address) bundle

theorem Heard.tells (h : Heard crypto user bundle call requestId envelope (.ok event)) :
    Tells user call requestId event := by
  obtain ⟨data, haccept⟩ := h.accepted
  obtain ⟨address, hended⟩ := h.ended
  have hreports := reportsV3_event (decodeV3Notification_iff.mp haccept) hended.symm
  obtain ⟨htype, hid⟩ := h.copied.header
  refine ⟨hreports.requestId.trans hid, hreports.pduType.trans (congrArg pduTypeName? htype), hreports.username,
    hreports.securityLevel, fun hnonneg => hreports.varbinds.trans ?_⟩
  rw [h.copied.eq_onWire hnonneg]
  rfl

theorem Heard.shown {result : Except Error NotificationEvent}
    (h : Heard crypto user bundle call requestId envelope result) (hshowable : Showable bundle envelope.pdu.varbinds) :
    ∃ event, result = .ok event := by
  obtain ⟨data, haccept⟩ := h.accepted
  obtain ⟨address, rfl⟩ := h.ended
  exact (v3Event_isOk_iff (decodeV3Notification_iff.mp haccept)).mpr hshowable

end Hearing

section Invariant

variable {τ : Type} {crypto : Crypto} {user : UsmUser} {limit : ℕ} {bundle : Option MibRegistry}
  {state state' : Exchange τ user} {data : Bytes}

def Transmitted (crypto : Crypto) (user : UsmUser) (sent : List Bytes) (call : Call) (requestId : ℕ) : Prop :=
  ∃ data ∈ sent, ∃ (model : UsmModel) (salt : Bytes), model.user = user ∧ salt.length = 8 ∧
    (model.wrapPdu crypto salt (callPdu call requestId)).1 = .ok data

theorem Transmitted.mono {sent sent' : List Bytes} {call : Call} {requestId : ℕ}
    (h : Transmitted crypto user sent call requestId) (hsent : ∀ data ∈ sent, data ∈ sent') :
    Transmitted crypto user sent' call requestId := by
  obtain ⟨data, hmem, hwrapped⟩ := h
  exact ⟨data, hsent data hmem, hwrapped⟩

inductive Genuine (crypto : Crypto) (bundle : Option MibRegistry) (state : Exchange τ user) (data : Bytes) : Prop
  | request (allotment : Allotment τ) (hmem : allotment ∈ state.session.shared.handedOut)
      (htransmitted : Transmitted crypto user state.sent allotment.call allotment.requestId)
      (hcopies : ∀ pdu, Contains crypto user data pdu → Copies (callPdu allotment.call allotment.requestId) pdu)
  | ack (allotment : Allotment τ) (hmem : allotment ∈ state.session.shared.handedOut)
      {envelope : V3NotificationEnvelope} {result : Except Error NotificationEvent} (hresult : result ∈ state.results)
      (hheard : Heard crypto user bundle allotment.call allotment.requestId envelope result)
      (hinform : envelope.pdu.pduType = .informRequest)
      (hresponse : ∀ pdu, Contains crypto user data pdu → pdu = informResponsePdu envelope.pdu)

theorem Genuine.mono (h : Genuine crypto bundle state data)
    (hhanded : ∀ a ∈ state.session.shared.handedOut, a ∈ state'.session.shared.handedOut)
    (hsent : ∀ data ∈ state.sent, data ∈ state'.sent) (hresults : ∀ result ∈ state.results, result ∈ state'.results) :
    Genuine crypto bundle state' data := by
  cases h with
  | request allotment hmem htransmitted hcopies =>
    exact .request allotment (hhanded _ hmem) (htransmitted.mono hsent) hcopies
  | ack allotment hmem hresult hheard hinform hresponse =>
    exact .ack allotment (hhanded _ hmem) (hresults _ hresult) hheard hinform hresponse

def Honest (crypto : Crypto) (user : UsmUser) : Status → Prop
  | .idle => True
  | .queued call | .ended call _ => Notifies call
  | .holding call position => Notifies call ∧ Carries crypto user call position

def Told (crypto : Crypto) (bundle : Option MibRegistry) (state : Exchange τ user)
    (result : Except Error NotificationEvent) : Prop :=
  ∃ allotment ∈ state.session.shared.handedOut, Transmitted crypto user state.sent allotment.call allotment.requestId ∧
    ∃ envelope, Heard crypto user bundle allotment.call allotment.requestId envelope result

structure Authentic (crypto : Crypto) (user : UsmUser) (limit : ℕ) (bundle : Option MibRegistry)
    (state : Exchange τ user) : Prop where
  honest : ∀ task, Honest crypto user (state.session.tasks task)
  notifies : ∀ a ∈ state.session.shared.handedOut, Notifies a.call
  genuine : ∀ data ∈ state.sent, data.length ≤ limit → verified crypto user data = true →
    Genuine crypto bundle state data
  brought : ∀ data ∈ state.session.peerSent, Bringable crypto user limit state.sent data
  reported : ∀ event, .ok event ∈ state.results → Told crypto bundle state (.ok event)

theorem Authentic.genuine_of_bringable (hi : Authentic crypto user limit bundle state)
    (h : Bringable crypto user limit state.sent data) (hverified : verified crypto user data = true) :
    Genuine crypto bundle state data := by
  obtain ⟨hlen, hmem | hforged⟩ := h
  · exact hi.genuine data hmem hlen hverified
  · cases hforged.symm.trans hverified

theorem Bringable.mono {sent sent' : List Bytes} (h : Bringable crypto user limit sent data)
    (hsent : ∀ data ∈ sent, data ∈ sent') : Bringable crypto user limit sent' data :=
  ⟨h.1, h.2.imp_left (hsent data)⟩

theorem Authentic.heard (hi : Authentic crypto user limit bundle state) (hauth : user.authOn)
    (hbring : Bringable crypto user limit state.sent data) {envelope : V3NotificationEnvelope}
    (haccept : decodeV3NotificationMessage crypto data user = .ok (some envelope)) (address : SocketAddress) :
    ∃ allotment ∈ state.session.shared.handedOut,
      Transmitted crypto user state.sent allotment.call allotment.requestId ∧
      Heard crypto user bundle allotment.call allotment.requestId envelope
        (notificationEventFromV3Envelope envelope (some address) bundle) := by
  obtain ⟨hcontains, hverified⟩ := contained_of_accept hauth haccept
  have hgenuine := hi.genuine_of_bringable hbring hverified
  cases hgenuine with
  | request allotment hmem htransmitted hcopies =>
    exact ⟨allotment, hmem, htransmitted, hcopies _ hcontains, ⟨data, haccept⟩, address, rfl⟩
  | ack allotment hmem hresult hheard hinform hresponse =>
    have htype := (decodeV3Notification_iff.mp haccept).notification
    rw [hresponse _ hcontains] at htype
    obtain htype | htype := htype <;> cases htype

end Invariant

section SessionSteps

variable {τ : Type} {crypto : Crypto} {user : UsmUser} {salts : ℤ → Bytes} {retries : ℕ}
  {session session' : SessionState τ (UserModel user)} {action : Action τ} {data : Bytes}

def Action.Honest : Action τ → Prop
  | .call _ call => Notifies call
  | _ => True

def Action.brings : Action τ → List Bytes
  | .peerSends data => [data]
  | _ => []

structure HonestStep (crypto : Crypto) (user : UsmUser) (session session' : SessionState τ (UserModel user))
    (action : Action τ) : Prop where
  honest : ∀ task, Honest crypto user (session'.tasks task)
  keeps : ∀ a ∈ session.shared.handedOut, a ∈ session'.shared.handedOut
  hands : ∀ a ∈ session'.shared.handedOut, a ∈ session.shared.handedOut ∨ Notifies a.call
  peerSent : session'.peerSent = Action.brings action ++ session.peerSent

theorem HonestStep.of_kept {tasks : τ → Status} {lock : Option τ} {socket : List Bytes}
    (honest : ∀ task, Honest crypto user (tasks task)) (hbrings : Action.brings action = []) :
    HonestStep crypto user session { session with tasks := tasks, lock := lock, socket := socket } action where
  honest := honest
  keeps := fun _ hmem => hmem
  hands := fun _ hmem => .inl hmem
  peerSent := by rw [hbrings, List.nil_append]

theorem resume_handedOut {task : τ} {call : Call} {position : Position} {wakeup : Wakeup} {progress : Progress}
    {shared shared' : Shared τ (UserModel user)}
    (h : (v3Session crypto user salts retries).resume task call position wakeup shared = some (progress, shared')) :
    (∀ a ∈ shared.handedOut, a ∈ shared'.handedOut) ∧
      ∀ a ∈ shared'.handedOut, a ∈ shared.handedOut ∨ a.call = call := by
  obtain ⟨⟨-, hkeeps⟩, -⟩ | ⟨-, ⟨-, hhands⟩, -⟩ := resume_cases h
  · rw [hkeeps]
    exact ⟨fun _ hmem => hmem, fun _ hmem => .inl hmem⟩
  · rw [hhands]
    refine ⟨fun _ hmem => List.mem_append_left _ hmem, fun a hmem => ?_⟩
    obtain hmem | hmem := List.mem_append.mp hmem
    · exact .inl hmem
    · exact .inr (congrArg Allotment.call (List.mem_singleton.mp hmem))

theorem transmitted_carries (hsession : Inv (v3Session crypto user salts retries) session)
    (hi : ∀ task, Honest crypto user (session.tasks task)) (h : data ∈ transmitted session.tasks action) :
    (∃ model : UsmModel, model.buildDiscoveryProbe.1 = .ok data) ∨
      ∃ allotment ∈ session.shared.handedOut, ∃ (model : UsmModel) (salt : Bytes), model.user = user ∧ salt.length = 8 ∧
        (model.wrapPdu crypto salt (callPdu allotment.call allotment.requestId)).1 = .ok data := by
  unfold transmitted at h
  split at h
  · rename_i task
    have hhonest := hi task
    have hconsistent := hsession.consistent task
    split at h
    · rename_i hstatus
      rw [hstatus] at hhonest
      rw [List.mem_singleton.mp h]
      exact .inl hhonest.2
    · rename_i call request left hstatus
      rw [hstatus] at hhonest hconsistent
      rw [List.mem_singleton.mp h]
      exact .inr ⟨_, hconsistent _ rfl, hhonest.2⟩
    · cases h
  · cases h

variable [DecidableEq τ]

theorem honest_setTask (hi : ∀ task, Honest crypto user (session.tasks task)) {task : τ} {status : Status}
    (hstatus : Honest crypto user status) (other : τ) :
    Honest crypto user ((session.setTask task status).tasks other) := by
  by_cases heq : other = task
  · subst heq
    rw [setTask_self]
    exact hstatus
  · rw [setTask_other _ heq]
    exact hi other

theorem session_step (hsalts : ∀ msgId, (salts msgId).length = 8)
    (hi : ∀ task, Honest crypto user (session.tasks task)) (haction : Action.Honest action)
    (h : (v3Session crypto user salts retries).next session action = some session') :
    HonestStep crypto user session session' action := by
  cases action with
  | call task call =>
    simp only [Session.next] at h
    split at h
    · cases h
      exact .of_kept (honest_setTask hi haction) rfl
    · cases h
  | acquire task =>
    simp only [Session.next] at h
    split at h
    · rename_i call hqueued _
      cases h
      have hcall := hi task
      rw [hqueued] at hcall
      exact .of_kept (honest_setTask hi ⟨hcall, trivial⟩) rfl
    · cases h
  | withdraw task =>
    simp only [Session.next] at h
    split at h
    · rename_i call hqueued
      cases h
      have hcall := hi task
      rw [hqueued] at hcall
      exact .of_kept (honest_setTask hi hcall) rfl
    · cases h
  | resume task wakeup =>
    simp only [Session.next] at h
    split at h
    · rename_i call position socket hholding _
      split at h
      · rename_i progress shared hresume
        cases h
        have hcall := hi task
        rw [hholding] at hcall
        obtain ⟨hkeeps, hhands⟩ := resume_handedOut hresume
        refine ⟨honest_setTask hi ?_, hkeeps, fun a hmem => ?_, rfl⟩
        · cases progress with
          | goes position' => exact ⟨hcall.1, resume_carries hsalts hcall.2 hresume⟩
          | ends outcome => exact hcall.1
        · obtain hmem | hsame := hhands a hmem
          · exact .inl hmem
          · exact .inr (hsame.symm ▸ hcall.1)
      · cases h
    · cases h
  | peerSends data =>
    cases h
    exact ⟨hi, fun _ hmem => hmem, fun _ hmem => .inl hmem, rfl⟩
  | delivers data =>
    simp only [Session.next] at h
    split_ifs at h
    cases h
    exact .of_kept hi rfl
  | loses index =>
    cases h
    exact .of_kept hi rfl

end SessionSteps

section Steps

variable {τ : Type} [DecidableEq τ] {crypto : Crypto} {user : UsmUser} {salts : ℤ → Bytes} {retries limit : ℕ}
  {listener : V3NotificationListener} {state state' : Exchange τ user}

structure Sound (crypto : Crypto) (user : UsmUser) (salts : ℤ → Bytes) (retries limit : ℕ)
    (listener : V3NotificationListener) (state : Exchange τ user) : Prop where
  session : Inv (v3Session crypto user salts retries) state.session
  authentic : Authentic crypto user limit listener.bundle state

theorem initial_sound (h : (exchange τ crypto user salts retries listener).Initial state) :
    Sound crypto user salts retries limit listener state := by
  obtain ⟨hsession, hpeerSent, hsent, hresults⟩ := h
  refine ⟨initial_inv hsession, fun task => ?_, ?_, ?_, ?_, ?_⟩
  · rw [hsession.tasks]
    trivial
  · simp [hsession.handedOut]
  · simp [hsent]
  · simp [hpeerSent]
  · simp [hresults]

variable (hcrypto : crypto.Lawful) (hlimit : limit < lengthLimit) (hauth : user.authOn)
  (hcfb : ∀ key iv plain, (crypto.aesCfbEncrypt key iv plain).length = plain.length)

include hcrypto hlimit hauth hcfb in
theorem notifier_sound (hsalts : ∀ msgId, (salts msgId).length = 8)
    (hi : Sound crypto user salts retries limit listener state) {action : Action τ}
    (hallowed : ExchangeAction.Allowed crypto user limit state (.notifier action))
    {session : SessionState τ (UserModel user)}
    (h : (v3Session crypto user salts retries).next state.session action = some session) :
    Sound crypto user salts retries limit listener { state with
      session := session
      sent := state.sent ++ transmitted state.session.tasks action } := by
  have haction : Action.Honest action := by
    cases action with
    | call task call => exact hallowed
    | _ => trivial
  have hstep := session_step hsalts hi.authentic.honest haction h
  have hgrown : ∀ data ∈ state.sent, data ∈ state.sent ++ transmitted state.session.tasks action :=
    fun data hmem => List.mem_append_left _ hmem
  have hold : ∀ data, Genuine crypto listener.bundle state data → Genuine crypto listener.bundle { state with
      session := session
      sent := state.sent ++ transmitted state.session.tasks action } data :=
    fun data hgenuine => hgenuine.mono hstep.keeps hgrown fun _ hmem => hmem
  refine ⟨next_inv hi.session h, hstep.honest, fun a hmem => ?_, fun data hmem hlen hverified => ?_,
    fun data hmem => ?_, fun event hmem => ?_⟩
  · exact (hstep.hands a hmem).elim (hi.authentic.notifies a) id
  · obtain hmem | hmem := List.mem_append.mp hmem
    · exact hold data (hi.authentic.genuine data hmem hlen hverified)
    · obtain ⟨model, hprobe⟩ | ⟨allotment, hallotment, model, salt, huser, hsalt, hwrap⟩ :=
        transmitted_carries hi.session hi.authentic.honest hmem
      · cases (probe_unverified hcrypto (hlen.trans_lt hlimit) hauth hprobe).symm.trans hverified
      · refine .request allotment (hstep.keeps _ hallotment) ?_ fun pdu =>
          copies_of_wrapped hcrypto (hlen.trans_lt hlimit) hcfb huser hsalt hwrap
        exact ⟨data, List.mem_append_right _ hmem, model, salt, huser, hsalt, hwrap⟩
  · rw [hstep.peerSent, List.mem_append] at hmem
    obtain hmem | hmem := hmem
    · cases action with
      | peerSends data =>
        obtain rfl := List.mem_singleton.mp hmem
        exact hallowed.mono hgrown
      | _ => cases hmem
    · exact (hi.authentic.brought data hmem).mono hgrown
  · obtain ⟨allotment, hallotment, htransmitted, hheard⟩ := hi.authentic.reported event hmem
    exact ⟨allotment, hstep.keeps _ hallotment, htransmitted.mono hgrown, hheard⟩

omit [DecidableEq τ] in
theorem Authentic.extend {bundle : Option MibRegistry} (hi : Authentic crypto user limit bundle state)
    {sent : List Bytes} {results : List (Except Error NotificationEvent)}
    (hgenuine : ∀ data ∈ sent, data.length ≤ limit → verified crypto user data = true →
      Genuine crypto bundle { state with
      sent := state.sent ++ sent
      results := state.results ++ results } data)
    (hreported : ∀ event, .ok event ∈ results → Told crypto bundle state (.ok event)) :
    Authentic crypto user limit bundle { state with
      sent := state.sent ++ sent
      results := state.results ++ results } where
  honest := hi.honest
  notifies := hi.notifies
  genuine := by
    intro data hmem hlen hverified
    obtain hmem | hmem := List.mem_append.mp hmem
    · apply (hi.genuine data hmem hlen hverified).mono
      · exact fun _ hmem => hmem
      · exact fun _ hmem => List.mem_append_left _ hmem
      · exact fun _ hmem => List.mem_append_left _ hmem
    · exact hgenuine data hmem hlen hverified
  brought := fun data hmem => (hi.brought data hmem).mono fun _ hmem => List.mem_append_left _ hmem
  reported := by
    intro event hmem
    have htold : Told crypto bundle state (.ok event) := by
      obtain hmem | hmem := List.mem_append.mp hmem
      · exact hi.reported event hmem
      · exact hreported event hmem
    obtain ⟨allotment, hallotment, htransmitted, hheard⟩ := htold
    exact ⟨allotment, hallotment, htransmitted.mono fun _ hmem => List.mem_append_left _ hmem, hheard⟩

omit [DecidableEq τ] in
include hcrypto hlimit hauth hcfb in
theorem listener_sound (huser : listener.user = user) (hi : Sound crypto user salts retries limit listener state)
    {arrival : Arrival} (hallowed : ExchangeAction.Allowed crypto user limit state (.listener arrival)) :
    Sound crypto user salts retries limit listener { state with
      sent := state.sent ++ (listener.receiveOne crypto arrival).sent.map Responder.Sent.data
      results := state.results ++ (listener.receiveOne crypto arrival).ended.toList } := by
  subst huser
  obtain ⟨hsalt, hbring⟩ := hallowed
  refine ⟨hi.session, ?_⟩
  have hround := @receiveOne_round crypto listener arrival
  generalize listener.receiveOne crypto arrival = round at hround
  cases hround with
  | passes =>
    apply hi.authentic.extend
    · simp [Round.passedOver]
    · simp [Round.passedOver]
  | raises e =>
    apply hi.authentic.extend
    · simp [Round.raised]
    · simp [Round.raised]
  | reports hreport =>
    apply hi.authentic.extend
    · intro data hmem hlen hverified
      obtain rfl := List.mem_singleton.mp hmem
      cases (report_unverified hcrypto (hlen.trans_lt hlimit) hauth hreport).symm.trans hverified
    · simp
  | traps haccept =>
    apply hi.authentic.extend
    · simp
    · intro event hmem
      obtain ⟨allotment, hallotment, htransmitted, hheard⟩ :=
        hi.authentic.heard hauth hbring haccept arrival.received.sourceAddress
      rw [List.mem_singleton.mp hmem]
      exact ⟨allotment, hallotment, htransmitted, _, hheard⟩
  | acknowledges haccept hinform hack =>
    obtain ⟨allotment, hallotment, htransmitted, hheard⟩ :=
      hi.authentic.heard hauth hbring haccept arrival.received.sourceAddress
    apply hi.authentic.extend
    · intro data hmem hlen hverified
      obtain rfl := List.mem_singleton.mp hmem
      refine .ack allotment hallotment (List.mem_append_right _ (List.mem_singleton_self _)) hheard hinform fun pdu =>
        ?_
      exact informResponse_of_ack hcrypto (hlen.trans_lt hlimit) hcfb haccept hsalt hack
    · intro event hmem
      rw [List.mem_singleton.mp hmem]
      exact ⟨allotment, hallotment, htransmitted, _, hheard⟩

include hcrypto hlimit hauth hcfb in
theorem reaches_sound (hsalts : ∀ msgId, (salts msgId).length = 8) (huser : listener.user = user)
    (h : (exchange τ crypto user salts retries listener).Reaches (ExchangeAction.Allowed crypto user limit) state) :
    Sound crypto user salts retries limit listener state := by
  refine h.invariant (fun _ => initial_sound) ?_
  intro state action state' hi hallowed hnext
  cases action with
  | notifier action =>
    obtain ⟨session, hsession, rfl⟩ := Option.map_eq_some_iff.mp hnext
    exact notifier_sound hcrypto hlimit hauth hcfb hsalts hi hallowed hsession
  | listener arrival =>
    obtain rfl := Option.some.inj hnext
    exact listener_sound hcrypto hlimit hauth hcfb huser hi hallowed

omit [DecidableEq τ] in
theorem allotment_unique {μ : Type} {session : Session μ} {state : SessionState τ μ} (hi : Inv session state)
    {a b : Allotment τ} (ha : a ∈ state.shared.handedOut) (hb : b ∈ state.shared.handedOut)
    (hid : a.requestId = b.requestId) : a = b := by
  have hsame : state.shared.handedOut.Pairwise fun a b => a.requestId = b.requestId → a = b :=
    hi.distinct.imp fun hlt heq => absurd heq hlt.1.ne
  have hflip : state.shared.handedOut.Pairwise (flip fun a b => a.requestId = b.requestId → a = b) :=
    hi.distinct.imp fun hlt heq => absurd heq hlt.1.ne'
  exact hsame.forall_of_forall_of_flip (fun _ _ _ => rfl) hflip ha hb hid

structure Agrees (crypto : Crypto) (user : UsmUser) (bundle : Option MibRegistry) (state : Exchange τ user) : Prop where
  acknowledged : ∀ task call id pdu, state.session.tasks task = .ended call (.returned id pdu) →
    call.pduType = .informRequest ∧ ((∀ varbind ∈ call.varbinds, varbind.NonnegArcs) →
      pdu = informResponsePdu (callPdu call id).onWire ∧ (Showable bundle (call.varbinds.map RawVarBind.onWire) →
        ∃ event, .ok event ∈ state.results ∧ Tells user call id event))
  authentic : ∀ event, .ok event ∈ state.results → ∃ allotment ∈ state.session.shared.handedOut,
    Transmitted crypto user state.sent allotment.call allotment.requestId ∧
      Tells user allotment.call allotment.requestId event

omit [DecidableEq τ] in
theorem Sound.agrees (hauth : user.authOn) (hi : Sound crypto user salts retries limit listener state) :
    Agrees crypto user listener.bundle state where
  authentic := by
    intro event hmem
    obtain ⟨allotment, hallotment, htransmitted, envelope, hheard⟩ := hi.authentic.reported event hmem
    exact ⟨allotment, hallotment, htransmitted, hheard.tells⟩
  acknowledged := by
    intro task call id pdu hstatus
    have hconsistent := hi.session.consistent task
    rw [hstatus] at hconsistent
    obtain ⟨hmem, htype, hid, data, hdata, model, hunwrap⟩ := hconsistent
    obtain ⟨hcontains, hverified⟩ := contained_of_unwrap model.2 hauth hunwrap
    have hgenuine := hi.authentic.genuine_of_bringable (hi.authentic.brought data hdata) hverified
    cases hgenuine with
    | request allotment hallotment _ hcopies =>
      obtain ⟨hcopy, -⟩ := (hcopies pdu hcontains).header
      have hnotifies := hi.authentic.notifies allotment hallotment
      rw [Notifies, show allotment.call.pduType = .response from hcopy.symm.trans htype] at hnotifies
      obtain hnotifies | hnotifies := hnotifies <;> cases hnotifies
    | ack allotment hallotment hresult hheard hinform hresponse =>
      obtain rfl := hresponse pdu hcontains
      obtain ⟨hcopy, hcopyId⟩ := hheard.copied.header
      have hsameId : allotment.requestId = id := Int.natCast_inj.mp (hcopyId.symm.trans hid)
      obtain rfl := allotment_unique hi.session hallotment hmem hsameId
      refine ⟨hcopy.symm.trans hinform, fun hnonneg => ?_⟩
      have hwire := hheard.copied.eq_onWire hnonneg
      refine ⟨congrArg informResponsePdu hwire, fun hshowable => ?_⟩
      obtain ⟨event, rfl⟩ := hheard.shown (hwire ▸ hshowable)
      exact ⟨event, hresult, hheard.tells⟩

end Steps

def sampleCall : Call := { pduType := .informRequest, varbinds := UsmModel.sampleInform.varbinds, discovers := true }

def sampleExchange : System (Exchange Bool sampleUser) (ExchangeAction Bool) :=
  exchange Bool sampleCrypto sampleUser (fun _ => sampleSalt) 1 sampleV3Listener

def sampleStart : Exchange Bool sampleUser where
  session := {
    tasks := fun _ => .idle
    lock := none
    shared := { nextId := 1, handedOut := [], model := ⟨{ user := sampleUser }, rfl⟩ }
    socket := []
    peerSent := [] }
  sent := []
  results := []

def sampleArrival (data : Bytes) : Arrival :=
  { received := { data := data, sourceAddress := .inet "192.0.2.7" 40000 }, salt := sampleSalt }

def sampleMessage : Bytes :=
  ((sampleNotifier.wrapPdu sampleCrypto sampleSalt (callPdu sampleCall 1)).1).toOption.getD []

def sampleAck : Bytes :=
  let round := sampleV3Listener.receiveOne sampleCrypto (sampleArrival sampleMessage)
  (round.sent.head?.map Responder.Sent.data).getD []

def sampleActions : List (ExchangeAction Bool) := [
  .notifier (.call true sampleCall), .notifier (.acquire true), .notifier (.resume true .started),
  .notifier (.resume true .sent), .listener (sampleArrival sampleProbe),
  .notifier (.peerSends sampleReport), .notifier (.delivers sampleReport),
  .notifier (.resume true (.received (.datagram sampleReport))),
  .notifier (.resume true .sent), .listener (sampleArrival sampleMessage),
  .notifier (.peerSends sampleAck), .notifier (.delivers sampleAck),
  .notifier (.resume true (.received (.datagram sampleAck))), .listener (sampleArrival sampleMessage)]

end TrishulSnmp.Notify
