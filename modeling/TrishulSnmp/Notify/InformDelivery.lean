import TrishulSnmp.Manager.Client
import TrishulSnmp.Notify.Listening
import TrishulSnmp.Notify.Sender
import TrishulSnmp.Transport.Delivery

namespace TrishulSnmp.Notify

open Outcome Mib Wire Asn1 Responder Transport

structure SnmpNotifier where
  bundle : Option Resolver
  enrich : Enricher
  security : CommunityModel
  retries : ℕ
  maxDatagramSize : ℕ

structure Notification where
  target : Target
  varbinds : List NotificationVarBindInput
  uptime : ℤ

def notificationVarbinds (bundle : Option Resolver) (notification : Notification) : Except Error (List RawVarBind) := do
  match ← normalizeTargets [notification.target] bundle with
  | [] => .error (.indexError "tuple index out of range")
  | notificationOid :: _ =>
    encodeNotificationRawVarbinds notificationOid notification.varbinds notification.uptime bundle

namespace SnmpNotifier

variable (notifier : SnmpNotifier)

def dispatcher : RequestDispatcher :=
  { unwrap := notifier.security.unwrapMessage, retries := notifier.retries,
    maxDatagramSize := notifier.maxDatagramSize }

def wrapInform (requestId : ℕ) (rawVarbinds : List RawVarBind) : Except Error Bytes :=
  notifier.security.wrapPdu (notificationPdu .informRequest requestId rawVarbinds)

def prepareInform (requestId : ℕ) (notification : Notification) : Except Error Bytes :=
  notificationVarbinds notifier.bundle notification >>= notifier.wrapInform requestId

def rawVarbinds (notification : Notification) : List RawVarBind :=
  match notificationVarbinds notifier.bundle notification with
  | .ok rawVarbinds => rawVarbinds
  | .error _ => []

def inform (requestId : ℕ) (notification : Notification) : SnmpMessage :=
  SnmpMessage.onWire ⟨1, notifier.security.community,
    notificationPdu .informRequest requestId (notifier.rawVarbinds notification)⟩

/-- The varbinds can be decoded to what they are, and the listener can write their integers. -/
structure Sends (bundle : Option MibRegistry) (notification : Notification) : Prop where
  nonneg : ∀ varbind ∈ notifier.rawVarbinds notification, varbind.NonnegArcs
  showable : Showable bundle ((notifier.rawVarbinds notification).map RawVarBind.onWire)

end SnmpNotifier

def serveInform (listener : SnmpNotificationListener) (address : SocketAddress) (limit : ℕ)
    (results : List (Except Error NotificationEvent)) (data : Bytes) :
    List (Except Error NotificationEvent) × Option Bytes :=
  if data.length ≤ limit then
    match listener.receiveOne { data := data, sourceAddress := address } with
    | none => (results, none)
    | some (result, sent) =>
      (results ++ [result], (sent.head?.map Sent.data).filter fun reply => reply.length ≤ limit)
  else (results, none)

abbrev Informing := DatagramNetwork.Script Notification Pdu Error

abbrev InformState := DatagramNetwork.State Informing (List (Except Error NotificationEvent)) Notification Bytes
    Reception

def informNetwork (notifier : SnmpNotifier) (listener : SnmpNotificationListener) (address : SocketAddress) (limit : ℕ)
    (sendFails : ℕ → ℕ → Bool) : DatagramNetwork Informing (List (Except Error NotificationEvent)) Notification Pdu
      Bytes Reception Error :=
  dispatcherNetwork notifier.dispatcher sendFails (notificationVarbinds notifier.bundle)
    (fun requestId _ => notifier.wrapInform requestId) (serveInform listener address limit)
    DatagramNetwork.Script.question DatagramNetwork.Script.resume

variable {notifier : SnmpNotifier} {listener : SnmpNotificationListener} {address : SocketAddress} {limit : ℕ}
  {requestId : ℕ} {notification : Notification} {data : Bytes}

theorem inform_pduType : (notifier.inform requestId notification).pdu.pduType = .informRequest := rfl

theorem prepareInform_decodes (hnonneg : ∀ varbind ∈ notifier.rawVarbinds notification, varbind.NonnegArcs)
    (h : notifier.prepareInform requestId notification = .ok data) (hlen : data.length < lengthLimit) :
    decodeMessage data = .ok (notifier.inform requestId notification) := by
  obtain ⟨rawVarbinds, hraw, hwrap⟩ := bind_ok_iff.mp h
  have heq : notifier.rawVarbinds notification = rawVarbinds := by rw [SnmpNotifier.rawVarbinds, hraw]
  subst heq
  exact decodeMessage_encodeMessage rfl hnonneg hwrap hlen

theorem receiveOne_inform (hallowed : communityAllowed listener.communities notifier.security.community)
    (hsends : notifier.Sends listener.bundle notification)
    (h : notifier.prepareInform requestId notification = .ok data) (hlen : data.length < 256 ^ 126) :
    ∃ event sent, listener.receiveOne { data := data, sourceAddress := address } = some (.ok event, [sent]) ∧
      Reports (notifier.inform requestId notification) (some address) event ∧
      decodeMessage sent.data = .ok (informAck (notifier.inform requestId notification)) := by
  have htype : (notifier.inform requestId notification).pdu.pduType ∈ [.snmpv2Trap, .informRequest] := by
    rw [inform_pduType]
    simp
  have hdecode := prepareInform_decodes hsends.nonneg h (hlen.trans (by decide))
  have hnotified : listener.notification { data := data, sourceAddress := address } =
      some ({ data := data, sourceAddress := address }, notifier.inform requestId notification) :=
    listener.notification_some_iff.mpr ⟨rfl, hdecode, hallowed, htype⟩
  obtain ⟨sent, hone, hacks⟩ := listener.receiveOne_of_notification hnotified
  obtain ⟨event, hevent⟩ : ∃ event, notificationEventFromMessage (notifier.inform requestId notification) (some address)
      listener.bundle = .ok event :=
    (event_isOk_iff htype (decoded_wellFormed hdecode)).mpr hsends.showable
  rw [List.filter_cons_of_pos (by simp [inform_pduType]), List.filter_nil] at hacks
  obtain ⟨ack, _, hack, hnil, rfl⟩ := List.forall₂_cons_left_iff.mp hacks
  obtain rfl := List.forall₂_nil_left_iff.mp hnil
  rw [hevent] at hone
  exact ⟨event, ack, hone, reports_event hevent, hack.2.2 hlen⟩

theorem serveInform_answers (hallowed : communityAllowed listener.communities notifier.security.community)
    (hlimit : limit < 256 ^ 126) (hread : limit ≤ notifier.maxDatagramSize)
    (hsends : notifier.Sends listener.bundle notification)
    (h : notifier.prepareInform requestId notification = .ok data) (results : List (Except Error NotificationEvent)) :
    ∀ reply, (serveInform listener address limit results data).2 = some reply →
      DatagramNetwork.Answers notifier.dispatcher.accept
        (fun requestId notification => (informAck (notifier.inform requestId notification)).pdu) requestId notification
        reply := by
  intro reply hreply
  rw [serveInform] at hreply
  split_ifs at hreply with hlen
  obtain ⟨event, sent, hone, -, hdecode⟩ :=
    @receiveOne_inform _ _ address _ _ _ hallowed hsends h (hlen.trans_lt hlimit)
  simp only [hone] at hreply
  obtain ⟨⟨⟩, hfits⟩ := Option.filter_eq_some_iff.mp hreply
  have hfits : sent.data.length ≤ limit := by simpa using hfits
  exact answers_of_unwrap (hfits.trans hread) (CommunityModel.unwrapMessage_ok hdecode rfl) rfl rfl

def reported (listener : SnmpNotificationListener) (address : SocketAddress) (limit : ℕ) (data : Bytes) :
    Option (Except Error NotificationEvent) :=
  if data.length ≤ limit then (listener.receiveOne { data := data, sourceAddress := address }).map Prod.fst else none

theorem serveInform_fst (results : List (Except Error NotificationEvent)) (data : Bytes) :
    (serveInform listener address limit results data).1 = results ++ (reported listener address limit data).toList := by
  rw [serveInform, reported]
  split_ifs
  · cases listener.receiveOne { data := data, sourceAddress := address } <;> simp
  · simp

theorem foldl_serveInform (datagrams : List Bytes) (results : List (Except Error NotificationEvent)) :
    datagrams.foldl (fun results data => (serveInform listener address limit results data).1) results =
      results ++ datagrams.filterMap (reported listener address limit) := by
  induction datagrams generalizing results with
  | nil => exact (List.append_nil results).symm
  | cons data datagrams ih =>
    rw [List.foldl_cons, ih, serveInform_fst, List.append_assoc]
    cases hreported : reported listener address limit data with
    | none => rw [List.filterMap_cons_none hreported, Option.toList_none, List.nil_append]
    | some result => rw [List.filterMap_cons_some hreported, Option.toList_some, List.singleton_append]

theorem reported_inform (hallowed : communityAllowed listener.communities notifier.security.community)
    (hlimit : limit < 256 ^ 126) (hsends : notifier.Sends listener.bundle notification)
    (h : notifier.prepareInform requestId notification = .ok data) {result : Except Error NotificationEvent}
    (hresult : reported listener address limit data = some result) :
    ∃ event, result = .ok event ∧ Reports (notifier.inform requestId notification) (some address) event := by
  rw [reported] at hresult
  split_ifs at hresult with hlen
  obtain ⟨event, sent, hone, hreports, -⟩ :=
    @receiveOne_inform _ _ address _ _ _ hallowed hsends h (hlen.trans_lt hlimit)
  rw [hone] at hresult
  cases hresult
  exact ⟨event, rfl, hreports⟩

def informResults (notifier : SnmpNotifier) (informing : Informing) : List (Except Error Response) :=
  informing.outcomes.map (· >>= responseFromPdu notifier.enrich)

def sampleInformer : SnmpNotifier :=
  { bundle := none, enrich := fun _ _ => .ok ⟨none, none, none⟩, security := ⟨"p"⟩, retries := 1,
    maxDatagramSize := 65535 }

def sampleListener : SnmpNotificationListener := .new (some ["p"]) none

def linkUp : Notification := { target := .sequence [1, 3, 6] (tupleText [1, 3, 6]), varbinds := [], uptime := 7 }

abbrev sampleInforms := informNetwork sampleInformer sampleListener (.inet "192.0.2.7" 40000) 65507 fun _ _ => false

def sampleInform (pduTag : UInt8) : Bytes :=
  [48, 52, 2, 1, 1, 4, 1, 112, pduTag, 44, 2, 1, 1, 2, 1, 0, 2, 1, 0, 48, 33, 48, 13, 6, 8, 43, 6, 1, 2, 1, 1, 3, 0, 67,
    1, 7, 48, 16, 6, 10, 43, 6, 1, 6, 3, 1, 1, 4, 1, 0, 6, 2, 43, 6]

def sampleInformRun : List (DatagramNetwork.Action Bytes Reception) := [
  .ask, .serve (sampleInform 0xA6), .give .timedOut, .serve (sampleInform 0xA6), .give (.datagram (sampleInform 0xA2))]

theorem sampleInform_reached : ∃ state : InformState,
    (sampleInforms.system (DatagramNetwork.scriptStart [linkUp] 1 [])).Reachable state ∧
      (informResults sampleInformer state.program).length = 1 ∧ state.world.length = 2 := by
  let system := sampleInforms.system (DatagramNetwork.scriptStart [linkUp] 1 [])
  obtain ⟨state, -, hreached, hlength⟩ : ∃ state, system.run (fun _ _ => True) _ sampleInformRun = some state ∧
      system.Reaches (fun _ _ => True) state ∧ (informResults sampleInformer state.program).length = 1 ∧
      state.world.length = 2 := System.exists_of_run rfl (by decide +kernel)
  exact ⟨state, hreached, hlength⟩

theorem linkUp_sends : sampleInformer.Sends none linkUp := by
  have hraw : sampleInformer.rawVarbinds linkUp = [⟨sysUptimeInstanceOid, .timeTicksValue 7⟩,
      ⟨snmpTrapOidInstanceOid, .objectIdentifierValue [1, 3, 6]⟩] := rfl
  constructor
  · rw [hraw]
    simp only [List.forall_mem_cons]
    exact ⟨⟨by decide, trivial⟩, ⟨by decide, show ∀ arc ∈ [1, 3, 6], (0 : ℤ) ≤ arc by decide⟩, by simp⟩
  · apply PrintableVarbinds.showable
    rw [hraw]
    decide +kernel

end TrishulSnmp.Notify
