import TrishulSnmp.Enrichment
import TrishulSnmp.Notify.Failures
import TrishulSnmp.Notify.Handshake
import TrishulSnmp.Notify.Listening

namespace TrishulSnmp.Notify

open Outcome Ber Asn1 Wire Responder Mib UsmModel

structure V3NotificationListener where
  user : UsmUser
  localEngine : UsmLocalEngine
  bundle : Option MibRegistry

structure Arrival where
  received : ReceivedDatagram
  salt : Bytes

inductive Effect
  | sends (sent : Sent)
  | returns (event : NotificationEvent)
  | raises (e : Error)

def Effect.ofResult : Except Error NotificationEvent → Effect
  | .ok event => .returns event
  | .error e => .raises e

structure Round where
  sent : List Sent
  ended : Option (Except Error NotificationEvent)

def Round.passedOver : Round := { sent := [], ended := none }

def Round.raised (e : Error) : Round := { sent := [], ended := some (.error e) }

def Round.effects (round : Round) : List Effect := round.sent.map .sends ++ (round.ended.map .ofResult).toList

def orContinue {α : Type} (x : Except Error α) (k : α → Round) : Round :=
  match x with
  | .error e => if e.isProtocolError then .passedOver else .raised e
  | .ok a => k a

namespace V3NotificationListener

variable (crypto : Crypto) (listener : V3NotificationListener)

def sendInformAck (salt : Bytes) (envelope : V3NotificationEnvelope) (address : SocketAddress) : Except Error Sent := do
  return {
    data := ← encodeInformResponse crypto salt envelope listener.user listener.localEngine
    destination := address }

def receiveNotification (arrival : Arrival) (envelope : V3NotificationEnvelope) : Round :=
  let event := notificationEventFromV3Envelope envelope (some arrival.received.sourceAddress) listener.bundle
  if envelope.pdu.pduType = .informRequest then
    match listener.sendInformAck crypto arrival.salt envelope arrival.received.sourceAddress with
    | .error e => .raised e
    | .ok sent => { sent := [sent], ended := some event }
  else { sent := [], ended := some event }

def receiveOne (arrival : Arrival) : Round :=
  match isDiscoveryProbe arrival.received.data with
  | .error e => .raised e
  | .ok true =>
    orContinue (encodeDiscoveryReport arrival.received.data listener.localEngine) fun report =>
      { sent := [{ data := report, destination := arrival.received.sourceAddress }], ended := none }
  | .ok false =>
    orContinue (decodeV3NotificationMessage crypto arrival.received.data listener.user) fun envelope =>
      match envelope with
      | none => .passedOver
      | some envelope => listener.receiveNotification crypto arrival envelope

def receive : List Arrival → List Effect × Option (List Arrival)
  | [] => ([], none)
  | arrival :: arrivals =>
    let round := listener.receiveOne crypto arrival
    match round.ended with
    | none =>
      let (effects, rest) := receive arrivals
      (round.effects ++ effects, rest)
    | some _ => (round.effects, some arrivals)

def listenLoop : ℕ → List Arrival → List Effect
  | 0, _ => []
  | calls + 1, arrivals =>
    match listener.receive crypto arrivals with
    | (effects, none) => effects
    | (effects, some rest) => effects ++ listenLoop calls rest

def listen (arrivals : List Arrival) : List Effect := listener.listenLoop crypto (arrivals.length + 1) arrivals

theorem listenLoop_eq {calls : ℕ} {arrivals : List Arrival} (hcalls : arrivals.length < calls) :
    listener.listenLoop crypto calls arrivals =
      arrivals.flatMap fun arrival => (listener.receiveOne crypto arrival).effects := by
  induction arrivals generalizing calls with
  | nil =>
    obtain ⟨calls, rfl⟩ := Nat.exists_eq_add_one_of_ne_zero hcalls.ne'
    rfl
  | cons arrival arrivals ih =>
    obtain ⟨calls, rfl⟩ := Nat.exists_eq_add_one_of_ne_zero (Nat.ne_zero_of_lt hcalls)
    rw [List.length_cons] at hcalls
    rw [listenLoop, receive, List.flatMap_cons]
    cases hended : (listener.receiveOne crypto arrival).ended with
    | none =>
      rw [← ih (show arrivals.length < calls + 1 by omega), listenLoop]
      obtain ⟨effects, rest⟩ := listener.receive crypto arrivals
      cases rest with
      | none => rfl
      | some rest => simp only [List.append_assoc]
    | some result => simp only [ih (show arrivals.length < calls by omega)]

theorem listen_eq (arrivals : List Arrival) : listener.listen crypto arrivals =
    arrivals.flatMap fun arrival => (listener.receiveOne crypto arrival).effects :=
  listener.listenLoop_eq crypto (Nat.lt_succ_self _)

end V3NotificationListener

structure ReportsV3 (user : UsmUser) (envelope : V3NotificationEnvelope) (sourceAddress : SocketAddress)
    (event : NotificationEvent) : Prop where
  requestId : event.requestId = envelope.pdu.requestId
  community : event.community = none
  sourceAddress : event.sourceAddress = some sourceAddress
  pduType : some event.pduType = pduTypeName? envelope.pdu.pduType
  varbinds : event.varbinds.map rawVarbind = envelope.pdu.varbinds
  snmpVersion : event.snmpVersion = some "3"
  username : event.username = some user.username
  securityLevel : event.securityLevel = some user.securityLevel
  contextEngineId : event.contextEngineId = some envelope.contextEngineId
  contextName : event.contextName = some envelope.contextName
  engineId : event.authoritativeEngineId = some envelope.view.usmParams.engineId
  engineBoots : event.authoritativeEngineBoots = some envelope.view.usmParams.engineBoots
  engineTime : event.authoritativeEngineTime = some envelope.view.usmParams.engineTime

namespace V3NotificationListener

variable (crypto : Crypto) (listener : V3NotificationListener)

structure Discovers (arrival : Arrival) (sent : Sent) : Prop where
  destination : sent.destination = arrival.received.sourceAddress
  encoded : encodeDiscoveryReport arrival.received.data listener.localEngine = .ok sent.data
  parsed : listener.localEngine.engineId ≠ [] → ∀ notifier : UsmModel,
    notifier.parseDiscoveryResponse sent.data = .ok (knows notifier listener.localEngine)

structure Acknowledged (arrival : Arrival) (envelope : V3NotificationEnvelope) (sent : Sent) : Prop where
  destination : sent.destination = arrival.received.sourceAddress
  encoded : encodeInformResponse crypto arrival.salt envelope listener.user listener.localEngine = .ok sent.data
  unwrapped : ∀ notifier : UsmModel, notifier.user = listener.user →
    notifier.peerEngineId = [] ∨ notifier.peerEngineId = listener.localEngine.engineId →
    notifier.unwrapMessage crypto sent.data = .ok (some (informResponsePdu envelope.pdu))

structure Notified (arrival : Arrival) (envelope : V3NotificationEnvelope) (event : NotificationEvent) : Prop where
  accepted : decodeV3NotificationMessage crypto arrival.received.data listener.user = .ok (some envelope)
  authentic : MessageRules crypto listener.user arrival.received.data envelope.view
  reported : ReportsV3 listener.user envelope arrival.received.sourceAddress event

inductive Handles (arrival : Arrival) : List Effect → Prop
  | probe {view : V3MessageView} {pdu : Pdu} {sent : Sent} : Probe arrival.received.data view pdu →
      listener.Discovers arrival sent → Handles arrival [.sends sent]
  | trap {envelope : V3NotificationEnvelope} {event : NotificationEvent} : envelope.pdu.pduType = .snmpv2Trap →
      listener.Notified crypto arrival envelope event → Handles arrival [.returns event]
  | inform {envelope : V3NotificationEnvelope} {event : NotificationEvent} {sent : Sent} :
      envelope.pdu.pduType = .informRequest → listener.Notified crypto arrival envelope event →
      listener.Acknowledged crypto arrival envelope sent → Handles arrival [.sends sent, .returns event]
  | other : (∀ view pdu, ¬ Probe arrival.received.data view pdu) →
      (∀ envelope, decodeV3NotificationMessage crypto arrival.received.data listener.user ≠ .ok (some envelope)) →
      Handles arrival []

def Delivers (arrivals : List Arrival) : Prop :=
  ∃ groups, listener.listen crypto arrivals = groups.flatten ∧
    List.Forall₂ (listener.Handles crypto) arrivals groups

/-- The counters of both engines fit in the initialisation vector, and every number that is shown is one of
at most 4300 digits. -/
structure Opens (arrival : Arrival) : Prop where
  packable : listener.user.Supported → ¬ UnpackableMessage crypto listener.user arrival.received.data
  shown : ∀ envelope, decodeV3NotificationMessage crypto arrival.received.data listener.user = .ok (some envelope) →
    Showable listener.bundle envelope.pdu.varbinds ∧
      (envelope.pdu.pduType = .informRequest → listener.user.privOn → listener.localEngine.InRange)

def Handleable (arrival : Arrival) : Prop :=
  ¬ HugeV3Number arrival.received.data ∧
    ((∃ view pdu, Probe arrival.received.data view pdu) ∨ listener.Opens crypto arrival)

def ReplyFits (arrival : Arrival) : Prop :=
  Fits (encodeDiscoveryReport arrival.received.data listener.localEngine) ∧
    ∀ envelope, decodeV3NotificationMessage crypto arrival.received.data listener.user = .ok (some envelope) →
      Fits (encodeScopedPdu envelope.contextEngineId envelope.contextName (informResponsePdu envelope.pdu)) ∧
        Fits (unstampedInformResponse crypto arrival.salt envelope listener.user listener.localEngine)

end V3NotificationListener

section Probes

variable {data : Bytes}

theorem orFalse_true_iff {α : Type} {x : Except Error α} {k : α → Except Error Bool} :
    orFalse x k = .ok true ↔ ∃ a, x = .ok a ∧ k a = .ok true := by
  cases x with
  | ok a => simp [orFalse]
  | error e => cases he : e.isProtocolError <;> simp [orFalse, he]

theorem orFalse_isOk {α : Type} {x : Except Error α} {k : α → Except Error Bool}
    (hx : FailsOnly (fun e => e.isProtocolError) x) (hk : ∀ a, x = .ok a → ∃ b, k a = .ok b) :
    ∃ b, orFalse x k = .ok b := by
  cases x with
  | ok a => exact hk a rfl
  | error e =>
    have he : e.isProtocolError = true := hx e rfl
    exact ⟨false, by simp [orFalse, he]⟩

theorem isDiscoveryProbe_isOk (h : ¬ HugeV3Number data) : ∃ b, isDiscoveryProbe data = .ok b := by
  refine orFalse_isOk (decodeV3Message_failsOnly h) fun view _ => ?_
  split
  · exact ⟨false, rfl⟩
  refine orFalse_isOk (decodeScopedFields_failsOnly _) fun ⟨contextEngineId, contextName, pduTag, pduContent⟩ _ => ?_
  change ∃ b, ite _ _ _ = _
  split
  · exact ⟨false, rfl⟩
  · exact orFalse_isOk (decodePdu_failsOnly _) fun probe _ => ⟨_, rfl⟩

theorem get_of_tag {pduType : PduType} : PduType.get.tag = pduType.tag → pduType = .get := by
  cases pduType <;> decide

theorem isDiscoveryProbe_true_iff : isDiscoveryProbe data = .ok true ↔ ∃ view pdu, Probe data view pdu := by
  constructor
  · intro h
    obtain ⟨view, hview, h⟩ := orFalse_true_iff.mp h
    obtain ⟨-, h⟩ | ⟨hheader, h⟩ := ite_cases h
    · cases h
    obtain ⟨⟨engineId, contextName, tag, content⟩, hfields, h⟩ := orFalse_true_iff.mp h
    obtain ⟨-, h⟩ | ⟨hnames, h⟩ := ite_cases h
    · cases h
    obtain ⟨pdu, hpdu, hname⟩ := orFalse_true_iff.mp h
    simp only [ne_eq, not_or, not_not] at hheader hnames
    obtain ⟨rfl, rfl, rfl⟩ := hnames
    obtain ⟨outer, htlv, e1, e2, e3, rfl, g1, g2, g3⟩ := decodeScopedFields_iff.mp hfields
    have helement := (decodePduBytes_iff g3).mp hpdu
    have ⟨_, htlv', _⟩ := helement
    obtain ⟨htag, -⟩ := Prod.mk.inj (g3.unique htlv')
    exact ⟨view, pdu, hview, hheader, ⟨_, htlv, e1, e2, e3, rfl, g1, g2, helement⟩, get_of_tag htag,
      Except.ok.inj hname⟩
  · rintro ⟨view, pdu, hprobe⟩
    exact hprobe.recognised

theorem encodeDiscoveryReport_isOk {view : V3MessageView} {pdu : Pdu} (h : Probe data view pdu)
    (localEngine : UsmLocalEngine) : ∃ report, encodeDiscoveryReport data localEngine = .ok report := by
  obtain ⟨reportPdu, hpdu, -⟩ := encodeReportPdu_tlv pdu.requestId
  rw [encodeDiscoveryReport, h.parsed, ok_bind]
  simp only [show [{ oid := discoveryProbeOid, value := .counter32Value 1 }] = reportVarbinds from rfl, hpdu, ok_bind]
  exact encodeV3Message_isOk _ _ _ _ _

end Probes

section Decoder

variable {crypto : Crypto} {user : UsmUser} {data : Bytes}

theorem privKeyAes128_failsOnly (model : UsmModel) (engineId : Bytes) :
    FailsOnly (fun e => e.isProtocolError) (model.privKeyAes128 crypto engineId) := by
  refine failsOnly_ite (fun _ => ?_) fun _ => failsOnly_error rfl
  refine failsOnly_bind ?_ fun _ _ => failsOnly_ok _
  exact failsOnly_ite (fun _ => failsOnly_error rfl) fun _ => failsOnly_ok _

theorem decryptScopedPdu_failsOnly_of_unsupported (model : UsmModel) (h : ¬ model.user.Supported) (msgData : Bytes)
    (params : UsmParams) : FailsOnly (fun e => e.isProtocolError) (model.decryptScopedPdu crypto msgData params) := by
  rw [decryptScopedPdu]
  split
  · rename_i haes
    refine failsOnly_bind (decodeTlv_failsOnly _ _) fun _ _ => ?_
    refine failsOnly_ite (fun _ => failsOnly_error rfl) fun _ => ?_
    refine failsOnly_ite (fun _ => failsOnly_error rfl) fun _ => ?_
    refine failsOnly_bind (privKeyAes128_failsOnly _ _) fun aesKey haesKey => ?_
    rw [privKeyAes128] at haesKey
    obtain ⟨hkey, haesKey⟩ | ⟨-, haesKey⟩ := ite_cases haesKey
    · obtain ⟨_, hlocalized, -⟩ := bind_ok_iff.mp haesKey
      exact absurd (.inr ⟨haes, (ite_ok_iff.mp hlocalized).1, hkey⟩) h
    · cases haesKey
  · exact failsOnly_error rfl
  · exact failsOnly_error rfl

theorem decodeV3Notification_failsOnly (hhuge : ¬ HugeV3Number data)
    (h : user.Supported → ¬ UnpackableMessage crypto user data) :
    FailsOnly (fun e => e.isProtocolError) (decodeV3NotificationMessage crypto data user) := by
  refine failsOnly_bind (decodeV3Message_failsOnly hhuge) fun view hview => ?_
  refine failsOnly_ite (fun _ => failsOnly_ok _) fun husername => ?_
  refine failsOnly_bind (validateSecurityLevel_failsOnly _ _) fun _ hlevel => ?_
  obtain ⟨hmatch, -⟩ := validateSecurityLevel_ok_iff.mp hlevel
  refine failsOnly_bind (checkAuth_failsOnly hmatch) fun _ hcheck => ?_
  have hopen : FailsOnly (fun e => e.isProtocolError) (openMsgData crypto view (usmCodec user none)) := by
    by_cases hsupported : user.Supported
    · exact openMsgData_failsOnly hsupported hview (not_not.mp husername) hmatch hcheck (h hsupported)
    · refine failsOnly_ite (fun _ => ?_) fun _ => failsOnly_ok _
      exact decryptScopedPdu_failsOnly_of_unsupported (usmCodec user none) hsupported _ _
  refine failsOnly_bind hopen fun _ _ => ?_
  refine failsOnly_bind (decodeNotificationScopedPdu_failsOnly _) fun ⟨_, _, pdu⟩ _ => ?_
  cases pdu with
  | none => exact failsOnly_ok _
  | some pdu => exact failsOnly_bind (validateReportable_failsOnly _ _) fun _ _ => failsOnly_ok _

end Decoder

section Events

variable {user : UsmUser} {envelope : V3NotificationEnvelope} {address : SocketAddress} {bundle : Option MibRegistry}

theorem notificationEventFromPdu_eq (pdu : Pdu) (requestId : ℤ) (community : Option String)
    (sourceAddress : Option SocketAddress) (bundle : Option MibRegistry) :
    notificationEventFromPdu pdu requestId community sourceAddress bundle =
      notificationEventFromMessage { version := 1, community := "", pdu := pdu } sourceAddress bundle >>= fun event =>
        return { event with requestId := requestId, community := community } := by
  rw [notificationEventFromMessage, notificationEventFromPdu, notificationEventFromPdu]
  cases pduTypeName? pdu.pduType with
  | none => rfl
  | some pduType =>
    cases pdu.varbinds.mapM (publicVarbind (enrichVarbind bundle)) with
    | error e => rfl
    | ok varbinds =>
      simp only [ok_bind]
      cases notificationMetadata bundle (extractNotificationOid varbinds) varbinds <;> rfl

theorem eventFromV3Envelope_eq (husername : envelope.view.usmParams.username = Utf8.encode user.username) :
    notificationEventFromV3Envelope envelope (some address) bundle =
      notificationEventFromPdu envelope.pdu envelope.pdu.requestId none (some address) bundle >>= fun event =>
        return { event with
          snmpVersion := some "3"
          username := some user.username
          securityLevel := some envelope.securityLevel
          contextEngineId := some envelope.contextEngineId
          contextName := some envelope.contextName
          authoritativeEngineId := some envelope.view.usmParams.engineId
          authoritativeEngineBoots := some envelope.view.usmParams.engineBoots
          authoritativeEngineTime := some envelope.view.usmParams.engineTime } := by
  rw [notificationEventFromV3Envelope, husername, Utf8.decode_encode]

variable {crypto : Crypto} {data : Bytes}

theorem Accepts.wellFormed (h : Accepts crypto user data envelope) : WellFormedVarbinds envelope.pdu.varbinds := by
  obtain ⟨_, -, hscoped⟩ := h.opened
  obtain ⟨_, -, _, _, encoded, -, -, -, hpdu⟩ := hscoped
  exact wellFormed_of_elements hpdu.varbind_element

theorem v3Event_isOk_iff (h : Accepts crypto user data envelope) :
    (∃ event, notificationEventFromV3Envelope envelope (some address) bundle = .ok event) ↔
      Showable bundle envelope.pdu.varbinds := by
  have htype : envelope.pdu.pduType ∈ [.snmpv2Trap, .informRequest] := by simpa using h.notification
  rw [eventFromV3Envelope_eq h.username, isOk_map_iff, notificationEventFromPdu_eq, isOk_map_iff]
  exact @event_isOk_iff { version := 1, community := "", pdu := envelope.pdu } _ _ htype h.wellFormed

theorem reportsV3_event (h : Accepts crypto user data envelope) {event : NotificationEvent}
    (hevent : notificationEventFromV3Envelope envelope (some address) bundle = .ok event) :
    ReportsV3 user envelope address event := by
  rw [eventFromV3Envelope_eq h.username, notificationEventFromPdu_eq] at hevent
  obtain ⟨inner, hinner, hevent⟩ := bind_ok_iff.mp hevent
  obtain ⟨base, hbase, hinner⟩ := bind_ok_iff.mp hinner
  obtain rfl := pure_ok_iff.mp hinner
  obtain rfl := pure_ok_iff.mp hevent
  have hreports := reports_event hbase
  obtain ⟨hmatch, -⟩ := validateSecurityLevel_ok_iff.mp h.level
  refine ⟨rfl, rfl, hreports.sourceAddress, hreports.pduType, hreports.varbinds, rfl, rfl, ?_, rfl, rfl, rfl, rfl, rfl⟩
  exact congrArg some (h.reported.trans (securityLevelFromFlags_eq hmatch))

end Events

namespace V3NotificationListener

variable {crypto : Crypto} {listener : V3NotificationListener} {arrival : Arrival}

theorem receiveOne_of_huge (h : HugeV3Number arrival.received.data) :
    ∃ e, listener.receiveOne crypto arrival = .raised e := by
  obtain ⟨text, htext⟩ := decodeV3Message_huge h
  have hprobe : isDiscoveryProbe arrival.received.data = .error (.valueError text) := by
    rw [isDiscoveryProbe, htext]
    rfl
  exact ⟨_, by rw [receiveOne, hprobe]⟩

theorem receiveOne_of_probe {view : V3MessageView} {pdu : Pdu} (h : Probe arrival.received.data view pdu)
    (hfits : listener.ReplyFits crypto arrival) :
    ∃ sent, listener.receiveOne crypto arrival = { sent := [sent], ended := none } ∧
    listener.Discovers arrival sent := by
  obtain ⟨report, hreport⟩ := encodeDiscoveryReport_isOk h listener.localEngine
  refine ⟨⟨report, arrival.received.sourceAddress⟩, ?_, rfl, hreport, fun hid notifier => ?_⟩
  · rw [receiveOne, h.recognised, hreport]
    rfl
  · obtain ⟨report', hreport', hparse⟩ := (report_yields h hid).of_fits hfits.1
    obtain rfl := eq_of_ok hreport hreport'
    exact hparse notifier

theorem receiveOne_of_other (hhuge : ¬ HugeV3Number arrival.received.data)
    (hprobe : ∀ view pdu, ¬ Probe arrival.received.data view pdu) : listener.receiveOne crypto arrival =
      orContinue (decodeV3NotificationMessage crypto arrival.received.data listener.user) fun envelope =>
        match envelope with
        | none => .passedOver
        | some envelope => listener.receiveNotification crypto arrival envelope := by
  obtain ⟨b, hb⟩ := isDiscoveryProbe_isOk hhuge
  cases b with
  | false => rw [receiveOne, hb]
  | true =>
    obtain ⟨view, pdu, hfound⟩ := isDiscoveryProbe_true_iff.mp hb
    exact absurd hfound (hprobe view pdu)

theorem notified_of_event {envelope : V3NotificationEnvelope} {event : NotificationEvent}
    (haccept : decodeV3NotificationMessage crypto arrival.received.data listener.user = .ok (some envelope))
    (hevent : notificationEventFromV3Envelope envelope (some arrival.received.sourceAddress) listener.bundle =
      .ok event) :
    listener.Notified crypto arrival envelope event := by
  have haccepts := decodeV3Notification_iff.mp haccept
  obtain ⟨hmatch, -⟩ := validateSecurityLevel_ok_iff.mp haccepts.level
  have hcheck := (checkAuth_ok_iff (usmCodec listener.user none) hmatch).mp haccepts.authentic
  exact ⟨haccept, messageRules_of_verified (usmCodec listener.user none) haccepts.decoded hmatch hcheck,
    reportsV3_event haccepts hevent⟩

theorem sendInformAck_acknowledges (hcrypto : crypto.Lawful) (hsalt : arrival.salt.length = 8)
    {envelope : V3NotificationEnvelope}
    (haccept : decodeV3NotificationMessage crypto arrival.received.data listener.user = .ok (some envelope))
    (hfits : listener.ReplyFits crypto arrival) (hinform : envelope.pdu.pduType = .informRequest)
    (hrange : listener.user.privOn → listener.localEngine.InRange) :
    ∃ sent, listener.sendInformAck crypto arrival.salt envelope arrival.received.sourceAddress = .ok sent ∧
      listener.Acknowledged crypto arrival envelope sent := by
  have haccepts := decodeV3Notification_iff.mp haccept
  obtain ⟨msgData, hopen, hscoped⟩ := haccepts.opened
  obtain ⟨_, -, _, _, encoded, -, -, -, hpdu⟩ := hscoped
  obtain ⟨hplainFits, hrawFits⟩ := hfits.2 envelope haccept
  have hdelivered := haccepts.delivered
  obtain ⟨plain', hdelivered, -⟩ := hdelivered
  have hsupported : listener.user.Supported := supported_of_opened hdelivered.opened
  have hack := ack_delivered hcrypto hsupported hinform haccepts.level hpdu hrange hsalt
  obtain ⟨plain, -, hack⟩ := hack.of_fits hplainFits
  obtain ⟨_, -, ack, ackView, hencode, hackDelivered, hengineId, hackScoped⟩ := hack.of_fits hrawFits
  refine ⟨⟨ack, arrival.received.sourceAddress⟩, by rw [sendInformAck, hencode]; rfl, rfl, hencode, ?_⟩
  intro notifier huser hpeer
  exact Delivered.unwrap (hackDelivered.congr huser) (hengineId ▸ hpeer) hackScoped

theorem receiveNotification_handles (hcrypto : crypto.Lawful) (hsalt : arrival.salt.length = 8)
    {envelope : V3NotificationEnvelope}
    (haccept : decodeV3NotificationMessage crypto arrival.received.data listener.user = .ok (some envelope))
    (hfits : listener.ReplyFits crypto arrival) (hopens : listener.Opens crypto arrival) :
    listener.Handles crypto arrival (listener.receiveNotification crypto arrival envelope).effects := by
  have haccepts := decodeV3Notification_iff.mp haccept
  obtain ⟨hshowable, hrange⟩ := hopens.shown envelope haccept
  obtain ⟨event, hevent⟩ := (v3Event_isOk_iff haccepts).mpr hshowable
  have hnotified := notified_of_event haccept hevent
  rw [receiveNotification, hevent]
  by_cases hinform : envelope.pdu.pduType = .informRequest
  · obtain ⟨sent, hsent, hack⟩ := sendInformAck_acknowledges hcrypto hsalt haccept hfits hinform (hrange hinform)
    simp only [hinform, hsent]
    exact .inform hinform hnotified hack
  · rw [if_neg hinform]
    exact .trap (haccepts.notification.resolve_right hinform) hnotified

theorem receiveOne_handles (hcrypto : crypto.Lawful) (hsalt : arrival.salt.length = 8)
    (hfits : listener.ReplyFits crypto arrival) (h : listener.Handleable crypto arrival) :
    listener.Handles crypto arrival (listener.receiveOne crypto arrival).effects := by
  obtain ⟨hhuge, hkind⟩ := h
  by_cases hprobe : ∃ view pdu, Probe arrival.received.data view pdu
  · obtain ⟨view, pdu, hprobe⟩ := hprobe
    obtain ⟨sent, hone, hdiscovers⟩ := receiveOne_of_probe hprobe hfits
    rw [hone]
    exact .probe hprobe hdiscovers
  have hopens := hkind.resolve_left hprobe
  have hother : ∀ view pdu, ¬ Probe arrival.received.data view pdu := fun view pdu h => hprobe ⟨view, pdu, h⟩
  rw [receiveOne_of_other hhuge hother]
  cases hdecode : decodeV3NotificationMessage crypto arrival.received.data listener.user with
  | error e =>
    have he : e.isProtocolError = true := decodeV3Notification_failsOnly hhuge hopens.packable e hdecode
    simp only [orContinue, he]
    exact .other hother fun envelope haccept => by cases hdecode.symm.trans haccept
  | ok found =>
    cases found with
    | none => exact .other hother fun envelope haccept => by cases hdecode.symm.trans haccept
    | some envelope => exact receiveNotification_handles hcrypto hsalt hdecode hfits hopens

theorem Handles.no_raise {effects : List Effect} (h : listener.Handles crypto arrival effects) (e : Error) :
    .raises e ∉ effects := by
  cases h <;> simp

theorem raised_effects (e : Error) : Effect.raises e ∈ (Round.raised e).effects := List.mem_singleton_self _

theorem receiveNotification_raises {envelope : V3NotificationEnvelope}
    (haccept : decodeV3NotificationMessage crypto arrival.received.data listener.user = .ok (some envelope))
    (h : ¬ (Showable listener.bundle envelope.pdu.varbinds ∧
      (envelope.pdu.pduType = .informRequest → listener.user.privOn → listener.localEngine.InRange))) :
    ∃ e, .raises e ∈ (listener.receiveNotification crypto arrival envelope).effects := by
  have haccepts := decodeV3Notification_iff.mp haccept
  rw [receiveNotification]
  by_cases hinform : envelope.pdu.pduType = .informRequest
  · simp only [hinform, if_true]
    cases hsent : listener.sendInformAck crypto arrival.salt envelope arrival.received.sourceAddress with
    | error e => exact ⟨e, raised_effects e⟩
    | ok sent =>
      obtain ⟨ack, hack, -⟩ := bind_ok_iff.mp hsent
      have hshowable : ¬ Showable listener.bundle envelope.pdu.varbinds := fun hshowable =>
        h ⟨hshowable, fun _ => inRange_of_ack hack⟩
      rw [← v3Event_isOk_iff haccepts] at hshowable
      obtain ⟨event, hevent⟩ | ⟨e, he⟩ := ok_or_error
        (notificationEventFromV3Envelope envelope (some arrival.received.sourceAddress) listener.bundle)
      · exact absurd ⟨event, hevent⟩ hshowable
      · refine ⟨e, ?_⟩
        rw [he]
        exact List.mem_append_right _ (List.mem_singleton_self _)
  · have hshowable : ¬ Showable listener.bundle envelope.pdu.varbinds := fun hshowable =>
      h ⟨hshowable, fun hinform' => absurd hinform' hinform⟩
    rw [← v3Event_isOk_iff haccepts] at hshowable
    obtain ⟨event, hevent⟩ | ⟨e, he⟩ := ok_or_error
      (notificationEventFromV3Envelope envelope (some arrival.received.sourceAddress) listener.bundle)
    · exact absurd ⟨event, hevent⟩ hshowable
    · refine ⟨e, ?_⟩
      rw [if_neg hinform, he]
      exact List.mem_singleton_self _

theorem handleable_of_no_raise (h : ∀ e, .raises e ∉ (listener.receiveOne crypto arrival).effects) :
    listener.Handleable crypto arrival := by
  have hhuge : ¬ HugeV3Number arrival.received.data := by
    intro hhuge
    obtain ⟨e, he⟩ := receiveOne_of_huge hhuge
    exact h e (he ▸ raised_effects e)
  refine ⟨hhuge, or_iff_not_imp_left.mpr fun hprobe => ?_⟩
  rw [receiveOne_of_other hhuge fun view pdu hfound => hprobe ⟨view, pdu, hfound⟩] at h
  constructor
  · intro hsupported hunpackable
    obtain ⟨text, htext⟩ := unpackable_raises hsupported hunpackable
    rw [htext] at h
    exact h _ (raised_effects _)
  · intro envelope haccept
    by_contra hbad
    obtain ⟨e, he⟩ := receiveNotification_raises haccept hbad
    rw [haccept] at h
    exact h e he

theorem delivers_of_handleable (hcrypto : crypto.Lawful) {arrivals : List Arrival}
    (hfits : ∀ arrival ∈ arrivals, arrival.salt.length = 8 ∧ listener.ReplyFits crypto arrival)
    (h : ∀ arrival ∈ arrivals, listener.Handleable crypto arrival) : listener.Delivers crypto arrivals := by
  refine ⟨arrivals.map fun arrival => (listener.receiveOne crypto arrival).effects, ?_, ?_⟩
  · rw [listen_eq, List.flatMap_def]
  · rw [List.forall₂_map_right_iff, List.forall₂_same]
    intro arrival hmem
    obtain ⟨hsalt, hfit⟩ := hfits arrival hmem
    exact receiveOne_handles hcrypto hsalt hfit (h arrival hmem)

theorem Delivers.no_raise {arrivals : List Arrival} (h : listener.Delivers crypto arrivals) (e : Error) :
    .raises e ∉ listener.listen crypto arrivals := by
  obtain ⟨groups, hlisten, hgroups⟩ := h
  rw [hlisten]
  clear hlisten
  induction hgroups with
  | nil => exact List.not_mem_nil
  | cons hfirst _ ih =>
    rw [List.flatten_cons, List.mem_append]
    rintro (hraises | hraises)
    · exact hfirst.no_raise e hraises
    · exact ih hraises

end V3NotificationListener

def sampleV3Listener : V3NotificationListener :=
  { user := sampleUser, localEngine := sampleEngine, bundle := none }

def sampleDatagrams : List Bytes := [sampleProbe, sampleData, [0x30]]

def sampleArrivals : List Arrival := sampleDatagrams.map fun data =>
  { received := { data := data, sourceAddress := .inet "192.0.2.7" 40000 }, salt := sampleSalt }

end TrishulSnmp.Notify
