import TrishulSnmp.Notify.Listener
import TrishulSnmp.Wire.X690

namespace TrishulSnmp.Notify

open Outcome Wire Asn1 Responder Mib

theorem decoded_wellFormed {data : Bytes} {message : SnmpMessage} (h : decodeMessage data = .ok message) :
    WellFormedVarbinds message.pdu.varbinds :=
  wellFormed_of_elements (decodeMessage_ok_iff.mp h).1.varbind_element

namespace SnmpNotificationListener

variable (listener : SnmpNotificationListener)

theorem listenLoop_eq {calls : ℕ} {datagrams : List ReceivedDatagram} (hcalls : datagrams.length < calls) :
    listener.listenLoop calls datagrams =
      { results := (datagrams.filterMap listener.receiveOne).map Prod.fst
        sent := (datagrams.filterMap listener.receiveOne).flatMap Prod.snd } := by
  induction datagrams generalizing calls with
  | nil =>
    obtain ⟨calls, rfl⟩ := Nat.exists_eq_add_one_of_ne_zero hcalls.ne'
    rfl
  | cons received datagrams ih =>
    obtain ⟨calls, rfl⟩ := Nat.exists_eq_add_one_of_ne_zero (Nat.ne_zero_of_lt hcalls)
    rw [List.length_cons] at hcalls
    cases hone : listener.receiveOne received with
    | none =>
      have hskip : listener.listenLoop (calls + 1) (received :: datagrams) =
          listener.listenLoop (calls + 1) datagrams := by
        rw [listenLoop, listenLoop, receive, hone]
      rw [hskip, ih (by omega), List.filterMap_cons_none hone]
    | some ended =>
      rw [listenLoop, receive, hone, List.filterMap_cons_some hone]
      simp only [ih (show datagrams.length < calls by omega), List.map_cons, List.flatMap_cons]

theorem listen_eq (datagrams : List ReceivedDatagram) : listener.listen datagrams =
    { results := (datagrams.filterMap listener.receiveOne).map Prod.fst
      sent := (datagrams.filterMap listener.receiveOne).flatMap Prod.snd } :=
  listener.listenLoop_eq (Nat.lt_succ_self _)

def notification (received : ReceivedDatagram) : Option (ReceivedDatagram × SnmpMessage) :=
  match decodeMessage received.data with
  | .ok message =>
    if communityAllowed listener.communities message.community ∧
      message.pdu.pduType ∈ [.snmpv2Trap, .informRequest] then
      some (received, message)
    else none
  | .error _ => none

end SnmpNotificationListener

def Acknowledges (notified : ReceivedDatagram × SnmpMessage) (sent : Sent) : Prop :=
  sent.destination = notified.1.sourceAddress ∧ encodeMessage (informAck notified.2) = .ok sent.data ∧
    (notified.1.data.length < 256 ^ 126 → decodeMessage sent.data = .ok (informAck notified.2))

def ReportedBy (notified : ReceivedDatagram × SnmpMessage) (result : Except Error NotificationEvent) : Prop :=
  ∃ event, result = .ok event ∧ Reports notified.2 (some notified.1.sourceAddress) event

theorem ok_of_reportedBy {notified : List (ReceivedDatagram × SnmpMessage)}
    {results : List (Except Error NotificationEvent)} (h : List.Forall₂ ReportedBy notified results) :
    ∀ result ∈ results, ∃ event, result = .ok event := by
  induction h with
  | nil => simp
  | cons hfirst _ ih =>
    obtain ⟨event, hevent, -⟩ := hfirst
    exact List.forall_mem_cons.mpr ⟨⟨event, hevent⟩, ih⟩

namespace SnmpNotificationListener

variable (listener : SnmpNotificationListener)

structure Delivers (datagrams : List ReceivedDatagram) : Prop where
  events : List.Forall₂ ReportedBy (datagrams.filterMap listener.notification) (listener.listen datagrams).results
  acks : List.Forall₂ Acknowledges
    ((datagrams.filterMap listener.notification).filter fun notified => notified.2.pdu.pduType = .informRequest)
    (listener.listen datagrams).sent

/-- The datagram asks for no number of more than 4300 digits to be turned into text. -/
def Handleable (received : ReceivedDatagram) : Prop :=
  ¬ HugeVersion received.data ∧ ∀ notified, listener.notification received = some notified →
    Showable listener.bundle notified.2.pdu.varbinds

theorem notification_some_iff {received : ReceivedDatagram} {notified : ReceivedDatagram × SnmpMessage} :
    listener.notification received = some notified ↔ notified.1 = received ∧
      decodeMessage received.data = .ok notified.2 ∧ communityAllowed listener.communities notified.2.community ∧
        notified.2.pdu.pduType ∈ [.snmpv2Trap, .informRequest] := by
  obtain ⟨asked, message⟩ := notified
  rw [notification]
  cases hdecode : decodeMessage received.data with
  | error e => simp
  | ok decoded =>
    simp only [Option.ite_none_right_eq_some, Option.some.injEq, Prod.mk.injEq, Except.ok.injEq]
    constructor
    · rintro ⟨hrules, rfl, rfl⟩
      exact ⟨rfl, rfl, hrules⟩
    · rintro ⟨rfl, rfl, hrules⟩
      exact ⟨hrules, rfl, rfl⟩

theorem receiveOne_of_huge {received : ReceivedDatagram} (h : HugeVersion received.data) :
    ∃ e, listener.receiveOne received = some (.error e, []) := by
  obtain ⟨text, htext⟩ := decodeMessage_huge h
  exact ⟨_, by rw [receiveOne, htext]; rfl⟩

theorem receiveOne_of_other {received : ReceivedDatagram} (hhuge : ¬ HugeVersion received.data)
    (h : listener.notification received = none) : listener.receiveOne received = none := by
  rw [receiveOne]
  cases hdecode : decodeMessage received.data with
  | error e => exact if_pos (decodeMessage_failsOnly hhuge e hdecode)
  | ok message =>
    by_cases hallowed : communityAllowed listener.communities message.community
    · have htype : message.pdu.pduType ∉ [.snmpv2Trap, .informRequest] := by
        intro htype
        have hsome : listener.notification received = some (received, message) :=
          listener.notification_some_iff.mpr ⟨rfl, hdecode, hallowed, htype⟩
        rw [h] at hsome
        cases hsome
      simp only [hallowed, htype]
      rfl
    · simp only [Bool.not_eq_true] at hallowed
      exact if_pos hallowed

theorem sendInformAck_ok {received : ReceivedDatagram} {message : SnmpMessage}
    (h : decodeMessage received.data = .ok message) :
    ∃ sent, sendInformAck message received.sourceAddress = .ok sent ∧ Acknowledges (received, message) sent := by
  obtain ⟨enc, henc, -⟩ := (decodeMessage_ok_iff.mp h).reencodes_echo .response (.inl rfl) (.inl rfl)
  have hack : encodeMessage (informAck message) = .ok enc := henc
  refine ⟨⟨enc, received.sourceAddress⟩, by rw [sendInformAck, hack]; rfl, rfl, hack, fun hlen => ?_⟩
  obtain ⟨enc', henc', hdecode⟩ := decode_encode_echo h hlen .response (.inl rfl) (.inl rfl)
  obtain rfl : enc = enc' := eq_of_ok henc henc'
  exact hdecode

theorem receiveOne_of_notification {received : ReceivedDatagram} {notified : ReceivedDatagram × SnmpMessage}
    (h : listener.notification received = some notified) : ∃ sent,
      listener.receiveOne received = some
        (notificationEventFromMessage notified.2 (some received.sourceAddress) listener.bundle, sent) ∧
      List.Forall₂ Acknowledges
        ([notified].filter fun notified => notified.2.pdu.pduType = .informRequest) sent := by
  obtain ⟨rfl, hdecode, hallowed, htype⟩ := listener.notification_some_iff.mp h
  obtain ⟨received, message⟩ := notified
  by_cases hinform : message.pdu.pduType = .informRequest
  · obtain ⟨sent, hsent, hack⟩ := sendInformAck_ok hdecode
    refine ⟨[sent], ?_, ?_⟩
    · simp only [receiveOne, hdecode, hallowed, hinform, hsent]
      rfl
    · rw [List.filter_cons_of_pos (by simpa using hinform)]
      exact .cons hack .nil
  · refine ⟨[], ?_, ?_⟩
    · simp only [receiveOne, hdecode, hallowed, htype, hinform]
      rfl
    · rw [List.filter_cons_of_neg (by simpa using hinform)]
      exact .nil

theorem receiveOne_handleable {received : ReceivedDatagram} (h : listener.Handleable received) :
    List.Forall₂ ReportedBy (listener.notification received).toList
        ((listener.receiveOne received).toList.map Prod.fst) ∧
      List.Forall₂ Acknowledges
        ((listener.notification received).toList.filter fun notified => notified.2.pdu.pduType = .informRequest)
        ((listener.receiveOne received).toList.flatMap Prod.snd) := by
  cases hnotified : listener.notification received with
  | none =>
    rw [listener.receiveOne_of_other h.1 hnotified]
    exact ⟨.nil, .nil⟩
  | some notified =>
    obtain ⟨sent, hone, hacks⟩ := listener.receiveOne_of_notification hnotified
    obtain ⟨rfl, hdecode, -, htype⟩ := listener.notification_some_iff.mp hnotified
    obtain ⟨event, hevent⟩ := (event_isOk_iff htype (decoded_wellFormed hdecode)).mpr (h.2 notified hnotified)
    rw [hone]
    exact ⟨.cons ⟨event, hevent, reports_event hevent⟩ .nil, by simpa using hacks⟩

theorem handleable_of_ok {received : ReceivedDatagram}
    (h : ∀ ended, listener.receiveOne received = some ended → ∃ event, ended.1 = .ok event) :
    listener.Handleable received := by
  constructor
  · intro hhuge
    obtain ⟨e, he⟩ := listener.receiveOne_of_huge hhuge
    obtain ⟨_, hevent⟩ := h _ he
    cases hevent
  · intro notified hnotified
    obtain ⟨sent, hone, -⟩ := listener.receiveOne_of_notification hnotified
    obtain ⟨rfl, hdecode, -, htype⟩ := listener.notification_some_iff.mp hnotified
    exact (event_isOk_iff htype (decoded_wellFormed hdecode)).mp (h _ hone)

theorem delivers_of_handleable {datagrams : List ReceivedDatagram}
    (h : ∀ received ∈ datagrams, listener.Handleable received) : listener.Delivers datagrams := by
  have hsame : List.Forall₂ (fun received received' => received = received' ∧ listener.Handleable received)
      datagrams datagrams := List.forall₂_same.mpr fun received hmem => ⟨rfl, h received hmem⟩
  constructor
  · simp only [listen_eq, List.filterMap_eq_flatMap_toList, List.map_flatMap]
    refine List.rel_flatMap hsame fun received _ hone => ?_
    obtain ⟨rfl, hhandleable⟩ := hone
    exact (listener.receiveOne_handleable hhandleable).1
  · simp only [listen_eq, List.filterMap_eq_flatMap_toList, List.filter_flatMap, List.flatMap_assoc]
    refine List.rel_flatMap hsame fun received _ hone => ?_
    obtain ⟨rfl, hhandleable⟩ := hone
    exact (listener.receiveOne_handleable hhandleable).2

end SnmpNotificationListener

theorem listener_delivers_iff (communities : Option (List String)) (bundle : Option MibRegistry)
    (datagrams : List ReceivedDatagram) :
    (SnmpNotificationListener.new communities bundle).Delivers datagrams ↔
      ∀ received ∈ datagrams, (SnmpNotificationListener.new communities bundle).Handleable received := by
  constructor
  · intro h received hmem
    apply SnmpNotificationListener.handleable_of_ok
    intro ended hended
    apply ok_of_reportedBy h.events
    rw [SnmpNotificationListener.listen_eq]
    exact List.mem_map_of_mem (List.mem_filterMap.mpr ⟨received, hmem, hended⟩)
  · exact SnmpNotificationListener.delivers_of_handleable _

/-- An INFORM whose value is the integer 2 ^ 14287 - 1, which has 4301 digits. -/
def lengthyInform : ReceivedDatagram :=
  { data := [0x30, 0x82, 0x07, 0x25, 2, 1, 1, 4, 6, 112, 117, 98, 108, 105, 99, 0xA6, 0x82, 0x07, 0x16, 2, 1, 1, 2, 1,
    0, 2, 1, 0, 0x30, 0x82, 0x07, 0x09, 0x30, 0x82, 0x07, 0x05, 6, 5, 43, 6, 1, 2, 1, 2, 0x82, 0x06, 0xFA, 0x7F] ++
      List.replicate 1785 0xFF
    sourceAddress := .inet "192.0.2.7" 40000 }

theorem acknowledged_inform_lost : let listener := SnmpNotificationListener.new (some ["public"]) none
    (listener.listen [lengthyInform]).sent.length = 1 ∧ (∃ e, (listener.listen [lengthyInform]).results = [.error e]) ∧
      ¬ listener.Delivers [lengthyInform] := by
  have hresults : ((SnmpNotificationListener.new (some ["public"]) none).listen [lengthyInform]).results =
      [.error (.valueError ("Exceeds the limit (4300 digits) for integer string conversion; " ++
        "use sys.set_int_max_str_digits() to increase the limit"))] := by
    decide +kernel
  refine ⟨by decide +kernel, ⟨_, hresults⟩, fun h => ?_⟩
  have hok := ok_of_reportedBy h.events
  rw [hresults, List.forall_mem_singleton] at hok
  obtain ⟨event, hevent⟩ := hok
  cases hevent

end TrishulSnmp.Notify
