import TrishulSnmp.Notify.Events
import TrishulSnmp.Responder.Server
import TrishulSnmp.Wire.Echo

namespace TrishulSnmp

open Wire Responder Mib

namespace Notify

def informAck (message : SnmpMessage) : SnmpMessage :=
  { version := message.version
    community := message.community
    pdu := {
      pduType := .response
      requestId := message.pdu.requestId
      errorStatus := 0
      errorIndex := 0
      varbinds := message.pdu.varbinds } }

structure SnmpNotificationListener where
  communities : Option (List String)
  bundle : Option MibRegistry

/-- One call of `receive` on the datagrams still to come: it waits, or it returns or raises. -/
inductive Receipt
  | waiting
  | ended (result : Except Error NotificationEvent) (sent : List Sent) (datagrams : List ReceivedDatagram)

structure Listened where
  results : List (Except Error NotificationEvent)
  sent : List Sent

namespace SnmpNotificationListener

def new (communities : Option (List String)) (bundle : Option MibRegistry) : SnmpNotificationListener :=
  { communities := normalizeCommunities communities, bundle := bundle }

variable (listener : SnmpNotificationListener)

def sendInformAck (message : SnmpMessage) (address : SocketAddress) : Except Error Sent := do
  return { data := ← encodeMessage (informAck message), destination := address }

def receiveOne (received : ReceivedDatagram) : Option (Except Error NotificationEvent × List Sent) :=
  match decodeMessage received.data with
  | .error e => if e.isProtocolError then none else some (.error e, [])
  | .ok message =>
    if communityAllowed listener.communities message.community = false then none
    else if message.pdu.pduType ∉ [.snmpv2Trap, .informRequest] then none
    else
      let event := notificationEventFromMessage message (some received.sourceAddress) listener.bundle
      if message.pdu.pduType = .informRequest then
        match sendInformAck message received.sourceAddress with
        | .error e => some (.error e, [])
        | .ok sent => some (event, [sent])
      else some (event, [])

def receive : List ReceivedDatagram → Receipt
  | [] => .waiting
  | received :: datagrams =>
    match listener.receiveOne received with
    | none => receive datagrams
    | some (result, sent) => .ended result sent datagrams

def listenLoop : ℕ → List ReceivedDatagram → Listened
  | 0, _ => { results := [], sent := [] }
  | calls + 1, datagrams =>
    match listener.receive datagrams with
    | .waiting => { results := [], sent := [] }
    | .ended result sent datagrams =>
      let listened := listenLoop calls datagrams
      { results := result :: listened.results, sent := sent ++ listened.sent }

def listen (datagrams : List ReceivedDatagram) : Listened := listener.listenLoop (datagrams.length + 1) datagrams

end SnmpNotificationListener

def Echoes (message reply : SnmpMessage) : Prop :=
  (∃ data, encodeMessage reply = .ok data ∧ decodeMessage data = .ok reply) ∧ reply.version = message.version ∧
    reply.community = message.community ∧ reply.pdu.pduType = .response ∧
    reply.pdu.requestId = message.pdu.requestId ∧ reply.pdu.varbinds = message.pdu.varbinds

theorem echoes_echoMessage {message : SnmpMessage} {data : Bytes} (hdecode : decodeMessage data = .ok message)
    (hlen : data.length < 256 ^ 126) {errorStatus errorIndex : ℤ}
    (hs : errorStatus = 0 ∨ errorStatus = 1 ∨ errorStatus = 17)
    (hi : errorIndex = 0 ∨ errorIndex = 1 ∨ errorIndex = 17) :
    Echoes message (echoMessage .response errorStatus errorIndex message) :=
  ⟨decode_encode_echo hdecode hlen .response hs hi, rfl, rfl, rfl, rfl, rfl⟩

theorem setResponsePdu_eq (pdu : Pdu) :
    setResponsePdu pdu = echoPdu .response 17 (if pdu.varbinds = [] then 0 else 1) pdu := rfl

theorem decoded_message_echoes (data : Bytes) (message : SnmpMessage) (hdecode : decodeMessage data = .ok message)
    (hlen : data.length < 256 ^ 126) : Echoes message (informAck message) ∧
      Echoes message { message with pdu := setResponsePdu message.pdu } := by
  constructor
  · exact echoes_echoMessage hdecode hlen (.inl rfl) (.inl rfl)
  · rw [setResponsePdu_eq]
    apply echoes_echoMessage hdecode hlen (.inr (.inr rfl))
    split_ifs
    · exact .inl rfl
    · exact .inr (.inl rfl)

def paddedSet : Bytes :=
  [48, 0x81, 34, 2, 2, 0, 1, 4, 1, 112, 163, 0x82, 0, 23, 2, 2, 0, 7, 2, 1, 0, 2, 1, 0, 48, 11, 48, 9, 6, 3, 43,
    0x80, 1, 65, 2, 0xFF, 0xFF]

def paddedSetMessage : SnmpMessage :=
  { version := 1
    community := "p"
    pdu := {
      pduType := .set
      requestId := 7
      errorStatus := 0
      errorIndex := 0
      varbinds := [{ oid := [1, 3, 1], value := .counter32Value 65535 }] } }

theorem padded_set_echoes : Echoes paddedSetMessage (informAck paddedSetMessage) ∧
    Echoes paddedSetMessage { paddedSetMessage with pdu := setResponsePdu paddedSetMessage.pdu } :=
  decoded_message_echoes paddedSet paddedSetMessage (by decide +kernel) (by decide)

end Notify

end TrishulSnmp
