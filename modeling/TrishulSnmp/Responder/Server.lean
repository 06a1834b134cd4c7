import TrishulSnmp.Responder.Sources
import TrishulSnmp.Transport.UdpServer
import TrishulSnmp.Wire.Message

namespace TrishulSnmp

namespace Responder

open Wire

section Pdus

variable {m : Type → Type} [Monad m]

def responsePdu (requestPdu : Pdu) (varbinds : List RawVarBind) (errorStatus : ℤ := 0) (errorIndex : ℤ := 0) : Pdu :=
  { pduType := .response
    requestId := requestPdu.requestId
    errorStatus := errorStatus
    errorIndex := errorIndex
    varbinds := varbinds }

def setResponsePdu (requestPdu : Pdu) : Pdu :=
  responsePdu requestPdu requestPdu.varbinds ErrorStatus.notWritable.toInt
    (if requestPdu.varbinds = [] then 0 else 1)

def lookupExactVarbind (source : ResponderSource m) (oid : OID) : m RawVarBind := do
  match ← source.lookupExact oid with
  | none => return { oid := oid, value := .noSuchObjectValue }
  | some value => return { oid := oid, value := value }

def lookupNextVarbind (source : ResponderSource m) (oid : OID) : m RawVarBind := do
  match ← source.lookupNext oid with
  | none => return { oid := oid, value := .endOfMibViewValue }
  | some (nextOid, value) => return { oid := nextOid, value := value }

def nextCurrent (currentOid : OID) (varbind : RawVarBind) : OID :=
  if varbind.value = .endOfMibViewValue then currentOid else varbind.oid

def bulkRow (source : ResponderSource m) : List OID → m (List RawVarBind × List OID)
  | [] => return ([], [])
  | currentOid :: currentOids => do
    let nextVarbind ← lookupNextVarbind source currentOid
    let row ← bulkRow source currentOids
    return (nextVarbind :: row.1, nextCurrent currentOid nextVarbind :: row.2)

def bulkRows (source : ResponderSource m) : ℕ → List OID → m (List RawVarBind)
  | 0, _ => return []
  | repetitions + 1, currentOids => do
    let row ← bulkRow source currentOids
    let rows ← bulkRows source repetitions row.2
    return row.1 ++ rows

def buildBulkVarbinds (source : ResponderSource m) (requestVarbinds : List RawVarBind)
    (nonRepeaters maxRepetitions : ℤ) : m (List RawVarBind) := do
  let maxRepetitions := if maxRepetitions ≤ 0 then 0 else maxRepetitions
  let nonRepeaters := if nonRepeaters < 0 then 0 else nonRepeaters
  let requestOids := requestVarbinds.map RawVarBind.oid
  let split := min nonRepeaters.toNat requestOids.length
  let responseVarbinds ← (requestOids.take split).mapM (lookupNextVarbind source)
  let rows ← bulkRows source maxRepetitions.toNat (requestOids.drop split)
  return responseVarbinds ++ rows

def buildResponsePdu (source : ResponderSource m) (requestPdu : Pdu) : m (Option Pdu) := do
  match requestPdu.pduType with
  | .get =>
    let varbinds ← requestPdu.varbinds.mapM fun varbind => lookupExactVarbind source varbind.oid
    return some (responsePdu requestPdu varbinds)
  | .getNext =>
    let varbinds ← requestPdu.varbinds.mapM fun varbind => lookupNextVarbind source varbind.oid
    return some (responsePdu requestPdu varbinds)
  | .getBulk =>
    let varbinds ← buildBulkVarbinds source requestPdu.varbinds requestPdu.errorStatus requestPdu.errorIndex
    return some (responsePdu requestPdu varbinds)
  | .set => return some (setResponsePdu requestPdu)
  | _ => return none

def buildResponseMessage (source : ResponderSource m) (message : SnmpMessage) : m (Option SnmpMessage) := do
  match ← buildResponsePdu source message.pdu with
  | none => return none
  | some pdu => return some { version := message.version, community := message.community, pdu := pdu }

end Pdus

def normalizeCommunities (communities : Option (List String)) : Option (List String) :=
  communities.map (·.filter (· ≠ ""))

def communityAllowed (communities : Option (List String)) (community : String) : Bool :=
  match communities with
  | none => true
  | some communities => community ∈ communities

structure V2cResponder (w : Type) where
  communities : Option (List String)
  source : ResponderSource (StateT w (Except Error))

def V2cResponder.new {w : Type} (communities : Option (List String))
    (source : ResponderSource (StateT w (Except Error))) : V2cResponder w :=
  { communities := normalizeCommunities communities, source := source }

structure Sent where
  data : Bytes
  destination : SocketAddress
  deriving DecidableEq, Repr

inductive Arrival
  | datagram (received : ReceivedDatagram) (sendFailure : Option String)
  | lost (message : String)

structure Inbound where
  arrival : Arrival
  closed : Bool

inductive Handled (w : Type)
  | answered (sent : Sent) (rest : List Inbound) (world : w)
  | raised (e : Error) (closed : Bool)
  | waiting (world : w)

inductive ServeOutcome
  | returned (handled : ℕ)
  | raised (e : Error)
  | waiting
  deriving DecidableEq

structure Served (w : Type) where
  outcome : ServeOutcome
  sent : List Sent
  /-- `none` after an exception. -/
  world : Option w

namespace V2cResponder

variable {w : Type} (responder : V2cResponder w)

def reply (data : Bytes) : StateT w (Except Error) (Option Bytes) :=
  match decodeMessage data with
  | .error e => if e.isProtocolError then return none else throw e
  | .ok message =>
    if communityAllowed responder.communities message.community then do
      match ← buildResponseMessage responder.source message with
      | none => return none
      | some response => return some (← encodeMessage response)
    else return none

def handleRequest : List Inbound → w → Handled w
  | [], world => .waiting world
  | ⟨.lost message, closed⟩ :: _, _ => .raised (.transportError message) closed
  | ⟨.datagram received sendFailure, closed⟩ :: inbound, world =>
    match responder.reply received.data world with
    | .error e => .raised e closed
    | .ok (none, world) => handleRequest inbound world
    | .ok (some data, world) =>
      match sendFailure with
      | some message => .raised (.transportError message) closed
      | none => .answered { data := data, destination := received.sourceAddress } inbound world

def serveLoop (count : ℕ) : ℕ → ℕ → List Inbound → w → Served w
  | 0, _, _, world => { outcome := .waiting, sent := [], world := some world }
  | fuel + 1, handled, inbound, world =>
    if count = 0 ∨ handled < count then
      match responder.handleRequest inbound world with
      | .waiting world => { outcome := .waiting, sent := [], world := some world }
      | .raised e closed =>
        if e.isTransportError ∧ closed then { outcome := .returned handled, sent := [], world := none }
        else { outcome := .raised e, sent := [], world := none }
      | .answered sent inbound world =>
        let served := serveLoop count fuel (handled + 1) inbound world
        { served with sent := sent :: served.sent }
    else { outcome := .returned handled, sent := [], world := some world }

def serve (count : ℤ) (inbound : List Inbound) (world : w) : Served w :=
  if count < 0 then
    { outcome := .raised (.valueError "count cannot be negative"), sent := [], world := some world }
  else responder.serveLoop count.toNat (inbound.length + 1) 0 inbound world

end V2cResponder

end Responder

end TrishulSnmp
