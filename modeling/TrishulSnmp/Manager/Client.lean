import TrishulSnmp.Manager.Walk
import TrishulSnmp.Responder.Server

namespace TrishulSnmp

open Mib

def responseFromPdu (enrich : Enricher) (pdu : Pdu) : Except Error Response := do
  let errorStatus ← Wire.responseErrorStatus pdu.errorStatus
  let varbinds ← pdu.varbinds.mapM (publicVarbind enrich)
  return {
    requestId := pdu.requestId
    errorStatus := errorStatus
    errorIndex := pdu.errorIndex
    varbinds := varbinds }

namespace Manager

open Wire Responder

variable {w : Type}

def walkPdu (requestId : ℤ) (request : WalkRequest) : Pdu :=
  match request.maxRepetitions with
  | none => ⟨.getNext, requestId, 0, 0, buildNullVarbinds [request.current]⟩
  | some maxRepetitions => ⟨.getBulk, requestId, 0, maxRepetitions, buildNullVarbinds [request.current]⟩

def responderAgent (source : ResponderSource (StateT w (Except Error))) : Agent w := fun world request => do
  let (answer, world) ← buildResponsePdu source (walkPdu 1 request) world
  match answer with
  | none => .error (.requestTimeoutError "SNMP request timed out waiting for a response")
  | some pdu =>
    let response ← responseFromPdu (fun _ _ => .ok ⟨none, none, none⟩) pdu
    return (response, world)

structure DirectManager (w : Type) where
  bundle : Option Resolver
  enrich : Enricher
  source : ResponderSource (StateT w (Except Error))

structure Exchange (w : Type) where
  nextId : ℕ
  world : w

namespace DirectManager

def request (manager : DirectManager w) (pduType : PduType) (targets : List Target) (errorStatus errorIndex : ℤ)
    (exchange : Exchange w) : Except Error (Response × Exchange w) := do
  let oids ← normalizeTargets targets manager.bundle
  let pdu := {
    pduType := pduType
    requestId := exchange.nextId
    errorStatus := errorStatus
    errorIndex := errorIndex
    varbinds := buildNullVarbinds oids }
  let (answer, world) ← buildResponsePdu manager.source pdu exchange.world
  match answer with
  | none => .error (.requestTimeoutError "SNMP request timed out waiting for a response")
  | some pdu =>
    let response ← responseFromPdu manager.enrich pdu
    return (response, { nextId := exchange.nextId + 1, world := world })

def getNext (manager : DirectManager w) (target : Target) : Exchange w → Except Error (Response × Exchange w) :=
  manager.request .getNext [target] 0 0

def getBulk (manager : DirectManager w) (target : Target) (maxRepetitions : ℤ) :
    Exchange w → Except Error (Response × Exchange w) :=
  manager.request .getBulk [target] 0 maxRepetitions

def walkRequest (manager : DirectManager w) : Agent (Exchange w) := fun exchange request =>
  let target := .sequence request.current (tupleText request.current)
  match request.maxRepetitions with
  | none => manager.getNext target exchange
  | some maxRepetitions => manager.getBulk target maxRepetitions exchange

def walk (manager : DirectManager w) (root : Target) (maxRepetitions : Option ℤ) (allowance : ℕ)
    (exchange : Exchange w) : WalkOutcome :=
  match normalizeTargets [root] manager.bundle with
  | .error e => .raised e 0
  | .ok [] => .raised (.indexError "tuple index out of range") 0
  | .ok (rootOid :: _) => walkSubtree manager.walkRequest rootOid maxRepetitions allowance exchange

end DirectManager

end Manager

end TrishulSnmp
