import TrishulSnmp.Wire.Pdu

namespace TrishulSnmp.Transport

structure PreparedRequest where
  requestId : ℕ
  encodedMessage : Bytes
  deriving DecidableEq, Repr

abbrev Unwrap := Bytes → Except Error (Option Pdu)

inductive Reception
  | datagram (data : Bytes)
  | timedOut
  | failed
  deriving DecidableEq, Repr

def receiveTimeout : Error := .requestTimeoutError "SNMP request timed out waiting for a response"

def receiveFailure : Error := .transportError "Failed to receive UDP datagram"

def sendFailure : Error := .transportError "Failed to send UDP datagram"

def isRequestTimeout : Error → Bool
  | .requestTimeoutError _ => true
  | _ => false

def matchResponse (unwrap : Unwrap) (requestId : ℤ) (data : Bytes) : Except Error (Option Pdu) := do
  match ← unwrap data with
  | none => return none
  | some pdu =>
    if pdu.pduType ≠ .response then
      .error (.protocolError s!"Expected RESPONSE PDU, received {pdu.pduType.name}")
    else if pdu.requestId ≠ requestId then return none
    else return some pdu

section Matching

variable {unwrap : Unwrap} {requestId : ℤ} {data : Bytes} {pdu : Pdu}

theorem matchResponse_none (h : unwrap data = .ok none) : matchResponse unwrap requestId data = .ok none := by
  rw [matchResponse, h]
  rfl

theorem matchResponse_other (h : unwrap data = .ok (some pdu)) (htype : pdu.pduType = .response)
    (hid : pdu.requestId ≠ requestId) : matchResponse unwrap requestId data = .ok none := by
  rw [matchResponse, h]
  change (if pdu.pduType ≠ .response then _ else _) = _
  rw [if_neg (not_not.mpr htype), if_pos hid]
  rfl

theorem matchResponse_answer (h : unwrap data = .ok (some pdu)) (htype : pdu.pduType = .response)
    (hid : pdu.requestId = requestId) : matchResponse unwrap requestId data = .ok (some pdu) := by
  rw [matchResponse, h]
  change (if pdu.pduType ≠ .response then _ else _) = _
  rw [if_neg (not_not.mpr htype), if_neg (not_not.mpr hid)]
  rfl

end Matching

/-- How the receive loop ends, and the receptions it has left; `none` when it is still waiting after them all. -/
def receiveMatchingResponse (unwrap : Unwrap) (requestId : ℤ) :
    List Reception → Option (Except Error Pdu × List Reception)
  | [] => none
  | .timedOut :: rest => some (.error receiveTimeout, rest)
  | .failed :: rest => some (.error receiveFailure, rest)
  | .datagram data :: rest =>
    match matchResponse unwrap requestId data with
    | .error e => some (.error e, rest)
    | .ok none => receiveMatchingResponse unwrap requestId rest
    | .ok (some pdu) => some (.ok pdu, rest)

structure Dispatched where
  sent : List Bytes
  outcome : Option (Except Error Pdu)
  deriving DecidableEq

/-- The attempts from number `attempt` on, `left` of them after this one. `sendFails` tells which
sends the socket refuses. -/
def sendAttempts (unwrap : Unwrap) (request : PreparedRequest) (sendFails : ℕ → Bool) :
    ℕ → ℕ → List Reception → Dispatched
  | left, attempt, receives =>
    if sendFails attempt then { sent := [], outcome := some (.error sendFailure) }
    else match receiveMatchingResponse unwrap request.requestId receives with
      | none => { sent := [request.encodedMessage], outcome := none }
      | some (.ok pdu, _) => { sent := [request.encodedMessage], outcome := some (.ok pdu) }
      | some (.error e, rest) =>
        if isRequestTimeout e then
          match left with
          | 0 => { sent := [request.encodedMessage], outcome := some (.error e) }
          | left + 1 =>
            let dispatched := sendAttempts unwrap request sendFails left (attempt + 1) rest
            { dispatched with sent := request.encodedMessage :: dispatched.sent }
        else { sent := [request.encodedMessage], outcome := some (.error e) }

def sendPreparedRequest (unwrap : Unwrap) (retries : ℕ) (request : PreparedRequest) (sendFails : ℕ → Bool)
    (receives : List Reception) : Dispatched := sendAttempts unwrap request sendFails retries 0 receives

end TrishulSnmp.Transport
