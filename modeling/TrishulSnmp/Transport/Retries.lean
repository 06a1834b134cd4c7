import Mathlib.Data.List.TakeWhile
import TrishulSnmp.Transport.ForeignTraffic

namespace TrishulSnmp.Transport

section Retries

variable (unwrap : Unwrap) (requestId : ℤ)

def Answers (data : Bytes) (pdu : Pdu) : Prop :=
  unwrap data = .ok (some pdu) ∧ pdu.pduType = .response ∧ pdu.requestId = requestId

def Skipped (data : Bytes) : Prop :=
  unwrap data = .ok none ∨ ∃ pdu, unwrap data = .ok (some pdu) ∧ pdu.pduType = .response ∧ pdu.requestId ≠ requestId

def Scripted : Reception → Prop
  | .timedOut => True
  | .failed => False
  | .datagram data => Skipped unwrap requestId data ∨ ∃ pdu, Answers unwrap requestId data pdu

def answerOf (data : Bytes) : Option Pdu :=
  match unwrap data with
  | .ok (some pdu) => if pdu.pduType = .response ∧ pdu.requestId = requestId then some pdu else none
  | _ => none

def answerIn : Reception → Option Pdu
  | .datagram data => answerOf unwrap requestId data
  | .timedOut | .failed => none

def firstAnswer (script : List Reception) : Option Pdu := script.findSome? (answerIn unwrap requestId)

def timeoutsBeforeAnswer (script : List Reception) : ℕ :=
  (script.takeWhile fun reception => (answerIn unwrap requestId reception).isNone).count .timedOut

variable {unwrap requestId}

theorem Skipped.matchResponse {data : Bytes} (h : Skipped unwrap requestId data) :
    matchResponse unwrap requestId data = .ok none := by
  obtain hnone | ⟨pdu, hpdu, htype, hid⟩ := h
  · exact matchResponse_none hnone
  · exact matchResponse_other hpdu htype hid

theorem answerOf_iff {data : Bytes} {pdu : Pdu} :
    answerOf unwrap requestId data = some pdu ↔ Answers unwrap requestId data pdu := by
  unfold answerOf Answers
  split
  next other hother =>
    simp only [hother, Except.ok.injEq, Option.some.injEq]
    constructor
    · intro h
      split_ifs at h with hrule
      cases h
      exact ⟨rfl, hrule⟩
    · rintro ⟨rfl, hrule⟩
      exact if_pos hrule
  next hno => exact ⟨nofun, fun h => absurd h.1 (hno pdu)⟩

theorem Skipped.answerOf {data : Bytes} (h : Skipped unwrap requestId data) :
    answerOf unwrap requestId data = none := by
  unfold Transport.answerOf
  obtain hnone | ⟨pdu, hpdu, -, hid⟩ := h
  · rw [hnone]
  · simp [hpdu, hid]

theorem timeouts_skipped {data : Bytes} (h : Skipped unwrap requestId data) (script : List Reception) :
    timeoutsBeforeAnswer unwrap requestId (.datagram data :: script) =
      timeoutsBeforeAnswer unwrap requestId script := by
  simp [timeoutsBeforeAnswer, answerIn, h.answerOf]

theorem timeouts_answer {data : Bytes} {pdu : Pdu} (h : Answers unwrap requestId data pdu)
    (script : List Reception) : timeoutsBeforeAnswer unwrap requestId (.datagram data :: script) = 0 := by
  simp [timeoutsBeforeAnswer, answerIn, answerOf_iff.mpr h]

theorem timeouts_timedOut (script : List Reception) :
    timeoutsBeforeAnswer unwrap requestId (.timedOut :: script) = timeoutsBeforeAnswer unwrap requestId script + 1 := by
  simp [timeoutsBeforeAnswer, answerIn]

section Attempts

variable {request : PreparedRequest} {left attempt : ℕ} {script : List Reception}

def accepts : ℕ → Bool := fun _ => false

theorem sendAttempts_nil : sendAttempts unwrap request accepts left attempt [] =
    { sent := [request.encodedMessage], outcome := none } := by
  unfold sendAttempts
  rfl

theorem sendAttempts_skipped {data : Bytes} (h : Skipped unwrap request.requestId data) :
    sendAttempts unwrap request accepts left attempt (.datagram data :: script) =
      sendAttempts unwrap request accepts left attempt script := by
  unfold sendAttempts
  rw [receiveMatchingResponse, h.matchResponse]

theorem sendAttempts_answered {data : Bytes} {pdu : Pdu} (h : Answers unwrap request.requestId data pdu) :
    sendAttempts unwrap request accepts left attempt (.datagram data :: script) =
      { sent := [request.encodedMessage], outcome := some (.ok pdu) } := by
  unfold sendAttempts
  rw [receiveMatchingResponse, matchResponse_answer h.1 h.2.1 h.2.2]
  rfl

theorem sendAttempts_exhausted : sendAttempts unwrap request accepts 0 attempt (.timedOut :: script) =
    { sent := [request.encodedMessage], outcome := some (.error receiveTimeout) } := by
  unfold sendAttempts
  rfl

theorem sendAttempts_again : sendAttempts unwrap request accepts (left + 1) attempt (.timedOut :: script) =
    { sendAttempts unwrap request accepts left (attempt + 1) script with
      sent := request.encodedMessage :: (sendAttempts unwrap request accepts left (attempt + 1) script).sent } := by
  rw [sendAttempts]
  rfl

theorem sendAttempts_scripted (h : ∀ reception ∈ script, Scripted unwrap request.requestId reception) :
    sendAttempts unwrap request accepts left attempt script =
      { sent := List.replicate (min (timeoutsBeforeAnswer unwrap request.requestId script) left + 1)
          request.encodedMessage
        outcome := if left < timeoutsBeforeAnswer unwrap request.requestId script then some (.error receiveTimeout)
          else (firstAnswer unwrap request.requestId script).map .ok } := by
  induction script generalizing left attempt with
  | nil => simp [sendAttempts_nil, timeoutsBeforeAnswer, firstAnswer]
  | cons reception script ih =>
    obtain ⟨hreception, hscript⟩ := List.forall_mem_cons.mp h
    cases reception with
    | failed => exact absurd hreception not_false
    | timedOut =>
      have hfirst : firstAnswer unwrap request.requestId (.timedOut :: script) =
          firstAnswer unwrap request.requestId script := rfl
      rw [timeouts_timedOut, hfirst]
      cases left with
      | zero => simp [sendAttempts_exhausted]
      | succ left => simp [sendAttempts_again, ih hscript, List.replicate_succ]
    | datagram data =>
      obtain hskipped | ⟨pdu, hanswer⟩ := hreception
      · have hfirst : firstAnswer unwrap request.requestId (.datagram data :: script) =
            firstAnswer unwrap request.requestId script := by simp [firstAnswer, answerIn, hskipped.answerOf]
        rw [sendAttempts_skipped hskipped, timeouts_skipped hskipped, hfirst, ih hscript]
      · simp [sendAttempts_answered hanswer, timeouts_answer hanswer, firstAnswer, answerIn, answerOf_iff.mpr hanswer]

end Attempts

section Outcomes

variable {retries timeouts : ℕ} {first : Option Pdu}

theorem waiting_iff : (if retries < timeouts then some (.error receiveTimeout) else first.map Except.ok) = none ↔
    timeouts ≤ retries ∧ first = none := by
  split_ifs with h
  · simp [h]
  · simp [Nat.not_lt.mp h]

theorem answered_iff {pdu : Pdu} :
    (if retries < timeouts then some (.error receiveTimeout) else first.map Except.ok) = some (.ok pdu) ↔
      timeouts ≤ retries ∧ first = some pdu := by
  split_ifs with h
  · simp [h]
  · simp [Nat.not_lt.mp h]

theorem exhausted_iff {e : Error} :
    (if retries < timeouts then some (.error receiveTimeout) else first.map Except.ok) = some (.error e) ↔
      e = receiveTimeout ∧ retries + 1 ≤ timeouts := by
  rw [Nat.succ_le_iff]
  split_ifs with h
  · simp [h, eq_comm]
  · simp [h]

end Outcomes

theorem timeouts_append {script : List Reception} {reception : Reception}
    (h : timeoutsBeforeAnswer unwrap requestId (script ++ [reception]) ≠
      timeoutsBeforeAnswer unwrap requestId script) :
    reception = .timedOut ∧ firstAnswer unwrap requestId script = none := by
  unfold timeoutsBeforeAnswer at h
  rw [List.takeWhile_append] at h
  split_ifs at h with hall
  · have htake := (List.takeWhile_prefix _).eq_of_length hall
    rw [htake, List.count_append] at h
    constructor
    · by_contra hreception
      apply h
      have hnone : Reception.timedOut ∉ [reception].takeWhile fun reception =>
          (answerIn unwrap requestId reception).isNone := fun hmem =>
        hreception (List.mem_singleton.mp ((List.takeWhile_sublist _).subset hmem)).symm
      rw [List.count_eq_zero.mpr hnone, add_zero]
    · apply List.findSome?_eq_none_iff.mpr
      intro earlier hmem
      have hpass := List.takeWhile_eq_self_iff.mp htake earlier hmem
      exact Option.isNone_iff_eq_none.mp hpass
  · exact absurd rfl h

theorem timeouts_eq_count {script : List Reception} (h : firstAnswer unwrap requestId script = none) :
    timeoutsBeforeAnswer unwrap requestId script = script.count .timedOut := by
  have hpass := List.findSome?_eq_none_iff.mp h
  unfold timeoutsBeforeAnswer
  rw [List.takeWhile_eq_self_iff.mpr fun reception hmem => Option.isNone_iff_eq_none.mpr (hpass reception hmem)]

theorem firstAnswer_append {script : List Reception} (h : firstAnswer unwrap requestId script = none)
    (reception : Reception) :
    firstAnswer unwrap requestId (script ++ [reception]) = answerIn unwrap requestId reception := by
  unfold firstAnswer at h ⊢
  rw [List.findSome?_append, h, Option.none_or, List.findSome?_singleton]

theorem timeouts_timedOut_last {script : List Reception} (h : firstAnswer unwrap requestId script = none) :
    timeoutsBeforeAnswer unwrap requestId (script ++ [.timedOut]) =
      timeoutsBeforeAnswer unwrap requestId script + 1 := by
  rw [timeouts_eq_count h, timeouts_eq_count (firstAnswer_append h .timedOut), List.count_append]
  rfl

theorem scripted_append {script : List Reception} {reception : Reception}
    (h : ∀ earlier ∈ script, Scripted unwrap requestId earlier) (hlast : Scripted unwrap requestId reception) :
    ∀ earlier ∈ script ++ [reception], Scripted unwrap requestId earlier := by
  intro earlier hmem
  obtain hmem | hmem := List.mem_append.mp hmem
  · exact h earlier hmem
  · rwa [List.mem_singleton.mp hmem]

theorem retries_accounted (unwrap : Unwrap) (retries : ℕ) (request : PreparedRequest) {script : List Reception}
    (hscript : ∀ reception ∈ script, Scripted unwrap request.requestId reception) :
    let send := sendPreparedRequest unwrap retries request accepts
    let timeouts := timeoutsBeforeAnswer unwrap request.requestId script
    (∃ attempts ≤ retries + 1, (send script).sent = List.replicate attempts request.encodedMessage) ∧
    (∀ reception, Scripted unwrap request.requestId reception →
      (send (script ++ [reception])).sent ≠ (send script).sent →
      reception = .timedOut ∧ (send script).outcome = none ∧
        (send (script ++ [reception])).sent = (send script).sent ++ [request.encodedMessage]) ∧
    (∀ pdu, (send script).outcome = some (.ok pdu) ↔
      timeouts ≤ retries ∧ firstAnswer unwrap request.requestId script = some pdu) ∧
    (∀ pdu, (send script).outcome = some (.ok pdu) → (send script).sent.length = timeouts + 1) ∧
    (∀ e, (send script).outcome = some (.error e) ↔ e = receiveTimeout ∧ retries + 1 ≤ timeouts) ∧
    (∀ data pdu, Answers unwrap request.requestId data pdu → (send script).outcome = none →
      (send (script ++ [.datagram data])).outcome = some (.ok pdu) ∧
        (send (script ++ [.datagram data])).sent = (send script).sent) := by
  intro send timeouts
  have hrun : send script = _ := sendAttempts_scripted hscript
  have hwaiting : (send script).outcome = none ↔
      timeouts ≤ retries ∧ firstAnswer unwrap request.requestId script = none := by
    rw [hrun]
    exact waiting_iff
  refine ⟨⟨min timeouts retries + 1, by omega, by rw [hrun]⟩, ?_, ?_, ?_, ?_, ?_⟩
  · intro reception hreception hsent
    have hlater : send (script ++ [reception]) = _ := sendAttempts_scripted (scripted_append hscript hreception)
    rw [hlater, hrun] at hsent
    obtain ⟨rfl, hfirst⟩ := timeouts_append fun hsame => hsent (by rw [hsame])
    have hnext := timeouts_timedOut_last hfirst
    rw [hnext] at hsent
    have hleft : timeouts < retries := by
      by_contra hnot
      apply hsent
      rw [Nat.min_eq_right (Nat.not_lt.mp hnot), Nat.min_eq_right (by omega)]
    refine ⟨rfl, hwaiting.mpr ⟨hleft.le, hfirst⟩, ?_⟩
    rw [hlater, hrun, hnext, Nat.min_eq_left hleft, Nat.min_eq_left hleft.le, List.replicate_succ']
  · intro pdu
    rw [hrun]
    exact answered_iff
  · intro pdu hpdu
    rw [hrun] at hpdu ⊢
    have htimeouts := (answered_iff.mp hpdu).1
    rw [List.length_replicate, Nat.min_eq_left htimeouts]
  · intro e
    rw [hrun]
    exact exhausted_iff
  · intro data pdu hanswer hnone
    obtain ⟨hleft, hfirst⟩ := hwaiting.mp hnone
    have hlater : send (script ++ [.datagram data]) = _ :=
      sendAttempts_scripted (scripted_append hscript (.inr ⟨pdu, hanswer⟩))
    have hsame : timeoutsBeforeAnswer unwrap request.requestId (script ++ [.datagram data]) = timeouts := by
      by_contra hnot
      exact nomatch (timeouts_append hnot).1
    rw [hlater, hrun, hsame, if_neg (Nat.not_lt.mpr hleft), firstAnswer_append hfirst, answerIn,
      answerOf_iff.mpr hanswer]
    exact ⟨rfl, rfl⟩

def lateResponse : List Reception :=
  [.timedOut, .datagram (ShippedModel.responseTo 9), .datagram (ShippedModel.responseTo 1)]

theorem retries_accounted_sample :
    sendPreparedRequest (CommunityModel.mk "p").unwrapMessage 1 ⟨1, [48]⟩ accepts lateResponse =
      { sent := [[48], [48]], outcome := some (.ok ⟨.response, 1, 0, 0, []⟩) } := by
  have hscript : ∀ reception ∈ lateResponse, Scripted (CommunityModel.mk "p").unwrapMessage 1 reception := by
    simp only [lateResponse, List.forall_mem_cons]
    refine ⟨trivial, .inl (.inr ⟨⟨.response, 9, 0, 0, []⟩, ?_, rfl, by decide⟩), ?_, by simp⟩
    · decide +kernel
    · exact .inr ⟨⟨.response, 1, 0, 0, []⟩, by decide +kernel, rfl, rfl⟩
  obtain ⟨⟨attempts, -, hsent⟩, -, hanswered, hlength, -⟩ :=
    retries_accounted (CommunityModel.mk "p").unwrapMessage 1 ⟨1, [48]⟩ hscript
  generalize sendPreparedRequest (CommunityModel.mk "p").unwrapMessage 1 ⟨1, [48]⟩ accepts lateResponse = run at *
  have houtcome : run.outcome = some (.ok ⟨.response, 1, 0, 0, []⟩) :=
    (hanswered _).mpr ⟨by decide +kernel, by decide +kernel⟩
  have htwo : attempts = 2 := by
    have h := hlength _ houtcome
    rw [hsent, List.length_replicate] at h
    exact h.trans (by decide +kernel)
  obtain ⟨sent, outcome⟩ := run
  rw [htwo] at hsent
  cases hsent
  cases houtcome
  rfl

end Retries

end TrishulSnmp.Transport
