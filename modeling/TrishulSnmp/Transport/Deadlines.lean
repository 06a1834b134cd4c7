import Mathlib.Data.NNRat.Defs
import Mathlib.Tactic.Linarith
import Mathlib.Tactic.Ring
import TrishulSnmp.Transport.ForeignTraffic

namespace TrishulSnmp.Transport

open Outcome Wire

/-! Requests against a clock. Sending and decoding take no time; what takes time is waiting. -/

structure Arrival where
  time : ℚ
  data : Bytes
  deriving DecidableEq

def arrivals (start : ℚ) : List (ℚ≥0 × Bytes) → List Arrival
  | [] => []
  | (gap, data) :: gaps => { time := start + gap, data := data } :: arrivals (start + gap) gaps

namespace Timed

variable (timeout : ℚ)

/-- `UdpClient.receive`: the moment it ends at, what it gives, and the datagrams that are left. Where a
datagram comes at the very deadline the deadline wins. -/
def receive (now : ℚ) : List Arrival → ℚ × Reception × List Arrival
  | [] => (now + timeout, .timedOut, [])
  | arrival :: rest =>
    if arrival.time < now + timeout then (max now arrival.time, .datagram arrival.data, rest)
    else (now + timeout, .timedOut, arrival :: rest)

structure Ended where
  time : ℚ
  result : Except Error Pdu
  left : List Arrival

variable (unwrap : Unwrap)

def receiveMatchingResponse (requestId : ℤ) : ℚ → List Arrival → Ended
  | now, [] => { time := now + timeout, result := .error receiveTimeout, left := [] }
  | now, arrival :: rest =>
    if arrival.time < now + timeout then
      match matchResponse unwrap requestId arrival.data with
      | .error e => { time := max now arrival.time, result := .error e, left := rest }
      | .ok none => receiveMatchingResponse requestId (max now arrival.time) rest
      | .ok (some pdu) => { time := max now arrival.time, result := .ok pdu, left := rest }
    else { time := now + timeout, result := .error receiveTimeout, left := arrival :: rest }

def sendAttempts (request : PreparedRequest) : ℕ → ℚ → List Arrival → ℚ × Except Error Pdu
  | left, now, schedule =>
    let ended := receiveMatchingResponse timeout unwrap request.requestId now schedule
    match ended.result with
    | .ok pdu => (ended.time, .ok pdu)
    | .error e =>
      if isRequestTimeout e then
        match left with
        | 0 => (ended.time, .error e)
        | left + 1 => sendAttempts request left ended.time ended.left
      else (ended.time, .error e)

def sendPreparedRequest (retries : ℕ) (request : PreparedRequest) (schedule : List Arrival) : ℚ × Except Error Pdu :=
  sendAttempts timeout unwrap request retries 0 schedule

def receptions : ℕ → ℚ → List Arrival → List Reception
  | 0, _, _ => []
  | calls + 1, now, schedule =>
    let (time, reception, rest) := receive timeout now schedule
    reception :: receptions calls time rest

variable {timeout unwrap} {requestId : ℤ}

theorem receive_refines (now : ℚ) (schedule : List Arrival) {calls extra : ℕ}
    (hcalls : schedule.length + extra < calls) :
    let ended := receiveMatchingResponse timeout unwrap requestId now schedule
    ∃ calls', ended.left.length + extra ≤ calls' ∧
      Transport.receiveMatchingResponse unwrap requestId (receptions timeout calls now schedule) =
        some (ended.result, receptions timeout calls' ended.time ended.left) := by
  induction schedule generalizing now calls with
  | nil =>
    obtain ⟨calls, rfl⟩ := Nat.exists_eq_add_one_of_ne_zero (Nat.ne_zero_of_lt hcalls)
    exact ⟨calls, Nat.le_of_lt_succ hcalls, rfl⟩
  | cons arrival rest ih =>
    obtain ⟨calls, rfl⟩ := Nat.exists_eq_add_one_of_ne_zero (Nat.ne_zero_of_lt hcalls)
    rw [List.length_cons] at hcalls
    have hrest : rest.length + extra < calls := by omega
    by_cases hearly : arrival.time < now + timeout
    · simp only [receptions, receive, receiveMatchingResponse, if_pos hearly, Transport.receiveMatchingResponse]
      cases matchResponse unwrap requestId arrival.data with
      | error e => exact ⟨calls, hrest.le, rfl⟩
      | ok found =>
        cases found with
        | none => exact ih _ hrest
        | some pdu => exact ⟨calls, hrest.le, rfl⟩
    · simp only [receptions, receive, receiveMatchingResponse, if_neg hearly, Transport.receiveMatchingResponse]
      exact ⟨calls, by rw [List.length_cons]; omega, rfl⟩

theorem sendAttempts_refines (request : PreparedRequest) (left attempt : ℕ) (now : ℚ) (schedule : List Arrival)
    {calls : ℕ} (hcalls : schedule.length + left < calls) :
    (Transport.sendAttempts unwrap request (fun _ => false) left attempt
      (receptions timeout calls now schedule)).outcome =
      some (sendAttempts timeout unwrap request left now schedule).2 := by
  induction left generalizing attempt now schedule calls with
  | zero =>
    obtain ⟨calls', -, hreceive⟩ := @receive_refines timeout unwrap request.requestId now schedule _ 0 hcalls
    rw [Transport.sendAttempts, sendAttempts, hreceive]
    cases (receiveMatchingResponse timeout unwrap request.requestId now schedule).result with
    | ok pdu => rfl
    | error e => by_cases htimeout : isRequestTimeout e <;> simp [htimeout]
  | succ left ih =>
    obtain ⟨calls', hleft, hreceive⟩ := @receive_refines timeout unwrap request.requestId now schedule _ _ hcalls
    rw [Transport.sendAttempts, sendAttempts, hreceive]
    cases (receiveMatchingResponse timeout unwrap request.requestId now schedule).result with
    | ok pdu => rfl
    | error e =>
      by_cases htimeout : isRequestTimeout e
      · simp only [htimeout, if_true, Bool.false_eq_true, if_false]
        exact ih _ _ _ (by omega)
      · simp [htimeout]

theorem timed_refines (retries : ℕ) (request : PreparedRequest) (schedule : List Arrival) {calls : ℕ}
    (hcalls : schedule.length + retries < calls) :
    (Transport.sendPreparedRequest unwrap retries request (fun _ => false)
      (receptions timeout calls 0 schedule)).outcome =
      some (sendPreparedRequest timeout unwrap retries request schedule).2 :=
  sendAttempts_refines request retries 0 0 schedule hcalls

def RaisesBy (deadline : ℚ) (run : ℚ × Except Error Pdu) : Prop :=
  ∃ e, run.2 = .error e ∧ isRequestTimeout e ∧ run.1 ≤ deadline

def Undisturbed (timeout : ℚ) (unwrap : Unwrap) (requestId : ℤ) (now : ℚ) (schedule : List Arrival) : Prop :=
  ∀ arrival ∈ schedule, arrival.time < now + timeout → Ignored unwrap requestId arrival.data ∧ arrival.time ≤ now

def Ordered (schedule : List Arrival) : Prop := schedule.Pairwise fun earlier later => earlier.time ≤ later.time

def later (moment : ℚ) (schedule : List Arrival) : List Arrival := schedule.filter fun arrival => moment ≤ arrival.time

theorem mem_later {moment : ℚ} {schedule : List Arrival} {arrival : Arrival} :
    arrival ∈ later moment schedule ↔ arrival ∈ schedule ∧ moment ≤ arrival.time := by simp [later]

theorem Ordered.later {schedule : List Arrival} (h : Ordered schedule) (moment : ℚ) : Ordered (later moment schedule) :=
  h.sublist List.filter_sublist

theorem arrivals_ordered (start : ℚ) (gaps : List (ℚ≥0 × Bytes)) :
    Ordered (arrivals start gaps) ∧ ∀ arrival ∈ arrivals start gaps, start ≤ arrival.time := by
  induction gaps generalizing start with
  | nil => exact ⟨.nil, by simp [arrivals]⟩
  | cons first gaps ih =>
    obtain ⟨gap, data⟩ := first
    obtain ⟨hordered, hstart⟩ := ih (start + gap)
    have hgap : (0 : ℚ) ≤ gap := gap.coe_nonneg
    refine ⟨.cons hstart hordered, List.forall_mem_cons.mpr ⟨le_add_of_nonneg_right hgap, fun arrival hmem => ?_⟩⟩
    exact (le_add_of_nonneg_right hgap).trans (hstart arrival hmem)

theorem receive_undisturbed {now : ℚ} {schedule : List Arrival} (hordered : Ordered schedule)
    (h : Undisturbed timeout unwrap requestId now schedule) :
    receiveMatchingResponse timeout unwrap requestId now schedule =
      { time := now + timeout
        result := .error receiveTimeout
        left := later (now + timeout) schedule } := by
  induction schedule with
  | nil => rfl
  | cons arrival rest ih =>
    obtain ⟨hfirst, hrest⟩ := List.forall_mem_cons.mp h
    obtain ⟨hlater, hordered⟩ := List.pairwise_cons.mp hordered
    rw [receiveMatchingResponse]
    by_cases hearly : arrival.time < now + timeout
    · obtain ⟨hignored, hnow⟩ := hfirst hearly
      rw [Ignored] at hignored
      simp only [if_pos hearly, hignored, max_eq_left hnow, ih hordered hrest]
      rw [later, later, List.filter_cons_of_neg (by simpa using hearly)]
    · have hall : ∀ later ∈ arrival :: rest, now + timeout ≤ later.time := by
        refine List.forall_mem_cons.mpr ⟨not_lt.mp hearly, fun later hmem => ?_⟩
        exact (not_lt.mp hearly).trans (hlater later hmem)
      rw [if_neg hearly, later, List.filter_eq_self.mpr (by simpa using hall)]

def RaisesOther (unwrap : Unwrap) (requestId : ℤ) : Prop :=
  ∀ data, FailsOnly (fun e => isRequestTimeout e = false) (matchResponse unwrap requestId data)

theorem receive_late (hraises : RaisesOther unwrap requestId) {now : ℚ} {schedule : List Arrival}
    (hordered : Ordered schedule) {e : Error}
    (hresult : (receiveMatchingResponse timeout unwrap requestId now schedule).result = .error e)
    (htimeout : isRequestTimeout e) :
    now + timeout ≤ (receiveMatchingResponse timeout unwrap requestId now schedule).time ∧
      ((receiveMatchingResponse timeout unwrap requestId now schedule).time ≤ now + timeout →
        Undisturbed timeout unwrap requestId now schedule) := by
  induction schedule generalizing now with
  | nil => exact ⟨le_rfl, fun _ => nofun⟩
  | cons arrival rest ih =>
    obtain ⟨hlater, hrest⟩ := List.pairwise_cons.mp hordered
    rw [receiveMatchingResponse] at hresult ⊢
    by_cases hearly : arrival.time < now + timeout
    · rw [if_pos hearly] at hresult ⊢
      cases hmatch : matchResponse unwrap requestId arrival.data with
      | error e' =>
        rw [hmatch] at hresult
        obtain rfl := Except.error.inj hresult
        simp [hraises arrival.data _ hmatch] at htimeout
      | ok found =>
        cases found with
        | some pdu =>
          rw [hmatch] at hresult
          cases hresult
        | none =>
          rw [hmatch] at hresult
          obtain ⟨hlong, hquiet⟩ := ih hrest hresult
          have hnow := le_max_left now arrival.time
          refine ⟨(add_le_add_left hnow timeout).trans hlong, fun hshort => ?_⟩
          have hsame : max now arrival.time = now := le_antisymm (by linarith) hnow
          simp only [hsame] at hshort hquiet
          exact List.forall_mem_cons.mpr ⟨fun _ => ⟨hmatch, max_eq_left_iff.mp hsame⟩, hquiet hshort⟩
    · rw [if_neg hearly]
      refine ⟨le_rfl, fun _ => List.forall_mem_cons.mpr ⟨fun h => absurd h hearly, fun later hmem h => ?_⟩⟩
      exact absurd ((hlater later hmem).trans_lt h) hearly

/-- Every datagram before the last deadline is skipped, and comes just when an attempt starts. -/
def OnlyAtStarts (timeout : ℚ) (unwrap : Unwrap) (requestId : ℤ) (start : ℚ) (attempts : ℕ) (schedule : List Arrival) :
    Prop :=
  ∀ arrival ∈ schedule, arrival.time < start + attempts * timeout →
    Ignored unwrap requestId arrival.data ∧ ∃ attempt : ℕ, arrival.time = start + attempt * timeout

theorem onlyAtStarts_succ (hpos : 0 < timeout) {start : ℚ} {attempts : ℕ} {schedule : List Arrival}
    (hstart : ∀ arrival ∈ schedule, start ≤ arrival.time) :
    OnlyAtStarts timeout unwrap requestId start (attempts + 1) schedule ↔
      Undisturbed timeout unwrap requestId start schedule ∧
        OnlyAtStarts timeout unwrap requestId (start + timeout) attempts (later (start + timeout) schedule) := by
  have hattempts : (0 : ℚ) ≤ attempts * timeout := by positivity
  have hlast : start + (attempts + 1 : ℕ) * timeout = start + timeout + attempts * timeout := by
    push_cast
    ring
  rw [OnlyAtStarts, hlast]
  constructor
  · intro h
    refine ⟨fun arrival hmem hearly => ?_, fun arrival hmem hearly => ?_⟩
    · obtain ⟨hignored, attempt, htime⟩ := h arrival hmem (by linarith)
      refine ⟨hignored, ?_⟩
      cases attempt with
      | zero => simp [htime]
      | succ attempt =>
        have hpast : (0 : ℚ) ≤ attempt * timeout := by positivity
        push_cast at htime
        linarith
    · obtain ⟨hmem, hlate⟩ := mem_later.mp hmem
      obtain ⟨hignored, attempt, htime⟩ := h arrival hmem hearly
      refine ⟨hignored, ?_⟩
      cases attempt with
      | zero => simp only [Nat.cast_zero, zero_mul, add_zero] at htime; linarith
      | succ attempt =>
        refine ⟨attempt, ?_⟩
        push_cast at htime
        linarith
  · rintro ⟨hfirst, hrest⟩ arrival hmem hearly
    by_cases hwait : arrival.time < start + timeout
    · obtain ⟨hignored, hnow⟩ := hfirst arrival hmem hwait
      exact ⟨hignored, 0, by simpa using le_antisymm hnow (hstart arrival hmem)⟩
    · have hlate := not_lt.mp hwait
      obtain ⟨hignored, attempt, htime⟩ := hrest arrival (mem_later.mpr ⟨hmem, hlate⟩) hearly
      refine ⟨hignored, attempt + 1, ?_⟩
      push_cast
      linarith

theorem receive_left_suffix (now : ℚ) (schedule : List Arrival) :
    (receiveMatchingResponse timeout unwrap requestId now schedule).left <:+ schedule := by
  induction schedule generalizing now with
  | nil => exact List.suffix_rfl
  | cons arrival rest ih =>
    rw [receiveMatchingResponse]
    by_cases hearly : arrival.time < now + timeout
    · rw [if_pos hearly]
      cases matchResponse unwrap requestId arrival.data with
      | error e => exact List.suffix_cons ..
      | ok found =>
        cases found with
        | none => exact (ih _).trans (List.suffix_cons ..)
        | some pdu => exact List.suffix_cons ..
    · rw [if_neg hearly]

variable {request : PreparedRequest}

theorem sendAttempts_timeout {left : ℕ} {now : ℚ} {schedule : List Arrival} {e : Error}
    (hresult : (sendAttempts timeout unwrap request left now schedule).2 = .error e) (htimeout : isRequestTimeout e) :
    let ended := receiveMatchingResponse timeout unwrap request.requestId now schedule
    (∃ e', ended.result = .error e' ∧ isRequestTimeout e') ∧
      match left with
      | 0 => (sendAttempts timeout unwrap request 0 now schedule).1 = ended.time
      | left + 1 => sendAttempts timeout unwrap request (left + 1) now schedule =
          sendAttempts timeout unwrap request left ended.time ended.left := by
  intro ended
  cases hended : ended.result with
  | ok pdu =>
    rw [sendAttempts, hended] at hresult
    cases hresult
  | error e' =>
    by_cases htimeout' : isRequestTimeout e'
    · refine ⟨⟨e', rfl, htimeout'⟩, ?_⟩
      cases left with
      | zero =>
        simp only
        rw [sendAttempts, hended]
        simp [htimeout', ended]
      | succ left =>
        simp only
        rw [sendAttempts, hended]
        simp [htimeout', ended]
    · rw [sendAttempts, hended] at hresult
      simp only [if_neg htimeout'] at hresult
      obtain rfl := Except.error.inj hresult
      exact absurd htimeout htimeout'

theorem sendAttempts_late (hraises : RaisesOther unwrap request.requestId) {left : ℕ} {now : ℚ}
    {schedule : List Arrival} (hordered : Ordered schedule) {e : Error}
    (hresult : (sendAttempts timeout unwrap request left now schedule).2 = .error e) (htimeout : isRequestTimeout e) :
    now + (left + 1 : ℕ) * timeout ≤ (sendAttempts timeout unwrap request left now schedule).1 := by
  induction left generalizing now schedule with
  | zero =>
    obtain ⟨⟨e', hended, htimeout'⟩, hrun⟩ := sendAttempts_timeout hresult htimeout
    have hlate := (receive_late hraises hordered hended htimeout').1
    rw [hrun]
    simpa using hlate
  | succ left ih =>
    obtain ⟨⟨e', hended, htimeout'⟩, hrun⟩ := sendAttempts_timeout hresult htimeout
    have hlate := (receive_late hraises hordered hended htimeout').1
    simp only at hrun
    rw [hrun] at hresult ⊢
    have hrest := ih (hordered.sublist (receive_left_suffix now schedule).sublist) hresult
    push_cast at hrest ⊢
    linarith

theorem sendAttempts_undisturbed {now : ℚ} {schedule : List Arrival} (hordered : Ordered schedule)
    (h : Undisturbed timeout unwrap request.requestId now schedule) (left : ℕ) :
    sendAttempts timeout unwrap request left now schedule =
      match left with
      | 0 => (now + timeout, .error receiveTimeout)
      | left + 1 => sendAttempts timeout unwrap request left (now + timeout) (later (now + timeout) schedule) := by
  have hended := receive_undisturbed hordered h
  cases left with
  | zero =>
    rw [sendAttempts, hended]
    rfl
  | succ left =>
    rw [sendAttempts, hended]
    rfl

theorem undisturbed_of_raisesBy (hraises : RaisesOther unwrap request.requestId) {left : ℕ} {now : ℚ}
    {schedule : List Arrival} (hordered : Ordered schedule)
    (h : RaisesBy (now + (left + 1 : ℕ) * timeout) (sendAttempts timeout unwrap request left now schedule)) :
    Undisturbed timeout unwrap request.requestId now schedule := by
  obtain ⟨e, hresult, htimeout, hby⟩ := h
  obtain ⟨⟨e', hended, htimeout'⟩, hrun⟩ := sendAttempts_timeout hresult htimeout
  refine (receive_late hraises hordered hended htimeout').2 ?_
  cases left with
  | zero =>
    rw [← hrun]
    simpa using hby
  | succ left =>
    simp only at hrun
    rw [hrun] at hresult hby
    have hrest := sendAttempts_late hraises (hordered.sublist (receive_left_suffix now schedule).sublist) hresult
      htimeout
    push_cast at hrest hby
    linarith

theorem raisesBy_iff (hraises : RaisesOther unwrap request.requestId) (hpos : 0 < timeout) {left : ℕ} {now : ℚ}
    {schedule : List Arrival} (hordered : Ordered schedule) (hstart : ∀ arrival ∈ schedule, now ≤ arrival.time) :
    RaisesBy (now + (left + 1 : ℕ) * timeout) (sendAttempts timeout unwrap request left now schedule) ↔
      OnlyAtStarts timeout unwrap request.requestId now (left + 1) schedule := by
  have hlater : ∀ arrival ∈ later (now + timeout) schedule, now + timeout ≤ arrival.time :=
    fun arrival hmem => (mem_later.mp hmem).2
  induction left generalizing now schedule with
  | zero =>
    rw [onlyAtStarts_succ hpos hstart]
    constructor
    · intro h
      refine ⟨undisturbed_of_raisesBy hraises hordered h, fun arrival hmem hearly => ?_⟩
      have := hlater arrival hmem
      simp only [Nat.cast_zero, zero_mul, add_zero] at hearly
      exact absurd hearly (not_lt.mpr this)
    · rintro ⟨hquiet, -⟩
      rw [sendAttempts_undisturbed hordered hquiet]
      exact ⟨_, rfl, rfl, by simp⟩
  | succ left ih =>
    have hdeadline : now + (left + 1 + 1 : ℕ) * timeout = now + timeout + (left + 1 : ℕ) * timeout := by
      push_cast
      ring
    have hrest : RaisesBy (now + timeout + (left + 1 : ℕ) * timeout)
          (sendAttempts timeout unwrap request left (now + timeout) (later (now + timeout) schedule)) ↔
        OnlyAtStarts timeout unwrap request.requestId (now + timeout) (left + 1) (later (now + timeout) schedule) :=
      ih (hordered.later _) hlater fun arrival hmem => (mem_later.mp hmem).2
    rw [onlyAtStarts_succ hpos hstart, ← hrest, hdeadline]
    constructor
    · intro h
      have hquiet := undisturbed_of_raisesBy hraises hordered (hdeadline ▸ h)
      rw [sendAttempts_undisturbed hordered hquiet] at h
      exact ⟨hquiet, h⟩
    · rintro ⟨hquiet, h⟩
      rw [sendAttempts_undisturbed hordered hquiet]
      exact h

end Timed

namespace ShippedModel

variable {security : ShippedModel}

theorem verifyAuth_notTimeout (crypto : Crypto) (model : UsmModel) (raw : Bytes) (offset : ℕ) (tag engineId : Bytes) :
    FailsOnly (fun e => isRequestTimeout e = false) (model.verifyAuth crypto raw offset tag engineId) := by
  refine failsOnly_bind ?_ fun _ _ => failsOnly_ite (fun _ => failsOnly_error rfl) fun _ => failsOnly_ok _
  refine failsOnly_ite (fun _ => failsOnly_error rfl) fun _ => failsOnly_bind ?_ fun _ _ => failsOnly_ok _
  refine failsOnly_ite (fun _ => failsOnly_ok _) fun _ => failsOnly_ite (fun _ => failsOnly_ok _) fun _ => ?_
  exact failsOnly_ite (fun _ => failsOnly_error rfl) fun _ => failsOnly_ok _

theorem notTimeout_of_protocolError {e : Error} (h : e.isProtocolError) : isRequestTimeout e = false := by
  cases e <;> first | rfl | cases h

theorem decryptScopedPdu_notTimeout (crypto : Crypto) (model : UsmModel) (msgData : Bytes) (params : UsmParams) :
    FailsOnly (fun e => isRequestTimeout e = false) (model.decryptScopedPdu crypto msgData params) := by
  have hpack (n : ℤ) : FailsOnly (fun e => isRequestTimeout e = false) (packUnsigned n) :=
    failsOnly_ite (fun _ => failsOnly_ok _) fun _ => failsOnly_error rfl
  have hkey (engineId : Bytes) : FailsOnly (fun e => isRequestTimeout e = false)
      (model.privKeyAes128 crypto engineId) := by
    refine failsOnly_ite (fun _ => failsOnly_bind ?_ fun _ _ => failsOnly_ok _) fun _ => failsOnly_error rfl
    exact failsOnly_ite (fun _ => failsOnly_error rfl) fun _ => failsOnly_ok _
  rw [UsmModel.decryptScopedPdu]
  split
  · refine failsOnly_bind ((Ber.decodeTlv_failsOnly _ _).imp fun _ => notTimeout_of_protocolError) fun _ _ => ?_
    refine failsOnly_ite (fun _ => failsOnly_error rfl) fun _ => failsOnly_ite (fun _ => failsOnly_error rfl) fun _ =>
      ?_
    refine failsOnly_bind (hkey _) fun _ _ => failsOnly_bind (hpack _) fun _ _ => ?_
    exact failsOnly_bind (hpack _) fun _ _ => failsOnly_ok _
  · exact failsOnly_error rfl
  · exact failsOnly_error rfl

theorem decodeV3Message_notTimeout {data : Bytes} {e : Error} (h : decodeV3Message data = .error e) :
    isRequestTimeout e = false := by
  by_cases hhuge : HugeV3Number data
  · obtain ⟨text, htext⟩ := decodeV3Message_huge hhuge
    rw [h] at htext
    cases htext
    rfl
  · exact notTimeout_of_protocolError (decodeV3Message_failsOnly hhuge e h)

theorem scopedPduOf_notTimeout (crypto : Crypto) (model : UsmModel) (data : Bytes) (view : V3MessageView) :
    FailsOnly (fun e => isRequestTimeout e = false) (model.scopedPduOf crypto data view) := by
  have hopen : FailsOnly (fun e => isRequestTimeout e = false) (if model.user.privProtocol ≠ .none then
      model.decryptScopedPdu crypto view.msgDataBytes view.usmParams else pure view.msgDataBytes) :=
    failsOnly_ite (fun _ => decryptScopedPdu_notTimeout crypto model _ _) fun _ => failsOnly_ok _
  rw [UsmModel.scopedPduOf]
  by_cases hauth : model.authEnabled = true
  · rw [if_pos hauth]
    exact failsOnly_bind (verifyAuth_notTimeout crypto model _ _ _ _) fun _ _ => hopen
  · rw [if_neg hauth]
    exact hopen

theorem unwrap_notTimeout (security : ShippedModel) (data : Bytes) :
    FailsOnly (fun e => isRequestTimeout e = false) (security.unwrapMessage data) := by
  cases security with
  | community model =>
    refine failsOnly_bind (fun e he => not_timeout_of_decodeMessage he) fun _ _ => ?_
    exact failsOnly_ite (fun _ => failsOnly_ok _) fun _ => failsOnly_ok _
  | usm crypto model =>
    rw [unwrapMessage, UsmModel.unwrapMessage]
    split
    · rename_i e he
      exact failsOnly_ite (fun _ => failsOnly_ok _) fun _ => failsOnly_error (decodeV3Message_notTimeout he)
    · refine failsOnly_ite (fun _ => failsOnly_ok _) fun _ => failsOnly_ite (fun _ => failsOnly_ok _) fun _ => ?_
      refine failsOnly_bind (scopedPduOf_notTimeout crypto model _ _) fun msgData _ => ?_
      split
      · rename_i e he
        have hprotocol := decodeScopedPdu_failsOnly msgData e he
        exact failsOnly_ite (fun _ => failsOnly_ok _) fun _ => failsOnly_error (notTimeout_of_protocolError hprotocol)
      · exact failsOnly_ok _

theorem raisesOther (security : ShippedModel) (requestId : ℤ) : Timed.RaisesOther security.unwrapMessage requestId := by
  intro data
  refine failsOnly_bind (unwrap_notTimeout security data) fun found _ => ?_
  cases found with
  | none => exact failsOnly_ok _
  | some pdu =>
    exact failsOnly_ite (fun _ => failsOnly_error rfl) fun _ => failsOnly_ite (fun _ => failsOnly_ok _) fun _ =>
      failsOnly_ok _

theorem timeout_bounds_request_iff (security : ShippedModel) (retries : ℕ) (request : PreparedRequest) (timeout : ℚ)
    (hpos : 0 < timeout) (gaps : List (ℚ≥0 × Bytes)) :
    Timed.RaisesBy ((retries + 1) * timeout)
        (Timed.sendPreparedRequest timeout security.unwrapMessage retries request (arrivals 0 gaps)) ↔
      ∀ arrival ∈ arrivals 0 gaps, arrival.time < (retries + 1) * timeout →
        Ignored security.unwrapMessage request.requestId arrival.data ∧
        ∃ attempt : ℕ, arrival.time = attempt * timeout := by
  obtain ⟨hordered, hstart⟩ := Timed.arrivals_ordered 0 gaps
  have h := @Timed.raisesBy_iff timeout _ request (security.raisesOther request.requestId) hpos retries _ _ hordered
    hstart
  rw [Timed.sendPreparedRequest]
  simpa only [Timed.OnlyAtStarts, zero_add, Nat.cast_add, Nat.cast_one] using h

theorem skipped_datagram_extends_timeout :
    matchResponse (community ⟨"p"⟩).unwrapMessage 1 (responseTo 9) = .ok none ∧
      Timed.sendPreparedRequest 1 (community ⟨"p"⟩).unwrapMessage 0 ⟨1, []⟩ (arrivals 0 [(1 / 2, responseTo 9)]) =
        (3 / 2, .error receiveTimeout) ∧
      ¬ Timed.RaisesBy ((0 + 1) * 1) (Timed.sendPreparedRequest 1 (community ⟨"p"⟩).unwrapMessage 0 ⟨1, []⟩
        (arrivals 0 [(1 / 2, responseTo 9)])) := by
  have hrun : Timed.sendPreparedRequest 1 (community ⟨"p"⟩).unwrapMessage 0 ⟨1, []⟩
    (arrivals 0 [(1 / 2, responseTo 9)]) =
      (3 / 2, .error receiveTimeout) := by decide +kernel
  refine ⟨by decide +kernel, hrun, ?_⟩
  rw [hrun]
  rintro ⟨e, -, -, hby⟩
  norm_num at hby

theorem timeout_bounds_request_sample : Timed.RaisesBy ((1 + 1) * 2)
    (Timed.sendPreparedRequest 2 (community ⟨"p"⟩).unwrapMessage 1 ⟨1, []⟩
      (arrivals 0 [(2, responseTo 9), (3, [])])) := by
  have hmatch : matchResponse (community ⟨"p"⟩).unwrapMessage 1 (responseTo 9) = .ok none := by decide +kernel
  have h := timeout_bounds_request_iff (community ⟨"p"⟩) 1 ⟨1, []⟩ 2 (by norm_num) [(2, responseTo 9), (3, [])]
  norm_num at h ⊢
  apply h.mpr
  intro arrival hmem hearly
  simp only [arrivals, List.mem_cons, List.not_mem_nil, or_false] at hmem
  obtain rfl | rfl := hmem
  · exact ⟨hmatch, 1, by norm_num⟩
  · norm_num at hearly

end ShippedModel

end TrishulSnmp.Transport
