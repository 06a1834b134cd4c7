import TrishulSnmp.Security.Community
import TrishulSnmp.Security.Usm
import TrishulSnmp.Transport.Dispatcher

namespace TrishulSnmp.Transport

open Outcome Wire

/-! What datagrams that are not for a request do to it. -/

section Insertion

/-- The second script has the datagrams of the list in addition, somewhere before the end. -/
inductive Inserting : List Bytes → List Reception → List Reception → Prop
  | done (receives : List Reception) : Inserting [] receives receives
  | keep {inserted : List Bytes} {receives receives' : List Reception} (reception : Reception) :
      Inserting inserted receives receives' → Inserting inserted (reception :: receives) (reception :: receives')
  | insert {inserted : List Bytes} {receives receives' : List Reception} (data : Bytes) :
      Inserting inserted receives receives' → Inserting (data :: inserted) receives (.datagram data :: receives')

theorem Inserting.append {inserted : List Bytes} {receives receives' : List Reception}
    (h : Inserting inserted receives receives') (rest : List Reception) :
    Inserting inserted (receives ++ rest) (receives' ++ rest) := by
  induction h with
  | done => exact .done _
  | keep reception _ ih => exact .keep reception ih
  | insert data _ ih => exact .insert data ih

variable {unwrap : Unwrap} {requestId : ℤ}

def Ignored (unwrap : Unwrap) (requestId : ℤ) (data : Bytes) : Prop := matchResponse unwrap requestId data = .ok none

def Fatal (unwrap : Unwrap) (requestId : ℤ) (data : Bytes) : Prop :=
  ∃ e, matchResponse unwrap requestId data = .error e ∧ isRequestTimeout e = false

theorem Fatal.not_ignored {data : Bytes} (h : Fatal unwrap requestId data) : ¬ Ignored unwrap requestId data := by
  obtain ⟨e, he, -⟩ := h
  rw [Ignored, he]
  exact nofun

theorem receive_cons (reception : Reception) :
    (∀ rest, receiveMatchingResponse unwrap requestId (reception :: rest) =
      receiveMatchingResponse unwrap requestId rest) ∨
    ∃ result, ∀ rest, receiveMatchingResponse unwrap requestId (reception :: rest) = some (result, rest) := by
  cases reception with
  | timedOut => exact .inr ⟨_, fun _ => rfl⟩
  | failed => exact .inr ⟨_, fun _ => rfl⟩
  | datagram data =>
    simp only [receiveMatchingResponse]
    cases matchResponse unwrap requestId data with
    | error e => exact .inr ⟨_, fun _ => rfl⟩
    | ok pdu =>
      cases pdu with
      | none => exact .inl fun _ => rfl
      | some pdu => exact .inr ⟨_, fun _ => rfl⟩

theorem receive_append {receives rest : List Reception} {result : Except Error Pdu}
    (h : receiveMatchingResponse unwrap requestId receives = some (result, rest)) (behind : List Reception) :
    receiveMatchingResponse unwrap requestId (receives ++ behind) = some (result, rest ++ behind) := by
  induction receives with
  | nil => cases h
  | cons reception receives ih =>
    rw [List.cons_append]
    obtain hpass | ⟨ending, hstop⟩ := @receive_cons unwrap requestId reception
    · rw [hpass] at h ⊢
      exact ih h
    · rw [hstop] at h ⊢
      cases h
      rfl

theorem receive_waiting_append {receives : List Reception}
    (h : receiveMatchingResponse unwrap requestId receives = none) (behind : List Reception) :
    receiveMatchingResponse unwrap requestId (receives ++ behind) =
      receiveMatchingResponse unwrap requestId behind := by
  induction receives with
  | nil => rfl
  | cons reception receives ih =>
    rw [List.cons_append]
    obtain hpass | ⟨ending, hstop⟩ := @receive_cons unwrap requestId reception
    · rw [hpass] at h ⊢
      exact ih h
    · rw [hstop] at h
      cases h

theorem receive_inserting {inserted : List Bytes} {receives receives' : List Reception}
    (h : Inserting inserted receives receives') :
    (receiveMatchingResponse unwrap requestId receives = none ∧
      receiveMatchingResponse unwrap requestId receives' = none ∧ ∀ data ∈ inserted, Ignored unwrap requestId data) ∨
    (∃ result rest rest' skipped left, inserted = skipped ++ left ∧
      (∀ data ∈ skipped, Ignored unwrap requestId data) ∧
      receiveMatchingResponse unwrap requestId receives = some (result, rest) ∧
      receiveMatchingResponse unwrap requestId receives' = some (result, rest') ∧ Inserting left rest rest') ∨
    ∃ data ∈ inserted, ∃ rest', ¬ Ignored unwrap requestId data ∧
      ∀ e, matchResponse unwrap requestId data = .error e →
        receiveMatchingResponse unwrap requestId receives' = some (.error e, rest') := by
  -- the first inserted datagram that is not ignored, if the call reads that far, ends it
  induction h with
  | done receives =>
    cases hreceive : receiveMatchingResponse unwrap requestId receives with
    | none => exact .inl ⟨rfl, rfl, by simp⟩
    | some ending => exact .inr (.inl ⟨ending.1, ending.2, ending.2, [], [], rfl, by simp, rfl, rfl, .done _⟩)
  | @keep inserted receives receives' reception h ih =>
    obtain hpass | ⟨result, hstop⟩ := @receive_cons unwrap requestId reception
    · simp only [hpass]
      exact ih
    · exact .inr (.inl ⟨result, receives, receives', [], inserted, rfl, by simp, hstop _, hstop _, h⟩)
  | @insert inserted receives receives' data h ih =>
    by_cases hignored : Ignored unwrap requestId data
    · have hpass : receiveMatchingResponse unwrap requestId (.datagram data :: receives') =
          receiveMatchingResponse unwrap requestId receives' := by
        rw [Ignored] at hignored
        rw [receiveMatchingResponse, hignored]
      simp only [hpass]
      obtain ⟨hwait, hwait', hall⟩ | ⟨result, rest, rest', skipped, left, rfl, hall, hend, hend', hrest⟩ |
        ⟨other, hmem, hother⟩ := ih
      · exact .inl ⟨hwait, hwait', List.forall_mem_cons.mpr ⟨hignored, hall⟩⟩
      · refine .inr (.inl ⟨result, rest, rest', data :: skipped, left, rfl, ?_, hend, hend', hrest⟩)
        exact List.forall_mem_cons.mpr ⟨hignored, hall⟩
      · exact .inr (.inr ⟨other, List.mem_cons_of_mem _ hmem, hother⟩)
    · refine .inr (.inr ⟨data, List.mem_cons_self, receives', hignored, fun e he => ?_⟩)
      rw [receiveMatchingResponse, he]

theorem sendAttempts_inserting {request : PreparedRequest} {sendFails : ℕ → Bool} {inserted : List Bytes}
    {receives receives' : List Reception} (h : Inserting inserted receives receives')
    (hignored : ∀ data ∈ inserted, Ignored unwrap request.requestId data) (left attempt : ℕ) :
    sendAttempts unwrap request sendFails left attempt receives' =
      sendAttempts unwrap request sendFails left attempt receives := by
  induction left generalizing attempt inserted receives receives' with
  | zero =>
    unfold sendAttempts
    obtain ⟨hwait, hwait', -⟩ | ⟨result, rest, rest', skipped, later, -, -, hend, hend', -⟩ |
      ⟨data, hmem, rest', hfatal, -⟩ := @receive_inserting unwrap request.requestId _ _ _ h
    · rw [hwait, hwait']
    · rw [hend, hend']
      cases result <;> rfl
    · exact absurd (hignored data hmem) hfatal
  | succ left ih =>
    unfold sendAttempts
    obtain ⟨hwait, hwait', -⟩ | ⟨result, rest, rest', skipped, later, rfl, -, hend, hend', hrest⟩ |
      ⟨data, hmem, rest', hfatal, -⟩ := @receive_inserting unwrap request.requestId _ _ _ h
    · rw [hwait, hwait']
    · rw [hend, hend']
      cases result with
      | ok pdu => rfl
      | error e =>
        simp only
        rw [ih hrest fun data hmem => hignored data (List.mem_append_right _ hmem)]
    · exact absurd (hignored data hmem) hfatal

theorem receive_fatal {inserted : List Bytes} {receives receives' : List Reception}
    (h : Inserting inserted receives receives')
    (hall : ∀ data ∈ inserted, Ignored unwrap requestId data ∨ Fatal unwrap requestId data)
    (hfatal : ∃ data ∈ inserted, Fatal unwrap requestId data) :
    (∃ e rest, isRequestTimeout e = false ∧
      receiveMatchingResponse unwrap requestId receives' = some (.error e, rest)) ∨
    ∃ result rest rest' left, receiveMatchingResponse unwrap requestId receives = some (result, rest) ∧
      receiveMatchingResponse unwrap requestId receives' = some (result, rest') ∧ Inserting left rest rest' ∧
      (∀ data ∈ left, Ignored unwrap requestId data ∨ Fatal unwrap requestId data) ∧
      ∃ data ∈ left, Fatal unwrap requestId data := by
  obtain ⟨data, hmem, hdata⟩ := hfatal
  obtain ⟨-, -, hignored⟩ | ⟨result, rest, rest', skipped, left, rfl, hskipped, hend, hend', hrest⟩ |
    ⟨other, hother, rest', hnot, hends⟩ := @receive_inserting unwrap requestId _ _ _ h
  · exact absurd (hignored data hmem) hdata.not_ignored
  · refine .inr ⟨result, rest, rest', left, hend, hend', hrest, ?_, data, ?_, hdata⟩
    · exact fun other hother => hall other (List.mem_append_right _ hother)
    · obtain hmem | hmem := List.mem_append.mp hmem
      · exact absurd (hskipped data hmem) hdata.not_ignored
      · exact hmem
  · obtain ⟨e, he, htimeout⟩ := (hall other hother).resolve_left hnot
    exact .inl ⟨e, rest', htimeout, hends e he⟩

section Waiting

variable {request : PreparedRequest} {sendFails : ℕ → Bool}

theorem outcome_final {left attempt : ℕ} {receives rest : List Reception} {result : Except Error Pdu}
    (hsend : sendFails attempt = false)
    (hend : receiveMatchingResponse unwrap request.requestId receives = some (result, rest))
    (hfinal : ∀ e, result = .error e → isRequestTimeout e = false) :
    (sendAttempts unwrap request sendFails left attempt receives).outcome = some result := by
  unfold sendAttempts
  rw [hsend, hend]
  cases result with
  | ok pdu => rfl
  | error e => simp [hfinal e rfl]

theorem outcome_retry {left attempt : ℕ} {receives rest : List Reception} {e : Error}
    (hsend : sendFails attempt = false)
    (hend : receiveMatchingResponse unwrap request.requestId receives = some (.error e, rest))
    (htimeout : isRequestTimeout e) :
    (sendAttempts unwrap request sendFails (left + 1) attempt receives).outcome =
      (sendAttempts unwrap request sendFails left (attempt + 1) rest).outcome := by
  rw [sendAttempts, hsend, hend]
  simp [htimeout]

inductive Waits (unwrap : Unwrap) (request : PreparedRequest) (sendFails : ℕ → Bool) :
    ℕ → ℕ → List Reception → Prop
  | receiving {left attempt : ℕ} {receives : List Reception} (hsend : sendFails attempt = false)
      (hwait : receiveMatchingResponse unwrap request.requestId receives = none) :
      Waits unwrap request sendFails left attempt receives
  | retry {left attempt : ℕ} {receives rest : List Reception} {e : Error} (hsend : sendFails attempt = false)
      (hend : receiveMatchingResponse unwrap request.requestId receives = some (.error e, rest))
      (htimeout : isRequestTimeout e) (h : Waits unwrap request sendFails left (attempt + 1) rest) :
      Waits unwrap request sendFails (left + 1) attempt receives

theorem waits_of_waiting {left attempt : ℕ} {receives : List Reception}
    (h : (sendAttempts unwrap request sendFails left attempt receives).outcome = none) :
    Waits unwrap request sendFails left attempt receives := by
  cases hsend : sendFails attempt with
  | true =>
    unfold sendAttempts at h
    rw [hsend] at h
    cases h
  | false =>
    cases hreceive : receiveMatchingResponse unwrap request.requestId receives with
    | none => exact .receiving hsend hreceive
    | some ending =>
      obtain ⟨result, rest⟩ := ending
      by_cases hfinal : ∀ e, result = .error e → isRequestTimeout e = false
      · rw [outcome_final hsend hreceive hfinal] at h
        cases h
      · simp only [not_forall, Bool.not_eq_false] at hfinal
        obtain ⟨e, rfl, htimeout⟩ := hfinal
        cases left with
        | zero =>
          rw [sendAttempts, hsend, hreceive] at h
          simp [htimeout] at h
        | succ left =>
          rw [outcome_retry hsend hreceive htimeout] at h
          exact .retry hsend hreceive htimeout (waits_of_waiting h)

theorem sendAttempts_fatal {left attempt : ℕ} {receives : List Reception}
    (hwaits : Waits unwrap request sendFails left attempt receives) {inserted : List Bytes}
    {receives' : List Reception} (h : Inserting inserted receives receives')
    (hall : ∀ data ∈ inserted, Ignored unwrap request.requestId data ∨ Fatal unwrap request.requestId data)
    (hfatal : ∃ data ∈ inserted, Fatal unwrap request.requestId data) (behind : List Reception) :
    ∃ e, (sendAttempts unwrap request sendFails left attempt (receives' ++ behind)).outcome = some (.error e) := by
  induction hwaits generalizing inserted receives' with
  | receiving hsend hwait =>
    obtain ⟨e, rest, he, hend⟩ | ⟨result, rest, rest', later, hend, -⟩ := receive_fatal h hall hfatal
    · exact ⟨e, outcome_final hsend (receive_append hend behind) fun _ heq => Except.error.inj heq ▸ he⟩
    · rw [hwait] at hend
      cases hend
  | retry hsend hend htimeout _ ih =>
    obtain ⟨e, rest, he, hfinal⟩ | ⟨result, rest, rest', later, hsame, hend', hrest, hrestAll, hrestFatal⟩ :=
      receive_fatal h hall hfatal
    · exact ⟨e, outcome_final hsend (receive_append hfinal behind) fun _ heq => Except.error.inj heq ▸ he⟩
    · rw [hend] at hsame
      cases hsame
      rw [outcome_retry hsend (receive_append hend' behind) htimeout]
      exact ih hrest hrestAll hrestFatal

theorem sendAttempts_answer {left attempt : ℕ} {receives : List Reception}
    (hwaits : Waits unwrap request sendFails left attempt receives) {answer : Bytes} {pdu : Pdu}
    (hmatch : matchResponse unwrap request.requestId answer = .ok (some pdu)) (behind : List Reception) :
    (sendAttempts unwrap request sendFails left attempt (receives ++ .datagram answer :: behind)).outcome =
      some (.ok pdu) := by
  induction hwaits with
  | receiving hsend hwait =>
    have hend : receiveMatchingResponse unwrap request.requestId (.datagram answer :: behind) =
        some (.ok pdu, behind) := by rw [receiveMatchingResponse, hmatch]
    rw [← receive_waiting_append hwait] at hend
    exact outcome_final hsend hend nofun
  | retry hsend hend htimeout _ ih =>
    rw [outcome_retry hsend (receive_append hend _) htimeout]
    exact ih

end Waiting

end Insertion

inductive ShippedModel
  | community (model : CommunityModel)
  | usm (crypto : Crypto) (model : UsmModel)

namespace ShippedModel

def unwrapMessage : ShippedModel → Unwrap
  | community model => model.unwrapMessage
  | usm crypto model => model.unwrapMessage crypto

/-- The model's decoders refuse the message, or what it contains once it is authenticated and decrypted. -/
def Undecodable : ShippedModel → Bytes → Prop
  | community _, data => ∃ e, decodeMessage data = .error e
  | usm crypto model, data => (∃ e, decodeV3Message data = .error e) ∨
      ∃ view plain e, decodeV3Message data = .ok view ∧ model.scopedPduOf crypto data view = .ok plain ∧
        decodeScopedPdu plain = .error e

def OtherParty : ShippedModel → Bytes → Prop
  | community model, data => ∃ message, decodeMessage data = .ok message ∧ message.community ≠ model.community
  | usm _ model, data => ∃ view, decodeV3Message data = .ok view ∧
      view.usmParams.username ≠ Utf8.encode model.user.username

def Foreign (security : ShippedModel) (requestId : ℤ) (data : Bytes) : Prop :=
  security.Undecodable data ∨ security.OtherParty data ∨
    ∃ pdu, security.unwrapMessage data = .ok (some pdu) ∧ pdu.pduType = .response ∧ pdu.requestId ≠ requestId

def Tolerates : ShippedModel → Bytes → Prop
  | community _, data => ∃ message, decodeMessage data = .ok message
  | usm _ _, data => ¬ HugeV3Number data

variable {security : ShippedModel} {requestId : ℤ} {data : Bytes}

theorem ignored_of_none (h : security.unwrapMessage data = .ok none) : Ignored security.unwrapMessage requestId data :=
  matchResponse_none h

theorem ignored_of_response {pdu : Pdu} (h : security.unwrapMessage data = .ok (some pdu))
    (htype : pdu.pduType = .response) (hid : pdu.requestId ≠ requestId) :
    Ignored security.unwrapMessage requestId data := matchResponse_other h htype hid

theorem unwrap_usm_undecodable {crypto : Crypto} {model : UsmModel} (hhuge : ¬ HugeV3Number data)
    (h : (usm crypto model).Undecodable data) : model.unwrapMessage crypto data = .ok none := by
  rw [UsmModel.unwrapMessage]
  obtain ⟨e, he⟩ | ⟨view, plain, e, hview, hscoped, he⟩ := h
  · rw [he]
    exact if_pos (decodeV3Message_failsOnly hhuge e he)
  · rw [hview]
    simp only
    split_ifs
    · rfl
    · rfl
    · rw [hscoped, ok_bind, he]
      exact if_pos (decodeScopedPdu_failsOnly plain e he)

theorem unwrap_usm_otherUser {crypto : Crypto} {model : UsmModel} (h : (usm crypto model).OtherParty data) :
    model.unwrapMessage crypto data = .ok none := by
  obtain ⟨view, hview, hname⟩ := h
  rw [UsmModel.unwrapMessage, hview]
  exact if_pos hname

theorem unwrap_community_other {model : CommunityModel} (h : (community model).OtherParty data) :
    model.unwrapMessage data = .ok none := by
  obtain ⟨message, hmessage, hcommunity⟩ := h
  rw [CommunityModel.unwrapMessage, hmessage, ok_bind]
  exact if_pos hcommunity

theorem not_timeout_of_decodeMessage {e : Error} (h : decodeMessage data = .error e) : isRequestTimeout e = false := by
  by_cases hhuge : HugeVersion data
  · obtain ⟨text, htext⟩ := decodeMessage_huge hhuge
    rw [h] at htext
    cases htext
    rfl
  · have hprotocol := decodeMessage_failsOnly hhuge e h
    cases e <;> first | rfl | cases hprotocol

theorem fatal_of_not_tolerates (h : ¬ security.Tolerates data) : Fatal security.unwrapMessage requestId data := by
  cases security with
  | community model =>
    obtain hok | ⟨e, he⟩ := ok_or_error (decodeMessage data)
    · exact absurd hok h
    · refine ⟨e, ?_, not_timeout_of_decodeMessage he⟩
      rw [matchResponse, unwrapMessage, CommunityModel.unwrapMessage, he]
      rfl
  | usm crypto model =>
    obtain ⟨text, htext⟩ := decodeV3Message_huge (not_not.mp h)
    refine ⟨.valueError text, ?_, rfl⟩
    rw [matchResponse, unwrapMessage, UsmModel.unwrapMessage, htext]
    rfl

theorem Foreign.ignored (h : security.Foreign requestId data) (htolerates : security.Tolerates data) :
    Ignored security.unwrapMessage requestId data := by
  obtain hundecodable | hparty | ⟨pdu, hpdu, htype, hid⟩ := h
  · cases security with
    | community model =>
      obtain ⟨e, he⟩ := hundecodable
      obtain ⟨message, hmessage⟩ := htolerates
      rw [he] at hmessage
      cases hmessage
    | usm crypto model => exact ignored_of_none (unwrap_usm_undecodable htolerates hundecodable)
  · cases security with
    | community model => exact ignored_of_none (unwrap_community_other hparty)
    | usm crypto model => exact ignored_of_none (unwrap_usm_otherUser hparty)
  · exact ignored_of_response hpdu htype hid

theorem Foreign.ignored_or_fatal (h : security.Foreign requestId data) :
    Ignored security.unwrapMessage requestId data ∨ Fatal security.unwrapMessage requestId data := by
  by_cases htolerates : security.Tolerates data
  · exact .inl (h.ignored htolerates)
  · exact .inr (fatal_of_not_tolerates htolerates)

theorem foreign_traffic_iff (security : ShippedModel) (retries : ℕ) (request : PreparedRequest) (sendFails : ℕ → Bool)
    {inserted : List Bytes} {before before' : List Reception} (hinsert : Inserting inserted before before')
    (hforeign : ∀ data ∈ inserted, security.Foreign request.requestId data) {answer : Bytes} {pdu : Pdu}
    (hanswer : security.unwrapMessage answer = .ok (some pdu)) (htype : pdu.pduType = .response)
    (hid : pdu.requestId = request.requestId) (behind : List Reception) :
    let run := sendPreparedRequest security.unwrapMessage retries request sendFails
    ((∀ data ∈ inserted, security.Tolerates data) →
      run (before' ++ .datagram answer :: behind) = run (before ++ .datagram answer :: behind)) ∧
    ((run before).outcome = none → (run (before ++ .datagram answer :: behind)).outcome = some (.ok pdu) ∧
      (run (before' ++ .datagram answer :: behind) = run (before ++ .datagram answer :: behind) ↔
        ∀ data ∈ inserted, security.Tolerates data)) := by
  intro run
  have hmatch : matchResponse security.unwrapMessage request.requestId answer = .ok (some pdu) :=
    matchResponse_answer hanswer htype hid
  have hkeeps : (∀ data ∈ inserted, security.Tolerates data) →
      run (before' ++ .datagram answer :: behind) = run (before ++ .datagram answer :: behind) := by
    intro h
    exact sendAttempts_inserting (hinsert.append _) (fun data hmem => (hforeign data hmem).ignored (h data hmem))
      retries 0
  refine ⟨hkeeps, fun hwaiting => ?_⟩
  have hwaits : Waits security.unwrapMessage request sendFails retries 0 before := waits_of_waiting hwaiting
  have hreturns := sendAttempts_answer hwaits hmatch behind
  refine ⟨hreturns, ?_, hkeeps⟩
  intro hsame
  by_contra! h
  obtain ⟨data, hmem, hdata⟩ := h
  obtain ⟨e, he⟩ := sendAttempts_fatal hwaits hinsert (fun data hmem => (hforeign data hmem).ignored_or_fatal)
    ⟨data, hmem, fatal_of_not_tolerates hdata⟩ (.datagram answer :: behind)
  have hanswered := (congrArg Dispatched.outcome hsame).trans hreturns
  cases he.symm.trans hanswered

def responseTo (requestId : UInt8) : Bytes :=
  [48, 19, 2, 1, 1, 4, 1, 112, 162, 11, 2, 1, requestId, 2, 1, 0, 2, 1, 0, 48, 0]

theorem foreign_traffic_sample : sendPreparedRequest (community ⟨"p"⟩).unwrapMessage 1 ⟨1, []⟩ (fun _ => false)
      [.datagram (responseTo 9), .datagram (responseTo 1)] =
    sendPreparedRequest (community ⟨"p"⟩).unwrapMessage 1 ⟨1, []⟩ (fun _ => false) [.datagram (responseTo 1)] := by
  have hforeign : ∀ data ∈ [responseTo 9], (community ⟨"p"⟩).Foreign 1 data := by
    intro data hmem
    obtain rfl := List.mem_singleton.mp hmem
    exact .inr (.inr ⟨⟨.response, 9, 0, 0, []⟩, by decide +kernel, rfl, by decide⟩)
  have hdecodes : ∀ data ∈ [responseTo 9], ∃ message, decodeMessage data = .ok message := by
    intro data hmem
    obtain rfl := List.mem_singleton.mp hmem
    exact ⟨⟨1, "p", ⟨.response, 9, 0, 0, []⟩⟩, by decide +kernel⟩
  have hanswer : (community ⟨"p"⟩).unwrapMessage (responseTo 1) = .ok (some ⟨.response, 1, 0, 0, []⟩) := by
    decide +kernel
  exact (foreign_traffic_iff (community ⟨"p"⟩) 1 ⟨1, []⟩ (fun _ => false)
    (.insert _ (.done [])) hforeign hanswer rfl rfl
    []).1 hdecodes

theorem stray_datagram_raises : (community ⟨"p"⟩).Foreign 1 [0] ∧ Inserting [[0]] [] [.datagram [0]] ∧
    (sendPreparedRequest (community ⟨"p"⟩).unwrapMessage 1 ⟨1, []⟩ (fun _ => false)
      [.datagram (responseTo 1)]).outcome = some (.ok ⟨.response, 1, 0, 0, []⟩) ∧
    (sendPreparedRequest (community ⟨"p"⟩).unwrapMessage 1 ⟨1, []⟩ (fun _ => false)
      [.datagram [0], .datagram (responseTo 1)]).outcome =
        some (.error (.protocolError "BER length is truncated")) := by
  refine ⟨.inl ⟨.protocolError "BER length is truncated", by decide +kernel⟩, .insert _ (.done []), ?_, ?_⟩
  · decide +kernel
  · decide +kernel

end ShippedModel

end TrishulSnmp.Transport
