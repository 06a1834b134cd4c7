import TrishulSnmp.Responder.Survival

namespace TrishulSnmp.Responder

open Outcome Wire Asn1 Mib InMemoryObjectSource

variable {σ : Type}

def request (communities : Option (List String)) (received : ReceivedDatagram) : Option (SnmpMessage × SocketAddress) :=
  match decodeMessage received.data with
  | .error _ => none
  | .ok message =>
    if communityAllowed communities message.community ∧ message.pdu.pduType ∈ [.get, .getNext, .getBulk, .set] then
      some (message, received.sourceAddress)
    else none

def IsNext (source : InMemoryObjectSource σ) (asked answer : RawVarBind) : Prop :=
  (∃ value, source.storedValue answer.oid = some value ∧ answer.value = onWire value ∧ asked.oid < answer.oid ∧
    ∀ other ∈ source.values, asked.oid < other → answer.oid ≤ other) ∨
  (∀ other ∈ source.values, other ≤ asked.oid) ∧ answer = { oid := asked.oid, value := .endOfMibViewValue }

def Lists (source : InMemoryObjectSource σ) (request reply : Pdu) : Prop :=
  match request.pduType with
  | .get => reply.varbinds = request.varbinds.map fun varbind =>
      { varbind with value := onWire ((source.storedValue varbind.oid).getD .noSuchObjectValue) }
  | .getNext => List.Forall₂ (IsNext source) request.varbinds reply.varbinds
  | .set => reply.varbinds = request.varbinds ∧ reply.errorStatus = ErrorStatus.notWritable.toInt
  | _ => True

structure RightReply (source : InMemoryObjectSource σ) (request reply : SnmpMessage) : Prop where
  version : reply.version = request.version
  community : reply.community = request.community
  pduType : reply.pdu.pduType = .response
  requestId : reply.pdu.requestId = request.pdu.requestId
  varbinds : Lists source request.pdu reply.pdu

def SentFor (source : InMemoryObjectSource σ) (request : SnmpMessage × SocketAddress) (sent : Sent) : Prop :=
  sent.destination = request.2 ∧ (sent.data.length < lengthLimit →
    ∃ reply, decodeMessage sent.data = .ok reply ∧ RightReply source request.1 reply)

structure Servable (source : InMemoryObjectSource σ) : Prop where
  reached : source.Reached
  oids : ∀ oid ∈ source.values, ∃ content, encodeOid oid = .ok content
  values : source.Encodable
  arcs : ∀ oid value, source.storedValue oid = some value → Asn1.NonnegArcs value

theorem Servable.legal {source : InMemoryObjectSource σ} (h : Servable source) {pdu : Pdu} :
    ∀ oid ∈ answeredOids (source.table h.reached.inv.coherent) pdu, LegalArcs oid := by
  intro oid hoid
  obtain ⟨_, _, _, value, hentry⟩ := mem_answeredOids hoid
  have hmem := mem_values_of_mem_table h.reached.inv.coherent hentry
  exact (encodeOid_isOk_iff (h.reached.inv.wellFormed oid hmem).2).mp (h.oids oid hmem)

theorem isNext_nextVarbind {source : InMemoryObjectSource σ} (h : Servable source) (asked : RawVarBind) :
    IsNext source asked (nextVarbind (source.table h.reached.inv.coherent) asked.oid).onWire := by
  have hc := h.reached.inv.coherent
  have hmem_table : ∀ other ∈ source.values, ∃ value, (other, value) ∈ (source.table hc).entries := by
    intro other hother
    obtain ⟨value, -, hvalue⟩ := h.values.static.stored hother
    exact ⟨value, (mem_table hc).mpr hvalue⟩
  unfold nextVarbind
  cases hnext : (source.table hc).next asked.oid with
  | none =>
    refine .inr ⟨fun other hother => ?_, rfl⟩
    obtain ⟨value, hentry⟩ := hmem_table other hother
    by_contra hlt
    have := SortedTable.mem_after.mpr ⟨hentry, not_le.mp hlt⟩
    rw [SortedTable.next_eq_none_iff.mp hnext] at this
    exact absurd this List.not_mem_nil
  | some entry =>
    obtain ⟨hentry, hgt, hleast⟩ := SortedTable.next_eq_some_iff.mp hnext
    refine .inl ⟨entry.2, (mem_table hc).mp hentry, rfl, hgt, fun other hother hlt => ?_⟩
    obtain ⟨value, hother⟩ := hmem_table other hother
    exact hleast (other, value) hother hlt

theorem lists_answer {source : InMemoryObjectSource σ} (h : Servable source) {data : Bytes} {message : SnmpMessage}
    (hdecode : decodeMessage data = .ok message) {response : Pdu}
    (hanswer : answer (source.table h.reached.inv.coherent) message.pdu = some response) :
    Lists source message.pdu response.onWire := by
  unfold answer at hanswer
  unfold Lists
  split at hanswer
  · rename_i htype
    cases hanswer
    rw [htype]
    simp only [Pdu.onWire, responsePdu, List.map_map]
    apply List.map_congr_left
    intro varbind _
    simp only [Function.comp, RawVarBind.onWire, exactVarbind, lookup_table]
  · rename_i htype
    cases hanswer
    rw [htype]
    simp only [Pdu.onWire, responsePdu, List.map_map]
    rw [List.forall₂_map_right_iff, List.forall₂_same]
    exact fun varbind _ => isNext_nextVarbind h varbind
  · rename_i htype
    rw [htype]
    trivial
  · rename_i htype
    cases hanswer
    rw [htype]
    refine ⟨?_, rfl⟩
    have hpreserved := (decodeMessage_ok_iff.mp hdecode).preserved
    have := SnmpMessage.onWire_of_preserved hpreserved
    exact congrArg (fun message : SnmpMessage => message.pdu.varbinds) this
  · cases hanswer

theorem answer_isSome {table : ObjectTable} {pdu : Pdu} (h : pdu.pduType ∈ [.get, .getNext, .getBulk, .set]) :
    ∃ response, answer table pdu = some response := by
  unfold answer
  cases htype : pdu.pduType <;> rw [htype] at h <;> first | exact ⟨_, rfl⟩ | simp at h

theorem answer_header {table : ObjectTable} {pdu response : Pdu} (h : answer table pdu = some response) :
    response.pduType = .response ∧ response.requestId = pdu.requestId := by
  unfold answer at h
  split at h <;> cases h <;> exact ⟨rfl, rfl⟩

theorem answer_nonneg {source : InMemoryObjectSource σ} (h : Servable source) {data : Bytes} {message : SnmpMessage}
    (hdecode : decodeMessage data = .ok message) {response : Pdu}
    (hanswer : answer (source.table h.reached.inv.coherent) message.pdu = some response) :
    ∀ varbind ∈ response.varbinds, varbind.NonnegArcs := by
  have hc := h.reached.inv.coherent
  have hvalues : ∀ entry ∈ (source.table hc).entries, Asn1.NonnegArcs entry.2 :=
    fun entry hentry => h.arcs entry.1 entry.2 ((mem_table hc).mp hentry)
  refine @answer_forall _ (fun oid => ∀ arc ∈ oid, 0 ≤ arc) RawVarBind.NonnegArcs ?_ ?_ _ _ ?_ hanswer
  · intro oid hoid
    unfold nextVarbind nextCurrent
    cases hnext : (source.table hc).next oid with
    | none => exact ⟨⟨hoid, trivial⟩, hoid⟩
    | some entry =>
      have hentry := (SortedTable.next_eq_some_iff.mp hnext).1
      have hnonneg := (h.reached.inv.wellFormed _ (mem_values_of_mem_table hc hentry)).2
      refine ⟨⟨hnonneg, hvalues entry hentry⟩, ?_⟩
      simp only
      split_ifs
      · exact hoid
      · exact hnonneg
  · intro oid hoid
    refine ⟨hoid, ?_⟩
    cases hexact : (source.table hc).lookup oid with
    | none => simp [exactVarbind, hexact, Asn1.NonnegArcs]
    | some value =>
      have := hvalues (oid, value) (SortedTable.lookup_eq_some_iff.mp hexact)
      simpa [exactVarbind, hexact] using this
  · intro varbind hmem
    have hpreserved := (decodeMessage_ok_iff.mp hdecode).preserved varbind hmem
    exact ⟨hpreserved.1, hpreserved.nonnegArcs⟩

section Loop

variable {w : Type} {responder : V2cResponder w} {Inv : w → Prop} {Right : SnmpMessage × SocketAddress → Sent → Prop}

theorem reply_of_built {world world' : w} {data : Bytes} {message : SnmpMessage} {built : Option SnmpMessage}
    (hdecode : decodeMessage data = .ok message) (hallowed : communityAllowed responder.communities message.community)
    (hbuilt : buildResponseMessage responder.source message world = .ok (built, world')) :
    responder.reply data world = match built with
      | none => .ok (none, world')
      | some response => (encodeMessage response).map fun data => (some data, world') := by
  rw [V2cResponder.reply, hdecode]
  simp only
  rw [if_pos hallowed, bind_of_ok hbuilt]
  cases built with
  | none => rfl
  | some response =>
    simp only
    change ((encodeMessage response >>= fun data => Except.ok (data, world')) >>= fun p => Except.ok (some p.1, p.2)) =
      _
    cases encodeMessage response <;> rfl

theorem reply_of_unasked {received : ReceivedDatagram} (hhuge : ¬ HugeVersion received.data)
    (hnone : request responder.communities received = none) (world : w) :
    responder.reply received.data world = .ok (none, world) := by
  unfold request at hnone
  cases hdecode : decodeMessage received.data with
  | error e => exact reply_of_undecodable hhuge hdecode
  | ok message =>
    rw [hdecode] at hnone
    by_cases hallowed : communityAllowed responder.communities message.community
    · have htype : message.pdu.pduType ∉ [.get, .getNext, .getBulk, .set] := by
        intro htype
        simp [hallowed, htype] at hnone
      have hpdu : buildResponsePdu responder.source message.pdu world = .ok (none, world) := by
        rw [buildResponsePdu]
        cases hpdu : message.pdu.pduType <;> rw [hpdu] at htype <;> first | rfl | simp at htype
      have hbuilt : buildResponseMessage responder.source message world = .ok (none, world) := by
        rw [buildResponseMessage, bind_of_ok hpdu]
        rfl
      exact reply_of_built hdecode hallowed hbuilt
    · exact reply_of_foreign hdecode (Bool.eq_false_iff.mpr hallowed)

def Serves (responder : V2cResponder w) (Inv : w → Prop) (Right : SnmpMessage × SocketAddress → Sent → Prop)
    (received : ReceivedDatagram) : Prop :=
  ¬ HugeVersion received.data ∧ ∀ asked, request responder.communities received = some asked →
    ∀ world, Inv world → ∃ data world', responder.reply received.data world = .ok (some data, world') ∧ Inv world' ∧
      Right asked { data := data, destination := received.sourceAddress }

def arriving (datagrams : List ReceivedDatagram) : List Inbound :=
  datagrams.map fun received => { arrival := .datagram received none, closed := false }

theorem serveLoop_congr (responder : V2cResponder w) (count fuel handled : ℕ)
    {inbound inbound' : List Inbound} {world : w}
    (h : responder.handleRequest inbound world = responder.handleRequest inbound' world) :
    responder.serveLoop count (fuel + 1) handled inbound world =
      responder.serveLoop count (fuel + 1) handled inbound' world := by
  rw [V2cResponder.serveLoop, V2cResponder.serveLoop, h]

def due (count handled : ℕ) (requests : List (SnmpMessage × SocketAddress)) : List (SnmpMessage × SocketAddress) :=
  if count = 0 then requests else requests.take (count - handled)

def outcomeAfter (count handled requests : ℕ) : ServeOutcome :=
  if count ≠ 0 ∧ count ≤ handled + requests then .returned count else .waiting

theorem outcomeAfter_succ (count handled requests : ℕ) :
    outcomeAfter count handled (requests + 1) = outcomeAfter count (handled + 1) requests := by
  rw [outcomeAfter, outcomeAfter, Nat.add_right_comm, Nat.add_assoc]

theorem outcomeAfter_zero {count handled : ℕ} (hgo : count = 0 ∨ handled < count) :
    outcomeAfter count handled 0 = .waiting := if_neg (by omega)

theorem outcomeAfter_self {count : ℕ} (hcount : count ≠ 0) (requests : ℕ) :
    outcomeAfter count count requests = .returned count := if_pos ⟨hcount, by omega⟩

theorem due_cons {count handled : ℕ} (hgo : count = 0 ∨ handled < count) (asked : SnmpMessage × SocketAddress)
    (requests : List (SnmpMessage × SocketAddress)) :
    due count handled (asked :: requests) = asked :: due count (handled + 1) requests := by
  unfold due
  split_ifs with hcount
  · rfl
  · obtain ⟨left, hleft⟩ : ∃ left, count - handled = left + 1 := ⟨count - handled - 1, by omega⟩
    rw [hleft, List.take_succ_cons, show count - (handled + 1) = left by omega]

theorem due_self {count : ℕ} (hcount : count ≠ 0) (requests : List (SnmpMessage × SocketAddress)) :
    due count count requests = [] := by
  rw [due, if_neg hcount, Nat.sub_self, List.take_zero]

theorem serveLoop_serves (count : ℕ) {datagrams : List ReceivedDatagram}
    (h : ∀ received ∈ datagrams, Serves responder Inv Right received) {fuel handled : ℕ}
    (hfuel : datagrams.length < fuel) (hhandled : count = 0 ∨ handled ≤ count) {world : w} (hworld : Inv world) :
    let requests := datagrams.filterMap (request responder.communities)
    let served := responder.serveLoop count fuel handled (arriving datagrams) world
    served.outcome = outcomeAfter count handled requests.length ∧
      (∃ world', served.world = some world' ∧ Inv world') ∧
      List.Forall₂ Right (due count handled requests) served.sent := by
  induction datagrams generalizing fuel handled world with
  | nil =>
    obtain ⟨fuel, rfl⟩ := Nat.exists_eq_add_of_lt hfuel
    simp only [List.filterMap_nil, List.length_nil, arriving, List.map_nil, V2cResponder.serveLoop,
      V2cResponder.handleRequest]
    by_cases hgo : count = 0 ∨ handled < count
    · rw [if_pos hgo, outcomeAfter_zero hgo]
      exact ⟨rfl, ⟨world, rfl, hworld⟩, by simp [due]⟩
    · obtain rfl : handled = count := by omega
      have hcount : handled ≠ 0 := by omega
      rw [if_neg hgo, outcomeAfter_self hcount, due_self hcount]
      exact ⟨rfl, ⟨world, rfl, hworld⟩, .nil⟩
  | cons received datagrams ih =>
    obtain ⟨fuel, rfl⟩ := Nat.exists_eq_add_of_lt hfuel
    obtain ⟨⟨hhuge, hfirst⟩, h⟩ := List.forall_mem_cons.mp h
    cases hrequest : request responder.communities received with
    | none =>
      -- a datagram that asks for nothing is passed over within one round of the loop
      have hreply := reply_of_unasked hhuge hrequest world
      have hskip : responder.handleRequest (arriving (received :: datagrams)) world =
          responder.handleRequest (arriving datagrams) world := by
        rw [arriving, List.map_cons, V2cResponder.handleRequest, hreply]
        rfl
      have hcongr := serveLoop_congr responder count (datagrams.length + 1 + fuel) handled hskip
      have hfuel' : datagrams.length < datagrams.length + 1 + fuel + 1 := by omega
      have hrest := ih h hfuel' hhandled hworld
      simp only [List.filterMap_cons_none hrequest, List.length_cons]
      rw [hcongr]
      exact hrest
    | some asked =>
      obtain ⟨data, world', hreply, hworld', hright⟩ := hfirst asked hrequest world hworld
      simp only [List.filterMap_cons_some hrequest, List.length_cons, V2cResponder.serveLoop]
      by_cases hgo : count = 0 ∨ handled < count
      · have hfuel' : datagrams.length < datagrams.length + 1 + fuel := by omega
        have hhandled' : count = 0 ∨ handled + 1 ≤ count := by omega
        obtain ⟨houtcome, hlast, hall⟩ := ih h hfuel' hhandled' hworld'
        rw [if_pos hgo, due_cons hgo, outcomeAfter_succ, arriving, List.map_cons, V2cResponder.handleRequest, hreply]
        exact ⟨houtcome, hlast, .cons hright hall⟩
      · obtain rfl : handled = count := by omega
        have hcount : handled ≠ 0 := by omega
        rw [if_neg hgo, outcomeAfter_self hcount, due_self hcount]
        exact ⟨rfl, ⟨world, rfl, hworld⟩, .nil⟩

theorem serve_serves (count : ℕ) {datagrams : List ReceivedDatagram}
    (h : ∀ received ∈ datagrams, Serves responder Inv Right received) {world : w} (hworld : Inv world) :
    let requests := datagrams.filterMap (request responder.communities)
    let served := responder.serve count (arriving datagrams) world
    served.outcome = (if count ≠ 0 ∧ count ≤ requests.length then .returned count else .waiting) ∧
      (∃ world', served.world = some world' ∧ Inv world') ∧
      List.Forall₂ Right (if count = 0 then requests else requests.take count) served.sent := by
  have hfuel : datagrams.length < datagrams.length + 1 := by omega
  have hspec := serveLoop_serves count h hfuel (by omega : count = 0 ∨ 0 ≤ count) hworld
  simp only [V2cResponder.serve, arriving, List.length_map, Int.toNat_natCast] at hspec ⊢
  rw [if_neg (by omega)]
  simpa only [due, outcomeAfter, Nat.sub_zero, Nat.zero_add] using hspec

end Loop

section Run

variable {source : InMemoryObjectSource σ} (rules : σ) (communities : Option (List String))

theorem serves_static (h : Servable source) {received : ReceivedDatagram} (hhuge : ¬ HugeVersion received.data) :
    Serves (V2cResponder.new communities asSource) (· = { source := source, rules := rules }) (SentFor source)
      received := by
  refine ⟨hhuge, ?_⟩
  rintro asked hasked _ rfl
  have hc := h.reached.inv.coherent
  have hanswers := answersFrom_table hc h.values.static rules
  unfold request at hasked
  cases hdecode : decodeMessage received.data with
  | error e => simp [hdecode] at hasked
  | ok message =>
    rw [hdecode] at hasked
    obtain ⟨⟨hallowed, htype⟩, hasked⟩ := Option.ite_none_right_eq_some.mp hasked
    obtain rfl := Option.some.inj hasked
    have hreply := @reply_of_allowed _ _ (V2cResponder.new communities asSource) _ hanswers _ _ hdecode hallowed
    obtain ⟨response, hresponse⟩ := @answer_isSome (source.table hc) _ htype
    have hencodable := (answer_encodable_iff h.reached.inv h.values hdecode hresponse).mpr h.legal
    obtain ⟨data, hdata⟩ := (@encodeMessage_isOk_iff { message with pdu := response }).mpr hencodable
    have hmessage : answerMessage (source.table hc) message = some { message with pdu := response } := by
      rw [answerMessage, hresponse]
      rfl
    rw [hmessage] at hreply
    simp only [hdata] at hreply
    refine ⟨data, _, hreply, rfl, rfl, fun hlen => ?_⟩
    obtain ⟨hresponseType, hrequestId⟩ := answer_header hresponse
    have hversion := (decodeMessage_ok_iff.mp hdecode).2
    have hdecoded := @decodeMessage_encodeMessage { message with pdu := response } data hversion
      (answer_nonneg h hdecode hresponse) hdata hlen
    exact ⟨_, hdecoded, rfl, rfl, hresponseType, hrequestId, lists_answer h hdecode hresponse⟩

theorem serve_correct (h : Servable source) (count : ℕ) (datagrams : List ReceivedDatagram)
    (hhuge : ∀ received ∈ datagrams, ¬ HugeVersion received.data) :
    let requests := datagrams.filterMap (request (normalizeCommunities communities))
    let served := (V2cResponder.new communities asSource).serve count (arriving datagrams)
      { source := source, rules := rules }
    served.outcome = (if count ≠ 0 ∧ count ≤ requests.length then .returned count else .waiting) ∧
      served.world = some { source := source, rules := rules } ∧
      List.Forall₂ (SentFor source) (if count = 0 then requests else requests.take count) served.sent := by
  intro requests served
  obtain ⟨houtcome, ⟨_, hworld, rfl⟩, hsent⟩ := serve_serves count
    (fun received hmem => serves_static rules communities h (hhuge received hmem)) rfl
  exact ⟨houtcome, hworld, hsent⟩

end Run

theorem storedValue_storeHolding {objects : List (OID × SnmpValue)} {key : OID} {value : SnmpValue}
    (h : (storeHolding objects).storedValue key = some value) :
    ∃ object ∈ objects, object.1 = key ∧ value = object.2 := by
  obtain ⟨object, hmem, hkey, hvalue⟩ := lookup_storeHolding (storedValue_eq_some_iff.mp h)
  exact ⟨object, hmem, hkey, by simpa using hvalue⟩

theorem storeHolding_servable {objects : List (OID × SnmpValue)} (h : ∀ object ∈ objects, WellFormed object.1 ∧
      (∃ content, encodeOid object.1 = .ok content) ∧ (∃ enc, encodeValue object.2 = .ok enc) ∧
      Asn1.NonnegArcs object.2) : Servable (storeHolding objects) where
  reached := storeHolding_reached fun object hmem => (h object hmem).1
  oids := by
    intro key hkey
    obtain ⟨object, hmem, rfl⟩ := mem_storeHolding hkey
    exact (h object hmem).2.1
  values := storeHolding_encodable fun object hmem => (h object hmem).2.2.1
  arcs := by
    intro key value hvalue
    obtain ⟨object, hmem, -, rfl⟩ := storedValue_storeHolding hvalue
    exact (h object hmem).2.2.2

theorem sampleStore_servable : Servable sampleStore := by
  apply storeHolding_servable
  simp only [sampleObjects, List.forall_mem_cons]
  exact ⟨⟨by decide, ⟨[43, 6, 1], by decide⟩, ⟨_, rfl⟩, trivial⟩, ⟨by decide, ⟨[44], by decide⟩, ⟨_, rfl⟩, trivial⟩,
    ⟨by decide, ⟨[43, 6], by decide⟩, ⟨_, rfl⟩, trivial⟩, by simp⟩

theorem sampleStore_values (oid : OID) : sampleStore.storedValue oid ≠ some .endOfMibViewValue := by
  intro h
  obtain ⟨object, hmem, -, hvalue⟩ := storedValue_storeHolding h
  exact sampleObjects_values object hmem hvalue.symm

def getQuery : ReceivedDatagram :=
  { data := [48, 27, 2, 1, 1, 4, 1, 112, 160, 19, 2, 1, 1, 2, 1, 0, 2, 1, 0, 48, 8, 48, 6, 6, 2, 43, 6, 5, 0]
    sourceAddress := .inet "192.0.2.1" 40000 }

def foreignQuery : ReceivedDatagram :=
  { data := [48, 27, 2, 1, 1, 4, 1, 113, 160, 19, 2, 1, 1, 2, 1, 0, 2, 1, 0, 48, 8, 48, 6, 6, 2, 43, 6, 5, 0]
    sourceAddress := .inet "192.0.2.2" 40000 }

def brokenQuery : ReceivedDatagram := { data := [48, 27, 2, 1, 1, 4], sourceAddress := .inet "192.0.2.3" 40000 }

def nextQuery : ReceivedDatagram :=
  { data := [48, 26, 2, 1, 1, 4, 1, 112, 161, 18, 2, 1, 2, 2, 1, 0, 2, 1, 0, 48, 7, 48, 5, 6, 1, 43, 5, 0]
    sourceAddress := .inet "192.0.2.4" 161 }

def queryOf (community : String) (pduType : PduType) (requestId : ℤ) (oid : OID) : SnmpMessage :=
  { version := 1, community := community, pdu := ⟨pduType, requestId, 0, 0, [⟨oid, .nullValue⟩]⟩ }

theorem getQuery_decodes : decodeMessage getQuery.data = .ok (queryOf "p" .get 1 [1, 3, 6]) := by decide +kernel

theorem queries_not_huge :
    ∀ received ∈ [foreignQuery, getQuery, brokenQuery, nextQuery], ¬ HugeVersion received.data := by
  have hforeign : decodeMessage foreignQuery.data = .ok (queryOf "q" .get 1 [1, 3, 6]) := by decide +kernel
  have hnext : decodeMessage nextQuery.data = .ok (queryOf "p" .getNext 2 [1, 3]) := by decide +kernel
  obtain ⟨text, hbroken⟩ : ∃ text, decodeMessage brokenQuery.data = .error (.protocolError text) := ⟨_, rfl⟩
  simp only [List.forall_mem_cons]
  refine ⟨not_hugeVersion_of_decoded hforeign, not_hugeVersion_of_decoded getQuery_decodes, ?_,
    not_hugeVersion_of_decoded hnext, by simp⟩
  apply not_hugeVersion_of_ne
  intro other
  rw [hbroken]
  nofun

theorem serve_sample :
    let served := (V2cResponder.new (some ["p"]) asSource).serve 2
      (arriving [foreignQuery, getQuery, brokenQuery, nextQuery]) { source := sampleStore, rules := () }
    served.outcome = .returned 2 ∧ served.sent.length = 2 := by
  obtain ⟨houtcome, -, hsent⟩ := serve_correct () (some ["p"]) sampleStore_servable 2
    [foreignQuery, getQuery, brokenQuery, nextQuery] queries_not_huge
  have hrequests : ([foreignQuery, getQuery, brokenQuery, nextQuery].filterMap
      (request (normalizeCommunities (some ["p"])))).length = 2 := by decide +kernel
  refine ⟨houtcome.trans (if_pos ⟨by decide, hrequests.ge⟩), ?_⟩
  refine hsent.length_eq.symm.trans ?_
  rw [if_neg (by decide), List.length_take, hrequests]
  rfl

theorem address_rewritten : (storeOf [1, 3, 6] (.ipAddressValue "01.2.3.4")).Reached ∧
    (storeOf [1, 3, 6] (.ipAddressValue "01.2.3.4")).Encodable ∧
    ∃ data reply, ((V2cResponder.new none asSource).serve 1 (arriving [getQuery])
        { source := storeOf [1, 3, 6] (.ipAddressValue "01.2.3.4"), rules := () }).sent =
      [{ data := data, destination := .inet "192.0.2.1" 40000 }] ∧ decodeMessage data = .ok reply ∧
      reply.pdu.varbinds = [{ oid := [1, 3, 6], value := .ipAddressValue "1.2.3.4" }] ∧
      (storeOf [1, 3, 6] (.ipAddressValue "01.2.3.4")).storedValue [1, 3, 6] = some (.ipAddressValue "01.2.3.4") := by
  refine ⟨storeOf_reached _ (by decide), storeOf_encodable _ ⟨[64, 4, 1, 2, 3, 4], by decide +kernel⟩, ?_⟩
  refine ⟨
    [48, 31, 2, 1, 1, 4, 1, 112, 162, 23, 2, 1, 1, 2, 1, 0, 2, 1, 0, 48, 12, 48, 10, 6, 2, 43, 6, 64, 4, 1, 2, 3, 4],
    { version := 1, community := "p", pdu := ⟨.response, 1, 0, 0, [⟨[1, 3, 6], .ipAddressValue "1.2.3.4"⟩]⟩ },
    by decide +kernel, by decide +kernel, rfl, rfl⟩

end TrishulSnmp.Responder
