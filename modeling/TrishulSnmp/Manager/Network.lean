import TrishulSnmp.Manager.Client
import TrishulSnmp.Mib.Render
import TrishulSnmp.Responder.Serving
import TrishulSnmp.Security.Community
import TrishulSnmp.Transport.Delivery

namespace TrishulSnmp

open Mib Outcome Wire Responder Transport InMemoryObjectSource

namespace Responder

variable {σ : Type} {source : InMemoryObjectSource σ}

theorem reply_answer (h : Servable source) (rules : σ) {communities : Option (List String)} {data : Bytes}
    {message : SnmpMessage} (hdecode : decodeMessage data = .ok message)
    (hallowed : communityAllowed (normalizeCommunities communities) message.community) {response : Pdu}
    (hresponse : answer (source.table h.reached.inv.coherent) message.pdu = some response) :
    ∃ data', (V2cResponder.new communities asSource).reply data { source := source, rules := rules } =
        .ok (some data', { source := source, rules := rules }) ∧
      encodeMessage { message with pdu := response } = .ok data' ∧
      (data'.length < lengthLimit → decodeMessage data' = .ok { message with pdu := response.onWire }) := by
  have hc := h.reached.inv.coherent
  have hanswers := answersFrom_table hc h.values.static rules
  have hreply := @reply_of_allowed _ _ (V2cResponder.new communities asSource) _ hanswers _ _ hdecode hallowed
  have hencodable := (answer_encodable_iff h.reached.inv h.values hdecode hresponse).mpr h.legal
  obtain ⟨data', hdata⟩ := (@encodeMessage_isOk_iff { message with pdu := response }).mpr hencodable
  have hmessage : answerMessage (source.table hc) message = some { message with pdu := response } := by
    rw [answerMessage, hresponse]
    rfl
  rw [hmessage] at hreply
  simp only [hdata] at hreply
  have hversion := (decodeMessage_ok_iff.mp hdecode).2
  exact ⟨data', hreply, hdata, fun hlen =>
    @decodeMessage_encodeMessage { message with pdu := response } data' hversion (answer_nonneg h hdecode hresponse)
      hdata hlen⟩

end Responder

namespace Manager

structure SnmpManager where
  bundle : Option Resolver
  enrich : Enricher
  security : CommunityModel
  retries : ℕ
  maxDatagramSize : ℕ

structure Query where
  pduType : PduType
  targets : List Target
  errorStatus : ℤ
  errorIndex : ℤ

def queryPdu (requestId : ℕ) (query : Query) (oids : List OID) : Pdu :=
  { pduType := query.pduType
    requestId := requestId
    errorStatus := query.errorStatus
    errorIndex := query.errorIndex
    varbinds := buildNullVarbinds oids }

namespace SnmpManager

variable (manager : SnmpManager)

def arguments (query : Query) : Except Error (List OID) := normalizeTargets query.targets manager.bundle

def wrapRequest (requestId : ℕ) (query : Query) (oids : List OID) : Except Error Bytes :=
  manager.security.wrapPdu (queryPdu requestId query oids)

def prepareRequest (requestId : ℕ) (query : Query) : Except Error Bytes :=
  manager.arguments query >>= manager.wrapRequest requestId query

def dispatcher : RequestDispatcher :=
  { unwrap := manager.security.unwrapMessage, retries := manager.retries, maxDatagramSize := manager.maxDatagramSize }

def oids (query : Query) : List OID :=
  match normalizeTargets query.targets manager.bundle with
  | .ok oids => oids
  | .error _ => []

def expected (table : ObjectTable) (requestId : ℕ) (query : Query) : Pdu :=
  let pdu := queryPdu requestId query (manager.oids query)
  match answer table pdu with
  | some response => response.onWire
  | none => pdu

structure Asks (query : Query) : Prop where
  pduType : query.pduType ∈ [.get, .getNext, .getBulk]
  nonneg : ∀ oid ∈ manager.oids query, ∀ arc ∈ oid, 0 ≤ arc

variable {manager} in
theorem Asks.of_proper {query : Query} (htype : query.pduType ∈ [.get, .getNext, .getBulk])
    (h : ∀ target ∈ query.targets, target.Proper manager.bundle) : manager.Asks query where
  pduType := htype
  nonneg := by
    intro oid hoid
    rw [oids, normalizeTargets] at hoid
    split_ifs at hoid
    · simp at hoid
    · cases hmap : query.targets.mapM (normalizeTarget manager.bundle) with
      | error e => simp [hmap] at hoid
      | ok oids =>
        simp only [hmap] at hoid
        obtain ⟨target, htarget, hnormalize⟩ := mem_of_mapM hmap hoid
        exact (normalizeTarget_wellFormed (h target htarget) hnormalize).2

end SnmpManager

/-- The responder behind a network that carries datagrams of at most `limit` octets. An exception ends
it, and a network that brings nothing more to it does the same. -/
def serveDatagram {w : Type} (responder : V2cResponder w) (limit : ℕ) (world : w) (data : Bytes) : w × Option Bytes :=
  if data.length ≤ limit then
    match responder.reply data world with
    | .ok (reply, world) => (world, reply.filter fun reply => reply.length ≤ limit)
    | .error _ => (world, none)
  else (world, none)

def managerNetwork {α w : Type} (manager : SnmpManager) (responder : V2cResponder w) (limit : ℕ)
    (sendFails : ℕ → ℕ → Bool) (question : α → Option Query) (resume : α → Except Error Pdu → α) :
    DatagramNetwork α w Query Pdu Bytes Reception Error :=
  dispatcherNetwork manager.dispatcher sendFails manager.arguments manager.wrapRequest (serveDatagram responder limit)
    question resume

section Laws

variable {manager : SnmpManager}

theorem normalizeTargets_oids {query : Query} {oids : List OID}
    (h : normalizeTargets query.targets manager.bundle = .ok oids) : manager.oids query = oids := by
  rw [SnmpManager.oids, h]

theorem queryPdu_nonneg {requestId : ℕ} {query : Query} {oids : List OID} (h : ∀ oid ∈ oids, ∀ arc ∈ oid, 0 ≤ arc) :
    ∀ varbind ∈ (queryPdu requestId query oids).varbinds, varbind.Preserved := by
  simp only [queryPdu, buildNullVarbinds, List.forall_mem_map]
  exact fun oid hoid => ⟨h oid hoid, trivial⟩

theorem prepareRequest_decodes {requestId : ℕ} {query : Query} (hasks : manager.Asks query) {data : Bytes}
    (h : manager.prepareRequest requestId query = .ok data) (hlen : data.length < lengthLimit) :
    decodeMessage data = .ok
      ⟨1, manager.security.community, queryPdu requestId query (manager.oids query)⟩ := by
  obtain ⟨oids, hoids, hwrap⟩ := bind_ok_iff.mp h
  obtain rfl := normalizeTargets_oids hoids
  exact decodeMessage_encodeMessage_preserved rfl (queryPdu_nonneg hasks.nonneg) hwrap hlen

theorem prepareRequest_ok {query : Query} {oids : List OID} (requestId : ℕ)
    (htargets : normalizeTargets query.targets manager.bundle = .ok oids)
    (hencodes : ∀ oid ∈ oids, ∃ content, Asn1.encodeOid oid = .ok content) :
    ∃ data, manager.prepareRequest requestId query = .ok data := by
  have hencodable : ∀ varbind ∈ (queryPdu requestId query oids).varbinds, varbind.Encodable := by
    simp only [queryPdu, buildNullVarbinds, List.forall_mem_map]
    exact fun oid hoid => ⟨hencodes oid hoid, _, rfl⟩
  obtain ⟨data, hdata⟩ := (@encodeMessage_isOk_iff ⟨1, manager.security.community, _⟩).mpr hencodable
  refine ⟨data, ?_⟩
  rw [SnmpManager.prepareRequest, SnmpManager.arguments, htargets, ok_bind]
  exact hdata

theorem expected_eq {table : ObjectTable} {requestId : ℕ} {query : Query} (hasks : manager.Asks query) :
    ∃ response, answer table (queryPdu requestId query (manager.oids query)) = some response ∧
      manager.expected table requestId query = response.onWire := by
  have htype : (queryPdu requestId query (manager.oids query)).pduType ∈ [.get, .getNext, .getBulk, .set] := by
    have h := hasks.pduType
    simp only [List.mem_cons, List.not_mem_nil, or_false] at h ⊢
    rcases h with h | h | h <;> simp [queryPdu, h]
  obtain ⟨response, hresponse⟩ := @answer_isSome table _ htype
  exact ⟨response, hresponse, by rw [SnmpManager.expected, hresponse]⟩

variable {σ α : Type} {source : InMemoryObjectSource σ} {rules : σ} {communities : Option (List String)} {limit : ℕ}
  {sendFails : ℕ → ℕ → Bool} {question : α → Option Query} {resume : α → Except Error Pdu → α}

theorem serveDatagram_answers (hservable : Servable source)
    (hallowed : communityAllowed (normalizeCommunities communities) manager.security.community)
    (hlimit : limit < lengthLimit) (hread : limit ≤ manager.maxDatagramSize) {requestId : ℕ} {query : Query}
    (hasks : manager.Asks query) {data : Bytes} (hprepare : manager.prepareRequest requestId query = .ok data) :
    (serveDatagram (V2cResponder.new communities asSource) limit { source := source, rules := rules } data).1 =
        { source := source, rules := rules } ∧
      ∀ reply,
        (serveDatagram (V2cResponder.new communities asSource) limit { source := source, rules := rules } data).2 =
          some reply → DatagramNetwork.Answers manager.dispatcher.accept
            (manager.expected (source.table hservable.reached.inv.coherent)) requestId query reply := by
  rw [serveDatagram]
  split_ifs with hlen
  · obtain ⟨response, hresponse, hexpected⟩ :=
      @expected_eq manager (source.table hservable.reached.inv.coherent) requestId _ hasks
    obtain ⟨data', hreply, -, hdecode⟩ := reply_answer hservable rules
      (prepareRequest_decodes hasks hprepare (hlen.trans_lt hlimit)) hallowed hresponse
    simp only [hreply]
    refine ⟨trivial, fun reply hsome => ?_⟩
    obtain ⟨⟨⟩, hfits⟩ := Option.filter_eq_some_iff.mp hsome
    have hfits : data'.length ≤ limit := by simpa using hfits
    have hunwrap : manager.security.unwrapMessage data' = .ok (some response.onWire) :=
      CommunityModel.unwrapMessage_ok (hdecode (hfits.trans_lt hlimit)) rfl
    obtain ⟨htype, hid⟩ := answer_header hresponse
    exact answers_of_unwrap (hfits.trans hread) (hexpected ▸ hunwrap) (hexpected ▸ htype) (hexpected ▸ hid)
  · exact ⟨rfl, fun reply hsome => by cases hsome⟩

theorem managerNetwork_lawful (hservable : Servable source)
    (hallowed : communityAllowed (normalizeCommunities communities) manager.security.community)
    (hlimit : limit < lengthLimit) (hread : limit ≤ manager.maxDatagramSize) {Good : ℕ → Query → Prop}
    (hgood : ∀ requestId query, Good requestId query → manager.Asks query) :
    (managerNetwork manager (V2cResponder.new communities asSource) limit sendFails question resume).Lawful
      (· = { source := source, rules := rules }) Good manager.dispatcher.accept
      (manager.expected (source.table hservable.reached.inv.coherent)) NetworkFailure := by
  apply dispatcherNetwork_lawful
  rintro requestId query data hquery hprepare _ rfl
  exact serveDatagram_answers hservable hallowed hlimit hread (hgood requestId query hquery) hprepare

def Fits {w : Type} (manager : SnmpManager) (responder : V2cResponder w) (limit : ℕ) (world : w) (requestId : ℕ)
    (query : Query) : Prop :=
  ∀ data, manager.prepareRequest requestId query = .ok data → data.length ≤ limit ∧
    ∀ reply world', responder.reply data world = .ok (some reply, world') → reply.length ≤ limit

theorem managerNetwork_delivers (hservable : Servable source)
    (hallowed : communityAllowed (normalizeCommunities communities) manager.security.community)
    (hlimit : limit < lengthLimit) {Good : ℕ → Query → Prop} (hgood : ∀ requestId query, Good requestId query →
      manager.Asks query ∧ (∃ data, manager.prepareRequest requestId query = .ok data) ∧
        Fits manager (V2cResponder.new communities asSource) limit { source := source, rules := rules } requestId
          query) :
    (managerNetwork manager (V2cResponder.new communities asSource) limit (fun _ _ => false) question resume).Delivers
      (· = { source := source, rules := rules }) Good manager.dispatcher.accept := by
  apply dispatcherNetwork_delivers
  intro id query hquery
  obtain ⟨hasks, ⟨data, hdata⟩, hfits⟩ := hgood id query hquery
  refine ⟨data, hdata, ?_⟩
  rintro _ rfl
  obtain ⟨hlen, hreplies⟩ := hfits data hdata
  obtain ⟨response, hresponse, -⟩ := @expected_eq manager (source.table hservable.reached.inv.coherent) id _ hasks
  obtain ⟨reply, hreply, -, -⟩ := reply_answer hservable rules
    (prepareRequest_decodes hasks hdata (hlen.trans_lt hlimit)) hallowed hresponse
  refine ⟨reply, ?_⟩
  have hshort := hreplies reply _ hreply
  simp only [serveDatagram, if_pos hlen, hreply, Option.filter_eq_some_iff]
  exact ⟨trivial, by simpa using hshort⟩

end Laws

section Session

variable {σ : Type} {source : InMemoryObjectSource σ} {limit : ℕ}

abbrev Session := DatagramNetwork.Script Query Pdu Error

abbrev SessionState (σ : Type) := DatagramNetwork.State Session (World σ) Query Bytes Reception

def sessionNetwork (manager : SnmpManager) (responder : V2cResponder (World σ)) (limit : ℕ) (sendFails : ℕ → ℕ → Bool) :
    DatagramNetwork Session (World σ) Query Pdu Bytes Reception Error :=
  managerNetwork manager responder limit sendFails DatagramNetwork.Script.question DatagramNetwork.Script.resume

def sessionResults (manager : SnmpManager) (session : Session) : List (Except Error Response) :=
  session.outcomes.map (· >>= responseFromPdu manager.enrich)

/-- What a call may come to: the responder's own answer to it, or a failure of its own request. -/
def RightResult (manager : SnmpManager) (table : ObjectTable) (requestId : ℕ) (query : Query)
    (result : Except Error Response) : Prop :=
  result = responseFromPdu manager.enrich (manager.expected table requestId query) ∨
    ∃ e, result = .error e ∧ (NetworkFailure e ∨ manager.prepareRequest requestId query = .error e)

def sampleRegistry : MibRegistry := .init (.ofEntries [("SAMPLE-MIB", {
  module := "SAMPLE-MIB"
  imports := .empty
  objects := .ofEntries [("linkState", {
    module := "SAMPLE-MIB"
    name := "linkState"
    oid := [1, 3, 6]
    className := "objecttype"
    objectType := "OBJECT-TYPE"
    nodetype := some "scalar"
    syntaxName := none
    description := none
    members := none
    constraints := none })]
  notifications := .empty
  types := .empty })]) .empty

def sampleManager : SnmpManager :=
  { bundle := some sampleRegistry.resolveSymbolic, enrich := enrichVarbind (some sampleRegistry), security := ⟨"p"⟩,
    retries := 1, maxDatagramSize := 65535 }

def sampleWorld : World Unit := { source := sampleStore, rules := () }

def sampleQuery : Query where
  pduType := .getNext
  targets := [.sequence [1, 3] (tupleText [1, 3])]
  errorStatus := 0
  errorIndex := 0

abbrev sampleNetwork := sessionNetwork sampleManager (V2cResponder.new none (asSource (σ := Unit))) 65507
  fun _ _ => false

abbrev sampleStart : SessionState Unit := DatagramNetwork.scriptStart [sampleQuery, sampleQuery] 1 sampleWorld

def sampleRequest (requestId : UInt8) : Bytes :=
  [48, 26, 2, 1, 1, 4, 1, 112, 161, 18, 2, 1, requestId, 2, 1, 0, 2, 1, 0, 48, 7, 48, 5, 6, 1, 43, 5, 0]

def sampleReply (requestId : UInt8) : Bytes :=
  [48, 28, 2, 1, 1, 4, 1, 112, 162, 20, 2, 1, requestId, 2, 1, 0, 2, 1, 0, 48, 9, 48, 7, 6, 2, 43, 6, 2, 1, 1]

def sampleRun : List (DatagramNetwork.Action Bytes Reception) := [
  .ask, .serve (sampleRequest 1), .give .timedOut, .give (.datagram (sampleReply 1)), .serve (sampleRequest 1),
  .ask, .give (.datagram (sampleReply 1)), .serve (sampleRequest 2), .give (.datagram (sampleReply 2))]

def answeredIds (session : Session) : List (Option ℤ) :=
  (sessionResults sampleManager session).map fun result => result.toOption.map Response.requestId

theorem sample_reached : ∃ state,
    (sampleNetwork.system sampleStart).Reachable state ∧ answeredIds state.program = [some 1, some 2] := by
  let system := sampleNetwork.system sampleStart
  obtain ⟨state, -, hreached, hresults⟩ : ∃ state, system.run (fun _ _ => True) _ sampleRun = some state ∧
      system.Reaches (fun _ _ => True) state ∧ answeredIds state.program = [some 1, some 2] :=
    System.exists_of_run rfl (by decide +kernel)
  exact ⟨state, hreached, hresults⟩

end Session

end Manager

end TrishulSnmp
