import TrishulSnmp.Responder.Answers

namespace TrishulSnmp.Responder

open Outcome Wire Ber Asn1 Mib

variable {σ w : Type}

def Survives (responder : V2cResponder w) (world : w) (received : ReceivedDatagram) : Prop :=
  ∀ sendFailure isClosed e closed,
    responder.handleRequest [{ arrival := .datagram received sendFailure, closed := isClosed }] world =
      .raised e closed → e.isTransportError

section Survives

variable {responder : V2cResponder w} {world : w}

theorem survives_of_reply {received : ReceivedDatagram} {reply : Option Bytes} {world' : w}
    (h : responder.reply received.data world = .ok (reply, world')) : Survives responder world received := by
  intro sendFailure isClosed e closed hraised
  rw [V2cResponder.handleRequest, h] at hraised
  cases reply with
  | none => cases hraised
  | some data =>
    cases sendFailure with
    | none => cases hraised
    | some message =>
      cases hraised
      rfl

theorem not_survives_of_error {received : ReceivedDatagram} {e : Error}
    (h : responder.reply received.data world = .error e) (he : e.isTransportError = false) :
    ¬ Survives responder world received := by
  intro hsurvives
  have hraised : responder.handleRequest [{ arrival := .datagram received none, closed := false }] world =
      .raised e false := by rw [V2cResponder.handleRequest, h]
  rw [hsurvives none false e false hraised] at he
  cases he

variable {table : ObjectTable} (h : AnswersFrom responder.source table world)

include h

theorem reply_cases (data : Bytes) : (∃ reply, responder.reply data world = .ok (reply, world)) ∨
    ∃ e, responder.reply data world = .error e ∧ e.isTransportError = false := by
  by_cases hhuge : HugeVersion data
  · obtain ⟨text, htext⟩ := @reply_of_huge _ responder world _ hhuge
    exact .inr ⟨_, htext, rfl⟩
  · cases hdecode : decodeMessage data with
    | error e => exact .inl ⟨none, reply_of_undecodable hhuge hdecode⟩
    | ok message =>
      by_cases hallowed : communityAllowed responder.communities message.community
      · rw [reply_of_allowed h hdecode hallowed]
        cases answerMessage table message with
        | none => exact .inl ⟨none, rfl⟩
        | some response =>
          simp only
          obtain ⟨reply, hreply⟩ | ⟨e, he⟩ := ok_or_error (encodeMessage response)
          · exact .inl ⟨some reply, by rw [hreply]; rfl⟩
          · exact .inr ⟨e, by rw [he]; rfl, encodeMessage_failsOnly _ e he⟩
      · exact .inl ⟨none, reply_of_foreign hdecode (Bool.eq_false_iff.mpr hallowed)⟩

theorem survives_iff_reply {received : ReceivedDatagram} : Survives responder world received ↔
    ∃ reply, responder.reply received.data world = .ok (reply, world) := by
  constructor
  · intro hsurvives
    obtain hreply | ⟨e, herror, he⟩ := reply_cases h received.data
    · exact hreply
    · exact absurd hsurvives (not_survives_of_error herror he)
  · rintro ⟨reply, hreply⟩
    exact survives_of_reply hreply

end Survives

namespace InMemoryObjectSource

variable {source : InMemoryObjectSource σ}

def Encodable (source : InMemoryObjectSource σ) : Prop :=
  ∀ oid stored, source.values.lookup oid = some stored →
    ∃ value enc, stored = .value value ∧ encodeValue value = .ok enc

theorem Encodable.static (h : source.Encodable) : source.Static := by
  intro oid stored hstored
  obtain ⟨value, _, rfl, -⟩ := h oid stored hstored
  exact ⟨value, rfl⟩

theorem Encodable.of_mem (h : source.Encodable) (hc : source.Coherent) {oid : OID} {value : SnmpValue}
    (hmem : (oid, value) ∈ (source.table hc).entries) : ∃ enc, encodeValue value = .ok enc := by
  obtain ⟨_, enc, heq, henc⟩ := h oid _ (storedValue_eq_some_iff.mp ((mem_table hc).mp hmem))
  cases heq
  exact ⟨enc, henc⟩

theorem mem_values_of_mem_table (hc : source.Coherent) {entry : OID × SnmpValue}
    (hmem : entry ∈ (source.table hc).entries) : entry.1 ∈ source.values := by
  rw [← AList.lookup_isSome, storedValue_eq_some_iff.mp ((mem_table hc).mp hmem)]
  rfl

end InMemoryObjectSource

open InMemoryObjectSource

theorem mem_successors {table : ObjectTable} {steps : ℕ} {oid key : OID} (h : key ∈ successors table steps oid) :
    oid < key ∧ ∃ value, (key, value) ∈ table.entries := by
  induction steps generalizing oid with
  | zero => cases h
  | succ steps ih =>
    rw [successors] at h
    cases hnext : table.next oid with
    | none =>
      rw [hnext] at h
      cases h
    | some entry =>
      obtain ⟨hmem, hlt, -⟩ := SortedTable.next_eq_some_iff.mp hnext
      rw [hnext] at h
      obtain rfl | h := List.mem_cons.mp h
      · exact ⟨hlt, entry.2, hmem⟩
      · split_ifs at h
        · cases h
        · exact ⟨hlt.trans (ih h).1, (ih h).2⟩

theorem mem_answeredOids {table : ObjectTable} {pdu : Pdu} {oid : OID} (h : oid ∈ answeredOids table pdu) :
    ∃ varbind ∈ pdu.varbinds, varbind.oid < oid ∧ ∃ value, (oid, value) ∈ table.entries := by
  have hsuccessor {steps : ℕ} {oids : List OID} (hoids : ∀ asked ∈ oids, asked ∈ pdu.varbinds.map RawVarBind.oid)
      (h : oid ∈ oids.flatMap (successors table steps)) :
      ∃ varbind ∈ pdu.varbinds, varbind.oid < oid ∧ ∃ value, (oid, value) ∈ table.entries := by
    obtain ⟨asked, hasked, hmem⟩ := List.mem_flatMap.mp h
    obtain ⟨varbind, hvarbind, rfl⟩ := List.mem_map.mp (hoids asked hasked)
    exact ⟨varbind, hvarbind, mem_successors hmem⟩
  unfold answeredOids at h
  split at h
  · exact hsuccessor (fun _ hasked => hasked) h
  · obtain h | h := List.mem_append.mp h
    · exact hsuccessor (fun _ hasked => List.mem_of_mem_take hasked) h
    · exact hsuccessor (fun _ hasked => List.mem_of_mem_drop hasked) h
  · cases h

theorem successors_one_iff {table : ObjectTable} {oid : OID} {P : OID → Prop} :
    (∀ key ∈ successors table 1 oid, P key) ↔ ∀ entry, table.next oid = some entry → P entry.1 := by
  rw [successors]
  cases table.next oid with
  | none => simp
  | some entry => simp [successors]

theorem successors_succ_iff {table : ObjectTable} (steps : ℕ) {oid : OID} {P : OID → Prop} :
    (∀ key ∈ successors table (steps + 1) oid, P key) ↔ (∀ key ∈ successors table 1 oid, P key) ∧
      ∀ key ∈ successors table steps (nextCurrent oid (nextVarbind table oid)), P key := by
  rw [successors_one_iff, successors, nextVarbind]
  cases hnext : table.next oid with
  | none =>
    have hnone : successors table steps oid = [] := by
      cases steps with
      | zero => rfl
      | succ steps => rw [successors, hnext]
    simp [nextCurrent, hnone]
  | some entry =>
    by_cases hvalue : entry.2 = .endOfMibViewValue
    · have hheld : ∀ key ∈ successors table steps oid, key = entry.1 := by
        cases steps with
        | zero => simp [successors]
        | succ steps => simp [successors, hnext, hvalue]
      simp only [nextCurrent, hvalue, if_true, List.mem_singleton, forall_eq, Option.some.injEq, forall_eq',
        iff_self_and]
      intro hentry key hkey
      exact hheld key hkey ▸ hentry
    · simp [nextCurrent, hvalue]

section Encodable

variable {source : InMemoryObjectSource σ} (hi : source.Inv) (he : source.Encodable)

include hi he

theorem entry_encodable_iff {entry : OID × SnmpValue} (h : entry ∈ (source.table hi.coherent).entries) :
    RawVarBind.Encodable { oid := entry.1, value := entry.2 } ↔ LegalArcs entry.1 := by
  rw [← encodeOid_isOk_iff (hi.wellFormed _ (mem_values_of_mem_table hi.coherent h)).2]
  exact and_iff_left (he.of_mem hi.coherent h)

theorem nextVarbind_encodable_iff {oid : OID} (hoid : ∃ content, encodeOid oid = .ok content) :
    (nextVarbind (source.table hi.coherent) oid).Encodable ↔
      ∀ key ∈ successors (source.table hi.coherent) 1 oid, LegalArcs key := by
  rw [successors_one_iff, nextVarbind]
  cases hnext : (source.table hi.coherent).next oid with
  | none => simpa using ⟨hoid, _, rfl⟩
  | some entry => simpa using entry_encodable_iff hi he (SortedTable.next_eq_some_iff.mp hnext).1

theorem bulkRows_encodable_iff (repetitions : ℕ) {oids : List OID}
    (hoids : ∀ oid ∈ oids, ∃ content, encodeOid oid = .ok content) :
    (∀ varbind ∈ Id.run (bulkRows (tableSource (source.table hi.coherent)) repetitions oids), varbind.Encodable) ↔
      ∀ oid ∈ oids, ∀ key ∈ successors (source.table hi.coherent) repetitions oid, LegalArcs key := by
  induction repetitions generalizing oids with
  | zero => simp [bulkRows, successors]
  | succ repetitions ih =>
    rw [bulkRows_succ, bulkRow_fst, bulkRow_snd]
    -- the OIDs a row leaves behind can be encoded when the row can
    have hcurrents (hrow : ∀ oid ∈ oids, (nextVarbind (source.table hi.coherent) oid).Encodable) :
        ∀ current ∈ oids.map fun oid => nextCurrent oid (nextVarbind (source.table hi.coherent) oid),
          ∃ content, encodeOid current = .ok content := by
      simp only [List.forall_mem_map]
      intro oid hoid
      unfold nextCurrent
      split_ifs
      · exact hoids oid hoid
      · exact (hrow oid hoid).1
    rw [List.forall_mem_append, List.forall_mem_map]
    constructor
    · rintro ⟨hrow, hrows⟩ oid hoid
      rw [ih (hcurrents hrow), List.forall_mem_map] at hrows
      rw [successors_succ_iff]
      exact ⟨(nextVarbind_encodable_iff hi he (hoids oid hoid)).mp (hrow oid hoid), hrows oid hoid⟩
    · intro h
      have hrow : ∀ oid ∈ oids, (nextVarbind (source.table hi.coherent) oid).Encodable := by
        intro oid hoid
        apply (nextVarbind_encodable_iff hi he (hoids oid hoid)).mpr
        exact ((successors_succ_iff repetitions).mp (h oid hoid)).1
      refine ⟨hrow, ?_⟩
      rw [ih (hcurrents hrow), List.forall_mem_map]
      exact fun oid hoid => ((successors_succ_iff repetitions).mp (h oid hoid)).2

theorem exactVarbind_encodable {oid : OID} (hoid : ∃ content, encodeOid oid = .ok content) :
    (exactVarbind (source.table hi.coherent) oid).Encodable := by
  refine ⟨hoid, ?_⟩
  cases hexact : (source.table hi.coherent).lookup oid with
  | none => simpa [exactVarbind, hexact] using ⟨_, rfl⟩
  | some value =>
    have := he.of_mem hi.coherent (SortedTable.lookup_eq_some_iff.mp hexact)
    simpa [exactVarbind, hexact] using this

theorem answer_encodable_iff {data : Bytes} {message : SnmpMessage} (hdecode : decodeMessage data = .ok message)
    {response : Pdu} (h : answer (source.table hi.coherent) message.pdu = some response) :
    (∀ varbind ∈ response.varbinds, varbind.Encodable) ↔
      ∀ oid ∈ answeredOids (source.table hi.coherent) message.pdu, LegalArcs oid := by
  have hasked := (decodeMessage_ok_iff.mp hdecode).encodable
  have hoids : ∀ oid ∈ message.pdu.varbinds.map RawVarBind.oid, ∃ content, encodeOid oid = .ok content := by
    simpa only [List.forall_mem_map] using fun varbind hmem => (hasked varbind hmem).1
  unfold answer at h
  unfold answeredOids
  split at h
  · rename_i htype
    cases h
    simp only [htype, responsePdu, List.forall_mem_map, List.not_mem_nil, false_imp_iff, implies_true, iff_true]
    exact fun varbind hmem => exactVarbind_encodable hi he (hasked varbind hmem).1
  · rename_i htype
    cases h
    simp only [htype, responsePdu, List.forall_mem_map, List.forall_mem_flatMap]
    exact forall₂_congr fun varbind hmem => nextVarbind_encodable_iff hi he (hasked varbind hmem).1
  · rename_i htype
    cases h
    simp only [htype, responsePdu, bulkVarbinds_eq, List.forall_mem_append, List.forall_mem_map,
      List.forall_mem_flatMap]
    apply and_congr
    · exact forall₂_congr fun oid hmem => nextVarbind_encodable_iff hi he (hoids oid (List.mem_of_mem_take hmem))
    · exact bulkRows_encodable_iff hi he _ fun oid hmem => hoids oid (List.mem_of_mem_drop hmem)
  · rename_i htype
    cases h
    simp only [htype, List.not_mem_nil, false_imp_iff, implies_true, iff_true]
    exact hasked
  · cases h

end Encodable

theorem survives_iff (source : InMemoryObjectSource σ) (rules : σ) (communities : Option (List String))
    (received : ReceivedDatagram) (hreached : source.Reached) (hencodable : source.Encodable) :
    Survives (V2cResponder.new communities asSource) { source := source, rules := rules } received ↔
      ¬ HugeVersion received.data ∧ ∀ message, decodeMessage received.data = .ok message →
        communityAllowed (normalizeCommunities communities) message.community →
        ∀ oid ∈ answeredOids (source.table hreached.inv.coherent) message.pdu, LegalArcs oid := by
  have hanswers := answersFrom_table hreached.inv.coherent hencodable.static rules
  rw [@survives_iff_reply _ (V2cResponder.new communities asSource) _ _ hanswers]
  by_cases hhuge : HugeVersion received.data
  · obtain ⟨text, htext⟩ := @reply_of_huge _ (V2cResponder.new communities asSource)
      { source := source, rules := rules } _ hhuge
    simp [htext, hhuge]
  · rw [and_iff_right hhuge]
    cases hdecode : decodeMessage received.data with
    | error e => simp [reply_of_undecodable hhuge hdecode]
    | ok message =>
      simp only [Except.ok.injEq, forall_eq']
      by_cases hallowed : communityAllowed (normalizeCommunities communities) message.community
      · rw [forall_prop_of_true hallowed]
        have hreply := @reply_of_allowed _ _ (V2cResponder.new communities asSource) _ hanswers _ _ hdecode hallowed
        rw [hreply, answerMessage]
        cases hanswer : answer (source.table hreached.inv.coherent) message.pdu with
        | none => simp [answeredOids_of_none hanswer]
        | some response =>
          rw [← answer_encodable_iff hreached.inv hencodable hdecode hanswer,
            ← @encodeMessage_isOk_iff { message with pdu := response }]
          simp only [Option.map_some]
          cases encodeMessage { message with pdu := response } <;> simp [Except.map]
      · have hreply := @reply_of_foreign _ (V2cResponder.new communities asSource)
          { source := source, rules := rules } _ _ hdecode (Bool.eq_false_iff.mpr hallowed)
        simp [hreply, hallowed]

def storeHolding : List (OID × SnmpValue) → InMemoryObjectSource Unit
  | [] => new none
  | (oid, value) :: objects =>
    let rest := storeHolding objects
    { rest with
      values := rest.values.insert oid (.value value)
      sortedOids := if oid ∈ rest.values then rest.sortedOids else Bisect.insort rest.sortedOids oid }

theorem storeHolding_bundle (objects : List (OID × SnmpValue)) : (storeHolding objects).bundle = none := by
  induction objects with
  | nil => rfl
  | cons object objects ih => exact ih

theorem storeHolding_reached {objects : List (OID × SnmpValue)} (h : ∀ object ∈ objects, WellFormed object.1) :
    (storeHolding objects).Reached := by
  induction objects with
  | nil => exact .new none
  | cons object objects ih =>
    obtain ⟨oid, value⟩ := object
    obtain ⟨hoid, h⟩ := List.forall_mem_cons.mp h
    have htarget : (storeHolding objects).normalizeTarget (.sequence oid (tupleText oid)) = .ok oid := by
      rw [normalizeTarget_eq, storeHolding_bundle]
      exact normalizeTarget_sequence hoid none _
    have hset : (storeHolding objects).setObject (.sequence oid (tupleText oid)) (.value value) =
        .ok (oid, storeHolding ((oid, value) :: objects)) := by
      rw [setObject, htarget]
      rfl
    have hnumeric : (Target.sequence oid (tupleText oid)).Numeric := trivial
    exact .setObject (ih h) (.inl hnumeric) hset

theorem lookup_storeHolding {objects : List (OID × SnmpValue)} {key : OID} {stored : ObjectValue Unit}
    (h : (storeHolding objects).values.lookup key = some stored) :
    ∃ object ∈ objects, object.1 = key ∧ stored = .value object.2 := by
  induction objects with
  | nil => cases h
  | cons object objects ih =>
    obtain ⟨oid, value⟩ := object
    rw [storeHolding] at h
    by_cases hkey : key = oid
    · subst hkey
      rw [AList.lookup_insert, Option.some.injEq] at h
      exact ⟨_, List.mem_cons_self, rfl, h.symm⟩
    · rw [AList.lookup_insert_ne hkey] at h
      obtain ⟨object, hmem, hobject⟩ := ih h
      exact ⟨object, List.mem_cons_of_mem _ hmem, hobject⟩

theorem mem_storeHolding {objects : List (OID × SnmpValue)} {key : OID} (h : key ∈ (storeHolding objects).values) :
    ∃ object ∈ objects, object.1 = key := by
  obtain ⟨stored, hstored⟩ := Option.isSome_iff_exists.mp (AList.lookup_isSome.mpr h)
  obtain ⟨object, hmem, hkey, -⟩ := lookup_storeHolding hstored
  exact ⟨object, hmem, hkey⟩

theorem storeHolding_encodable {objects : List (OID × SnmpValue)}
    (h : ∀ object ∈ objects, ∃ enc, encodeValue object.2 = .ok enc) : (storeHolding objects).Encodable := by
  intro key stored hstored
  obtain ⟨object, hmem, -, rfl⟩ := lookup_storeHolding hstored
  obtain ⟨enc, henc⟩ := h object hmem
  exact ⟨object.2, enc, rfl, henc⟩

def storeOf (oid : OID) (value : SnmpValue) : InMemoryObjectSource Unit := storeHolding [(oid, value)]

theorem storeOf_reached {oid : OID} (value : SnmpValue) (h : WellFormed oid) : (storeOf oid value).Reached :=
  storeHolding_reached (List.forall_mem_singleton.mpr h)

theorem lookup_storeOf {oid key : OID} {value : SnmpValue} {stored : ObjectValue Unit}
    (h : (storeOf oid value).values.lookup key = some stored) : stored = .value value := by
  obtain ⟨object, hmem, -, rfl⟩ := lookup_storeHolding h
  rw [List.mem_singleton.mp hmem]

theorem storeOf_encodable (oid : OID) {value : SnmpValue} (h : ∃ enc, encodeValue value = .ok enc) :
    (storeOf oid value).Encodable :=
  storeHolding_encodable (List.forall_mem_singleton.mpr h)

def sampleObjects : List (OID × SnmpValue) :=
  [([1, 3, 6, 1], .octetStringValue [0x75, 0x70]), ([1, 4], .counter32Value 5), ([1, 3, 6], .integerValue 1)]

def sampleStore : InMemoryObjectSource Unit := storeHolding sampleObjects

theorem sampleStore_reached : sampleStore.Reached := storeHolding_reached (by decide)

theorem lookup_sampleStore {key : OID} {stored : ObjectValue Unit} (h : sampleStore.values.lookup key = some stored) :
    ∃ object ∈ sampleObjects, object.1 = key ∧ stored = .value object.2 := lookup_storeHolding h

theorem sampleObjects_values : ∀ object ∈ sampleObjects, object.2 ≠ .endOfMibViewValue := by decide

def nextRequest (community : String) (oid : OID) : SnmpMessage :=
  { version := 1
    community := community
    pdu := {
      pduType := .getNext
      requestId := 1
      errorStatus := 0
      errorIndex := 0
      varbinds := [{ oid := oid, value := .nullValue }] } }

def killingQuery : Bytes :=
  [48, 26, 2, 1, 1, 4, 1, 112, 161, 18, 2, 1, 1, 2, 1, 0, 2, 1, 0, 48, 7, 48, 5, 6, 1, 43, 5, 0]

theorem survives_sample : Survives (V2cResponder.new none asSource)
    { source := storeOf [1, 3, 6] (.integerValue 1), rules := () } ⟨killingQuery, .inet "10.0.0.1" 50000⟩ := by
  apply (survives_iff (storeOf [1, 3, 6] (.integerValue 1)) () none ⟨killingQuery, .inet "10.0.0.1" 50000⟩
    (storeOf_reached _ (by decide)) (storeOf_encodable _ ⟨_, rfl⟩)).mpr
  have hdecode : decodeMessage killingQuery = .ok (nextRequest "p" [1, 3]) := by decide +kernel
  refine ⟨not_hugeVersion_of_decoded hdecode, fun message hmessage _ => ?_⟩
  rw [hdecode] at hmessage
  cases hmessage
  have hanswered : ∀ h, answeredOids ((storeOf [1, 3, 6] (.integerValue 1)).table h) (nextRequest "p" [1, 3]).pdu =
      [[1, 3, 6]] := fun _ => rfl
  rw [hanswered, List.forall_mem_singleton]
  exact ⟨1, 3, [6], rfl, by decide⟩

theorem store_killed : (new none : InMemoryObjectSource Unit).normalizeTarget (.text "5.1") = .ok [5, 1] ∧
    (storeOf [5, 1] (.integerValue 1)).Reached ∧ (storeOf [5, 1] (.integerValue 1)).Encodable ∧
    ¬ Survives (V2cResponder.new none asSource) { source := storeOf [5, 1] (.integerValue 1), rules := () }
      ⟨killingQuery, .inet "10.0.0.1" 50000⟩ := by
  refine ⟨rfl, storeOf_reached _ (by decide), storeOf_encodable _ ⟨_, rfl⟩, ?_⟩
  have herror : (V2cResponder.new none asSource).reply killingQuery
      { source := storeOf [5, 1] (.integerValue 1), rules := () } =
        .error (.protocolError "First OID arc must be 0, 1, or 2") := rfl
  exact not_survives_of_error herror rfl

section Runs

variable {responder : V2cResponder w} {world : w}

def Settled (responder : V2cResponder w) (world : w) (inbound : List Inbound) : Prop :=
  ∀ item ∈ inbound, ∀ received sendFailure, item.arrival = .datagram received sendFailure →
    ∃ reply, responder.reply received.data world = .ok (reply, world)

theorem handleRequest_settled {inbound : List Inbound} (h : Settled responder world inbound) :
    match responder.handleRequest inbound world with
    | .answered _ rest world' => rest <:+ inbound ∧ world' = world
    | .raised e _ => e.isTransportError
    | .waiting world' => world' = world := by
  induction inbound with
  | nil => rfl
  | cons item inbound ih =>
    obtain ⟨arrival, isClosed⟩ := item
    have hrest := ih fun item hitem => h item (List.mem_cons_of_mem _ hitem)
    cases arrival with
    | lost message => rfl
    | datagram received sendFailure =>
      obtain ⟨reply, hreply⟩ := h _ List.mem_cons_self received sendFailure rfl
      rw [V2cResponder.handleRequest, hreply]
      cases reply with
      | none =>
        simp only
        generalize responder.handleRequest inbound world = handled at hrest
        cases handled with
        | answered sent rest world' => exact ⟨hrest.1.trans (List.suffix_cons _ _), hrest.2⟩
        | raised e closed => exact hrest
        | waiting world' => exact hrest
      | some data =>
        cases sendFailure with
        | none => exact ⟨List.suffix_cons _ _, rfl⟩
        | some message => rfl

theorem serveLoop_settled {count fuel handled : ℕ} {inbound : List Inbound} (h : Settled responder world inbound)
    {e : Error} (hraised : (responder.serveLoop count fuel handled inbound world).outcome = .raised e) :
    e.isTransportError := by
  induction fuel generalizing handled inbound with
  | zero => cases hraised
  | succ fuel ih =>
    rw [V2cResponder.serveLoop] at hraised
    have hhandled := handleRequest_settled h
    split_ifs at hraised
    generalize responder.handleRequest inbound world = result at hhandled hraised
    cases result with
    | waiting world' => cases hraised
    | raised e' closed =>
      simp only at hraised
      split_ifs at hraised
      cases hraised
      exact hhandled
    | answered sent rest world' =>
      obtain ⟨hsuffix, rfl⟩ := hhandled
      exact ih (fun item hitem => h item (hsuffix.subset hitem)) hraised

end Runs

theorem serve_survives {source : InMemoryObjectSource σ} (hi : source.Inv) (hs : source.Static) (rules : σ)
    (communities : Option (List String)) {count : ℤ} (hcount : 0 ≤ count) {inbound : List Inbound}
    (h : ∀ item ∈ inbound, ∀ received sendFailure, item.arrival = .datagram received sendFailure →
      Survives (V2cResponder.new communities asSource) { source := source, rules := rules } received)
    {e : Error} (hraised : ((V2cResponder.new communities asSource).serve count inbound
      { source := source, rules := rules }).outcome = .raised e) : e.isTransportError := by
  have hanswers := answersFrom_table hi.coherent hs rules
  rw [V2cResponder.serve, if_neg (not_lt.mpr hcount)] at hraised
  refine serveLoop_settled (fun item hitem received sendFailure hitem' => ?_) hraised
  exact (@survives_iff_reply _ (V2cResponder.new communities asSource) _ _ hanswers _).mp
    (h item hitem received sendFailure hitem')

end TrishulSnmp.Responder
