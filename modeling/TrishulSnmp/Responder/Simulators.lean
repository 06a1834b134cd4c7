import TrishulSnmp.Library.TotalPrograms
import TrishulSnmp.Responder.Bulk
import TrishulSnmp.Responder.SafeStores
import TrishulSnmp.Responder.Serving

namespace TrishulSnmp.Responder

open Outcome Wire Asn1 Mib InMemoryObjectSource

/-! A responder whose objects change: it answers every run of datagrams, each object with one of the values it
can have. -/

variable {σ : Type}

/-- Out of the states that its rules get into, the object reads as such a value. -/
def ObjectValue.Reads (good : σ → Prop) (P : SnmpValue → Prop) : ObjectValue σ → Prop
  | .value stored => P stored
  | .rule getValue => Total good getValue P

theorem ObjectValue.Reads.imp {good : σ → Prop} {P Q : SnmpValue → Prop} {stored : ObjectValue σ}
    (h : stored.Reads good P) (hPQ : ∀ value, P value → Q value) : stored.Reads good Q := by
  cases stored with
  | value stored => exact hPQ stored h
  | rule getValue => exact Total.imp h hPQ

structure Simulates (source : InMemoryObjectSource σ) (good : σ → Prop) (shows : OID → SnmpValue → Prop) : Prop where
  inv : source.Inv
  reads : ∀ oid stored, source.values.lookup oid = some stored → stored.Reads good (shows oid)
  values : ∀ oid value, shows oid value → (∃ enc, encodeValue value = .ok enc) ∧ Asn1.Preserved value
  noEnd : ∀ oid, ¬ shows oid .endOfMibViewValue

def Simulating (source : InMemoryObjectSource σ) (good : σ → Prop) (world : World σ) : Prop :=
  world.source = source ∧ good world.rules

def ShowsAt (source : InMemoryObjectSource σ) (shows : OID → SnmpValue → Prop) (position : ℕ × OID)
    (varbind : RawVarBind) : Prop :=
  match source.iterated position.1 position.2 with
  | some key => varbind.oid = key ∧ shows key varbind.value
  | none => varbind = { oid := source.lastOid position.1 position.2, value := .endOfMibViewValue }

def ShowsExact (source : InMemoryObjectSource σ) (shows : OID → SnmpValue → Prop) (asked answer : RawVarBind) : Prop :=
  answer.oid = asked.oid ∧
    if asked.oid ∈ source.values then shows asked.oid answer.value else answer.value = .noSuchObjectValue

def Shown (source : InMemoryObjectSource σ) (shows : OID → SnmpValue → Prop) (request : Pdu)
    (varbinds : List RawVarBind) : Prop :=
  match request.pduType with
  | .get => List.Forall₂ (ShowsExact source shows) request.varbinds varbinds
  | .getNext => List.Forall₂ (fun asked => ShowsAt source shows (1, asked.oid)) request.varbinds varbinds
  | .getBulk => List.Forall₂ (ShowsAt source shows)
      (bulkPositions (request.varbinds.map RawVarBind.oid) request.errorStatus request.errorIndex) varbinds
  | _ => varbinds = request.varbinds

section Lookups

variable {source : InMemoryObjectSource σ} {good : σ → Prop} {shows : OID → SnmpValue → Prop}

theorem current_total {stored : ObjectValue σ} {P : SnmpValue → Prop} (h : stored.Reads good P) :
    Total (Simulating source good) stored.current P := by
  cases stored with
  | value stored => exact .pure h
  | rule getValue =>
    rintro world ⟨hsource, hgood⟩
    obtain ⟨value, rules, hrun, hgood', hvalue⟩ := h world.rules hgood
    refine ⟨value, { world with rules := rules }, ?_, ⟨hsource, hgood'⟩, hvalue⟩
    change (getValue world.rules >>= fun p => Except.ok (p.1, _)) = _
    rw [hrun]
    rfl

theorem lookupExact_total (h : Simulates source good shows) (oid : OID) :
    Total (Simulating source good) (lookupExact oid) fun found =>
      match found with
      | none => oid ∉ source.values
      | some value => oid ∈ source.values ∧ shows oid value := by
  refine .read fun world ⟨hsource, _⟩ => ?_
  subst hsource
  cases hlookup : world.source.values.lookup oid with
  | none => exact .pure (AList.lookup_eq_none.mp hlookup)
  | some stored =>
    have hcurrent := @current_total _ world.source _ _ _ (h.reads oid stored hlookup)
    exact hcurrent.bind fun value hvalue => .pure ⟨AList.lookup_isSome.mp (hlookup ▸ rfl), hvalue⟩

theorem lookupNext_total (h : Simulates source good shows) (oid : OID) :
    Total (Simulating source good) (lookupNext oid) fun found =>
      match found with
      | none => source.successor oid = none
      | some (key, value) => source.successor oid = some key ∧ shows key value := by
  refine .read fun world ⟨hsource, _⟩ => ?_
  subst hsource
  dsimp only
  rw [bisect_successor h.inv.coherent]
  cases hkey : world.source.successor oid with
  | none => exact .pure rfl
  | some key =>
    have hmem := ((successor_eq_some_iff h.inv.coherent).mp hkey).1
    obtain ⟨stored, hstored⟩ := Option.isSome_iff_exists.mp (AList.lookup_isSome.mpr hmem)
    simp only [hstored]
    have hcurrent := @current_total _ world.source _ _ _ (h.reads key stored hstored)
    exact hcurrent.bind fun value hvalue => .pure ⟨rfl, hvalue⟩

theorem lookupExactVarbind_total (h : Simulates source good shows) (asked : RawVarBind) :
    Total (Simulating source good) (lookupExactVarbind asSource asked.oid) (ShowsExact source shows asked) := by
  refine (lookupExact_total h asked.oid).bind fun found hfound => ?_
  cases found with
  | none => exact .pure ⟨rfl, by rw [if_neg hfound]⟩
  | some value => exact .pure ⟨rfl, by rw [if_pos hfound.1]; exact hfound.2⟩

theorem lookupNextVarbind_total (h : Simulates source good shows) (steps : ℕ) (oid : OID) :
    Total (Simulating source good) (lookupNextVarbind asSource (source.lastOid steps oid))
      (ShowsAt source shows (steps + 1, oid)) := by
  refine (lookupNext_total h _).bind fun found hfound => ?_
  unfold ShowsAt
  cases found with
  | none =>
    rw [successor_lastOid] at hfound
    simp only [hfound, lastOid, Option.getD_none]
    exact .pure rfl
  | some found =>
    rw [successor_lastOid] at hfound
    simp only [hfound.1]
    exact .pure ⟨rfl, hfound.2⟩

theorem nextCurrent_shown (h : Simulates source good shows) {steps : ℕ} {oid : OID} {varbind : RawVarBind}
    (hshown : ShowsAt source shows (steps + 1, oid) varbind) :
    nextCurrent (source.lastOid steps oid) varbind = source.lastOid (steps + 1) oid := by
  unfold ShowsAt at hshown
  rw [lastOid, nextCurrent]
  cases hkey : source.iterated (steps + 1) oid with
  | none =>
    rw [hkey] at hshown
    rw [hshown, if_pos rfl, Option.getD_none]
  | some key =>
    rw [hkey] at hshown
    obtain ⟨hoid, hvalue⟩ := hshown
    have hne : varbind.value ≠ .endOfMibViewValue := fun heq => h.noEnd key (heq ▸ hvalue)
    rw [if_neg hne, Option.getD_some, hoid]

theorem bulkRow_total (h : Simulates source good shows) (steps : ℕ) (repeaters : List OID) :
    Total (Simulating source good) (bulkRow asSource (repeaters.map (source.lastOid steps))) fun row =>
      List.Forall₂ (fun oid => ShowsAt source shows (steps + 1, oid)) repeaters row.1 ∧
        row.2 = repeaters.map (source.lastOid (steps + 1)) := by
  induction repeaters with
  | nil => exact .pure ⟨.nil, rfl⟩
  | cons oid repeaters ih =>
    rw [List.map_cons, bulkRow]
    refine (lookupNextVarbind_total h steps oid).bind fun varbind hshown => ih.bind fun row hrow => .pure ?_
    obtain ⟨hrow, hcurrent⟩ := hrow
    exact ⟨.cons hshown hrow, by rw [hcurrent, nextCurrent_shown h hshown, List.map_cons]⟩

theorem bulkRows_total (h : Simulates source good shows) (repetitions steps : ℕ) (repeaters : List OID) :
    Total (Simulating source good) (bulkRows asSource repetitions (repeaters.map (source.lastOid steps)))
      (List.Forall₂ (ShowsAt source shows) (rowPositions repeaters (steps + 1) repetitions)) := by
  induction repetitions generalizing steps with
  | zero => exact .pure .nil
  | succ repetitions ih =>
    rw [bulkRows, rowPositions, List.range'_succ, List.flatMap_cons]
    refine (bulkRow_total h steps repeaters).bind fun row hrow => ?_
    obtain ⟨hrow, hcurrent⟩ := hrow
    rw [hcurrent]
    refine (ih (steps + 1)).bind fun rows hrows => .pure ?_
    exact List.rel_append (R := ShowsAt source shows) (List.forall₂_map_left_iff.mpr hrow) hrows

theorem buildBulkVarbinds_total (h : Simulates source good shows) (varbinds : List RawVarBind)
    (nonRepeaters maxRepetitions : ℤ) :
    Total (Simulating source good) (buildBulkVarbinds asSource varbinds nonRepeaters maxRepetitions)
      (List.Forall₂ (ShowsAt source shows)
        (bulkPositions (varbinds.map RawVarBind.oid) nonRepeaters maxRepetitions)) := by
  rw [buildBulkVarbinds_clamped]
  have hfirst := Total.mapM (lookupNextVarbind_total h 0) ((varbinds.map RawVarBind.oid).take nonRepeaters.toNat)
  refine hfirst.bind fun first hfirst => ?_
  have hrows := bulkRows_total h maxRepetitions.toNat 0 ((varbinds.map RawVarBind.oid).drop nonRepeaters.toNat)
  have hstart : ((varbinds.map RawVarBind.oid).drop nonRepeaters.toNat).map (source.lastOid 0) =
      (varbinds.map RawVarBind.oid).drop nonRepeaters.toNat := List.map_id _
  rw [hstart] at hrows
  refine hrows.bind fun rows hrows => .pure ?_
  exact List.rel_append (R := ShowsAt source shows) (List.forall₂_map_left_iff.mpr hfirst) hrows

structure Answered (source : InMemoryObjectSource σ) (shows : OID → SnmpValue → Prop) (request response : Pdu) :
    Prop where
  pduType : response.pduType = .response
  requestId : response.requestId = request.requestId
  errorStatus : response.errorStatus = if request.pduType = .set then ErrorStatus.notWritable.toInt else 0
  varbinds : Shown source shows request response.varbinds

theorem responsePdu_total {request : Pdu} {x : StateT (World σ) (Except Error) (List RawVarBind)}
    (htype : request.pduType ≠ .set) (hx : Total (Simulating source good) x (Shown source shows request)) :
    Total (Simulating source good) (do return some (responsePdu request (← x))) fun response =>
      ∃ pdu, response = some pdu ∧ Answered source shows request pdu :=
  hx.bind fun _ hvarbinds => .pure ⟨_, rfl, rfl, rfl, (if_neg htype).symm, hvarbinds⟩

theorem buildResponsePdu_total (h : Simulates source good shows) {request : Pdu}
    (htype : request.pduType ∈ [.get, .getNext, .getBulk, .set]) :
    Total (Simulating source good) (buildResponsePdu asSource request) fun response =>
      ∃ pdu, response = some pdu ∧ Answered source shows request pdu := by
  unfold buildResponsePdu
  cases hpdu : request.pduType with
  | get =>
    have hget := Total.mapM (lookupExactVarbind_total h) request.varbinds
    refine responsePdu_total (by simp [hpdu]) (hget.imp fun varbinds hvarbinds => ?_)
    rw [Shown, hpdu]
    exact hvarbinds
  | getNext =>
    have hnext : ∀ asked : RawVarBind, Total (Simulating source good) (lookupNextVarbind asSource asked.oid)
        (ShowsAt source shows (1, asked.oid)) := fun asked => lookupNextVarbind_total h 0 asked.oid
    refine responsePdu_total (by simp [hpdu]) ((Total.mapM hnext _).imp fun varbinds hvarbinds => ?_)
    rw [Shown, hpdu]
    exact hvarbinds
  | getBulk =>
    have hbulk := buildBulkVarbinds_total h request.varbinds request.errorStatus request.errorIndex
    refine responsePdu_total (by simp [hpdu]) (hbulk.imp fun varbinds hvarbinds => ?_)
    rw [Shown, hpdu]
    exact hvarbinds
  | set => exact .pure ⟨_, rfl, rfl, rfl, by rw [hpdu]; rfl, by simp only [Shown, hpdu]; rfl⟩
  | _ => simp [hpdu] at htype

end Lookups

section Wire

variable {source : InMemoryObjectSource σ} {good : σ → Prop} {shows : OID → SnmpValue → Prop}

def Wirable (varbind : RawVarBind) : Prop := varbind.Encodable ∧ varbind.Preserved

def Nameable (oid : OID) : Prop := (∃ content, encodeOid oid = .ok content) ∧ ∀ arc ∈ oid, 0 ≤ arc

theorem exception_wirable {oid : OID} (hoid : Nameable oid) : Wirable { oid := oid, value := .noSuchObjectValue } ∧
    Wirable { oid := oid, value := .endOfMibViewValue } :=
  ⟨⟨⟨hoid.1, _, rfl⟩, hoid.2, trivial⟩, ⟨⟨hoid.1, _, rfl⟩, hoid.2, trivial⟩⟩

theorem Nameable.zero_lt {oid : OID} (h : Nameable oid) : [0] < oid := by
  obtain ⟨first, second, arcs, rfl, hlegal⟩ := (encodeOid_isOk_iff h.2).mp h.1
  have hnonneg : 0 ≤ first := h.2 first List.mem_cons_self
  rw [List.cons_lt_cons_iff]
  obtain hlt | rfl := hnonneg.lt_or_eq
  · exact .inl hlt
  · exact .inr ⟨rfl, List.nil_lt_cons _ _⟩

theorem nameable_successor (h : Simulates source good shows) (hlegal : LegalStore source) {oid key : OID}
    (hoid : Nameable oid) (hkey : source.successor oid = some key) : Nameable key := by
  obtain ⟨hmem, hlt, -⟩ := (successor_eq_some_iff h.inv.coherent).mp hkey
  have hnonneg := (h.inv.wellFormed key hmem).2
  exact ⟨(encodeOid_isOk_iff hnonneg).mpr (hlegal key hmem (hoid.zero_lt.trans hlt).ne'), hnonneg⟩

theorem lastOid_nameable (h : Simulates source good shows) (hlegal : LegalStore source) {oid : OID}
    (hoid : Nameable oid) (steps : ℕ) : Nameable (source.lastOid steps oid) := by
  induction steps with
  | zero => exact hoid
  | succ steps ih =>
    rw [lastOid]
    cases hkey : source.iterated (steps + 1) oid with
    | none => exact ih
    | some key =>
      rw [← successor_lastOid] at hkey
      exact nameable_successor h hlegal ih hkey

theorem shownAt_wirable (h : Simulates source good shows) (hlegal : LegalStore source) {oid : OID} (hoid : Nameable oid)
    {steps : ℕ} {varbind : RawVarBind} (hshown : ShowsAt source shows (steps + 1, oid) varbind) : Wirable varbind := by
  unfold ShowsAt at hshown
  cases hkey : source.iterated (steps + 1) oid with
  | none =>
    rw [hkey] at hshown
    rw [hshown]
    exact (exception_wirable (lastOid_nameable h hlegal hoid _)).2
  | some key =>
    rw [hkey] at hshown
    obtain ⟨rfl, hvalue⟩ := hshown
    rw [← successor_lastOid] at hkey
    obtain ⟨hname, hnonneg⟩ := nameable_successor h hlegal (lastOid_nameable h hlegal hoid steps) hkey
    obtain ⟨hencodes, hpreserved⟩ := h.values _ _ hvalue
    exact ⟨⟨hname, hencodes⟩, hnonneg, hpreserved⟩

theorem shownExact_wirable (h : Simulates source good shows) {asked answer : RawVarBind} (hoid : Nameable asked.oid)
    (hshown : ShowsExact source shows asked answer) : Wirable answer := by
  obtain ⟨oid, value⟩ := answer
  obtain ⟨rfl, hvalue⟩ := hshown
  by_cases hmem : asked.oid ∈ source.values
  · rw [if_pos hmem] at hvalue
    obtain ⟨hencodes, hpreserved⟩ := h.values _ _ hvalue
    exact ⟨⟨hoid.1, hencodes⟩, hoid.2, hpreserved⟩
  · rw [if_neg hmem] at hvalue
    obtain rfl : value = .noSuchObjectValue := hvalue
    exact (exception_wirable hoid).1

theorem bulk_wirable (h : Simulates source good shows) (hlegal : LegalStore source) {oids : List OID}
    (hoids : ∀ oid ∈ oids, Nameable oid) {nonRepeaters maxRepetitions : ℤ} {varbinds : List RawVarBind}
    (hshown : List.Forall₂ (ShowsAt source shows) (bulkPositions oids nonRepeaters maxRepetitions) varbinds) :
    ∀ varbind ∈ varbinds, Wirable varbind := by
  refine forall_mem_of_forall₂ hshown fun position hmem varbind hat => ?_
  obtain hmem | hmem := List.mem_append.mp hmem
  · obtain ⟨oid, hoid, rfl⟩ := List.mem_map.mp hmem
    exact shownAt_wirable h hlegal (hoids oid (List.mem_of_mem_take hoid)) hat
  · obtain ⟨row, hrow, hmem⟩ := List.mem_flatMap.mp hmem
    obtain ⟨oid, hoid, rfl⟩ := List.mem_map.mp hmem
    obtain ⟨steps, rfl⟩ := Nat.exists_eq_add_of_le' (List.mem_range'_1.mp hrow).1
    exact shownAt_wirable h hlegal (hoids oid (List.mem_of_mem_drop hoid)) hat

theorem answered_wirable (h : Simulates source good shows) (hlegal : LegalStore source) {request response : Pdu}
    (hasked : ∀ varbind ∈ request.varbinds, Wirable varbind) (hanswered : Answered source shows request response) :
    ∀ varbind ∈ response.varbinds, Wirable varbind := by
  have hname : ∀ varbind ∈ request.varbinds, Nameable varbind.oid :=
    fun varbind hmem => ⟨(hasked varbind hmem).1.1, (hasked varbind hmem).2.1⟩
  have hvarbinds := hanswered.varbinds
  unfold Shown at hvarbinds
  split at hvarbinds
  · exact forall_mem_of_forall₂ hvarbinds fun asked hmem answer hexact => shownExact_wirable h (hname asked hmem) hexact
  · exact forall_mem_of_forall₂ hvarbinds fun asked hmem answer hat => shownAt_wirable h hlegal (hname asked hmem) hat
  · exact bulk_wirable h hlegal (List.forall_mem_map.mpr hname) hvarbinds
  · rw [hvarbinds]
    exact hasked

end Wire

structure SimulatedFor (source : InMemoryObjectSource σ) (shows : OID → SnmpValue → Prop)
    (request : SnmpMessage × SocketAddress) (sent : Sent) : Prop where
  destination : sent.destination = request.2
  answered : sent.data.length < lengthLimit → ∃ response, Answered source shows request.1.pdu response ∧
    decodeMessage sent.data = .ok { request.1 with pdu := response }

section Runs

variable {source : InMemoryObjectSource σ} {good : σ → Prop} {shows : OID → SnmpValue → Prop}
  (communities : Option (List String)) {world : World σ}

theorem reply_simulated (h : Simulates source good shows) (hlegal : LegalStore source)
    (hworld : Simulating source good world) {received : ReceivedDatagram} {asked : SnmpMessage × SocketAddress}
    (hasked : request (normalizeCommunities communities) received = some asked) :
    ∃ data world', (V2cResponder.new communities asSource).reply received.data world = .ok (some data, world') ∧
      Simulating source good world' ∧
      SimulatedFor source shows asked { data := data, destination := received.sourceAddress } := by
  unfold request at hasked
  cases hdecode : decodeMessage received.data with
  | error e => simp [hdecode] at hasked
  | ok message =>
    rw [hdecode] at hasked
    obtain ⟨⟨hallowed, htype⟩, hasked⟩ := Option.ite_none_right_eq_some.mp hasked
    obtain rfl := Option.some.inj hasked
    have hdecoded := decodeMessage_ok_iff.mp hdecode
    obtain ⟨_, world', hrun, hworld', response, rfl, hanswered⟩ := buildResponsePdu_total h htype world hworld
    have hwirable := answered_wirable h hlegal
      (fun varbind hmem => ⟨hdecoded.encodable varbind hmem, hdecoded.preserved varbind hmem⟩) hanswered
    obtain ⟨data, hdata⟩ := (@encodeMessage_isOk_iff { message with pdu := response }).mpr fun varbind hmem =>
      (hwirable varbind hmem).1
    have hbuilt : buildResponseMessage asSource message world =
        .ok (some { message with pdu := response }, world') := by
      rw [buildResponseMessage, bind_of_ok hrun]
      rfl
    refine ⟨data, world', ?_, hworld', rfl, fun hlen => ⟨response, hanswered, ?_⟩⟩
    · rw [@reply_of_built _ (V2cResponder.new communities asSource) _ _ _ _ _ hdecode hallowed hbuilt]
      simp only [hdata]
      rfl
    · exact @decodeMessage_encodeMessage_preserved { message with pdu := response } data hdecoded.2
        (fun varbind hmem => (hwirable varbind hmem).2) hdata hlen

theorem serve_simulated (h : Simulates source good shows) (hlegal : LegalStore source) (count : ℕ)
    (datagrams : List ReceivedDatagram) (hhuge : ∀ received ∈ datagrams, ¬ HugeVersion received.data)
    (hworld : Simulating source good world) :
    let requests := datagrams.filterMap (request (normalizeCommunities communities))
    let served := (V2cResponder.new communities asSource).serve count (arriving datagrams) world
    served.outcome = (if count ≠ 0 ∧ count ≤ requests.length then .returned count else .waiting) ∧
      (∃ world', served.world = some world' ∧ Simulating source good world') ∧
      List.Forall₂ (SimulatedFor source shows) (if count = 0 then requests else requests.take count) served.sent := by
  exact serve_serves count (fun received hmem => ⟨hhuge received hmem, fun asked hasked world hworld =>
    reply_simulated communities h hlegal hworld hasked⟩) hworld

end Runs

section Survival

variable {source : InMemoryObjectSource σ} {good : σ → Prop} {shows : OID → SnmpValue → Prop}
  {communities : Option (List String)} {world : World σ}

theorem exists_allowed (hfits : source.Fits communities)
    (h : ¬ ∀ community, communityAllowed (normalizeCommunities communities) community = false) :
    ∃ community, communityAllowed (normalizeCommunities communities) community ∧
      (Utf8.encode community).length < maxSize := by
  cases communities with
  | none => exact ⟨"", rfl, by decide⟩
  | some names =>
    obtain ⟨name, hname⟩ := not_forall.mp h
    rw [Bool.not_eq_false] at hname
    have hmem : name ∈ names.filter (· ≠ "") := by simpa [communityAllowed, normalizeCommunities] using hname
    exact ⟨name, hname, hfits.names names rfl name (List.mem_of_mem_filter hmem)⟩

theorem exists_killer (h : Simulates source good shows) (hfits : source.Fits communities) {community : String}
    (hcommunity : (Utf8.encode community).length < maxSize) (hillegal : ¬ LegalStore source) :
    ∃ data query key, decodeMessage data = .ok (nextRequest community query) ∧ source.successor query = some key ∧
      ¬ ∃ content, encodeOid key = .ok content := by
  obtain ⟨oid, hmem, hzero, hoid⟩ : ∃ oid ∈ source.values, oid ≠ [0] ∧ ¬ LegalArcs oid := by
    simpa [LegalStore] using hillegal
  obtain ⟨query, hlegal, hlt, hquery, hbetween⟩ := exists_query h.inv hmem hzero hoid
  have hnonneg : ∀ arc ∈ query, 0 ≤ arc := by
    obtain rfl | hin := hquery
    · simp
    · exact (h.inv.wellFormed query hin).2
  obtain ⟨content, hcontent⟩ := (encodeOid_isOk_iff hnonneg).mpr hlegal
  have hsize : content.length < maxSize := by
    obtain rfl | hin := hquery
    · have hroot : encodeOid [0, 0] = .ok [0] := by decide
      obtain rfl := eq_of_ok hroot hcontent
      decide
    · exact hfits.oids query hin content hcontent
  obtain ⟨data, hdata⟩ := nextRequest_decodes hnonneg hcontent hsize hcommunity
  obtain ⟨key, hkey⟩ : ∃ key, source.successor query = some key := by
    rw [← Option.ne_none_iff_exists']
    intro hnone
    rw [successor, List.find?_eq_none] at hnone
    exact hnone oid ((h.inv.coherent.mem_iff oid).mpr hmem) (by simpa using hlt)
  obtain ⟨hkeyMem, hgt, hleast⟩ := (successor_eq_some_iff h.inv.coherent).mp hkey
  refine ⟨data, query, key, hdata, hkey, fun hencodes => ?_⟩
  exact hbetween key hkeyMem hgt (hleast oid hmem hlt)
    ((encodeOid_isOk_iff (h.inv.wellFormed key hkeyMem).2).mp hencodes)

theorem killed_by (h : Simulates source good shows) (hworld : Simulating source good world) {community : String}
    (hallowed : communityAllowed (normalizeCommunities communities) community) {data : Bytes} {query key : OID}
    (hdata : decodeMessage data = .ok (nextRequest community query)) (hkey : source.successor query = some key)
    (hrefused : ¬ ∃ content, encodeOid key = .ok content) :
    ¬ Survives (V2cResponder.new communities asSource) world ⟨data, .inet "" 0⟩ := by
  have htype : (nextRequest community query).pdu.pduType ∈ [.get, .getNext, .getBulk, .set] := by
    simp [nextRequest]
  obtain ⟨_, world', hrun, -, response, rfl, hanswered⟩ := buildResponsePdu_total h htype world hworld
  obtain ⟨answer, _, hshown, hnil, hanswer⟩ := List.forall₂_cons_left_iff.mp hanswered.varbinds
  have hname : answer.oid = key := by
    have hstep : source.iterated 1 query = some key := hkey
    unfold ShowsAt at hshown
    change match source.iterated 1 query with | some key => _ | none => _ at hshown
    rw [hstep] at hshown
    exact hshown.1
  have hbuilt : buildResponseMessage asSource (nextRequest community query) world =
      .ok (some { nextRequest community query with pdu := response }, world') := by
    rw [buildResponseMessage, bind_of_ok hrun]
    rfl
  have hreply := @reply_of_built _ (V2cResponder.new communities asSource) _ _ _ _ _ hdata hallowed hbuilt
  obtain ⟨sent, hsent⟩ | ⟨e, he⟩ := ok_or_error (encodeMessage { nextRequest community query with pdu := response })
  · have hencodable := (@encodeMessage_isOk_iff { nextRequest community query with pdu := response }).mp ⟨sent, hsent⟩
    have hmem : answer ∈ response.varbinds := hanswer ▸ List.mem_cons_self
    exact absurd (hname ▸ (hencodable answer hmem).1) hrefused
  · simp only [he] at hreply
    exact not_survives_of_error hreply (encodeMessage_failsOnly _ e he)

theorem simulator_killed (h : Simulates source good shows) (hfits : source.Fits communities)
    (hneither : ¬ ((∀ community, communityAllowed (normalizeCommunities communities) community = false) ∨
      LegalStore source)) :
    ∃ data community query, decodeMessage data = .ok (nextRequest community query) ∧
      ∀ world, Simulating source good world →
        ¬ Survives (V2cResponder.new communities asSource) world ⟨data, .inet "" 0⟩ := by
  obtain ⟨hsome, hillegal⟩ := not_or.mp hneither
  obtain ⟨community, hallowed, hcommunity⟩ := exists_allowed hfits hsome
  obtain ⟨data, query, key, hdata, hkey, hrefused⟩ := exists_killer h hfits hcommunity hillegal
  exact ⟨data, community, query, hdata, fun world hworld => killed_by h hworld hallowed hdata hkey hrefused⟩

theorem simulator_survives_iff (h : Simulates source good shows) (hfits : source.Fits communities)
    (hworld : Simulating source good world) :
    (∀ world received, Simulating source good world → ¬ HugeVersion received.data →
      Survives (V2cResponder.new communities asSource) world received) ↔
      (∀ community, communityAllowed (normalizeCommunities communities) community = false) ∨ LegalStore source := by
  constructor
  · intro hsurvives
    by_contra hneither
    obtain ⟨data, community, query, hdata, hkilled⟩ := simulator_killed h hfits hneither
    exact hkilled world hworld (hsurvives world _ hworld (not_hugeVersion_of_decoded hdata))
  · intro hsafe world received hworld hhuge
    cases hrequest : request (normalizeCommunities communities) received with
    | none => exact survives_of_reply (reply_of_unasked hhuge hrequest _)
    | some asked =>
      obtain hnobody | hlegal := hsafe
      · unfold request at hrequest
        cases hdecode : decodeMessage received.data <;> simp [hdecode, hnobody] at hrequest
      · obtain ⟨data, world', hreply, -⟩ := reply_simulated communities h hlegal hworld hrequest
        exact survives_of_reply hreply

end Survival

end TrishulSnmp.Responder
