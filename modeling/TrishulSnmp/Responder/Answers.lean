import TrishulSnmp.Responder.StaticSource
import TrishulSnmp.Wire.Encodable
import TrishulSnmp.Wire.X690

namespace TrishulSnmp.Responder

open Outcome Wire

def exactVarbind (table : ObjectTable) (oid : OID) : RawVarBind :=
  { oid := oid, value := (table.lookup oid).getD .noSuchObjectValue }

def nextVarbind (table : ObjectTable) (oid : OID) : RawVarBind :=
  match table.next oid with
  | none => { oid := oid, value := .endOfMibViewValue }
  | some (nextOid, value) => { oid := nextOid, value := value }

variable {table : ObjectTable}

theorem lookupExactVarbind_table (oid : OID) :
    Id.run (lookupExactVarbind (tableSource table) oid) = exactVarbind table oid := by
  rw [exactVarbind, lookupExactVarbind]
  change Id.run (bind (id (table.lookup oid)) _) = _
  generalize table.lookup oid = found
  cases found <;> rfl

theorem lookupNextVarbind_table (oid : OID) :
    Id.run (lookupNextVarbind (tableSource table) oid) = nextVarbind table oid := by
  rw [nextVarbind, lookupNextVarbind]
  change Id.run (bind (id (table.next oid)) _) = _
  generalize table.next oid = found
  cases found <;> rfl

theorem mapM_table {α β : Type} {f : α → Id β} {g : α → β} (h : ∀ a, Id.run (f a) = g a) (xs : List α) :
    Id.run (xs.mapM f) = xs.map g := by
  induction xs with
  | nil => rfl
  | cons x xs ih =>
    rw [List.mapM_cons]
    change Id.run (f x) :: Id.run (xs.mapM f) = _
    rw [ih, h]
    rfl

theorem bulkRow_cons (oid : OID) (oids : List OID) : Id.run (bulkRow (tableSource table) (oid :: oids)) =
    (nextVarbind table oid :: (Id.run (bulkRow (tableSource table) oids)).1,
      nextCurrent oid (nextVarbind table oid) :: (Id.run (bulkRow (tableSource table) oids)).2) := by
  rw [← lookupNextVarbind_table]
  rfl

theorem bulkRow_fst (oids : List OID) :
    (Id.run (bulkRow (tableSource table) oids)).1 = oids.map (nextVarbind table) := by
  induction oids with
  | nil => rfl
  | cons oid oids ih => rw [bulkRow_cons, ih, List.map_cons]

theorem bulkRow_snd (oids : List OID) : (Id.run (bulkRow (tableSource table) oids)).2 =
    oids.map fun oid => nextCurrent oid (nextVarbind table oid) := by
  induction oids with
  | nil => rfl
  | cons oid oids ih => rw [bulkRow_cons, ih, List.map_cons]

theorem bulkRows_succ (repetitions : ℕ) (oids : List OID) :
    Id.run (bulkRows (tableSource table) (repetitions + 1) oids) =
      (Id.run (bulkRow (tableSource table) oids)).1 ++
        Id.run (bulkRows (tableSource table) repetitions (Id.run (bulkRow (tableSource table) oids)).2) := rfl

def bulkVarbinds (table : ObjectTable) (varbinds : List RawVarBind) (nonRepeaters maxRepetitions : ℤ) :
    List RawVarBind :=
  Id.run (buildBulkVarbinds (tableSource table) varbinds nonRepeaters maxRepetitions)

theorem bulkVarbinds_eq (varbinds : List RawVarBind) (nonRepeaters maxRepetitions : ℤ) :
    bulkVarbinds table varbinds nonRepeaters maxRepetitions =
      ((varbinds.map RawVarBind.oid).take nonRepeaters.toNat).map (nextVarbind table) ++
        Id.run (bulkRows (tableSource table) maxRepetitions.toNat
          ((varbinds.map RawVarBind.oid).drop nonRepeaters.toNat)) := by
  rw [bulkVarbinds, buildBulkVarbinds_clamped, ← mapM_table lookupNextVarbind_table]
  rfl

def answer (table : ObjectTable) (pdu : Pdu) : Option Pdu :=
  match pdu.pduType with
  | .get => some (responsePdu pdu (pdu.varbinds.map fun varbind => exactVarbind table varbind.oid))
  | .getNext => some (responsePdu pdu (pdu.varbinds.map fun varbind => nextVarbind table varbind.oid))
  | .getBulk => some (responsePdu pdu (bulkVarbinds table pdu.varbinds pdu.errorStatus pdu.errorIndex))
  | .set => some (setResponsePdu pdu)
  | _ => none

def successors (table : ObjectTable) : ℕ → OID → List OID
  | 0, _ => []
  | steps + 1, oid =>
    match table.next oid with
    | none => []
    | some (key, value) => key :: if value = .endOfMibViewValue then [] else successors table steps key

def answeredOids (table : ObjectTable) (pdu : Pdu) : List OID :=
  let oids := pdu.varbinds.map RawVarBind.oid
  match pdu.pduType with
  | .getNext => oids.flatMap (successors table 1)
  | .getBulk =>
    (oids.take pdu.errorStatus.toNat).flatMap (successors table 1) ++
      (oids.drop pdu.errorStatus.toNat).flatMap (successors table pdu.errorIndex.toNat)
  | _ => []

theorem answeredOids_of_none {pdu : Pdu} (h : answer table pdu = none) : answeredOids table pdu = [] := by
  unfold answer at h
  unfold answeredOids
  split at h
  · cases h
  · cases h
  · cases h
  · cases h
  · simp_all

theorem buildResponsePdu_table (pdu : Pdu) : Id.run (buildResponsePdu (tableSource table) pdu) = answer table pdu := by
  unfold answer buildResponsePdu
  cases pdu.pduType with
  | get =>
    have hmap := mapM_table (fun varbind : RawVarBind => @lookupExactVarbind_table table varbind.oid) pdu.varbinds
    rw [← hmap]
    rfl
  | getNext =>
    have hmap := mapM_table (fun varbind : RawVarBind => @lookupNextVarbind_table table varbind.oid) pdu.varbinds
    rw [← hmap]
    rfl
  | _ => rfl

section Forall

variable {Good : OID → Prop} {Q : RawVarBind → Prop}
  (hstep : ∀ oid, Good oid → Q (nextVarbind table oid) ∧ Good (nextCurrent oid (nextVarbind table oid)))

include hstep

theorem bulkRow_forall {oids : List OID} (h : ∀ oid ∈ oids, Good oid) :
    (∀ varbind ∈ (Id.run (bulkRow (tableSource table) oids)).1, Q varbind) ∧
      ∀ oid ∈ (Id.run (bulkRow (tableSource table) oids)).2, Good oid := by
  induction oids with
  | nil => exact ⟨by simp [bulkRow], by simp [bulkRow]⟩
  | cons oid oids ih =>
    rw [bulkRow_cons]
    obtain ⟨hgood, hrest⟩ := List.forall_mem_cons.mp h
    obtain ⟨hq, hgood'⟩ := hstep oid hgood
    exact ⟨List.forall_mem_cons.mpr ⟨hq, (ih hrest).1⟩, List.forall_mem_cons.mpr ⟨hgood', (ih hrest).2⟩⟩

theorem bulkRows_forall (repetitions : ℕ) {oids : List OID} (h : ∀ oid ∈ oids, Good oid) :
    ∀ varbind ∈ Id.run (bulkRows (tableSource table) repetitions oids), Q varbind := by
  induction repetitions generalizing oids with
  | zero => simp [bulkRows]
  | succ repetitions ih =>
    rw [bulkRows_succ]
    obtain ⟨hrow, hoids⟩ := bulkRow_forall hstep h
    intro varbind hmem
    obtain hmem | hmem := List.mem_append.mp hmem
    · exact hrow varbind hmem
    · exact ih hoids varbind hmem

theorem buildBulkVarbinds_forall {varbinds : List RawVarBind} (h : ∀ varbind ∈ varbinds, Good varbind.oid)
    (nonRepeaters maxRepetitions : ℤ) : ∀ varbind ∈
      bulkVarbinds table varbinds nonRepeaters maxRepetitions, Q varbind := by
  have hoids : ∀ oid ∈ varbinds.map RawVarBind.oid, Good oid := by simpa using h
  intro varbind hmem
  obtain hmem | hmem := List.mem_append.mp hmem
  · change varbind ∈ Id.run (List.mapM _ _) at hmem
    rw [mapM_table lookupNextVarbind_table, List.mem_map] at hmem
    obtain ⟨oid, hoid, rfl⟩ := hmem
    exact (hstep oid (hoids oid (List.mem_of_mem_take hoid))).1
  · exact bulkRows_forall hstep _ (fun oid hoid => hoids oid (List.mem_of_mem_drop hoid)) varbind hmem

theorem answer_forall (hexact : ∀ oid, Good oid → Q (exactVarbind table oid)) {pdu response : Pdu}
    (hpdu : ∀ varbind ∈ pdu.varbinds, Good varbind.oid ∧ Q varbind) (h : answer table pdu = some response) :
    ∀ varbind ∈ response.varbinds, Q varbind := by
  have hgood := fun varbind hmem => (hpdu varbind hmem).1
  unfold answer at h
  split at h
  · cases h
    simp only [responsePdu, List.forall_mem_map]
    exact fun varbind hmem => hexact _ (hgood varbind hmem)
  · cases h
    simp only [responsePdu, List.forall_mem_map]
    exact fun varbind hmem => (hstep _ (hgood varbind hmem)).1
  · cases h
    exact buildBulkVarbinds_forall hstep hgood _ _
  · cases h
    exact fun varbind hmem => (hpdu varbind hmem).2
  · cases h

end Forall

def answerMessage (table : ObjectTable) (message : SnmpMessage) : Option SnmpMessage :=
  (answer table message.pdu).map fun pdu => { message with pdu := pdu }

section Reply

variable {w : Type} {responder : V2cResponder w} {world : w} (h : AnswersFrom responder.source table world)

include h

theorem buildResponseMessage_eq (message : SnmpMessage) :
    buildResponseMessage responder.source message world = .ok (answerMessage table message, world) := by
  rw [buildResponseMessage, bind_of_ok (buildResponsePdu_eq h message.pdu), buildResponsePdu_table, answerMessage]
  cases answer table message.pdu <;> rfl

omit h in
theorem reply_of_undecodable {data : Bytes} (hhuge : ¬ HugeVersion data) {e : Error}
    (hdecode : decodeMessage data = .error e) : responder.reply data world = .ok (none, world) := by
  rw [V2cResponder.reply, hdecode]
  simp only
  rw [if_pos (decodeMessage_failsOnly hhuge e hdecode)]
  rfl

omit h in
theorem reply_of_huge {data : Bytes} (hhuge : HugeVersion data) :
    ∃ text, responder.reply data world = .error (.valueError text) := by
  obtain ⟨text, htext⟩ := decodeMessage_huge hhuge
  refine ⟨text, ?_⟩
  rw [V2cResponder.reply, htext]
  rfl

omit h in
theorem reply_of_foreign {data : Bytes} {message : SnmpMessage} (hdecode : decodeMessage data = .ok message)
    (hforeign : communityAllowed responder.communities message.community = false) :
    responder.reply data world = .ok (none, world) := by
  rw [V2cResponder.reply, hdecode]
  simp only
  rw [if_neg (by simp [hforeign])]
  rfl

theorem reply_of_allowed {data : Bytes} {message : SnmpMessage} (hdecode : decodeMessage data = .ok message)
    (hallowed : communityAllowed responder.communities message.community) :
    responder.reply data world = match answerMessage table message with
      | none => .ok (none, world)
      | some response => (encodeMessage response).map fun data => (some data, world) := by
  rw [V2cResponder.reply, hdecode]
  simp only
  rw [if_pos hallowed, bind_of_ok (buildResponseMessage_eq h message)]
  cases answerMessage table message with
  | none => rfl
  | some response =>
    simp only
    change ((encodeMessage response >>= fun data => Except.ok (data, world)) >>= fun p => Except.ok (some p.1, p.2)) = _
    cases encodeMessage response <;> rfl

end Reply

end TrishulSnmp.Responder
