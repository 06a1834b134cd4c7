import TrishulSnmp.Library.SortedTable
import TrishulSnmp.Responder.Server

namespace TrishulSnmp.Responder

open Outcome

abbrev ObjectTable := SortedTable OID SnmpValue

def tableSource (table : ObjectTable) : ResponderSource Id :=
  { lookupExact := table.lookup, lookupNext := table.next }

variable {σ w : Type}

/-- In `world` the lookups of `source` give what `table` holds, and change nothing. -/
structure AnswersFrom (source : ResponderSource (StateT w (Except Error))) (table : ObjectTable) (world : w) :
    Prop where
  exact : ∀ oid, source.lookupExact oid world = .ok (table.lookup oid, world)
  next : ∀ oid, source.lookupNext oid world = .ok (table.next oid, world)

namespace InMemoryObjectSource

def Static (source : InMemoryObjectSource σ) : Prop :=
  ∀ oid stored, source.values.lookup oid = some stored → ∃ value, stored = .value value

def storedValue (source : InMemoryObjectSource σ) (oid : OID) : Option SnmpValue :=
  match source.values.lookup oid with
  | some (.value value) => some value
  | _ => none

def table (source : InMemoryObjectSource σ) (h : source.Coherent) : ObjectTable :=
  .ofKeys source.sortedOids h.sorted source.storedValue

theorem storedValue_eq_some_iff {source : InMemoryObjectSource σ} {oid : OID} {value : SnmpValue} :
    source.storedValue oid = some value ↔ source.values.lookup oid = some (.value value) := by
  rw [storedValue]
  split
  · rename_i stored hstored
    rw [hstored, Option.some.injEq, Option.some.injEq, ObjectValue.value.injEq]
  · rename_i hnone
    constructor
    · intro h
      cases h
    · intro h
      exact absurd h (hnone value)

theorem mem_table {source : InMemoryObjectSource σ} (h : source.Coherent) {oid : OID} {value : SnmpValue} :
    (oid, value) ∈ (source.table h).entries ↔ source.storedValue oid = some value := by
  rw [table, SortedTable.mem_ofKeys, and_iff_right_of_imp]
  intro hvalue
  rw [h.mem_iff, ← AList.lookup_isSome, storedValue_eq_some_iff.mp hvalue]
  rfl

theorem lookup_table {source : InMemoryObjectSource σ} (h : source.Coherent) (oid : OID) :
    (source.table h).lookup oid = source.storedValue oid := by
  apply Option.ext
  intro value
  rw [SortedTable.lookup_eq_some_iff, mem_table]

theorem Static.stored {source : InMemoryObjectSource σ} (hs : source.Static) {oid : OID} (hmem : oid ∈ source.values) :
    ∃ value, source.values.lookup oid = some (.value value) ∧ source.storedValue oid = some value := by
  obtain ⟨stored, hstored⟩ := Option.isSome_iff_exists.mp (AList.lookup_isSome.mpr hmem)
  obtain ⟨value, rfl⟩ := hs oid stored hstored
  exact ⟨value, hstored, storedValue_eq_some_iff.mpr hstored⟩

theorem lookupExact_value {world : World σ} {oid : OID} {value : SnmpValue}
    (h : world.source.values.lookup oid = some (.value value)) : lookupExact oid world = .ok (some value, world) :=
  lookupExact_stored h

theorem lookupNext_value {world : World σ} {oid nextOid : OID} {value : SnmpValue}
    (h : world.source.sortedOids[Bisect.bisectRight world.source.sortedOids oid]? = some nextOid)
    (hvalue : world.source.values.lookup nextOid = some (.value value)) :
    lookupNext oid world = .ok (some (nextOid, value), world) := lookupNext_stored h hvalue

theorem answersFrom_table {source : InMemoryObjectSource σ} (h : source.Coherent) (hs : source.Static) (rules : σ) :
    AnswersFrom asSource (source.table h) { source := source, rules := rules } where
  exact := by
    intro oid
    rw [lookup_table]
    by_cases hmem : oid ∈ source.values
    · obtain ⟨value, hlookup, hvalue⟩ := hs.stored hmem
      rw [hvalue]
      exact lookupExact_value hlookup
    · have hnone := AList.lookup_eq_none.mpr hmem
      have hvalue : source.storedValue oid = none := by rw [storedValue, hnone]
      rw [hvalue]
      exact lookupExact_none hnone
  next := by
    intro oid
    have hle := h.sorted.imp fun {a b : OID} (hab : a < b) => hab.le
    have hall : ∀ key ∈ source.sortedOids, (source.storedValue key).isSome := by
      intro key hkey
      obtain ⟨value, -, hvalue⟩ := hs.stored ((h.mem_iff key).mp hkey)
      rw [hvalue]
      rfl
    rw [table, SortedTable.next_ofKeys hall, ← Bisect.getElem?_bisectRight hle]
    cases hget : source.sortedOids[Bisect.bisectRight source.sortedOids oid]? with
    | none => exact lookupNext_none hget
    | some nextOid =>
      have hmem := (h.mem_iff nextOid).mp (List.mem_of_getElem? hget)
      obtain ⟨value, hlookup, hvalue⟩ := hs.stored hmem
      rw [Option.bind_some, hvalue, Option.map_some]
      exact lookupNext_value hget hlookup

end InMemoryObjectSource

variable {source : ResponderSource (StateT w (Except Error))} {table : ObjectTable} {world : w}

theorem bind_of_ok {α β : Type} {x : StateT w (Except Error) α} {f : α → StateT w (Except Error) β} {a : α} {s s' : w}
    (h : x s = .ok (a, s')) : (x >>= f) s = f a s' := by
  change (x s >>= fun p => f p.1 p.2) = _
  rw [h]
  rfl

theorem buildBulkVarbinds_clamped (varbinds : List RawVarBind) (nonRepeaters maxRepetitions : ℤ) {m : Type → Type}
    [Monad m] (source : ResponderSource m) : buildBulkVarbinds source varbinds nonRepeaters maxRepetitions = (do
      let responseVarbinds ←
        ((varbinds.map RawVarBind.oid).take nonRepeaters.toNat).mapM (lookupNextVarbind source)
      let rows ← bulkRows source maxRepetitions.toNat ((varbinds.map RawVarBind.oid).drop nonRepeaters.toNat)
      return responseVarbinds ++ rows) := by
  have hrepetitions : (if maxRepetitions ≤ 0 then 0 else maxRepetitions).toNat = maxRepetitions.toNat := by
    split_ifs
    · omega
    · rfl
  have hrepeaters : (if nonRepeaters < 0 then 0 else nonRepeaters).toNat = nonRepeaters.toNat := by
    split_ifs
    · omega
    · rfl
  rw [buildBulkVarbinds]
  simp only [hrepetitions, hrepeaters]
  rw [← List.take_eq_take_min, ← List.drop_eq_drop_min]

theorem lookupExactVarbind_eq (h : AnswersFrom source table world) (oid : OID) :
    lookupExactVarbind source oid world = .ok (Id.run (lookupExactVarbind (tableSource table) oid), world) := by
  rw [lookupExactVarbind, bind_of_ok (h.exact oid), lookupExactVarbind]
  change _ = Except.ok (Id.run (bind (id (table.lookup oid)) _), world)
  generalize table.lookup oid = found
  cases found <;> rfl

theorem lookupNextVarbind_eq (h : AnswersFrom source table world) (oid : OID) :
    lookupNextVarbind source oid world = .ok (Id.run (lookupNextVarbind (tableSource table) oid), world) := by
  rw [lookupNextVarbind, bind_of_ok (h.next oid), lookupNextVarbind]
  change _ = Except.ok (Id.run (bind (id (table.next oid)) _), world)
  generalize table.next oid = found
  cases found <;> rfl

theorem mapM_eq {α β : Type} {f : α → StateT w (Except Error) β} {g : α → Id β}
    (h : ∀ a, f a world = .ok (Id.run (g a), world)) (xs : List α) :
    xs.mapM f world = .ok (Id.run (xs.mapM g), world) := by
  induction xs with
  | nil => rfl
  | cons x xs ih =>
    rw [List.mapM_cons, List.mapM_cons, bind_of_ok (h x), bind_of_ok ih]
    rfl

theorem bulkRow_eq (h : AnswersFrom source table world) (oids : List OID) :
    bulkRow source oids world = .ok (Id.run (bulkRow (tableSource table) oids), world) := by
  induction oids with
  | nil => rfl
  | cons oid oids ih =>
    rw [bulkRow, bind_of_ok (lookupNextVarbind_eq h oid), bind_of_ok ih]
    rfl

theorem bulkRows_eq (h : AnswersFrom source table world) (repetitions : ℕ) (oids : List OID) :
    bulkRows source repetitions oids world = .ok (Id.run (bulkRows (tableSource table) repetitions oids), world) := by
  induction repetitions generalizing oids with
  | zero => rfl
  | succ repetitions ih =>
    rw [bulkRows, bind_of_ok (bulkRow_eq h oids), bind_of_ok (ih _)]
    rfl

theorem buildBulkVarbinds_eq (h : AnswersFrom source table world) (varbinds : List RawVarBind)
    (nonRepeaters maxRepetitions : ℤ) : buildBulkVarbinds source varbinds nonRepeaters maxRepetitions world =
      .ok (Id.run (buildBulkVarbinds (tableSource table) varbinds nonRepeaters maxRepetitions), world) := by
  simp only [buildBulkVarbinds]
  rw [bind_of_ok (mapM_eq (lookupNextVarbind_eq h) _), bind_of_ok (bulkRows_eq h _ _)]
  rfl

theorem buildResponsePdu_eq (h : AnswersFrom source table world) (pdu : Pdu) :
    buildResponsePdu source pdu world = .ok (Id.run (buildResponsePdu (tableSource table) pdu), world) := by
  unfold buildResponsePdu
  cases pdu.pduType with
  | get =>
    have hmap := mapM_eq (fun varbind : RawVarBind => lookupExactVarbind_eq h varbind.oid) pdu.varbinds
    simp only
    rw [bind_of_ok hmap]
    rfl
  | getNext =>
    have hmap := mapM_eq (fun varbind : RawVarBind => lookupNextVarbind_eq h varbind.oid) pdu.varbinds
    simp only
    rw [bind_of_ok hmap]
    rfl
  | getBulk =>
    simp only
    rw [bind_of_ok (buildBulkVarbinds_eq h _ _ _)]
    rfl
  | _ => rfl

end TrishulSnmp.Responder
