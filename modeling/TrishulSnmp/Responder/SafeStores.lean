import TrishulSnmp.Responder.Survival

namespace TrishulSnmp.Responder

open Outcome Wire Ber Asn1 Mib InMemoryObjectSource

variable {σ : Type}

/-- Sizes CPython can hold. -/
def maxSize : ℕ := 2 ^ 63

theorem nextRequest_decodes {community : String} {oid : OID} {content : Bytes} (hn : ∀ arc ∈ oid, 0 ≤ arc)
    (hoid : encodeOid oid = .ok content) (hsize : content.length < maxSize)
    (hcommunity : (Utf8.encode community).length < maxSize) :
    ∃ data, decodeMessage data = .ok (nextRequest community oid) := by
  have hencode : ∃ data, encodeMessage (nextRequest community oid) = .ok data ∧
      data.length ≤ 64 * (content.length + (Utf8.encode community).length + 64) := by
    simp only [encodeMessage, encodePdu, encodeVarbindList, nextRequest, List.mapM_cons, List.mapM_nil, encodeVarbind,
      hoid, encodeInteger, encodeOctetString, encodeValue, ok_bind, pure_bind]
    refine ⟨_, rfl, ?_⟩
    have hone : (encodeTlv integerTag (encodeSignedInteger 1)).length = 3 := by decide
    have hzero : (encodeTlv integerTag (encodeSignedInteger 0)).length = 3 := by decide
    have hnull : (encodeTlv nullTag []).length = 2 := by decide
    have bound {tag : UInt8} {content enc : Bytes} (h : encodeTlv tag content = enc) :
        enc.length ≤ 2 * content.length + 2 := h ▸ length_encodeTlv_le tag content
    generalize hname : encodeTlv objectIdentifierTag content = name
    generalize hcomm : encodeTlv octetStringTag (Utf8.encode community) = comm
    generalize hvb : encodeTlv sequenceTag (name ++ encodeTlv nullTag []) = varbind
    generalize hlist : encodeTlv sequenceTag [varbind].flatten = varbinds
    generalize hpdu : encodeTlv PduType.getNext.tag _ = pdu
    generalize hmessage : encodeTlv sequenceTag _ = message
    have hname := bound hname
    have hcomm := bound hcomm
    have hvb := bound hvb
    have hlist := bound hlist
    have hpdu := bound hpdu
    have hmessage := bound hmessage
    simp only [List.length_append, hone, hzero, hnull, List.flatten_cons, List.flatten_nil, List.length_nil] at *
    omega
  obtain ⟨data, hdata, hle⟩ := hencode
  have hpreserved : ∀ varbind ∈ (nextRequest community oid).pdu.varbinds, varbind.Preserved := by
    simp only [nextRequest, List.mem_singleton, forall_eq]
    exact ⟨hn, trivial⟩
  refine ⟨data, decodeMessage_encodeMessage_preserved rfl hpreserved hdata ?_⟩
  rw [maxSize] at hsize hcommunity
  rw [lengthLimit]
  omega

structure InMemoryObjectSource.Fits (source : InMemoryObjectSource σ) (communities : Option (List String)) : Prop where
  oids : ∀ oid ∈ source.values, ∀ content, encodeOid oid = .ok content → content.length < maxSize
  names : ∀ names, communities = some names → ∀ name ∈ names, (Utf8.encode name).length < maxSize

def LegalStore (source : InMemoryObjectSource σ) : Prop := ∀ oid ∈ source.values, oid ≠ [0] → LegalArcs oid

theorem exists_query {source : InMemoryObjectSource σ} (hi : source.Inv) {oid : OID} (hmem : oid ∈ source.values)
    (hzero : oid ≠ [0]) (hillegal : ¬ LegalArcs oid) : ∃ query, LegalArcs query ∧ query < oid ∧
      (query = [0, 0] ∨ query ∈ source.values) ∧
      ∀ other ∈ source.values, query < other → other ≤ oid → ¬ LegalArcs other := by
  classical
  set below := source.sortedOids.toFinset.filter fun key => key < oid ∧ LegalArcs key with hbelow
  have hmem_below (key : OID) : key ∈ below ↔ key ∈ source.values ∧ key < oid ∧ LegalArcs key := by
    rw [hbelow, Finset.mem_filter, List.mem_toFinset, hi.coherent.mem_iff]
  by_cases hne : below.Nonempty
  · obtain ⟨hin, hlt, hlegal⟩ := (hmem_below _).mp (below.max'_mem hne)
    refine ⟨below.max' hne, hlegal, hlt, .inr hin, fun other hother hgt hle hl => ?_⟩
    have hlt' := lt_of_le_of_ne hle fun heq => hillegal (heq ▸ hl)
    exact absurd (below.le_max' other ((hmem_below other).mpr ⟨hother, hlt', hl⟩)) (not_le.mpr hgt)
  · refine ⟨[0, 0], ⟨0, 0, [], rfl, by omega⟩, ?_, .inl rfl, fun other hother _ hle hl => ?_⟩
    · obtain ⟨hnil, hnonneg⟩ := hi.wellFormed oid hmem
      match oid, hnil, hnonneg, hzero, hillegal with
      | [first], _, hnonneg, hzero, _ =>
        have h0 : 0 ≤ first := hnonneg first (by simp)
        have hne0 : first ≠ 0 := by simpa using hzero
        exact List.cons_lt_cons_iff.mpr (.inl (by omega))
      | first :: second :: arcs, _, hnonneg, _, hillegal =>
        have h0 : 0 ≤ first := hnonneg first (by simp)
        have h1 : 0 ≤ second := hnonneg second (by simp)
        rw [List.cons_lt_cons_iff, List.cons_lt_cons_iff]
        by_contra hcon
        exact hillegal ⟨first, second, arcs, rfl, by omega⟩
    · have hlt := lt_of_le_of_ne hle fun heq => hillegal (heq ▸ hl)
      exact hne ⟨other, (hmem_below other).mpr ⟨hother, hlt, hl⟩⟩

theorem legal_of_survives {source : InMemoryObjectSource σ} (hreached : source.Reached) (he : source.Encodable)
    {communities : Option (List String)} (hfits : source.Fits communities) (rules : σ) {community : String}
    (hallowed : communityAllowed (normalizeCommunities communities) community)
    (hcommunity : (Utf8.encode community).length < maxSize)
    (h : ∀ received, ¬ HugeVersion received.data →
      Survives (V2cResponder.new communities asSource) { source := source, rules := rules } received) :
    LegalStore source := by
  have hi := hreached.inv
  intro oid hmem hzero
  by_contra hillegal
  obtain ⟨query, hlegal, hlt, hquery, hbetween⟩ := exists_query hi hmem hzero hillegal
  have hnonneg : ∀ arc ∈ query, 0 ≤ arc := by
    obtain rfl | hin := hquery
    · simp
    · exact (hi.wellFormed query hin).2
  obtain ⟨content, hcontent⟩ := (encodeOid_isOk_iff hnonneg).mpr hlegal
  have hsize : content.length < maxSize := by
    obtain rfl | hin := hquery
    · obtain rfl : [0] = content := by
        have hroot : encodeOid [0, 0] = .ok [0] := by decide
        rw [hroot] at hcontent
        exact Except.ok.inj hcontent
      simp [maxSize]
    · exact hfits.oids query hin content hcontent
  obtain ⟨data, hdata⟩ := nextRequest_decodes hnonneg hcontent hsize hcommunity
  -- the least OID stored above the query is one the encoder refuses
  obtain ⟨value, -, hvalue⟩ := he.static.stored hmem
  have hafter : (oid, value) ∈ (source.table hi.coherent).after query :=
    SortedTable.mem_after.mpr ⟨(mem_table hi.coherent).mpr hvalue, hlt⟩
  obtain ⟨entry, hnext⟩ : ∃ entry, (source.table hi.coherent).next query = some entry := by
    rw [← Option.ne_none_iff_exists', ne_eq, SortedTable.next_eq_none_iff]
    exact List.ne_nil_of_mem hafter
  obtain ⟨hentry, hgt, hleast⟩ := SortedTable.next_eq_some_iff.mp hnext
  have hin := mem_values_of_mem_table hi.coherent hentry
  have hrefused := hbetween entry.1 hin hgt (hleast _ (SortedTable.mem_after.mp hafter).1 hlt)
  have hsurvives := h ⟨data, .inet "" 0⟩ (not_hugeVersion_of_decoded hdata)
  rw [survives_iff source rules communities _ hreached he] at hsurvives
  have hanswered : entry.1 ∈ answeredOids (source.table hi.coherent) (nextRequest community query).pdu := by
    simp [answeredOids, nextRequest, successors, hnext]
  exact hrefused (hsurvives.2 _ hdata hallowed _ hanswered)

theorem survives_all_iff (source : InMemoryObjectSource σ) (rules : σ) (communities : Option (List String))
    (hreached : source.Reached) (hencodable : source.Encodable) (hfits : source.Fits communities) :
    (∀ received, ¬ HugeVersion received.data →
      Survives (V2cResponder.new communities asSource) { source := source, rules := rules } received) ↔
      (∀ community, communityAllowed (normalizeCommunities communities) community = false) ∨ LegalStore source := by
  constructor
  · intro h
    by_contra hcon
    obtain ⟨hallowed, hillegal⟩ := not_or.mp hcon
    apply hillegal
    cases communities with
    | none =>
      have hempty : (Utf8.encode "").length < maxSize := by decide
      exact legal_of_survives hreached hencodable hfits rules rfl hempty h
    | some names =>
      obtain ⟨name, hname⟩ := not_forall.mp hallowed
      rw [Bool.not_eq_false] at hname
      have hin : name ∈ names := by
        have hmem : name ∈ names.filter (· ≠ "") := by simpa [communityAllowed, normalizeCommunities] using hname
        exact List.mem_of_mem_filter hmem
      exact legal_of_survives hreached hencodable hfits rules hname (hfits.names names rfl name hin) h
  · intro h received hhuge
    rw [survives_iff source rules communities received hreached hencodable]
    refine ⟨hhuge, fun message hdecode hallowed oid hoid => ?_⟩
    obtain hnobody | hlegal := h
    · rw [hnobody] at hallowed
      cases hallowed
    · obtain ⟨asked, hasked, hlt, value, hentry⟩ := mem_answeredOids hoid
      obtain ⟨content, hcontent⟩ := (decodeMessage_ok_iff.mp hdecode).oid_content asked hasked
      have hzero : [0] < oid := (zero_lt_of_oidContent hcontent).trans hlt
      exact hlegal oid (mem_values_of_mem_table hreached.inv.coherent hentry) hzero.ne'

end TrishulSnmp.Responder
