import TrishulSnmp.Notify.Handshake

namespace TrishulSnmp.Notify

open OffsetReader Outcome Ber Asn1 Wire UsmModel

/-! The scoped PDU has three parsers: of the message codec, of discovery and of the listener. -/

theorem validateReportBody_iff {content : Bytes} (pduType : PduType) :
    validateReportBody content = .ok () ↔ ∃ pdu, decodePduBody pduType content = .ok pdu := by
  constructor
  · intro h
    obtain ⟨⟨requestId, o1⟩, h1, h⟩ := bind_ok_iff.mp h
    obtain ⟨⟨errorStatus, o2⟩, h2, h⟩ := bind_ok_iff.mp h
    obtain ⟨⟨errorIndex, o3⟩, h3, h⟩ := bind_ok_iff.mp h
    obtain ⟨⟨varbinds, o4⟩, h4, hend⟩ := bind_ok_iff.mp h
    have hend : expectEnd content o4 = .ok () := hend
    refine ⟨{ pduType, requestId, errorStatus, errorIndex, varbinds }, ?_⟩
    simp only [decodePduBody, h1, h2, h3, h4, ok_bind, hend]
    rfl
  · rintro ⟨pdu, hpdu⟩
    exact validateReportBody_ok hpdu

theorem decodePduBytes_tlv {tag : UInt8} {content enc : Bytes} {pdu : Pdu} (h : Tlv (tag, content) enc) :
    decodePduBytes tag content = .ok pdu ↔ tag = pdu.pduType.tag ∧ decodePduBody pdu.pduType content = .ok pdu := by
  have hbody : decodePduBody pdu.pduType content = .ok pdu ↔ PduBody OidContent pdu content :=
    decodePduBody_iff.trans (and_iff_right rfl)
  rw [hbody, decodePduBytes]
  exact decodePdu_tlv (encodeTlv_tlv tag h.length_lt)

theorem peekScopedPdu_iff {data engineId contextName : Bytes} {tag : UInt8} {stop : ℕ} :
    peekScopedPdu data = .ok (engineId, contextName, tag, stop) ↔ stop = data.length ∧
      ∃ body, ScopedFields engineId contextName tag body data ∧ validateReportBody body = .ok () := by
  constructor
  · intro h
    obtain ⟨⟨⟨outer, content⟩, stop'⟩, htlv, h⟩ := bind_ok_iff.mp h
    rw [ite_ok_iff, not_not] at h
    obtain ⟨rfl, h⟩ := h
    obtain ⟨_, hend, h⟩ := bind_ok_iff.mp h
    obtain ⟨⟨⟨engineTag, engine⟩, o1⟩, h1, h⟩ := bind_ok_iff.mp h
    rw [ite_ok_iff, not_not] at h
    obtain ⟨rfl, h⟩ := h
    obtain ⟨⟨⟨contextTag, context⟩, o2⟩, h2, h⟩ := bind_ok_iff.mp h
    rw [ite_ok_iff, not_not] at h
    obtain ⟨rfl, h⟩ := h
    obtain ⟨⟨⟨pduTag, body⟩, o3⟩, h3, h⟩ := bind_ok_iff.mp h
    obtain ⟨_, hend', h⟩ := bind_ok_iff.mp h
    obtain ⟨_, hbody, h⟩ := bind_ok_iff.mp h
    have heq := pure_ok_iff.mp h
    simp only [Prod.mk.injEq] at heq
    obtain ⟨rfl, rfl, rfl, rfl⟩ := heq
    have hstop := expectEnd_ok_iff.mp hend
    rw [hstop, decodeTlv_reads.whole_iff] at htlv
    obtain ⟨e1, g1, d1, -⟩ := decodeTlv_reads.sound h1
    obtain ⟨e2, g2, d2, -⟩ := decodeTlv_reads.sound h2
    obtain ⟨e3, g3, d3, -⟩ := decodeTlv_reads.sound h3
    refine ⟨hstop, body, ⟨content, htlv, e1, e2, e3, ?_, ⟨_, _, g1, rfl, rfl⟩, ⟨_, _, g2, rfl, rfl⟩, g3⟩, hbody⟩
    rw [List.drop_zero, d2, d3, drop_eq_nil_of_eq (expectEnd_ok_iff.mp hend')] at d1
    simpa using d1
  · rintro ⟨rfl, body, hfields, hbody⟩
    exact peekScopedPdu_fields hfields hbody

theorem ScopedFields.exists_tlv {engineId contextName body data : Bytes} {tag : UInt8}
    (h : ScopedFields engineId contextName tag body data) : ∃ enc, Tlv (tag, body) enc := by
  obtain ⟨_, _, _, _, enc, _, _, _, htlv⟩ := h
  exact ⟨enc, htlv⟩

theorem scopedPdu_fields_iff {data engineId contextName : Bytes} {pdu : Pdu} :
    decodeScopedPdu data = .ok (engineId, contextName, pdu) ↔
      ∃ body, ScopedFields engineId contextName pdu.pduType.tag body data ∧
      decodePduBody pdu.pduType body = .ok pdu := by
  rw [decodeScopedPdu_iff]
  constructor
  · intro h
    obtain ⟨body, hread, hpdu⟩ := fields_of_scopedPdu h
    have hfields := decodeScopedFields_iff.mp hread
    obtain ⟨enc, htlv⟩ := hfields.exists_tlv
    exact ⟨body, hfields, ((decodePduBytes_tlv htlv).mp hpdu).2⟩
  · rintro ⟨body, ⟨content, htlv, e1, e2, e3, hcontent, g1, g2, g3⟩, hbody⟩
    exact ⟨content, htlv, e1, e2, e3, hcontent, g1, g2, body, g3, (decodePduBody_iff.mp hbody).2⟩

structure ParsersAgree (data engineId contextName : Bytes) : Prop where
  listener : ∀ pdu, decodeScopedPdu data = .ok (engineId, contextName, pdu) ↔
    ∃ tag body, decodeScopedFields data = .ok (engineId, contextName, tag, body) ∧ decodePduBytes tag body = .ok pdu
  tag : ∀ pdu tag body, decodeScopedFields data = .ok (engineId, contextName, tag, body) →
    decodePduBytes tag body = .ok pdu → tag = pdu.pduType.tag
  discovery : ∀ pduType, (∃ pdu, pdu.pduType = pduType ∧ decodeScopedPdu data = .ok (engineId, contextName, pdu)) ↔
    ∃ stop, peekScopedPdu data = .ok (engineId, contextName, pduType.tag, stop)
  report : ∀ pduType, (∃ stop, peekScopedPdu data = .ok (engineId, contextName, reportPduTag, stop)) ↔
    ∃ body, decodeScopedFields data = .ok (engineId, contextName, reportPduTag, body) ∧
      ∃ pdu, pdu.pduType = pduType ∧ decodePduBytes pduType.tag body = .ok pdu

theorem scoped_parsers_agree (data engineId contextName : Bytes) : ParsersAgree data engineId contextName := by
  refine ⟨fun pdu => ?_, fun pdu tag body hfields hpdu => ?_, fun pduType => ?_, fun pduType => ?_⟩
  · rw [scopedPdu_fields_iff]
    constructor
    · rintro ⟨body, hfields, hbody⟩
      obtain ⟨enc, henc⟩ := hfields.exists_tlv
      exact ⟨_, body, decodeScopedFields_iff.mpr hfields, (decodePduBytes_tlv henc).mpr ⟨rfl, hbody⟩⟩
    · rintro ⟨tag, body, hfields, hpdu⟩
      have hfields := decodeScopedFields_iff.mp hfields
      obtain ⟨enc, henc⟩ := hfields.exists_tlv
      obtain ⟨rfl, hbody⟩ := (decodePduBytes_tlv henc).mp hpdu
      exact ⟨body, hfields, hbody⟩
  · obtain ⟨enc, henc⟩ := (decodeScopedFields_iff.mp hfields).exists_tlv
    exact ((decodePduBytes_tlv henc).mp hpdu).1
  · simp only [scopedPdu_fields_iff, peekScopedPdu_iff]
    constructor
    · rintro ⟨pdu, rfl, body, hfields, hbody⟩
      exact ⟨_, rfl, body, hfields, validateReportBody_ok hbody⟩
    · rintro ⟨_, rfl, body, hfields, hbody⟩
      obtain ⟨pdu, hpdu⟩ := (validateReportBody_iff pduType).mp hbody
      obtain ⟨rfl, -⟩ := decodePduBody_iff.mp hpdu
      exact ⟨pdu, rfl, body, hfields, hpdu⟩
  · simp only [peekScopedPdu_iff, decodeScopedFields_iff]
    constructor
    · rintro ⟨_, rfl, body, hfields, hbody⟩
      obtain ⟨pdu, hpdu⟩ := (validateReportBody_iff pduType).mp hbody
      obtain ⟨rfl, -⟩ := decodePduBody_iff.mp hpdu
      obtain ⟨_, henc⟩ := hfields.exists_tlv
      refine ⟨body, hfields, pdu, rfl, (decodePduBytes_tlv (encodeTlv_tlv _ henc.length_lt)).mpr ⟨rfl, hpdu⟩⟩
    · rintro ⟨body, hfields, pdu, rfl, hpdu⟩
      obtain ⟨_, henc⟩ := hfields.exists_tlv
      have hbody := ((decodePduBytes_tlv (encodeTlv_tlv _ henc.length_lt)).mp hpdu).2
      exact ⟨_, rfl, body, hfields, validateReportBody_ok hbody⟩

end TrishulSnmp.Notify
