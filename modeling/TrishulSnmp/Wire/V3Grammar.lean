import TrishulSnmp.Wire.V3Message

namespace TrishulSnmp

def UsmParams.withAuthParams (params : UsmParams) (tag : Bytes) : UsmParams := { params with authParams := tag }

def V3MessageView.withAuthParams (view : V3MessageView) (tag : Bytes) : V3MessageView :=
  { view with usmParams := view.usmParams.withAuthParams tag }

def V3MessageView.header (view : V3MessageView) : Wire.HeaderData :=
  { msgId := view.msgId
    msgMaxSize := view.msgMaxSize
    msgFlags := view.msgFlags
    msgSecurityModel := view.msgSecurityModel }

namespace Wire

open OffsetReader Outcome Ber Asn1

/-! A version 3 message is `before ++ authParams ++ after`: its grammar says what stands in front of the
authentication parameters and what stands behind them, and of the parameters only how long they are. -/

def OctetBytesElement (value enc : Bytes) : Prop :=
  ∃ tag content, Tlv (tag, content) enc ∧ tag = octetStringTag ∧ content = value

def FlagsElement (flags : UInt8) (enc : Bytes) : Prop :=
  ∃ tag content, Tlv (tag, content) enc ∧ tag = octetStringTag ∧ content = [flags]

def HeaderElement (header : HeaderData) (enc : Bytes) : Prop :=
  ∃ tag content, Tlv (tag, content) enc ∧ tag = sequenceTag ∧
    ∃ msgId msgMaxSize msgFlags msgSecurityModel, content = msgId ++ msgMaxSize ++ msgFlags ++ msgSecurityModel ∧
      IntegerElement header.msgId msgId ∧ IntegerElement header.msgMaxSize msgMaxSize ∧
      FlagsElement header.msgFlags msgFlags ∧ IntegerElement header.msgSecurityModel msgSecurityModel

def UsmParamsLayout (params : UsmParams) (before after : Bytes) : Prop :=
  ∃ head engineId engineBoots engineTime username authHead,
    before = head ++ (engineId ++ engineBoots ++ engineTime ++ username ++ authHead) ∧
    TlvHead sequenceTag ((engineId ++ engineBoots ++ engineTime ++ username ++ authHead).length +
      params.authParams.length + after.length) head ∧
    OctetBytesElement params.engineId engineId ∧ IntegerElement params.engineBoots engineBoots ∧
    IntegerElement params.engineTime engineTime ∧ OctetBytesElement params.username username ∧
    TlvHead octetStringTag params.authParams.length authHead ∧ OctetBytesElement params.privParams after

def V3Layout (view : V3MessageView) (before after : Bytes) : Prop :=
  ∃ head version header paramsHead paramsBefore paramsAfter,
    before = head ++ (version ++ header ++ paramsHead ++ paramsBefore) ∧ after = paramsAfter ++ view.msgDataBytes ∧
    TlvHead sequenceTag ((version ++ header ++ paramsHead ++ paramsBefore).length +
      view.usmParams.authParams.length + (paramsAfter ++ view.msgDataBytes).length) head ∧
    IntegerElement snmpV3Version version ∧ HeaderElement view.header header ∧
    view.msgSecurityModel = securityModelUsm ∧
    TlvHead octetStringTag (paramsBefore.length + view.usmParams.authParams.length + paramsAfter.length) paramsHead ∧
    UsmParamsLayout view.usmParams paramsBefore paramsAfter ∧
    (∃ content, Tlv ((msgDataTag view.msgFlags).1, content) view.msgDataBytes) ∧
    view.authParamsOffset = before.length

def ScopedPduElement (engineId contextName : Bytes) (pdu : Pdu) (data : Bytes) : Prop :=
  ∃ content, Tlv (sequenceTag, content) data ∧ ∃ engine context encoded, content = engine ++ context ++ encoded ∧
    OctetBytesElement engineId engine ∧ OctetBytesElement contextName context ∧ PduElement OidContent pdu encoded

theorem ScopedPduElement.exists_tlv {engineId contextName : Bytes} {pdu : Pdu} {data : Bytes}
    (h : ScopedPduElement engineId contextName pdu data) : ∃ content, Tlv (sequenceTag, content) data := by
  obtain ⟨content, htlv, -⟩ := h
  exact ⟨content, htlv⟩

theorem octetBytesContent_iff (tag : UInt8) (content value : Bytes) :
    octetBytesContent tag content = .ok value ↔ tag = octetStringTag ∧ content = value := by
  rw [octetBytesContent, ite_ok_iff, not_not, Except.ok.injEq]

theorem decodeOctetBytes_reads : Reads decodeOctetBytes OctetBytesElement := decodeElement_reads octetBytesContent_iff

theorem decodeV3Integer_reads : Reads V3Message.decodeInteger IntegerElement := decodeInteger_reads _

theorem flagsContent_iff (tag : UInt8) (content : Bytes) (flags : UInt8) :
    flagsContent tag content = .ok flags ↔ tag = octetStringTag ∧ content = [flags] := by
  unfold flagsContent
  rw [ite_ok_iff, not_not]
  apply and_congr_right
  rintro rfl
  match content with
  | [] => simp
  | [_] => simp
  | _ :: _ :: _ => simp

theorem decodeFlags_reads : Reads (decodeElement flagsContent) FlagsElement := decodeElement_reads flagsContent_iff

theorem headerContent_iff (tag : UInt8) (content : Bytes) (header : HeaderData) :
    headerContent tag content = .ok header ↔ tag = sequenceTag ∧
      ∃ msgId msgMaxSize msgFlags msgSecurityModel, content = msgId ++ msgMaxSize ++ msgFlags ++ msgSecurityModel ∧
        IntegerElement header.msgId msgId ∧ IntegerElement header.msgMaxSize msgMaxSize ∧
        FlagsElement header.msgFlags msgFlags ∧ IntegerElement header.msgSecurityModel msgSecurityModel := by
  rw [headerContent, ite_ok_iff, not_not]
  apply and_congr_right
  rintro rfl
  constructor
  · intro h
    obtain ⟨⟨msgId, o1⟩, h1, h⟩ := bind_ok_iff.mp h
    obtain ⟨⟨msgMaxSize, o2⟩, h2, h⟩ := bind_ok_iff.mp h
    obtain ⟨⟨msgFlags, o3⟩, h3, h⟩ := bind_ok_iff.mp h
    obtain ⟨⟨msgSecurityModel, o4⟩, h4, h⟩ := bind_ok_iff.mp h
    obtain ⟨_, hend, h⟩ := bind_ok_iff.mp h
    obtain rfl := pure_ok_iff.mp h
    obtain ⟨e1, g1, d1, -⟩ := decodeV3Integer_reads.sound h1
    obtain ⟨e2, g2, d2, -⟩ := decodeV3Integer_reads.sound h2
    obtain ⟨e3, g3, d3, -⟩ := decodeFlags_reads.sound h3
    obtain ⟨e4, g4, d4, -⟩ := decodeV3Integer_reads.sound h4
    refine ⟨e1, e2, e3, e4, ?_, g1, g2, g3, g4⟩
    rw [List.drop_zero, d2, d3, d4, drop_eq_nil_of_eq (expectEnd_ok_iff.mp hend)] at d1
    simpa using d1
  · rintro ⟨e1, e2, e3, e4, rfl, g1, g2, g3, g4⟩
    have h1 := decodeV3Integer_reads.at_start (e2 ++ e3 ++ e4) g1
    have h2 := decodeV3Integer_reads.after e1 (e3 ++ e4) g2
    have h3 := decodeFlags_reads.after (e1 ++ e2) e4 g3
    have h4 := decodeV3Integer_reads.after (e1 ++ e2 ++ e3) [] g4
    simp only [List.append_assoc, List.append_nil] at h1 h2 h3 h4
    simp only [List.append_assoc, h1, h2, h3, h4, ok_bind, expectEnd_self]
    rfl

theorem decodeHeaderData_reads : Reads decodeHeaderData HeaderElement := decodeElement_reads headerContent_iff

theorem decodeUsmParams_sound {data : Bytes} {params : UsmParams} {offset : ℕ}
    (h : decodeUsmParamsWithOffset data = .ok (params, offset)) :
    ∃ before after, data = before ++ params.authParams ++ after ∧ UsmParamsLayout params before after ∧
      offset = before.length := by
  obtain ⟨⟨⟨tag, content⟩, stop⟩, htlv, h⟩ := bind_ok_iff.mp h
  rw [ite_ok_iff, not_not] at h
  obtain ⟨rfl, h⟩ := h
  obtain ⟨_, hend, h⟩ := bind_ok_iff.mp h
  obtain ⟨⟨engineId, o1⟩, h1, h⟩ := bind_ok_iff.mp h
  obtain ⟨⟨engineBoots, o2⟩, h2, h⟩ := bind_ok_iff.mp h
  obtain ⟨⟨engineTime, o3⟩, h3, h⟩ := bind_ok_iff.mp h
  obtain ⟨⟨username, o4⟩, h4, h⟩ := bind_ok_iff.mp h
  obtain ⟨⟨⟨authTag, authParams⟩, o5⟩, h5, h⟩ := bind_ok_iff.mp h
  rw [ite_ok_iff, not_not] at h
  obtain ⟨rfl, h⟩ := h
  obtain ⟨⟨privParams, o6⟩, h6, h⟩ := bind_ok_iff.mp h
  obtain ⟨_, hend', h⟩ := bind_ok_iff.mp h
  obtain ⟨rfl, rfl⟩ := Prod.mk.inj (pure_ok_iff.mp h)
  rw [expectEnd_ok_iff.mp hend, decodeTlv_reads.whole_iff] at htlv
  obtain ⟨head, hhead, rfl⟩ := tlv_iff_head.mp htlv
  obtain ⟨e1, g1, d1, l1⟩ := decodeOctetBytes_reads.sound h1
  obtain ⟨e2, g2, d2, l2⟩ := decodeV3Integer_reads.sound h2
  obtain ⟨e3, g3, d3, l3⟩ := decodeV3Integer_reads.sound h3
  obtain ⟨e4, g4, d4, l4⟩ := decodeOctetBytes_reads.sound h4
  obtain ⟨e5, g5, d5, l5⟩ := decodeTlv_reads.sound h5
  obtain ⟨e6, g6, d6, -⟩ := decodeOctetBytes_reads.sound h6
  obtain ⟨authHead, hauth, rfl⟩ := tlv_iff_head.mp g5
  rw [List.drop_zero, d2, d3, d4, d5, d6, drop_eq_nil_of_eq (expectEnd_ok_iff.mp hend')] at d1
  subst d1
  refine ⟨head ++ (e1 ++ e2 ++ e3 ++ e4 ++ authHead), e6, by simp, ⟨head, e1, e2, e3, e4, authHead, rfl, ?_, g1, g2,
    g3, g4, hauth, g6⟩, ?_⟩
  · convert hhead using 1
    simp only [List.length_append, List.length_nil]
    omega
  · simp only [List.length_append] at l1 l2 l3 l4 l5 ⊢
    omega

theorem decodeUsmParams_complete {params : UsmParams} {before after : Bytes} (h : UsmParamsLayout params before after) :
    decodeUsmParamsWithOffset (before ++ params.authParams ++ after) = .ok (params, before.length) := by
  obtain ⟨head, e1, e2, e3, e4, authHead, rfl, hhead, g1, g2, g3, g4, hauth, g6⟩ := h
  have g5 := tlv_iff_head.mpr ⟨authHead, hauth, rfl⟩
  have htlv := tlv_iff_head.mpr ⟨head, show TlvHead sequenceTag
    (e1 ++ (e2 ++ (e3 ++ (e4 ++ (authHead ++ (params.authParams ++ after)))))).length head by
      convert hhead using 1
      simp only [List.length_append]
      omega, rfl⟩
  have hread := (decodeTlv_reads.whole_iff _ _).mpr htlv
  have h1 := decodeOctetBytes_reads.at_start (e2 ++ e3 ++ e4 ++ (authHead ++ params.authParams) ++ after) g1
  have h2 := decodeV3Integer_reads.after e1 (e3 ++ e4 ++ (authHead ++ params.authParams) ++ after) g2
  have h3 := decodeV3Integer_reads.after (e1 ++ e2) (e4 ++ (authHead ++ params.authParams) ++ after) g3
  have h4 := decodeOctetBytes_reads.after (e1 ++ e2 ++ e3) ((authHead ++ params.authParams) ++ after) g4
  have h5 := decodeTlv_reads.after (e1 ++ e2 ++ e3 ++ e4) after g5
  have h6 := decodeOctetBytes_reads.after (e1 ++ e2 ++ e3 ++ e4 ++ (authHead ++ params.authParams)) [] g6
  simp only [List.append_assoc, List.append_nil] at hread h1 h2 h3 h4 h5 h6
  simp only [decodeUsmParamsWithOffset, List.append_assoc, hread, ok_bind, ne_eq, not_true_eq_false, if_false,
    expectEnd_self, h1, h2, h3, h4, h5, h6]
  simp only [pure, Except.pure, List.length_append, Except.ok.injEq, Prod.mk.injEq, true_and]
  omega

theorem decodeUsmParams_iff {data : Bytes} {params : UsmParams} {offset : ℕ} :
    decodeUsmParamsWithOffset data = .ok (params, offset) ↔
      ∃ before after, data = before ++ params.authParams ++ after ∧ UsmParamsLayout params before after ∧
        offset = before.length := by
  constructor
  · exact decodeUsmParams_sound
  · rintro ⟨before, after, rfl, hlayout, rfl⟩
    exact decodeUsmParams_complete hlayout

theorem decodeV3Message_sound {data : Bytes} {view : V3MessageView} (h : decodeV3Message data = .ok view) :
    ∃ before after, data = before ++ view.usmParams.authParams ++ after ∧ V3Layout view before after := by
  obtain ⟨⟨⟨tag, content⟩, stop⟩, htlv, h⟩ := bind_ok_iff.mp h
  rw [ite_ok_iff, not_not] at h
  obtain ⟨rfl, h⟩ := h
  obtain ⟨_, hend, h⟩ := bind_ok_iff.mp h
  obtain ⟨⟨version, o1⟩, h1, h⟩ := bind_ok_iff.mp h
  rw [ite_raise_ok_iff, not_not] at h
  obtain ⟨rfl, h⟩ := h
  obtain ⟨⟨header, o2⟩, h2, h⟩ := bind_ok_iff.mp h
  rw [ite_raise_ok_iff, not_not] at h
  obtain ⟨hmodel, h⟩ := h
  obtain ⟨⟨⟨spTag, spContent⟩, o3⟩, h3, h⟩ := bind_ok_iff.mp h
  rw [ite_ok_iff, not_not] at h
  obtain ⟨rfl, h⟩ := h
  obtain ⟨⟨params, offset⟩, hparams, h⟩ := bind_ok_iff.mp h
  obtain ⟨⟨⟨dataTag, msgData⟩, o4⟩, h4, h⟩ := bind_ok_iff.mp h
  rw [ite_ok_iff, not_not] at h
  obtain ⟨rfl, h⟩ := h
  obtain ⟨_, hend', h⟩ := bind_ok_iff.mp h
  obtain rfl := pure_ok_iff.mp h
  rw [expectEnd_ok_iff.mp hend, decodeTlv_reads.whole_iff] at htlv
  obtain ⟨head, hhead, rfl⟩ := tlv_iff_head.mp htlv
  obtain ⟨e1, g1, d1, l1⟩ := decodeV3Integer_reads.sound h1
  obtain ⟨e2, g2, d2, l2⟩ := decodeHeaderData_reads.sound h2
  obtain ⟨e3, g3, d3, l3⟩ := decodeTlv_reads.sound h3
  obtain ⟨e4, g4, d4, l4⟩ := decodeTlv_reads.sound h4
  obtain ⟨paramsHead, hsp, rfl⟩ := tlv_iff_head.mp g3
  obtain ⟨before, after, rfl, hlayout, rfl⟩ := decodeUsmParams_iff.mp hparams
  rw [List.drop_zero, d2, d3, d4, drop_eq_nil_of_eq (expectEnd_ok_iff.mp hend'), List.append_nil] at d1
  subst d1
  have hslice : slice (e1 ++ (e2 ++ (paramsHead ++ (before ++ params.authParams ++ after) ++ e4))) o3 o4 = e4 := by
    have := slice_append (e1 ++ e2 ++ (paramsHead ++ (before ++ params.authParams ++ after))) e4 []
    have hstart : o3 = (e1 ++ e2 ++ (paramsHead ++ (before ++ params.authParams ++ after))).length := by
      simp only [List.length_append] at l1 l2 l3 ⊢
      omega
    rw [List.append_nil, ← hstart, ← l4] at this
    simpa using this
  rw [hslice]
  refine ⟨head ++ (e1 ++ e2 ++ paramsHead ++ before), after ++ e4, by simp, head, e1, e2, paramsHead, before, after,
    rfl, rfl, ?_, g1, g2, hmodel, ?_, hlayout, ⟨msgData, g4⟩, ?_⟩
  · convert hhead using 1
    simp only [List.length_append]
    omega
  · convert hsp using 1
    simp only [List.length_append]
  · simp only [List.length_append] at l1 l2 l3 ⊢
    omega

theorem decodeV3Message_complete {view : V3MessageView} {before after : Bytes} (h : V3Layout view before after) :
    decodeV3Message (before ++ view.usmParams.authParams ++ after) = .ok view := by
  obtain ⟨head, e1, e2, paramsHead, before, after, rfl, rfl, hhead, g1, g2, hmodel, hsp, hlayout, ⟨msgData, g4⟩,
    hoffset⟩ := h
  have hparams := decodeUsmParams_complete hlayout
  have g3 := tlv_iff_head.mpr ⟨paramsHead, show TlvHead octetStringTag
    (before ++ view.usmParams.authParams ++ after).length paramsHead by simpa only [List.length_append] using hsp, rfl⟩
  have htlv := tlv_iff_head.mpr ⟨head, show TlvHead sequenceTag
    (e1 ++ (e2 ++ (paramsHead ++ (before ++ (view.usmParams.authParams ++ (after ++ view.msgDataBytes)))))).length
    head by
      convert hhead using 1
      simp only [List.length_append]
      omega, rfl⟩
  have hread := (decodeTlv_reads.whole_iff _ _).mpr htlv
  have h1 := decodeV3Integer_reads.at_start (e2 ++ (paramsHead ++ (before ++ view.usmParams.authParams ++ after)) ++
    view.msgDataBytes) g1
  have h2 := decodeHeaderData_reads.after e1 ((paramsHead ++ (before ++ view.usmParams.authParams ++ after)) ++
    view.msgDataBytes) g2
  have h3 := decodeTlv_reads.after (e1 ++ e2) view.msgDataBytes g3
  have h4 := decodeTlv_reads.after (e1 ++ e2 ++ (paramsHead ++ (before ++ view.usmParams.authParams ++ after))) [] g4
  have hslice := slice_append (e1 ++ e2 ++ (paramsHead ++ (before ++ view.usmParams.authParams ++ after)))
    view.msgDataBytes []
  rw [← List.length_append] at hslice
  have hmodel' : view.header.msgSecurityModel = securityModelUsm := hmodel
  have htag : (msgDataTag view.header.msgFlags) = msgDataTag view.msgFlags := rfl
  simp only [List.append_assoc, List.append_nil] at hread h1 h2 h3 h4 hslice hparams
  simp only [decodeV3Message, List.append_assoc, hread, ok_bind, ne_eq, not_true_eq_false, if_false,
    expectEnd_self, h1, h2, h3, h4, hparams, hmodel', htag, hslice]
  obtain ⟨msgId, msgMaxSize, msgFlags, msgSecurityModel, params, msgDataBytes, offset⟩ := view
  simp only [V3MessageView.header, List.length_append] at hoffset hmodel ⊢
  simp only [pure, Except.pure, Except.ok.injEq, V3MessageView.mk.injEq, true_and, hmodel]
  omega

theorem decodeV3Message_iff {data : Bytes} {view : V3MessageView} : decodeV3Message data = .ok view ↔
    ∃ before after, data = before ++ view.usmParams.authParams ++ after ∧ V3Layout view before after := by
  constructor
  · exact decodeV3Message_sound
  · rintro ⟨before, after, rfl, hlayout⟩
    exact decodeV3Message_complete hlayout

theorem V3Layout.withAuthParams {view : V3MessageView} {before after tag : Bytes} (h : V3Layout view before after)
    (hlen : tag.length = view.usmParams.authParams.length) : V3Layout (view.withAuthParams tag) before after := by
  obtain ⟨head, e1, e2, paramsHead, pbefore, pafter, hb, ha, hhead, g1, g2, hmodel, hsp, hparams, g4, hoffset⟩ := h
  obtain ⟨head', p1, p2, p3, p4, authHead, hpb, hhead', q1, q2, q3, q4, hauth, q6⟩ := hparams
  have hlen' : (view.withAuthParams tag).usmParams.authParams.length = view.usmParams.authParams.length := hlen
  refine ⟨head, e1, e2, paramsHead, pbefore, pafter, hb, ha, ?_, g1, g2, hmodel, ?_, ⟨head', p1, p2, p3, p4, authHead,
    hpb, ?_, q1, q2, q3, q4, ?_, q6⟩, g4, hoffset⟩
  · rw [hlen']
    exact hhead
  · rw [hlen']
    exact hsp
  · rw [hlen']
    exact hhead'
  · rw [hlen']
    exact hauth

theorem V3Layout.offset_eq {view : V3MessageView} {before after : Bytes} (h : V3Layout view before after) :
    view.authParamsOffset = before.length := by
  obtain ⟨_, _, _, _, _, _, _, _, _, _, _, _, _, _, _, hoffset⟩ := h
  exact hoffset

theorem V3Layout.data_tag {view : V3MessageView} {before after : Bytes} (h : V3Layout view before after) :
    ∃ content, Tlv ((msgDataTag view.msgFlags).1, content) view.msgDataBytes := by
  obtain ⟨_, _, _, _, _, _, _, _, _, _, _, _, _, _, hdata, _⟩ := h
  exact hdata

theorem decodeScopedPdu_iff {data engineId contextName : Bytes} {pdu : Pdu} :
    decodeScopedPdu data = .ok (engineId, contextName, pdu) ↔ ScopedPduElement engineId contextName pdu data := by
  constructor
  · intro h
    obtain ⟨⟨⟨tag, content⟩, stop⟩, htlv, h⟩ := bind_ok_iff.mp h
    rw [ite_ok_iff, not_not] at h
    obtain ⟨rfl, h⟩ := h
    obtain ⟨_, hend, h⟩ := bind_ok_iff.mp h
    obtain ⟨⟨engine, o1⟩, h1, h⟩ := bind_ok_iff.mp h
    obtain ⟨⟨context, o2⟩, h2, h⟩ := bind_ok_iff.mp h
    obtain ⟨⟨⟨pduTag, pduContent⟩, o3⟩, h3, h⟩ := bind_ok_iff.mp h
    obtain ⟨pdu', hpdu, h⟩ := bind_ok_iff.mp h
    obtain ⟨_, hend', h⟩ := bind_ok_iff.mp h
    have heq := pure_ok_iff.mp h
    simp only [Prod.mk.injEq] at heq
    obtain ⟨rfl, rfl, rfl⟩ := heq
    rw [expectEnd_ok_iff.mp hend, decodeTlv_reads.whole_iff] at htlv
    obtain ⟨e1, g1, d1, -⟩ := decodeOctetBytes_reads.sound h1
    obtain ⟨e2, g2, d2, -⟩ := decodeOctetBytes_reads.sound h2
    obtain ⟨e3, g3, d3, -⟩ := decodeTlv_reads.sound h3
    refine ⟨content, htlv, e1, e2, e3, ?_, g1, g2, (decodePdu_reencode g3).mp hpdu⟩
    rw [List.drop_zero, d2, d3, drop_eq_nil_of_eq (expectEnd_ok_iff.mp hend')] at d1
    simpa using d1
  · rintro ⟨_, htlv, e1, e2, e3, rfl, g1, g2, pduContent, g3, hbody⟩
    have hread := (decodeTlv_reads.whole_iff data _).mpr htlv
    have h1 := decodeOctetBytes_reads.at_start (e2 ++ e3) g1
    have h2 := decodeOctetBytes_reads.after e1 e3 g2
    have h3 := decodeTlv_reads.after (e1 ++ e2) [] g3
    have hpdu := (decodePdu_reencode g3).mpr ⟨pduContent, g3, hbody⟩
    simp only [List.append_assoc, List.append_nil] at hread h1 h2 h3
    simp only [decodeScopedPdu, hread, ok_bind, ne_eq, not_true_eq_false, if_false, expectEnd_self, h1, h2, h3, hpdu]
    rfl

end Wire

end TrishulSnmp
