import TrishulSnmp.Wire.RoundTrip
import TrishulSnmp.Wire.V3Grammar

namespace TrishulSnmp.Wire

open OffsetReader Outcome Ber Asn1

theorem encodeOctets_element (value : Bytes) (h : (encodeTlv octetStringTag value).length < lengthLimit) :
    OctetBytesElement value (encodeTlv octetStringTag value) :=
  ⟨_, value, encodeTlv_tlv _ ((length_lt_encodeTlv octetStringTag value).trans h), rfl, rfl⟩

theorem encodeHeaderData_element {header : HeaderData} {enc : Bytes}
    (hmodel : header.msgSecurityModel = securityModelUsm)
    (h : encodeHeaderData header.msgId header.msgMaxSize header.msgFlags = .ok enc) (hlen : enc.length < lengthLimit) :
    HeaderElement header enc := by
  obtain ⟨e1, h1, h⟩ := bind_ok_iff.mp h
  obtain ⟨e2, h2, h⟩ := bind_ok_iff.mp h
  obtain ⟨e4, h4, h⟩ := bind_ok_iff.mp h
  obtain rfl := pure_ok_iff.mp h
  have hlt := (length_lt_encodeTlv sequenceTag _).trans hlen
  have htlv := encodeTlv_tlv sequenceTag hlt
  simp only [List.length_append] at hlt
  refine ⟨_, _, htlv, rfl, e1, e2, _, e4, rfl, encodeInteger_element _ h1 (by omega),
    encodeInteger_element _ h2 (by omega), ⟨_, _, encodeTlv_tlv _ (by simp), rfl, rfl⟩, ?_⟩
  rw [hmodel]
  exact encodeInteger_element _ h4 (by omega)

theorem encodeUsmParams_layout {params : UsmParams} {enc : Bytes} (h : encodeUsmParams params = .ok enc)
    (hlen : enc.length < lengthLimit) :
    ∃ before after, enc = before ++ params.authParams ++ after ∧ UsmParamsLayout params before after := by
  obtain ⟨e2, h2, h⟩ := bind_ok_iff.mp h
  obtain ⟨e3, h3, h⟩ := bind_ok_iff.mp h
  obtain rfl := pure_ok_iff.mp h
  have hlt := (length_lt_encodeTlv sequenceTag _).trans hlen
  obtain ⟨head, hhead, heq⟩ := tlv_iff_head.mp (encodeTlv_tlv sequenceTag hlt)
  simp only [List.length_append] at hlt
  have hauth := (length_lt_encodeTlv octetStringTag params.authParams).trans (show _ < lengthLimit by omega)
  obtain ⟨authHead, hauthHead, hauthEq⟩ := tlv_iff_head.mp (encodeTlv_tlv octetStringTag hauth)
  refine ⟨head ++ (encodeTlv octetStringTag params.engineId ++ e2 ++ e3 ++ encodeTlv octetStringTag params.username ++
    authHead), encodeTlv octetStringTag params.privParams, ?_, head, _, e2, e3, _, authHead, rfl, ?_,
    encodeOctets_element _ (by omega), encodeInteger_element _ h2 (by omega), encodeInteger_element _ h3 (by omega),
    encodeOctets_element _ (by omega), hauthHead, encodeOctets_element _ (by omega)⟩
  · rw [heq, hauthEq]
    simp only [List.append_assoc]
  · convert hhead using 1
    rw [hauthEq]
    simp only [List.length_append]
    omega

def outgoingView (msgId msgMaxSize : ℤ) (flags : UInt8) (params : UsmParams) (msgData : Bytes) (offset : ℕ) :
    V3MessageView :=
  { msgId := msgId
    msgMaxSize := msgMaxSize
    msgFlags := flags
    msgSecurityModel := securityModelUsm
    usmParams := params
    msgDataBytes := msgData
    authParamsOffset := offset }

theorem encodeV3Message_isOk (msgId msgMaxSize : ℤ) (flags : UInt8) (params : UsmParams) (msgData : Bytes) :
    ∃ raw, encodeV3Message msgId msgMaxSize flags params msgData = .ok raw := ⟨_, rfl⟩

theorem length_msgData_lt {msgId msgMaxSize : ℤ} {flags : UInt8} {params : UsmParams} {msgData raw : Bytes}
    (h : encodeV3Message msgId msgMaxSize flags params msgData = .ok raw) : msgData.length < raw.length := by
  obtain ⟨e2, -, h⟩ := bind_ok_iff.mp h
  obtain ⟨sp, -, h⟩ := bind_ok_iff.mp h
  obtain ⟨e1, -, h⟩ := bind_ok_iff.mp h
  obtain rfl := pure_ok_iff.mp h
  have := length_lt_encodeTlv sequenceTag (e1 ++ e2 ++ encodeTlv octetStringTag sp ++ msgData)
  simp only [List.length_append] at this
  omega

theorem encodeV3Message_layout {msgId msgMaxSize : ℤ} {flags : UInt8} {params : UsmParams} {msgData raw : Bytes}
    (h : encodeV3Message msgId msgMaxSize flags params msgData = .ok raw) (hlen : raw.length < lengthLimit)
    (hdata : ∃ content, Tlv ((msgDataTag flags).1, content) msgData) :
    ∃ before after, raw = before ++ params.authParams ++ after ∧
      V3Layout (outgoingView msgId msgMaxSize flags params msgData before.length) before after := by
  obtain ⟨e2, h2, h⟩ := bind_ok_iff.mp h
  obtain ⟨sp, h3, h⟩ := bind_ok_iff.mp h
  obtain ⟨e1, h1, h⟩ := bind_ok_iff.mp h
  obtain rfl := pure_ok_iff.mp h
  have hlt := (length_lt_encodeTlv sequenceTag _).trans hlen
  obtain ⟨head, hhead, heq⟩ := tlv_iff_head.mp (encodeTlv_tlv sequenceTag hlt)
  simp only [List.length_append] at hlt
  have hsp := (length_lt_encodeTlv octetStringTag sp).trans (show _ < lengthLimit by omega)
  obtain ⟨paramsHead, hparamsHead, hparamsEq⟩ := tlv_iff_head.mp (encodeTlv_tlv octetStringTag hsp)
  obtain ⟨before, after, rfl, hlayout⟩ := encodeUsmParams_layout h3 hsp
  refine ⟨head ++ (e1 ++ e2 ++ paramsHead ++ before), after ++ msgData, ?_, head, e1, e2, paramsHead, before, after,
    rfl, rfl, ?_, encodeInteger_element _ h1 (by omega), encodeHeaderData_element rfl h2 (by omega), rfl, ?_, hlayout,
    hdata, rfl⟩
  · rw [heq, hparamsEq]
    simp only [List.append_assoc]
  · convert hhead using 1
    rw [hparamsEq]
    simp only [outgoingView, List.length_append]
    omega
  · convert hparamsHead using 1
    simp only [outgoingView, List.length_append]

theorem encodeScopedPdu_element {engineId contextName encoded enc : Bytes} {pdu : Pdu}
    (hpdu : encodePdu pdu = .ok encoded) (hpreserved : decodePdu encoded = .ok pdu)
    (h : encodeScopedPdu engineId contextName pdu = .ok enc) (hlen : enc.length < lengthLimit) :
    ScopedPduElement engineId contextName pdu enc := by
  rw [encodeScopedPdu, hpdu, ok_bind, pure_ok_iff] at h
  subst h
  have hlt := (length_lt_encodeTlv sequenceTag _).trans hlen
  have htlv := encodeTlv_tlv sequenceTag hlt
  simp only [List.length_append] at hlt
  exact ⟨_, htlv, _, _, encoded, rfl, encodeOctets_element _ (by omega), encodeOctets_element _ (by omega),
    decodePdu_iff.mp hpreserved⟩

end TrishulSnmp.Wire
