import TrishulSnmp.Notify.V3Listening
import TrishulSnmp.Transport.SessionSafety

namespace TrishulSnmp

open Outcome Ber Asn1 Wire UsmModel Transport

namespace UsmModel

variable {crypto : Crypto} {model receiver : UsmModel}

theorem wrapPdu_user (crypto : Crypto) (model : UsmModel) (salt : Bytes) (pdu : Pdu) :
    (model.wrapPdu crypto salt pdu).2.user = model.user := by
  rw [wrapPdu]
  cases model.selectOutboundEngine pdu.pduType <;> rfl

theorem buildDiscoveryProbe_user (model : UsmModel) : model.buildDiscoveryProbe.2.user = model.user := rfl

theorem parseDiscoveryResponse_user {found : UsmModel} {data : Bytes}
    (h : model.parseDiscoveryResponse data = .ok found) :
    found.user = model.user := by
  obtain ⟨view, -, h⟩ := bind_ok_iff.mp h
  obtain ⟨fields, -, h⟩ := bind_ok_iff.mp h
  obtain ⟨-, h⟩ := ite_ok_iff.mp h
  obtain ⟨-, h⟩ := ite_ok_iff.mp h
  rw [← pure_ok_iff.mp h]

theorem opened_congr (huser : receiver.user = model.user) (view : V3MessageView) :
    receiver.opened crypto view = model.opened crypto view := by
  obtain ⟨user, _, _, _, _, _, _⟩ := receiver
  obtain rfl : user = model.user := huser
  rfl

theorem verifyAuth_congr (huser : receiver.user = model.user) (raw tag engineId : Bytes) (offset : ℕ) :
    receiver.verifyAuth crypto raw offset tag engineId = model.verifyAuth crypto raw offset tag engineId := by
  obtain ⟨user, _, _, _, _, _, _⟩ := receiver
  obtain rfl : user = model.user := huser
  rfl

variable (hcrypto : crypto.Lawful)

include hcrypto in
theorem length_le_stampAuth {raw data engineId : Bytes} (h : model.stampAuth crypto raw engineId = .ok data) :
    raw.length ≤ data.length := by
  obtain ⟨tag, htag, h⟩ := bind_ok_iff.mp h
  obtain ⟨view, -, h⟩ := bind_ok_iff.mp h
  obtain rfl := pure_ok_iff.mp h
  have hauth : model.user.authOn := (ite_ok_iff.mp htag).1
  rw [computeAuthTag_eq hauth] at htag
  obtain rfl := Except.ok.inj htag
  have hlength := length_mac hcrypto.length_hmac hauth engineId raw
  simp only [List.length_append, List.length_take, List.length_drop, hlength]
  omega

variable (hcfb : ∀ key iv plain, (crypto.aesCfbEncrypt key iv plain).length = plain.length)

include hcfb in
theorem length_le_protectScopedPdu {salt plain privParams msgData : Bytes} {engine : UsmLocalEngine}
    (h : model.protectScopedPdu crypto salt plain engine = .ok (privParams, msgData)) :
    plain.length ≤ msgData.length := by
  rw [protectScopedPdu_eq] at h
  obtain ⟨-, h⟩ | ⟨-, h⟩ := ite_cases h
  · rw [encryptScopedPdu] at h
    split at h
    · obtain ⟨key, -, h⟩ := bind_ok_iff.mp h
      obtain ⟨boots, -, h⟩ := bind_ok_iff.mp h
      obtain ⟨time, -, h⟩ := bind_ok_iff.mp h
      obtain ⟨-, rfl⟩ := Prod.mk.inj (pure_ok_iff.mp h)
      have hlonger := length_lt_encodeTlv octetStringTag (crypto.aesCfbEncrypt key (boots ++ time ++ salt) plain)
      rw [hcfb] at hlonger
      exact hlonger.le
    · cases h
    · cases h
  · obtain ⟨-, rfl⟩ := Prod.mk.inj (Except.ok.inj h)
    exact le_rfl

include hcrypto hcfb in
theorem wrapPdu_fits {salt data : Bytes} {pdu : Pdu} {engine : UsmLocalEngine}
    (hengine : model.selectOutboundEngine pdu.pduType = .ok engine) (h : (model.wrapPdu crypto salt pdu).1 = .ok data)
    (hlen : data.length < lengthLimit) : Fits (encodeScopedPdu engine.engineId model.contextName pdu) ∧
      Fits (model.unstampedMessage crypto salt (model.msgIdCounter + 1) engine pdu) := by
  rw [wrapPdu, hengine] at h
  obtain ⟨raw, hraw, h⟩ := bind_ok_iff.mp h
  have hstamped : raw.length ≤ data.length := by
    obtain ⟨-, h⟩ | ⟨-, h⟩ := ite_cases h
    · exact length_le_stampAuth hcrypto h
    · exact (congrArg List.length (Except.ok.inj h)).le
  obtain ⟨plain, hplain, hrest⟩ := bind_ok_iff.mp hraw
  obtain ⟨⟨privParams, msgData⟩, hprotect, hencode⟩ := bind_ok_iff.mp hrest
  have hshort := (length_le_protectScopedPdu hcfb hprotect).trans_lt (length_msgData_lt hencode)
  constructor
  · intro plain' hplain'
    obtain rfl := eq_of_ok hplain hplain'
    exact (hshort.trans_le hstamped).trans hlen
  · intro raw' hraw'
    obtain rfl := eq_of_ok hraw hraw'
    exact hstamped.trans_lt hlen

end UsmModel

namespace Notify

abbrev UserModel (user : UsmUser) := { model : UsmModel // model.user = user }

/-- `salts` is what `os.urandom(8)` returns, by the number of the message it is for. -/
def v3Session (crypto : Crypto) (user : UsmUser) (salts : ℤ → Bytes) (retries : ℕ) : Session (UserModel user) where
  security := {
    wrapPdu := fun pdu model =>
      ((model.1.wrapPdu crypto (salts (model.1.msgIdCounter + 1)) pdu).1,
        ⟨(model.1.wrapPdu crypto (salts (model.1.msgIdCounter + 1)) pdu).2, (wrapPdu_user _ _ _ _).trans model.2⟩)
    unwrapMessage := fun model => model.1.unwrapMessage crypto }
  discovery := {
    peerEngineDiscovered := fun model => model.1.peerEngineId ≠ []
    buildDiscoveryProbe := fun model =>
      (model.1.buildDiscoveryProbe.1, ⟨model.1.buildDiscoveryProbe.2, (buildDiscoveryProbe_user _).trans model.2⟩)
    parseDiscoveryResponse := fun data model =>
      match h : model.1.parseDiscoveryResponse data with
      | .error e => (.error e, model)
      | .ok found => (.ok (), ⟨found, (parseDiscoveryResponse_user h).trans model.2⟩) }
  retries := retries

section Datagrams

variable {crypto : Crypto} {user : UsmUser} {data : Bytes} {pdu pdu' : Pdu}

/-- Only who has the keys of the user can make a datagram that is verified. -/
def verified (crypto : Crypto) (user : UsmUser) (data : Bytes) : Bool :=
  match decodeV3Message data with
  | .error _ => false
  | .ok view => ((usmCodec user none).verifyAuth crypto data view.authParamsOffset view.usmParams.authParams
      view.usmParams.engineId).isOk

def Contains (crypto : Crypto) (user : UsmUser) (data : Bytes) (pdu : Pdu) : Prop :=
  ∃ view plain engineId contextName, decodeV3Message data = .ok view ∧
    (usmCodec user none).opened crypto view = .ok plain ∧ ScopedPduElement engineId contextName pdu plain

def Copies (original pdu : Pdu) : Prop :=
  ∃ encoded, encodePdu original = .ok encoded ∧ encoded.length < lengthLimit ∧ decodePdu encoded = .ok pdu

theorem verified_of_verifyAuth {view : V3MessageView} (hview : decodeV3Message data = .ok view)
    (hverify : (usmCodec user none).verifyAuth crypto data view.authParamsOffset view.usmParams.authParams
      view.usmParams.engineId = .ok ()) : verified crypto user data = true := by
  rw [verified, hview]
  simp only [hverify]
  rfl

theorem unverified_of_unsigned {view : V3MessageView} (hcrypto : crypto.Lawful) (hauth : user.authOn)
    (hview : decodeV3Message data = .ok view) (hunsigned : view.usmParams.authParams = []) :
    verified crypto user data = false := by
  have hon : (usmCodec user none).user.authOn := hauth
  rw [verified, hview]
  simp only [hunsigned, UsmModel.verifyAuth, computeAuthTag_eq hon, ok_bind, List.take_nil]
  rw [if_pos]
  · rfl
  · intro hnil
    have hlength := length_mac hcrypto.length_hmac hon view.usmParams.engineId
    specialize hlength (data.take view.authParamsOffset ++ List.replicate authTagLen 0 ++
      data.drop (view.authParamsOffset + authTagLen))
    rw [hnil] at hlength
    cases hlength

theorem Delivered.contains {plain engineId contextName : Bytes} {view : V3MessageView}
    (h : Delivered crypto (usmCodec user none) data view plain)
    (hscoped : ScopedPduElement engineId contextName pdu plain) :
    Contains crypto user data pdu := ⟨view, plain, engineId, contextName, h.decoded, h.opened, hscoped⟩

theorem Delivered.scoped {plain : Bytes} {view : V3MessageView}
    (h : Delivered crypto (usmCodec user none) data view plain) (hcontains : Contains crypto user data pdu) :
    ∃ engineId contextName, ScopedPduElement engineId contextName pdu plain := by
  obtain ⟨view', plain', engineId, contextName, hview, hopened, hscoped⟩ := hcontains
  obtain rfl := eq_of_ok h.decoded hview
  obtain rfl := eq_of_ok h.opened hopened
  exact ⟨engineId, contextName, hscoped⟩

theorem tag_injective {pduType pduType' : PduType} : pduType.tag = pduType'.tag → pduType = pduType' := by
  cases pduType <;> cases pduType' <;> decide

theorem Copies.header (h : Copies pdu pdu') : pdu'.pduType = pdu.pduType ∧ pdu'.requestId = pdu.requestId := by
  obtain ⟨encoded, hencode, hlen, hdecode⟩ := h
  obtain ⟨htag, hid⟩ := request_of_encoded hencode (decodePdu_iff.mp hdecode) hlen
  exact ⟨tag_injective htag, hid⟩

theorem Copies.eq_onWire (h : Copies pdu pdu') (hnonneg : ∀ varbind ∈ pdu.varbinds, varbind.NonnegArcs) :
    pdu' = pdu.onWire := by
  obtain ⟨encoded, hencode, hlen, hdecode⟩ := h
  exact eq_of_ok hdecode (decodePdu_iff.mpr (encodePdu_element hnonneg hencode hlen))

theorem contained_of_unwrap {model : UsmModel} (huser : model.user = user) (hauth : user.authOn)
    (h : model.unwrapMessage crypto data = .ok (some pdu)) :
    Contains crypto user data pdu ∧ verified crypto user data = true := by
  obtain ⟨view, plain, engineId, contextName, hview, -, -, hplain, hscoped⟩ := unwrapMessage_some h
  obtain ⟨hverify, hopened⟩ := scopedPduOf_ok hplain
  specialize hverify (huser ▸ hauth)
  have hcodec : (usmCodec user none).user = model.user := huser.symm
  rw [← verifyAuth_congr hcodec] at hverify
  rw [← opened_congr hcodec] at hopened
  exact ⟨⟨view, plain, engineId, contextName, hview, hopened, hscoped⟩, verified_of_verifyAuth hview hverify⟩

theorem contained_of_accept {envelope : V3NotificationEnvelope} (hauth : user.authOn)
    (h : decodeV3NotificationMessage crypto data user = .ok (some envelope)) :
    Contains crypto user data envelope.pdu ∧ verified crypto user data = true := by
  obtain ⟨plain, hdelivered, hscoped⟩ := (decodeV3Notification_iff.mp h).delivered
  exact ⟨Delivered.contains hdelivered hscoped,
    verified_of_verifyAuth hdelivered.decoded (hdelivered.authentic hauth).2⟩

variable (hcrypto : crypto.Lawful) (hlen : data.length < lengthLimit)

include hcrypto hlen in
theorem probe_unverified {model : UsmModel} (hauth : user.authOn) (h : model.buildDiscoveryProbe.1 = .ok data) :
    verified crypto user data = false := by
  obtain ⟨data', hdata, hdecodes⟩ := probe_decodes model
  obtain rfl := eq_of_ok h hdata
  obtain ⟨_, _, hview, -⟩ := hdecodes hlen
  exact unverified_of_unsigned hcrypto hauth hview rfl

include hcrypto hlen in
theorem report_unverified {received : Bytes} {localEngine : UsmLocalEngine} (hauth : user.authOn)
    (h : encodeDiscoveryReport received localEngine = .ok data) : verified crypto user data = false := by
  obtain ⟨⟨view, engineId, contextName, probe⟩, -, h⟩ := bind_ok_iff.mp h
  obtain ⟨reportPdu, -, h⟩ := bind_ok_iff.mp h
  have hshort := (length_lt_encodeTlv sequenceTag _).trans ((length_msgData_lt h).trans hlen)
  obtain ⟨before, after, hdata, hlayout⟩ := encodeV3Message_layout h hlen ⟨_, encodeTlv_tlv sequenceTag hshort⟩
  exact unverified_of_unsigned hcrypto hauth (decodeV3Message_iff.mpr ⟨before, after, hdata, hlayout⟩) rfl

variable (hcfb : ∀ key iv plain, (crypto.aesCfbEncrypt key iv plain).length = plain.length)

include hcrypto hlen hcfb in
theorem copies_of_wrapped {model : UsmModel} {salt : Bytes} (huser : model.user = user) (hsalt : salt.length = 8)
    (h : (model.wrapPdu crypto salt pdu).1 = .ok data) (hcontains : Contains crypto user data pdu') :
    Copies pdu pdu' := by
  obtain ⟨engine, hengine⟩ | ⟨e, he⟩ := ok_or_error (model.selectOutboundEngine pdu.pduType)
  · obtain ⟨hplainFits, hrawFits⟩ := wrapPdu_fits hcrypto hcfb hengine h hlen
    obtain ⟨plain, view, hplain, hdelivered⟩ := sent_delivered hcrypto hsalt hengine h hplainFits hrawFits
    have hopens : Delivered crypto (usmCodec user none) data view plain := hdelivered.congr huser.symm
    obtain ⟨engineId, contextName, hscoped⟩ := Delivered.scoped hopens hcontains
    obtain ⟨encoded, hencode, hshort, helement⟩ :=
      pduElement_of_encodeScopedPdu hplain (hplainFits plain hplain) hscoped
    exact ⟨encoded, hencode, hshort, decodePdu_iff.mpr helement⟩
  · rw [wrapPdu, he] at h
    cases h

include hcrypto hcfb in
theorem informResponse_fits {salt : Bytes} {envelope : V3NotificationEnvelope} {localEngine : UsmLocalEngine}
    (h : encodeInformResponse crypto salt envelope user localEngine = .ok data) (hlen : data.length < lengthLimit) :
    Fits (encodeScopedPdu envelope.contextEngineId envelope.contextName (informResponsePdu envelope.pdu)) ∧
      Fits (unstampedInformResponse crypto salt envelope user localEngine) := by
  obtain ⟨raw, hraw, h⟩ := bind_ok_iff.mp h
  have hstamped : raw.length ≤ data.length := by
    obtain ⟨-, h⟩ | ⟨-, h⟩ := ite_cases h
    · exact length_le_stampAuth hcrypto h
    · exact (congrArg List.length (Except.ok.inj h)).le
  have hmade := hraw
  rw [unstampedInformResponse, ite_ok_iff] at hmade
  obtain ⟨-, hmade⟩ := hmade
  obtain ⟨_, hlevel, hmade⟩ := bind_ok_iff.mp hmade
  obtain ⟨plain, hplain, hmade⟩ := bind_ok_iff.mp hmade
  obtain ⟨⟨privParams, msgData⟩, hprotect, hencode⟩ := bind_ok_iff.mp hmade
  rw [protectResponse_eq (validateSecurityLevel_ok_iff.mp hlevel).1] at hprotect
  have hshort := (length_le_protectScopedPdu hcfb hprotect).trans_lt (length_msgData_lt hencode)
  constructor
  · intro plain' hplain'
    obtain rfl := eq_of_ok hplain hplain'
    exact (hshort.trans_le hstamped).trans hlen
  · intro raw' hraw'
    obtain rfl := eq_of_ok hraw hraw'
    exact hstamped.trans_lt hlen

include hcrypto hlen hcfb in
theorem informResponse_of_ack {received salt : Bytes} {envelope : V3NotificationEnvelope} {localEngine : UsmLocalEngine}
    (haccept : decodeV3NotificationMessage crypto received user = .ok (some envelope)) (hsalt : salt.length = 8)
    (h : encodeInformResponse crypto salt envelope user localEngine = .ok data)
    (hcontains : Contains crypto user data pdu') : pdu' = informResponsePdu envelope.pdu := by
  have haccepts := decodeV3Notification_iff.mp haccept
  obtain ⟨hplainFits, hrawFits⟩ := informResponse_fits hcrypto hcfb h hlen
  obtain ⟨_, -, _, _, encoded, -, -, -, hpdu⟩ := haccepts.opened.choose_spec.2
  obtain ⟨plain', hdelivered, -⟩ := haccepts.delivered
  have hsupported : user.Supported := supported_of_opened hdelivered.opened
  have hinform : envelope.pdu.pduType = .informRequest := by
    obtain ⟨raw, hraw, -⟩ := bind_ok_iff.mp h
    rw [unstampedInformResponse, ite_ok_iff] at hraw
    exact not_not.mp hraw.1
  have hack := ack_delivered hcrypto hsupported hinform haccepts.level hpdu (inRange_of_ack h) hsalt
  obtain ⟨plain, -, hack⟩ := hack.of_fits hplainFits
  obtain ⟨_, -, ack, view, hencode, hackDelivered, -, hackScoped⟩ := hack.of_fits hrawFits
  obtain rfl := eq_of_ok h hencode
  have hopens : Delivered crypto (usmCodec user none) data view plain := hackDelivered.congr rfl
  obtain ⟨engineId, contextName, hscoped⟩ := Delivered.scoped hopens hcontains
  have hsame := eq_of_ok (decodeScopedPdu_iff.mpr hscoped) (decodeScopedPdu_iff.mpr hackScoped)
  exact congrArg (fun fields => fields.2.2) hsame

end Datagrams

section Tasks

variable {τ : Type} {crypto : Crypto} {user : UsmUser} {salts : ℤ → Bytes} {retries : ℕ} {task : τ} {call : Call}
  {shared shared' : Shared τ (UserModel user)} {position position' : Position} {wakeup : Wakeup}

def callPdu (call : Call) (requestId : ℕ) : Pdu :=
  { pduType := call.pduType
    requestId := requestId
    errorStatus := call.errorStatus
    errorIndex := call.errorIndex
    varbinds := call.varbinds }

def Carries (crypto : Crypto) (user : UsmUser) (call : Call) : Position → Prop
  | .entered => True
  | .sendingProbe probe _ | .receivingReport probe _ => ∃ model : UsmModel, model.buildDiscoveryProbe.1 = .ok probe
  | .sending request _ | .receiving request _ => ∃ (model : UsmModel) (salt : Bytes), model.user = user ∧
      salt.length = 8 ∧
      (model.wrapPdu crypto salt (callPdu call request.requestId)).1 = .ok request.encodedMessage

theorem prepareRequest_carries (hsalts : ∀ msgId, (salts msgId).length = 8)
    (h : (v3Session crypto user salts retries).prepareRequest task call shared = (.goes position, shared')) :
    Carries crypto user call position := by
  unfold Session.prepareRequest at h
  simp only at h
  split at h
  · cases h
  · rename_i encodedMessage hwrap
    cases h
    exact ⟨shared.model.1, _, shared.model.2, hsalts _, hwrap⟩

theorem enter_carries (hsalts : ∀ msgId, (salts msgId).length = 8)
    (h : (v3Session crypto user salts retries).enter task call shared = (.goes position, shared')) :
    Carries crypto user call position := by
  unfold Session.enter at h
  obtain ⟨-, h⟩ | ⟨-, h⟩ := ite_cases h
  · simp only at h
    split at h
    · cases h
    · rename_i probe hprobe
      cases h
      exact ⟨shared.model.1, hprobe⟩
  · exact prepareRequest_carries hsalts h

theorem parseReport_carries (hsalts : ∀ msgId, (salts msgId).length = 8) {data : Bytes}
    (h : (v3Session crypto user salts retries).parseReport task call data shared = (.goes position, shared')) :
    Carries crypto user call position := by
  unfold Session.parseReport at h
  simp only at h
  split at h
  · cases h
  · have hprepared := prepareRequest_carries hsalts h
    exact hprepared

theorem retry_goes {e : Error} {again : ℕ → Position} {left : ℕ} (h : Session.retry e again left = .goes position) :
    ∃ left', position = again left' := by
  unfold Session.retry at h
  split_ifs at h
  cases left with
  | zero => cases h
  | succ left => exact ⟨left, (Progress.goes.inj h).symm⟩

theorem resume_carries (hsalts : ∀ msgId, (salts msgId).length = 8) (hcarries : Carries crypto user call position)
    (h : (v3Session crypto user salts retries).resume task call position wakeup shared =
      some (.goes position', shared')) : Carries crypto user call position' := by
  unfold Session.resume at h
  split at h
  · cases h
  · exact enter_carries hsalts (Option.some.inj h)
  · cases h
    exact hcarries
  · obtain ⟨-, h⟩ | ⟨-, h⟩ := ite_cases h
    · cases h
    · cases h
      exact hcarries
  · cases h
  · cases h
  · exact parseReport_carries hsalts (Option.some.inj h)
  · obtain ⟨_, rfl⟩ := retry_goes (Prod.mk.inj (Option.some.inj h)).1
    exact hcarries
  · have hgoes := (Prod.mk.inj (Option.some.inj h)).1
    unfold Session.receiveDatagram at hgoes
    split at hgoes
    · obtain ⟨_, rfl⟩ := retry_goes hgoes
      exact hcarries
    · cases hgoes
      exact hcarries
    · cases hgoes
  · obtain ⟨_, rfl⟩ := retry_goes (Prod.mk.inj (Option.some.inj h)).1
    exact hcarries
  · cases h
  · cases h
  · cases h

end Tasks

end Notify

end TrishulSnmp
