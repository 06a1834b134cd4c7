import TrishulSnmp.Notify.Acceptance
import TrishulSnmp.Wire.Echo

namespace TrishulSnmp.Notify

open OffsetReader Outcome Ber Asn1 Wire UsmModel

variable {crypto : Crypto} {user : UsmUser}

theorem Delivered.accepts {data plain engineId contextName : Bytes} {view : V3MessageView} {pdu : Pdu}
    (h : Delivered crypto (usmCodec user none) data view plain) (hlevel : user.privOn → user.authOn)
    (hplain : ScopedPduElement engineId contextName pdu plain)
    (htype : pdu.pduType = .snmpv2Trap ∨ pdu.pduType = .informRequest)
    (hreportable : validateNotificationReportableFlag view.msgFlags pdu.pduType = .ok ()) :
    decodeV3NotificationMessage crypto data user = .ok (some {
      view := view
      pdu := pdu
      contextEngineId := engineId
      contextName := contextName
      securityLevel := securityLevelFromFlags view.msgFlags }) := by
  have hmatch : user.FlagsMatch view.msgFlags := h.flags
  have hopen : openMsgData crypto view (usmCodec user none) = .ok plain := by
    simp only [openMsgData, hmatch.2]
    exact h.opened
  exact decodeV3Notification_iff.mpr ⟨h.decoded, h.username, validateSecurityLevel_ok_iff.mpr ⟨hmatch, hlevel⟩,
    (checkAuth_ok_iff _ h.flags).mpr h.authentic, ⟨plain, hopen, hplain⟩, htype, hreportable, rfl⟩

theorem Accepts.delivered {data : Bytes} {envelope : V3NotificationEnvelope} (h : Accepts crypto user data envelope) :
    ∃ plain, Delivered crypto (usmCodec user none) data envelope.view plain ∧
      ScopedPduElement envelope.contextEngineId envelope.contextName envelope.pdu plain := by
  obtain ⟨hmatch, -⟩ := validateSecurityLevel_ok_iff.mp h.level
  obtain ⟨plain, hopen, hplain⟩ := h.opened
  simp only [openMsgData, hmatch.2] at hopen
  exact ⟨plain, ⟨h.decoded, h.username, hmatch,
    (checkAuth_ok_iff (usmCodec user none) hmatch).mp h.authentic, hopen⟩, hplain⟩

theorem supported_of_opened {model : UsmModel} {view : V3MessageView} {plain : Bytes}
    (h : model.opened crypto view = .ok plain) : model.user.Supported := by
  by_cases hpriv : model.user.privOn
  · rw [UsmModel.opened, if_pos hpriv, decryptScopedPdu] at h
    split at h
    · rename_i haes
      obtain ⟨_, -, h⟩ := bind_ok_iff.mp h
      rw [ite_ok_iff, ite_ok_iff] at h
      obtain ⟨-, -, h⟩ := h
      obtain ⟨_, hkey, -⟩ := bind_ok_iff.mp h
      rw [privKeyAes128] at hkey
      obtain ⟨hne, hkey⟩ | ⟨-, hkey⟩ := ite_cases hkey
      · obtain ⟨_, hlocal, -⟩ := bind_ok_iff.mp hkey
        rw [localizePrivKey, ite_ok_iff] at hlocal
        exact .inr ⟨haes, hlocal.1, hne⟩
      · cases hkey
    · cases h
    · cases h
  · exact .inl hpriv

theorem wrapped_accepted (hcrypto : crypto.Lawful) {model : UsmModel} (hsupported : model.user.Supported) {pdu : Pdu}
    {encoded : Bytes} (hencode : encodePdu pdu = .ok encoded) (hdecode : decodePdu encoded = .ok pdu)
    (htype : pdu.pduType = .snmpv2Trap ∨ pdu.pduType = .informRequest) {engine : UsmLocalEngine}
    (hengine : model.selectOutboundEngine pdu.pduType = .ok engine) (hrange : model.user.privOn → engine.InRange)
    {salt : Bytes} (hsalt : salt.length = 8) :
    Yields (encodeScopedPdu engine.engineId model.contextName pdu) fun _ =>
      Yields (model.unstampedMessage crypto salt (model.msgIdCounter + 1) engine pdu) fun _ =>
        ∃ data view, (model.wrapPdu crypto salt pdu).1 = .ok data ∧
          decodeV3NotificationMessage crypto data model.user = .ok (some {
            view := view
            pdu := pdu
            contextEngineId := engine.engineId
            contextName := model.contextName
            securityLevel := securityLevelFromFlags view.msgFlags }) ∧
          view.usmParams.username = Utf8.encode model.user.username ∧ view.usmParams.engineId = engine.engineId := by
  have hwrapped := wrapped_delivered hcrypto hsupported hencode hdecode hengine hrange hsalt
  refine hwrapped.imp fun plain h => h.imp fun _ ⟨data, view, hdata, hdelivered, hengineId, hflags, hscoped⟩ => ?_
  have hreportable : validateNotificationReportableFlag view.msgFlags pdu.pduType = .ok () := by
    have hbit : model.msgFlags pdu.pduType &&& msgFlagReportable ≠ 0 ↔ _ := msgFlags_reportable pdu.pduType
    rw [validateReportable_ok_iff, hflags]
    refine ⟨fun htrap => not_ne_iff.mp fun hset => ?_, fun hinform => hbit.mpr (by simp [hinform])⟩
    exact hbit.mp hset (.inl htrap)
  have haccept := Delivered.accepts (hdelivered.congr rfl) hsupported.authOn_of_privOn hscoped htype hreportable
  exact ⟨data, view, hdata, haccept, hdelivered.username, hengineId⟩

theorem flagsMatch_masked {flags : UInt8} (h : user.FlagsMatch flags) :
    user.FlagsMatch (flags &&& (msgFlagAuth ||| msgFlagPriv)) := by
  have hmask : ∀ flags : UInt8, (flags &&& (msgFlagAuth ||| msgFlagPriv)) &&& msgFlagAuth = flags &&& msgFlagAuth ∧
      (flags &&& (msgFlagAuth ||| msgFlagPriv)) &&& msgFlagPriv = flags &&& msgFlagPriv := by decide +kernel
  rw [UsmUser.FlagsMatch, (hmask flags).1, (hmask flags).2]
  exact h

theorem encodePdu_informResponse {pdu : Pdu} {encoded : Bytes} (h : PduElement OidContent pdu encoded) :
    ∃ enc, encodePdu (informResponsePdu pdu) = .ok enc ∧
      (enc.length < lengthLimit → decodePdu enc = .ok (informResponsePdu pdu)) := by
  obtain ⟨enc, henc, -⟩ := h.reencodes_echo .response (.inl rfl) (.inl rfl)
  exact ⟨enc, henc, fun hlen => decodePdu_encodePdu_preserved h.preserved henc hlen⟩

theorem length_encoded_lt {engineId contextName encoded plain : Bytes} {pdu : Pdu}
    (hencode : encodePdu pdu = .ok encoded) (h : encodeScopedPdu engineId contextName pdu = .ok plain) :
    encoded.length < plain.length := by
  rw [encodeScopedPdu, hencode, ok_bind, pure_ok_iff] at h
  have := length_lt_encodeTlv sequenceTag
    (encodeTlv octetStringTag engineId ++ encodeTlv octetStringTag contextName ++ encoded)
  rw [h] at this
  simp only [List.length_append] at this
  omega

theorem protectResponse_eq {flags : UInt8} (hmatch : user.FlagsMatch flags) (salt plain : Bytes)
    (localEngine engine : UsmLocalEngine) :
    protectResponse crypto salt flags (usmCodec user (some localEngine)) plain engine =
      (usmCodec user (some localEngine)).protectScopedPdu crypto salt plain engine := by
  simp only [protectResponse, hmatch.2, protectScopedPdu_eq]
  rfl

theorem unstampedInformResponse_eq {salt plain privParams msgData : Bytes} {envelope : V3NotificationEnvelope}
    {localEngine : UsmLocalEngine} (hinform : envelope.pdu.pduType = .informRequest)
    (hlevel : validateSecurityLevel envelope.view.msgFlags user = .ok ())
    (hplain : encodeScopedPdu envelope.contextEngineId envelope.contextName (informResponsePdu envelope.pdu) =
      .ok plain) (hprotect : (usmCodec user (some localEngine)).protectScopedPdu crypto salt plain localEngine =
      .ok (privParams, msgData)) :
    unstampedInformResponse crypto salt envelope user localEngine =
      encodeV3Message envelope.view.msgId maxMsgSize (envelope.view.msgFlags &&& (msgFlagAuth ||| msgFlagPriv))
        (localEngine.paramsFor user privParams) msgData := by
  obtain ⟨hmatch, -⟩ := validateSecurityLevel_ok_iff.mp hlevel
  rw [← protectResponse_eq hmatch] at hprotect
  rw [unstampedInformResponse, if_neg (not_not.mpr hinform)]
  simp only [hlevel, hplain, hprotect, ok_bind, UsmLocalEngine.paramsFor, hmatch.1]

theorem ack_delivered (hcrypto : crypto.Lawful) (hsupported : user.Supported) {envelope : V3NotificationEnvelope}
    (hinform : envelope.pdu.pduType = .informRequest)
    (hlevel : validateSecurityLevel envelope.view.msgFlags user = .ok ()) {encoded : Bytes}
    (hpdu : PduElement OidContent envelope.pdu encoded) {localEngine : UsmLocalEngine}
    (hrange : user.privOn → localEngine.InRange) {salt : Bytes} (hsalt : salt.length = 8) :
    Yields (encodeScopedPdu envelope.contextEngineId envelope.contextName (informResponsePdu envelope.pdu)) fun plain =>
      Yields (unstampedInformResponse crypto salt envelope user localEngine) fun _ =>
        ∃ ack view, encodeInformResponse crypto salt envelope user localEngine = .ok ack ∧
          Delivered crypto (usmCodec user (some localEngine)) ack view plain ∧
          view.usmParams.engineId = localEngine.engineId ∧
          ScopedPduElement envelope.contextEngineId envelope.contextName (informResponsePdu envelope.pdu) plain := by
  obtain ⟨hmatch, -⟩ := validateSecurityLevel_ok_iff.mp hlevel
  obtain ⟨enc, henc, hpreserved⟩ := encodePdu_informResponse hpdu
  obtain ⟨plain, hplain⟩ := encodeScopedPdu_isOk henc envelope.contextEngineId envelope.contextName
  refine .intro hplain fun hplainLen => ?_
  obtain ⟨privParams, msgData, hprotect⟩ := @protect_isOk (usmCodec user (some localEngine)) crypto hsupported salt
    plain localEngine hrange
  have hmessage := unstampedInformResponse_eq hinform hlevel hplain hprotect
  obtain ⟨raw, hraw⟩ := encodeV3Message_isOk envelope.view.msgId maxMsgSize
    (envelope.view.msgFlags &&& (msgFlagAuth ||| msgFlagPriv)) (localEngine.paramsFor user privParams) msgData
  refine .intro (hmessage.trans hraw) fun hlen => ?_
  have hscoped := encodeScopedPdu_element henc (hpreserved ((length_encoded_lt henc hplain).trans hplainLen)) hplain
    hplainLen
  obtain ⟨content, htlv⟩ := hscoped.exists_tlv
  obtain ⟨ack, view, hack, hdelivered, hengineId, -⟩ := @sealed_delivered crypto (usmCodec user (some localEngine))
    hcrypto _ _ _ _ _ _ _ _ _ hsalt (flagsMatch_masked hmatch) htlv hprotect hraw hlen
  refine ⟨ack, view, ?_, hdelivered, hengineId, hscoped⟩
  rw [encodeInformResponse, hmessage, hraw, ok_bind]
  simp only [hmatch.1]
  exact hack

theorem request_of_encoded {pdu pdu' : Pdu} {enc : Bytes} (hencode : encodePdu pdu = .ok enc)
    (h : PduElement OidContent pdu' enc) (hlen : enc.length < lengthLimit) :
    pdu'.pduType.tag = pdu.pduType.tag ∧ pdu'.requestId = pdu.requestId := by
  obtain ⟨content, htlv, r1, r2, r3, r4, rfl, i1, -⟩ := h
  obtain ⟨e1, h1, hencode⟩ := bind_ok_iff.mp hencode
  obtain ⟨e2, -, hencode⟩ := bind_ok_iff.mp hencode
  obtain ⟨e3, -, hencode⟩ := bind_ok_iff.mp hencode
  obtain ⟨e4, -, hencode⟩ := bind_ok_iff.mp hencode
  obtain rfl := pure_ok_iff.mp hencode
  have hlt := (length_lt_encodeTlv pdu.pduType.tag _).trans hlen
  obtain ⟨htag, hcontent⟩ := Prod.mk.inj (htlv.unique (encodeTlv_tlv _ hlt))
  simp only [List.length_append] at hlt
  simp only [List.append_assoc] at hcontent
  have hint := encodeInteger_element _ h1 (by omega)
  exact ⟨htag, (decodeIntegerFrom_reads.unique i1 hint hcontent).1⟩

theorem pduElement_of_encodeScopedPdu {engineId contextName engineId' contextName' plain : Bytes} {pdu pdu' : Pdu}
    (hplain : encodeScopedPdu engineId contextName pdu = .ok plain) (hlen : plain.length < lengthLimit)
    (h : ScopedPduElement engineId' contextName' pdu' plain) :
    ∃ encoded, encodePdu pdu = .ok encoded ∧ encoded.length < lengthLimit ∧ PduElement OidContent pdu' encoded := by
  obtain ⟨encoded, hencode, hrest⟩ := bind_ok_iff.mp hplain
  obtain rfl := pure_ok_iff.mp hrest
  obtain ⟨_, htlv, e1, e2, e3, rfl, ⟨_, _, g1, rfl, rfl⟩, ⟨_, _, g2, rfl, rfl⟩, g3⟩ := h
  have hlt := (length_lt_encodeTlv sequenceTag _).trans hlen
  obtain ⟨-, hcontent⟩ := Prod.mk.inj (htlv.unique (encodeTlv_tlv _ hlt))
  simp only [List.length_append] at hlt
  simp only [List.append_assoc] at hcontent
  have g1' := encodeOctets_element engineId (by omega)
  have g2' := encodeOctets_element contextName (by omega)
  obtain ⟨_, _, g1', -⟩ := g1'
  obtain ⟨_, _, g2', -⟩ := g2'
  obtain ⟨-, hcontent⟩ := head_unique ⟨_, g1⟩ ⟨_, g1'⟩ hcontent
  obtain ⟨-, rfl⟩ := head_unique ⟨_, g2⟩ ⟨_, g2'⟩ hcontent
  exact ⟨e3, hencode, by omega, g3⟩

theorem sent_delivered (hcrypto : crypto.Lawful) {model : UsmModel} {pdu : Pdu} {engine : UsmLocalEngine}
    {salt data : Bytes} (hsalt : salt.length = 8) (hengine : model.selectOutboundEngine pdu.pduType = .ok engine)
    (hwrap : (model.wrapPdu crypto salt pdu).1 = .ok data)
    (hplainFits : Fits (encodeScopedPdu engine.engineId model.contextName pdu))
    (hrawFits : Fits (model.unstampedMessage crypto salt (model.msgIdCounter + 1) engine pdu)) :
    ∃ plain view, encodeScopedPdu engine.engineId model.contextName pdu = .ok plain ∧
      Delivered crypto model data view plain := by
  rw [wrapPdu, hengine] at hwrap
  obtain ⟨raw, hraw, hstamp⟩ := bind_ok_iff.mp hwrap
  have hlen := hrawFits raw hraw
  obtain ⟨plain, hplain, hrest⟩ := bind_ok_iff.mp hraw
  obtain ⟨⟨privParams, msgData⟩, hprotect, -⟩ := bind_ok_iff.mp hrest
  rw [unstampedMessage_eq hplain hprotect] at hraw
  obtain ⟨encoded, -, hpure⟩ := bind_ok_iff.mp hplain
  have htlv := encodeTlv_tlv sequenceTag ((length_lt_encodeTlv sequenceTag _).trans
    ((congrArg List.length (pure_ok_iff.mp hpure)).trans_lt (hplainFits plain hplain)))
  rw [pure_ok_iff.mp hpure] at htlv
  obtain ⟨data', view, hdata, hdelivered, -⟩ :=
    sealed_delivered hcrypto hsalt (msgFlags_match pdu.pduType) htlv hprotect hraw hlen
  simp only [authEnabled_iff] at hstamp
  rw [hdata, Except.ok.injEq] at hstamp
  exact ⟨plain, view, hplain, hstamp ▸ hdelivered⟩

theorem inRange_of_ack {salt ack : Bytes} {envelope : V3NotificationEnvelope} {localEngine : UsmLocalEngine}
    (h : encodeInformResponse crypto salt envelope user localEngine = .ok ack) (hpriv : user.privOn) :
    localEngine.InRange := by
  obtain ⟨raw, hraw, -⟩ := bind_ok_iff.mp h
  rw [unstampedInformResponse, ite_ok_iff] at hraw
  obtain ⟨-, hraw⟩ := hraw
  obtain ⟨_, hlevel, hraw⟩ := bind_ok_iff.mp hraw
  obtain ⟨plain, -, hraw⟩ := bind_ok_iff.mp hraw
  obtain ⟨_, hprotect, -⟩ := bind_ok_iff.mp hraw
  have hon : (usmCodec user (some localEngine)).user.privOn := hpriv
  rw [protectResponse_eq (validateSecurityLevel_ok_iff.mp hlevel).1, protectScopedPdu_eq, if_pos hon,
    encryptScopedPdu] at hprotect
  split at hprotect
  · obtain ⟨_, -, hprotect⟩ := bind_ok_iff.mp hprotect
    obtain ⟨boots, hboots, hprotect⟩ := bind_ok_iff.mp hprotect
    obtain ⟨time, htime, -⟩ := bind_ok_iff.mp hprotect
    exact ⟨packUnsigned_ok_iff.mp ⟨boots, hboots⟩, packUnsigned_ok_iff.mp ⟨time, htime⟩⟩
  · cases hprotect
  · cases hprotect

theorem selectOutboundEngine_inform (model : UsmModel) {pdu : Pdu} (h : pdu.pduType = .informRequest) :
    model.selectOutboundEngine pdu.pduType = .ok model.peerEngine := by
  rw [selectOutboundEngine, h]
  rfl

theorem wrapPdu_inform_snd (crypto : Crypto) (model : UsmModel) (salt : Bytes) {pdu : Pdu}
    (h : pdu.pduType = .informRequest) :
    (model.wrapPdu crypto salt pdu).2 = { model with msgIdCounter := model.msgIdCounter + 1 } := by
  rw [wrapPdu, selectOutboundEngine_inform model h]

theorem accepted_inform {sender : UsmModel} {inform : Pdu} {data plain : Bytes} {view : V3MessageView}
    {envelope : V3NotificationEnvelope} (hinform : inform.pduType = .informRequest)
    (hdelivered : Delivered crypto sender data view plain) (haccepts : Accepts crypto sender.user data envelope)
    (hplain : encodeScopedPdu sender.peerEngineId sender.contextName inform = .ok plain)
    (hlen : plain.length < lengthLimit) : envelope.pdu.pduType = .informRequest ∧
      envelope.pdu.requestId = inform.requestId ∧ ∃ encoded, PduElement OidContent envelope.pdu encoded := by
  obtain ⟨plain', haccepted, hscoped⟩ := haccepts.delivered
  have hcongr : Delivered crypto sender data envelope.view plain' := haccepted.congr rfl
  obtain rfl := eq_of_ok hdelivered.decoded hcongr.decoded
  obtain rfl := eq_of_ok hdelivered.opened hcongr.opened
  obtain ⟨encoded, hencode, hencodedLen, helement⟩ := pduElement_of_encodeScopedPdu hplain hlen hscoped
  obtain ⟨htag, hrequestId⟩ := request_of_encoded hencode helement hencodedLen
  have htype : envelope.pdu.pduType = .informRequest := by
    obtain htrap | hinform' := haccepts.notification
    · rw [htrap, hinform] at htag
      exact absurd htag (by decide)
    · exact hinform'
  exact ⟨htype, hrequestId, encoded, helement⟩

theorem inform_acknowledged_iff (crypto : Crypto) (hcrypto : crypto.Lawful) (sender : UsmModel)
    (hpeer : sender.peerEngineId ≠ []) (inform : Pdu) (hinform : inform.pduType = .informRequest)
    (salt ackSalt data : Bytes) (hsalt : salt.length = 8) (hackSalt : ackSalt.length = 8)
    (hwrap : (sender.wrapPdu crypto salt inform).1 = .ok data) (envelope : V3NotificationEnvelope)
    (haccept : decodeV3NotificationMessage crypto data sender.user = .ok (some envelope)) (localEngine : UsmLocalEngine)
    (hplain : Fits (encodeScopedPdu sender.peerEngineId sender.contextName inform))
    (hraw : Fits (sender.unstampedMessage crypto salt (sender.msgIdCounter + 1) sender.peerEngine inform))
    (hackPlain : Fits (encodeScopedPdu envelope.contextEngineId envelope.contextName (informResponsePdu envelope.pdu)))
    (hackRaw : Fits (unstampedInformResponse crypto ackSalt envelope sender.user localEngine)) :
    (∃ ack response, encodeInformResponse crypto ackSalt envelope sender.user localEngine = .ok ack ∧
      (sender.wrapPdu crypto salt inform).2.unwrapMessage crypto ack = .ok (some response) ∧
      response.pduType = .response ∧ response.requestId = inform.requestId) ↔
    localEngine.engineId = sender.peerEngineId ∧ (sender.user.privOn → localEngine.InRange) := by
  have haccepts := decodeV3Notification_iff.mp haccept
  obtain ⟨plain, view, hencoded, hdelivered⟩ :=
    sent_delivered hcrypto hsalt (selectOutboundEngine_inform sender hinform) hwrap hplain hraw
  obtain ⟨htype, hrequestId, encoded, helement⟩ :=
    accepted_inform hinform hdelivered haccepts hencoded (hplain plain hencoded)
  have hack (hrange : sender.user.privOn → localEngine.InRange) : ∃ ack view ackPlain,
      encodeInformResponse crypto ackSalt envelope sender.user localEngine = .ok ack ∧
      Delivered crypto sender ack view ackPlain ∧ view.usmParams.engineId = localEngine.engineId ∧
      ScopedPduElement envelope.contextEngineId envelope.contextName (informResponsePdu envelope.pdu) ackPlain := by
    have h := ack_delivered hcrypto (supported_of_opened hdelivered.opened) htype haccepts.level
      helement hrange hackSalt
    obtain ⟨ackPlain, -, h⟩ := h.of_fits hackPlain
    obtain ⟨_, -, ack, ackView, hack, hackDelivered, hengineId, hscoped⟩ := h.of_fits hackRaw
    exact ⟨ack, ackView, ackPlain, hack, hackDelivered.congr rfl, hengineId, hscoped⟩
  rw [wrapPdu_inform_snd crypto sender salt hinform]
  constructor
  · rintro ⟨ack, response, hencode, hunwrap, -, -⟩
    have hrange := inRange_of_ack hencode
    obtain ⟨ack', ackView, _, hack', hackDelivered, hengineId, -⟩ := hack hrange
    obtain rfl := eq_of_ok hencode hack'
    obtain ⟨view', _, _, _, hview', -, hengine, -⟩ := unwrapMessage_some hunwrap
    obtain rfl := eq_of_ok hackDelivered.decoded hview'
    obtain hempty | hpeerId := hengine
    · exact absurd hempty hpeer
    · exact ⟨hengineId.symm.trans hpeerId, hrange⟩
  · rintro ⟨hengine, hrange⟩
    obtain ⟨ack, ackView, _, hack', hackDelivered, hengineId, hscoped⟩ := hack hrange
    refine ⟨ack, _, hack', Delivered.unwrap (hackDelivered.congr rfl) (.inr ?_) hscoped, rfl, hrequestId⟩
    exact (hengineId.trans hengine).symm

def sampleSalt : Bytes := [1, 2, 3, 4, 5, 6, 7, 8]

theorem inform_acknowledged_sample : (∃ ack response,
    encodeInformResponse sampleCrypto sampleSalt sampleEnvelope sampleUser sampleEngine = .ok ack ∧
      (sampleNotifier.wrapPdu sampleCrypto sampleSalt sampleInform).2.unwrapMessage sampleCrypto ack =
        .ok (some response) ∧
      response.pduType = .response ∧ response.requestId = sampleInform.requestId) ↔
    sampleEngine.engineId = sampleNotifier.peerEngineId ∧ (sampleUser.privOn → sampleEngine.InRange) :=
  inform_acknowledged_iff sampleCrypto sampleCrypto_lawful sampleNotifier (by decide) sampleInform rfl sampleSalt
    sampleSalt sampleData rfl rfl (by decide +kernel) sampleEnvelope (by decide +kernel) sampleEngine
      (by decide +kernel)
    (by decide +kernel) (by decide +kernel) (by decide +kernel)

def openNotifier : UsmModel := { sampleNotifier with user := { username := "ops" } }

def openData : Bytes :=
  [48, 113, 2, 1, 3, 48, 14, 2, 1, 2, 2, 3, 0, 255, 227, 4, 1, 4, 2, 1, 3, 4, 26, 48, 24, 4, 6, 128, 0, 31, 136, 4, 1,
    2, 1, 3, 2, 2, 2, 188, 4, 3, 111, 112, 115, 4, 0, 4, 0] ++ sampleMsgData

def restartedEngine : UsmLocalEngine := { sampleEngine with engineId := [0x80, 0x00, 0x1F, 0x88, 4, 2] }

def openEnvelope : V3NotificationEnvelope :=
  { sampleEnvelope with
    view := { sampleEnvelope.view with
      msgFlags := 4
      usmParams := { sampleEnvelope.view.usmParams with authParams := [] } }
    securityLevel := "noAuthNoPriv" }

def restartedAck : Bytes :=
  [48, 113, 2, 1, 3, 48, 14, 2, 1, 2, 2, 3, 0, 255, 227, 4, 1, 0, 2, 1, 3, 4, 26, 48, 24, 4, 6, 128, 0, 31, 136, 4, 2,
    2, 1, 3, 2, 2, 2, 188, 4, 3, 111, 112, 115, 4, 0, 4, 0, 48, 64, 4, 6, 128, 0, 31, 136, 4, 1, 4, 0, 162, 52, 2, 1,
    77, 2, 1, 0, 2, 1, 0, 48, 41, 48, 14, 6, 8, 43, 6, 1, 2, 1, 1, 3, 0, 67, 2, 16, 104, 48, 23, 6, 10, 43, 6, 1, 6, 3,
    1, 1, 4, 1, 0, 6, 9, 43, 6, 1, 6, 3, 1, 1, 5, 3]

theorem accepted_inform_unacknowledged : (openNotifier.wrapPdu sampleCrypto sampleSalt sampleInform).1 = .ok openData ∧
    decodeV3NotificationMessage sampleCrypto openData openNotifier.user = .ok (some openEnvelope) ∧
    encodeInformResponse sampleCrypto sampleSalt openEnvelope openNotifier.user restartedEngine = .ok restartedAck ∧
    (openNotifier.wrapPdu sampleCrypto sampleSalt sampleInform).2.unwrapMessage sampleCrypto restartedAck = .ok none :=
  ⟨by decide +kernel, by decide +kernel, by decide +kernel, by decide +kernel⟩

theorem encodeInteger_isOk (n : ℤ) : ∃ enc, encodeInteger n = .ok enc := ⟨_, rfl⟩

theorem fields_of_scopedPdu {data engineId contextName : Bytes} {pdu : Pdu}
    (h : ScopedPduElement engineId contextName pdu data) :
    ∃ content, decodeScopedFields data = .ok (engineId, contextName, pdu.pduType.tag, content) ∧
      decodePduBytes pdu.pduType.tag content = .ok pdu := by
  obtain ⟨_, htlv, e1, e2, e3, rfl, g1, g2, content, g3, hbody⟩ := h
  exact ⟨content, decodeScopedFields_iff.mpr ⟨_, htlv, e1, e2, e3, rfl, g1, g2, g3⟩,
    (decodePduBytes_iff g3).mpr ⟨content, g3, hbody⟩⟩

structure Probe (data : Bytes) (view : V3MessageView) (pdu : Pdu) : Prop where
  decoded : decodeV3Message data = .ok view
  header : isProbeHeader view = true
  content : ScopedPduElement [] [] pdu view.msgDataBytes
  get : pdu.pduType = .get
  name : isProbePdu pdu = true

theorem Probe.recognised {data : Bytes} {view : V3MessageView} {pdu : Pdu} (h : Probe data view pdu) :
    isDiscoveryProbe data = .ok true := by
  obtain ⟨content, hfields, hpdu⟩ := fields_of_scopedPdu h.content
  rw [h.get] at hfields hpdu
  simp only [isDiscoveryProbe, h.decoded, orFalse, h.header, hfields, hpdu, h.name]
  rfl

theorem Probe.parsed {data : Bytes} {view : V3MessageView} {pdu : Pdu} (h : Probe data view pdu) :
    decodeDiscoveryProbe data = .ok (view, [], [], pdu) := by
  obtain ⟨content, hfields, hpdu⟩ := fields_of_scopedPdu h.content
  simp only [decodeDiscoveryProbe, h.decoded, ok_bind, hfields, pure, Except.pure, Except.mapError, h.recognised,
    hpdu, not_true_eq_false, if_false]

theorem discoveryProbePdu_preserved (requestId : ℤ) :
    ∀ varbind ∈ (discoveryProbePdu requestId).varbinds, varbind.Preserved := by
  intro varbind hmem
  obtain rfl := List.mem_singleton.mp hmem
  exact ⟨by decide, trivial⟩

theorem encodePdu_probe (requestId : ℤ) : ∃ enc, encodePdu (discoveryProbePdu requestId) = .ok enc := by
  have hlist : ∃ enc, encodeVarbindList [{ oid := discoveryProbeOid, value := .nullValue }] = .ok enc :=
    ⟨[48, 16, 48, 14, 6, 10, 43, 6, 1, 6, 3, 15, 1, 1, 4, 0, 5, 0], by decide⟩
  obtain ⟨enc, henc⟩ := hlist
  simp only [encodePdu, discoveryProbePdu, henc, encodeInteger, encodeValue, ok_bind]
  exact ⟨_, rfl⟩

theorem probe_decodes (notifier : UsmModel) : Yields notifier.buildDiscoveryProbe.1 fun data => ∃ plain offset,
    decodeV3Message data =
        .ok (outgoingView (notifier.msgIdCounter + 1) maxMsgSize msgFlagReportable noParams plain offset) ∧
      ScopedPduElement [] [] (discoveryProbePdu (notifier.msgIdCounter + 1)) plain := by
  obtain ⟨enc, henc⟩ := encodePdu_probe (notifier.msgIdCounter + 1)
  obtain ⟨plain, hplain⟩ := encodeScopedPdu_isOk henc [] []
  obtain ⟨raw, hraw⟩ := encodeV3Message_isOk (notifier.msgIdCounter + 1) maxMsgSize msgFlagReportable noParams plain
  have hbuild : notifier.buildDiscoveryProbe.1 = .ok raw := by
    simp only [buildDiscoveryProbe, hplain, ok_bind, hraw]
  refine .intro hbuild fun hlen => ?_
  have hplainLen := (length_msgData_lt hraw).trans hlen
  have hpreserved := decodePdu_encodePdu_preserved (discoveryProbePdu_preserved _) henc
    ((length_encoded_lt henc hplain).trans hplainLen)
  have hscoped := encodeScopedPdu_element henc hpreserved hplain hplainLen
  obtain ⟨before, after, hdata, hlayout⟩ := encodeV3Message_layout hraw hlen hscoped.exists_tlv
  exact ⟨plain, before.length, decodeV3Message_iff.mpr ⟨before, after, hdata, hlayout⟩, hscoped⟩

theorem probe_yields (notifier : UsmModel) : Yields notifier.buildDiscoveryProbe.1 fun data =>
    ∃ view, Probe data view (discoveryProbePdu (notifier.msgIdCounter + 1)) :=
  (probe_decodes notifier).imp fun _ ⟨_, _, hdecode, hscoped⟩ =>
    ⟨_, hdecode, decide_eq_true ⟨rfl, rfl⟩, hscoped, rfl, decide_eq_true rfl⟩

def reportVarbinds : List RawVarBind := [{ oid := discoveryProbeOid, value := .counter32Value 1 }]

theorem validateReportBody_ok {pduType : PduType} {pdu : Pdu} {body : Bytes}
    (h : decodePduBody pduType body = .ok pdu) : validateReportBody body = .ok () := by
  obtain ⟨⟨_, o1⟩, h1, h⟩ := bind_ok_iff.mp h
  obtain ⟨⟨_, o2⟩, h2, h⟩ := bind_ok_iff.mp h
  obtain ⟨⟨_, o3⟩, h3, h⟩ := bind_ok_iff.mp h
  obtain ⟨⟨_, o4⟩, h4, h⟩ := bind_ok_iff.mp h
  obtain ⟨_, hend, -⟩ := bind_ok_iff.mp h
  simp only [validateReportBody, h1, h2, h3, h4, ok_bind, hend]

theorem peekScopedPdu_fields {engineId contextName body data : Bytes} {tag : UInt8}
    (h : ScopedFields engineId contextName tag body data) (hbody : validateReportBody body = .ok ()) :
    peekScopedPdu data = .ok (engineId, contextName, tag, data.length) := by
  obtain ⟨_, htlv, e1, e2, e3, rfl, ⟨_, _, g1, rfl, rfl⟩, ⟨_, _, g2, rfl, rfl⟩, g3⟩ := h
  have hread := (decodeTlv_reads.whole_iff data _).mpr htlv
  have h1 := decodeTlv_reads.at_start (e2 ++ e3) g1
  have h2 := decodeTlv_reads.after e1 e3 g2
  have h3 := decodeTlv_reads.after (e1 ++ e2) [] g3
  simp only [List.append_assoc, List.append_nil] at hread h1 h2 h3
  simp only [peekScopedPdu, hread, ok_bind, ne_eq, not_true_eq_false, if_false, expectEnd_self, h1, h2, h3, hbody]
  rfl

theorem encodeReportPdu_tlv (requestId : ℤ) : ∃ enc, encodeReportPdu requestId 0 0 reportVarbinds = .ok enc ∧
    (enc.length < lengthLimit → ∃ body, Tlv (reportPduTag, body) enc ∧ validateReportBody body = .ok ()) := by
  have hlist : ∃ enc, encodeVarbindList reportVarbinds = .ok enc :=
    ⟨[48, 17, 48, 15, 6, 10, 43, 6, 1, 6, 3, 15, 1, 1, 4, 0, 65, 1, 1], by decide⟩
  obtain ⟨e4, h4⟩ := hlist
  obtain ⟨e1, h1⟩ := encodeInteger_isOk requestId
  obtain ⟨e2, h2⟩ := encodeInteger_isOk 0
  have henc : encodeReportPdu requestId 0 0 reportVarbinds = .ok (encodeTlv reportPduTag (e1 ++ e2 ++ e2 ++ e4)) := by
    simp only [encodeReportPdu, h1, h2, h4, ok_bind]
    rfl
  refine ⟨_, henc, fun hlen => ?_⟩
  have hlt := (length_lt_encodeTlv reportPduTag (e1 ++ e2 ++ e2 ++ e4)).trans hlen
  have htlv := encodeTlv_tlv reportPduTag hlt
  have hnonneg : ∀ varbind ∈ reportVarbinds, varbind.NonnegArcs := by
    intro varbind hmem
    obtain rfl := List.mem_singleton.mp hmem
    exact ⟨by decide, trivial⟩
  simp only [List.length_append] at hlt
  let pdu : Pdu :=
    { pduType := .response, requestId := requestId, errorStatus := 0, errorIndex := 0,
      varbinds := reportVarbinds.map RawVarBind.onWire }
  have hbody : decodePduBody .response (e1 ++ e2 ++ e2 ++ e4) = .ok pdu := decodePduBody_iff.mpr ⟨rfl, e1, e2, e2, e4,
    rfl, encodeInteger_element _ h1 (by omega), encodeInteger_element _ h2 (by omega),
    encodeInteger_element _ h2 (by omega), encodeVarbindList_element hnonneg h4 (by omega)⟩
  exact ⟨_, htlv, validateReportBody_ok hbody⟩

def knows (notifier : UsmModel) (engine : UsmLocalEngine) : UsmModel :=
  { notifier with
    peerEngineId := engine.engineId
    peerEngineBoots := engine.engineBoots
    peerEngineTime := engine.engineTime }

theorem report_yields {probe : Bytes} {view : V3MessageView} {pdu : Pdu} (h : Probe probe view pdu)
    {localEngine : UsmLocalEngine} (hid : localEngine.engineId ≠ []) :
    Yields (encodeDiscoveryReport probe localEngine) fun report =>
      ∀ notifier : UsmModel, notifier.parseDiscoveryResponse report = .ok (knows notifier localEngine) := by
  obtain ⟨reportPdu, hpdu, hbody⟩ := encodeReportPdu_tlv pdu.requestId
  let params : UsmParams := {
    engineId := localEngine.engineId
    engineBoots := localEngine.engineBoots
    engineTime := localEngine.engineTime
    username := []
    authParams := []
    privParams := [] }
  let msgData := encodeScopedRawPdu [] [] reportPdu
  obtain ⟨raw, hraw⟩ := encodeV3Message_isOk view.msgId maxMsgSize 0 params msgData
  have hencode : encodeDiscoveryReport probe localEngine = .ok raw := by
    rw [encodeDiscoveryReport, h.parsed, ok_bind]
    simp only [show [{ oid := discoveryProbeOid, value := .counter32Value 1 }] = reportVarbinds from rfl, hpdu, ok_bind]
    exact hraw
  refine .intro hencode fun hlen notifier => ?_
  have hmsgData : (encodeTlv octetStringTag [] ++ encodeTlv octetStringTag [] ++ reportPdu).length < lengthLimit :=
    (length_lt_encodeTlv sequenceTag _).trans ((length_msgData_lt hraw).trans hlen)
  have htlv := encodeTlv_tlv sequenceTag hmsgData
  simp only [List.length_append] at hmsgData
  obtain ⟨body, hreport, hvalid⟩ := hbody (by omega)
  have hfields : ScopedFields [] [] reportPduTag body msgData :=
    ⟨_, htlv, _, _, reportPdu, rfl, encodeOctets_element _ (by omega), encodeOctets_element _ (by omega), hreport⟩
  obtain ⟨before, after, hdata, hlayout⟩ := encodeV3Message_layout hraw hlen ⟨_, htlv⟩
  have hview := decodeV3Message_iff.mpr ⟨before, after, hdata, hlayout⟩
  have hpeek := peekScopedPdu_fields hfields hvalid
  rw [parseDiscoveryResponse, hview]
  simp only [Except.mapError, ok_bind, outgoingView, hpeek, ne_eq, not_true_eq_false, if_false]
  rw [if_neg hid]
  rfl

theorem discovery_inform_handshake (crypto : Crypto) (hcrypto : crypto.Lawful) (notifier : UsmModel)
    (hsupported : notifier.user.Supported) (localEngine : UsmLocalEngine) (hid : localEngine.engineId ≠ [])
    (hrange : localEngine.InRange) (inform : Pdu) (hinform : inform.pduType = .informRequest) (encoded : Bytes)
    (hencode : encodePdu inform = .ok encoded) (hdecode : decodePdu encoded = .ok inform) (salt ackSalt : Bytes)
    (hsalt : salt.length = 8) (hackSalt : ackSalt.length = 8) :
    Yields notifier.buildDiscoveryProbe.1 fun probe => isDiscoveryProbe probe = .ok true ∧
      Yields (encodeDiscoveryReport probe localEngine) fun report => ∃ found,
        notifier.buildDiscoveryProbe.2.parseDiscoveryResponse report = .ok found ∧
        found.peerEngineId = localEngine.engineId ∧ found.peerEngineBoots = localEngine.engineBoots ∧
        found.peerEngineTime = localEngine.engineTime ∧
        Yields (encodeScopedPdu localEngine.engineId notifier.contextName inform) fun _ =>
        Yields (found.unstampedMessage crypto salt (found.msgIdCounter + 1) localEngine inform) fun _ =>
          ∃ data envelope, (found.wrapPdu crypto salt inform).1 = .ok data ∧
            decodeV3NotificationMessage crypto data notifier.user = .ok (some envelope) ∧ envelope.pdu = inform ∧
            envelope.contextName = notifier.contextName ∧ envelope.contextEngineId = localEngine.engineId ∧
            envelope.view.usmParams.engineId = localEngine.engineId ∧
            Yields (encodeScopedPdu localEngine.engineId notifier.contextName (informResponsePdu inform)) fun _ =>
            Yields (unstampedInformResponse crypto ackSalt envelope notifier.user localEngine) fun _ =>
              ∃ ack response, encodeInformResponse crypto ackSalt envelope notifier.user localEngine = .ok ack ∧
                (found.wrapPdu crypto salt inform).2.unwrapMessage crypto ack = .ok (some response) ∧
                response.pduType = .response ∧ response.requestId = inform.requestId ∧ response.errorStatus = 0 ∧
                response.varbinds = inform.varbinds := by
  refine (probe_yields notifier).imp fun probe ⟨view, hprobe⟩ => ⟨hprobe.recognised, ?_⟩
  refine (report_yields hprobe hid).imp fun report hparse => ⟨_, hparse _, rfl, rfl, rfl, ?_⟩
  let found := knows notifier.buildDiscoveryProbe.2 localEngine
  have hengine : found.selectOutboundEngine inform.pduType = .ok localEngine := by
    rw [selectOutboundEngine, if_neg (by simp [hinform])]
    rfl
  have hfound : found.user.Supported := hsupported
  have hwrapped := wrapped_accepted hcrypto hfound hencode hdecode (.inr hinform) hengine (fun _ => hrange) hsalt
  refine hwrapped.imp fun plain h => h.imp fun _ ⟨data, view', hdata, haccept, _, hengineId⟩ => ?_
  refine ⟨data, _, hdata, haccept, rfl, rfl, rfl, hengineId, ?_⟩
  have haccepts := decodeV3Notification_iff.mp haccept
  have hack := ack_delivered hcrypto hsupported hinform haccepts.level (decodePdu_iff.mp hdecode)
    (fun _ => hrange) hackSalt
  refine hack.imp fun plain h => h.imp fun _ ⟨ack, ackView, hackOk, hackDelivered, hackEngine, hackScoped⟩ => ?_
  refine ⟨ack, _, hackOk, Delivered.unwrap (hackDelivered.congr ?_) (.inr ?_) hackScoped, rfl, rfl, rfl, rfl⟩
  · rw [wrapPdu, hengine]
    rfl
  · rw [wrapPdu, hengine, hackEngine]
    rfl

def sampleProbe : Bytes :=
  [48, 72, 2, 1, 3, 48, 14, 2, 1, 1, 2, 3, 0, 255, 227, 4, 1, 4, 2, 1, 3, 4, 16, 48, 14, 4, 0, 2, 1, 0, 2, 1, 0, 4, 0,
    4, 0, 4, 0, 48, 33, 4, 0, 4, 0, 160, 27, 2, 1, 1, 2, 1, 0, 2, 1, 0, 48, 16, 48, 14, 6, 10, 43, 6, 1, 6, 3, 15, 1, 1,
    4, 0, 5, 0]

def sampleReport : Bytes :=
  [48, 80, 2, 1, 3, 48, 14, 2, 1, 1, 2, 3, 0, 255, 227, 4, 1, 0, 2, 1, 3, 4, 23, 48, 21, 4, 6, 128, 0, 31, 136, 4, 1,
    2, 1, 3, 2, 2, 2, 188, 4, 0, 4, 0, 4, 0, 48, 34, 4, 0, 4, 0, 168, 28, 2, 1, 1, 2, 1, 0, 2, 1, 0, 48, 17, 48, 15, 6,
    10, 43, 6, 1, 6, 3, 15, 1, 1, 4, 0, 65, 1, 1]

theorem discovery_inform_handshake_sample : isDiscoveryProbe sampleProbe = .ok true ∧ ∃ ack response,
    encodeInformResponse sampleCrypto sampleSalt sampleEnvelope sampleUser sampleEngine = .ok ack ∧
      (sampleNotifier.wrapPdu sampleCrypto sampleSalt sampleInform).2.unwrapMessage sampleCrypto ack =
        .ok (some response) ∧
      response.pduType = .response ∧ response.requestId = 77 ∧ response.varbinds = sampleInform.varbinds := by
  obtain ⟨encoded, hencode, hdecode⟩ : ∃ encoded, encodePdu sampleInform = .ok encoded ∧
      decodePdu encoded = .ok sampleInform := ⟨_, rfl, by decide +kernel⟩
  have h := discovery_inform_handshake sampleCrypto sampleCrypto_lawful { user := sampleUser } (.inl (by decide))
    sampleEngine (by decide) (by decide) sampleInform rfl encoded hencode hdecode sampleSalt sampleSalt rfl rfl
  obtain ⟨probe, hprobe, hrecognised, h⟩ := h.of_fits (by decide +kernel)
  obtain rfl : sampleProbe = probe := eq_of_ok (by decide +kernel) hprobe
  obtain ⟨report, hreport, found, hfound, -, -, -, h⟩ := h.of_fits (by decide +kernel)
  obtain rfl : sampleReport = report := eq_of_ok (by decide +kernel) hreport
  obtain rfl : sampleNotifier = found := eq_of_ok (by decide +kernel) hfound
  obtain ⟨_, -, h⟩ := h.of_fits (by decide +kernel)
  obtain ⟨_, -, data, envelope, hdata, haccept, -, -, -, -, h⟩ := h.of_fits (by decide +kernel)
  obtain rfl : sampleData = data := eq_of_ok (by decide +kernel) hdata
  obtain rfl : sampleEnvelope = envelope := Option.some.inj (eq_of_ok (by decide +kernel) haccept)
  obtain ⟨_, -, h⟩ := h.of_fits (by decide +kernel)
  obtain ⟨_, -, ack, response, hack, hunwrap, htype, hid, -, hvarbinds⟩ := h.of_fits (by decide +kernel)
  exact ⟨hrecognised, ack, response, hack, hunwrap, htype, hid, hvarbinds⟩

end TrishulSnmp.Notify
