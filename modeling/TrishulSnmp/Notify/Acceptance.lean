import TrishulSnmp.Notify.V3
import TrishulSnmp.Security.UsmRoundTrip

namespace TrishulSnmp

open OffsetReader Outcome Ber Asn1 Wire

def UsmUser.securityLevel (user : UsmUser) : String :=
  if user.privOn then "authPriv" else if user.authOn then "authNoPriv" else "noAuthNoPriv"

namespace Notify

theorem flags_bits (flags : UInt8) (auth priv : Bool) :
    flags &&& (msgFlagAuth ||| msgFlagPriv) = (if auth then msgFlagAuth else 0) ||| (if priv then msgFlagPriv else 0) ↔
      (flags &&& msgFlagAuth ≠ 0 ↔ auth = true) ∧ (flags &&& msgFlagPriv ≠ 0 ↔ priv = true) := by
  revert flags
  cases auth <;> cases priv <;> decide +kernel

theorem expectedSecurityFlags_eq (user : UsmUser) : expectedSecurityFlags user =
    (if decide user.authOn then msgFlagAuth else 0) ||| (if decide user.privOn then msgFlagPriv else 0) := by
  unfold expectedSecurityFlags
  by_cases hauth : user.authProtocol = .none <;> by_cases hpriv : user.privProtocol = .none <;>
    simp [UsmUser.authOn, UsmUser.privOn, hauth, hpriv]

theorem validateSecurityLevel_ok_iff {flags : UInt8} {user : UsmUser} :
    validateSecurityLevel flags user = .ok () ↔ user.FlagsMatch flags ∧ (user.privOn → user.authOn) := by
  have hbits := flags_bits flags (decide user.authOn) (decide user.privOn)
  rw [← expectedSecurityFlags_eq, decide_eq_true_iff, decide_eq_true_iff] at hbits
  rw [validateSecurityLevel, ite_ok_iff, not_not]
  simp only [ite_ok_iff, not_not, hbits, UsmUser.FlagsMatch, and_true]
  constructor
  · rintro ⟨hno, hauth, hpriv⟩
    exact ⟨⟨hauth, hpriv⟩, fun h => hauth.mp fun hn => hno ⟨hpriv.mpr h, hn⟩⟩
  · rintro ⟨⟨hauth, hpriv⟩, himp⟩
    exact ⟨fun ⟨h1, h2⟩ => hauth.mpr (himp (hpriv.mp h1)) h2, hauth, hpriv⟩

theorem securityLevelFromFlags_eq {flags : UInt8} {user : UsmUser} (h : user.FlagsMatch flags) :
    securityLevelFromFlags flags = user.securityLevel := by
  simp only [securityLevelFromFlags, UsmUser.securityLevel, h.1, h.2]

theorem validateReportable_ok_iff {flags : UInt8} {pduType : PduType} :
    validateNotificationReportableFlag flags pduType = .ok () ↔
      (pduType = .snmpv2Trap → flags &&& msgFlagReportable = 0) ∧
        (pduType = .informRequest → flags &&& msgFlagReportable ≠ 0) := by
  simp only [validateNotificationReportableFlag, ite_ok_iff, not_and, not_not, and_true, ne_eq]

def ScopedFields (contextEngineId contextName : Bytes) (tag : UInt8) (pduContent data : Bytes) : Prop :=
  ∃ content, Tlv (sequenceTag, content) data ∧ ∃ engine context encoded, content = engine ++ context ++ encoded ∧
    OctetBytesElement contextEngineId engine ∧ OctetBytesElement contextName context ∧ Tlv (tag, pduContent) encoded

theorem decodeOctets_reads (label : String) : Reads (decodeOctets label) OctetBytesElement := by
  apply decodeElement_reads
  intro tag content value
  rw [labelledOctets, ite_ok_iff, not_not, Except.ok.injEq]

theorem decodeScopedFields_iff {data contextEngineId contextName pduContent : Bytes} {tag : UInt8} :
    decodeScopedFields data = .ok (contextEngineId, contextName, tag, pduContent) ↔
      ScopedFields contextEngineId contextName tag pduContent data := by
  constructor
  · intro h
    obtain ⟨⟨⟨outer, content⟩, stop⟩, htlv, h⟩ := bind_ok_iff.mp h
    rw [ite_ok_iff, not_not] at h
    obtain ⟨rfl, h⟩ := h
    obtain ⟨_, hend, h⟩ := bind_ok_iff.mp h
    obtain ⟨⟨engine, o1⟩, h1, h⟩ := bind_ok_iff.mp h
    obtain ⟨⟨context, o2⟩, h2, h⟩ := bind_ok_iff.mp h
    obtain ⟨⟨⟨pduTag, pdu⟩, o3⟩, h3, h⟩ := bind_ok_iff.mp h
    obtain ⟨_, hend', h⟩ := bind_ok_iff.mp h
    have heq := pure_ok_iff.mp h
    simp only [Prod.mk.injEq] at heq
    obtain ⟨rfl, rfl, rfl, rfl⟩ := heq
    rw [expectEnd_ok_iff.mp hend, decodeTlv_reads.whole_iff] at htlv
    obtain ⟨e1, g1, d1, -⟩ := (decodeOctets_reads _).sound h1
    obtain ⟨e2, g2, d2, -⟩ := (decodeOctets_reads _).sound h2
    obtain ⟨e3, g3, d3, -⟩ := decodeTlv_reads.sound h3
    refine ⟨content, htlv, e1, e2, e3, ?_, g1, g2, g3⟩
    rw [List.drop_zero, d2, d3, drop_eq_nil_of_eq (expectEnd_ok_iff.mp hend')] at d1
    simpa using d1
  · rintro ⟨_, htlv, e1, e2, e3, rfl, g1, g2, g3⟩
    have hread := (decodeTlv_reads.whole_iff data _).mpr htlv
    have h1 := (decodeOctets_reads "contextEngineID").at_start (e2 ++ e3) g1
    have h2 := (decodeOctets_reads "contextName").after e1 e3 g2
    have h3 := decodeTlv_reads.after (e1 ++ e2) [] g3
    simp only [List.append_assoc, List.append_nil] at hread h1 h2 h3
    simp only [decodeScopedFields, hread, ok_bind, ne_eq, not_true_eq_false, if_false, expectEnd_self, h1, h2, h3]
    rfl

theorem decodePduBytes_iff {tag : UInt8} {content enc : Bytes} {pdu : Pdu} (h : Tlv (tag, content) enc) :
    decodePduBytes tag content = .ok pdu ↔ PduElement OidContent pdu enc := by
  rw [decodePduBytes, List.append_assoc]
  exact decodePdu_reencode h

theorem isNotificationTag_iff {pduType : PduType} :
    isNotificationTag pduType.tag = true ↔ pduType = .snmpv2Trap ∨ pduType = .informRequest := by
  cases pduType <;> decide

theorem decodeNotificationScopedPdu_iff {data contextEngineId contextName : Bytes} {pdu : Pdu} :
    decodeNotificationScopedPdu data = .ok (contextEngineId, contextName, some pdu) ↔
      ScopedPduElement contextEngineId contextName pdu data ∧
        (pdu.pduType = .snmpv2Trap ∨ pdu.pduType = .informRequest) := by
  constructor
  · intro h
    obtain ⟨⟨engineId, name, tag, content⟩, hfields, h⟩ := bind_ok_iff.mp h
    obtain ⟨-, h⟩ | ⟨htag, h⟩ := ite_cases h
    · cases h
    · obtain ⟨pdu', hpdu, h⟩ := bind_ok_iff.mp h
      have heq := pure_ok_iff.mp h
      simp only [Prod.mk.injEq, Option.some.injEq] at heq
      obtain ⟨rfl, rfl, rfl⟩ := heq
      obtain ⟨outer, htlv, e1, e2, e3, rfl, g1, g2, g3⟩ := decodeScopedFields_iff.mp hfields
      have helement := (decodePduBytes_iff g3).mp hpdu
      have ⟨_, htlv', _⟩ := helement
      obtain ⟨rfl, -⟩ := Prod.mk.inj (g3.unique htlv')
      exact ⟨⟨_, htlv, e1, e2, e3, rfl, g1, g2, helement⟩, isNotificationTag_iff.mp (not_not.mp htag)⟩
  · rintro ⟨⟨_, htlv, e1, e2, e3, rfl, g1, g2, content, g3, hbody⟩, htype⟩
    have hfields := decodeScopedFields_iff.mpr ⟨_, htlv, e1, e2, e3, rfl, g1, g2, g3⟩
    have hpdu := (decodePduBytes_iff g3).mpr ⟨content, g3, hbody⟩
    have htag : ¬ ¬ isNotificationTag pdu.pduType.tag = true := not_not.mpr (isNotificationTag_iff.mpr htype)
    rw [decodeNotificationScopedPdu, hfields]
    simp only [ok_bind, if_neg htag, hpdu]
    rfl

theorem checkAuth_ok_iff {crypto : Crypto} {data : Bytes} {view : V3MessageView} (codec : UsmModel)
    (hmatch : codec.user.FlagsMatch view.msgFlags) : checkAuth crypto data view codec = .ok () ↔
      (codec.user.authOn → view.usmParams.authParams.length = authTagLen ∧
        codec.verifyAuth crypto data view.authParamsOffset view.usmParams.authParams view.usmParams.engineId =
          .ok ()) := by
  by_cases hauth : codec.user.authOn
  · rw [checkAuth, if_pos (hmatch.1.mpr hauth), ite_ok_iff, not_not]
    exact ⟨fun h _ => h, fun h => h hauth⟩
  · rw [checkAuth, if_neg fun h => hauth (hmatch.1.mp h)]
    exact ⟨fun _ h => absurd h hauth, fun _ => rfl⟩

variable {crypto : Crypto} {user : UsmUser}

structure Accepts (crypto : Crypto) (user : UsmUser) (data : Bytes) (envelope : V3NotificationEnvelope) : Prop where
  decoded : decodeV3Message data = .ok envelope.view
  username : envelope.view.usmParams.username = Utf8.encode user.username
  level : validateSecurityLevel envelope.view.msgFlags user = .ok ()
  authentic : checkAuth crypto data envelope.view (usmCodec user none) = .ok ()
  opened : ∃ msgData, openMsgData crypto envelope.view (usmCodec user none) = .ok msgData ∧
    ScopedPduElement envelope.contextEngineId envelope.contextName envelope.pdu msgData
  notification : envelope.pdu.pduType = .snmpv2Trap ∨ envelope.pdu.pduType = .informRequest
  reportable : validateNotificationReportableFlag envelope.view.msgFlags envelope.pdu.pduType = .ok ()
  reported : envelope.securityLevel = securityLevelFromFlags envelope.view.msgFlags

theorem decodeV3Notification_iff {data : Bytes} {envelope : V3NotificationEnvelope} :
    decodeV3NotificationMessage crypto data user = .ok (some envelope) ↔ Accepts crypto user data envelope := by
  constructor
  · intro h
    obtain ⟨view, hview, h⟩ := bind_ok_iff.mp h
    obtain ⟨-, h⟩ | ⟨husername, h⟩ := ite_cases h
    · cases h
    obtain ⟨_, hlevel, h⟩ := bind_ok_iff.mp h
    obtain ⟨_, hauth, h⟩ := bind_ok_iff.mp h
    obtain ⟨msgData, hopen, h⟩ := bind_ok_iff.mp h
    obtain ⟨⟨engineId, name, pdu⟩, hscoped, h⟩ := bind_ok_iff.mp h
    cases pdu with
    | none => cases h
    | some pdu =>
      obtain ⟨_, hreportable, h⟩ := bind_ok_iff.mp h
      obtain rfl := Option.some.inj (pure_ok_iff.mp h)
      obtain ⟨helement, htype⟩ := decodeNotificationScopedPdu_iff.mp hscoped
      exact ⟨hview, not_not.mp husername, hlevel, hauth, ⟨msgData, hopen, helement⟩, htype, hreportable, rfl⟩
  · rintro ⟨hview, husername, hlevel, hauth, ⟨msgData, hopen, helement⟩, htype, hreportable, hreported⟩
    have hscoped := decodeNotificationScopedPdu_iff.mpr ⟨helement, htype⟩
    simp only [decodeV3NotificationMessage, hview, ok_bind, husername, ne_eq, not_true_eq_false, if_false, hlevel,
      hauth, hopen, hscoped, hreportable]
    rw [← hreported]
    rfl

structure MessageRules (crypto : Crypto) (user : UsmUser) (data : Bytes) (view : V3MessageView) : Prop where
  flags : user.FlagsMatch view.msgFlags
  authentic : user.authOn → ∃ before after, data = before ++ view.usmParams.authParams ++ after ∧
    V3Layout view before after ∧ view.usmParams.authParams.length = 12 ∧
    view.usmParams.authParams = user.mac crypto view.usmParams.engineId (before ++ List.replicate 12 0 ++ after)

theorem messageRules_of_verified {data : Bytes} {view : V3MessageView} (model : UsmModel)
    (hview : decodeV3Message data = .ok view) (hmatch : model.user.FlagsMatch view.msgFlags)
    (hauth : model.user.authOn → view.usmParams.authParams.length = authTagLen ∧
      model.verifyAuth crypto data view.authParamsOffset view.usmParams.authParams view.usmParams.engineId = .ok ()) :
    MessageRules crypto model.user data view := by
  refine ⟨hmatch, fun hon => ?_⟩
  obtain ⟨before, after, hdata, hlayout⟩ := decodeV3Message_iff.mp hview
  obtain ⟨hlen, hverify⟩ := hauth hon
  rw [hlayout.offset_eq, hdata, UsmModel.verifyAuth_window_iff hon hlen] at hverify
  exact ⟨before, after, hdata, hlayout, hlen, hverify⟩

theorem accepted_notification_authentic (crypto : Crypto) (user : UsmUser) (data : Bytes)
    (envelope : V3NotificationEnvelope)
    (h : decodeV3NotificationMessage crypto data user = .ok (some envelope)) :
    decodeV3Message data = .ok envelope.view ∧ envelope.view.usmParams.username = Utf8.encode user.username ∧
      MessageRules crypto user data envelope.view ∧ envelope.securityLevel = user.securityLevel ∧
      (envelope.pdu.pduType = .snmpv2Trap ∧ envelope.view.msgFlags &&& msgFlagReportable = 0 ∨
        envelope.pdu.pduType = .informRequest ∧ envelope.view.msgFlags &&& msgFlagReportable ≠ 0) := by
  have haccepts := decodeV3Notification_iff.mp h
  obtain ⟨hmatch, -⟩ := validateSecurityLevel_ok_iff.mp haccepts.level
  obtain ⟨htrap, hinform⟩ := validateReportable_ok_iff.mp haccepts.reportable
  have hcheck := (checkAuth_ok_iff (usmCodec user none) hmatch).mp haccepts.authentic
  refine ⟨haccepts.decoded, haccepts.username,
    messageRules_of_verified (usmCodec user none) haccepts.decoded hmatch hcheck,
    haccepts.reported.trans (securityLevelFromFlags_eq hmatch), ?_⟩
  obtain htype | htype := haccepts.notification
  · exact .inl ⟨htype, htrap htype⟩
  · exact .inr ⟨htype, hinform htype⟩

def sampleMsgData : Bytes :=
  [48, 64, 4, 6, 128, 0, 31, 136, 4, 1, 4, 0, 166, 52, 2, 1, 77, 2, 1, 0, 2, 1, 0, 48, 41, 48, 14, 6, 8, 43, 6, 1, 2, 1,
    1, 3, 0, 67, 2, 16, 104, 48, 23, 6, 10, 43, 6, 1, 6, 3, 1, 1, 4, 1, 0, 6, 9, 43, 6, 1, 6, 3, 1, 1, 5, 3]

def sampleMac : Bytes := [223, 168, 248, 212, 102, 232, 219, 27, 180, 139, 27, 92]

def sampleData : Bytes :=
  [48, 125, 2, 1, 3, 48, 14, 2, 1, 2, 2, 3, 0, 255, 227, 4, 1, 5, 2, 1, 3, 4, 38, 48, 36, 4, 6, 128, 0, 31, 136, 4, 1,
    2, 1, 3, 2, 2, 2, 188, 4, 3, 111, 112, 115, 4, 12] ++ sampleMac ++ [4, 0] ++ sampleMsgData

def sampleEnvelope : V3NotificationEnvelope :=
  { view := {
      msgId := 2
      msgMaxSize := 65507
      msgFlags := 5
      msgSecurityModel := 3
      usmParams := {
        engineId := UsmModel.sampleEngine.engineId
        engineBoots := 3
        engineTime := 700
        username := [111, 112, 115]
        authParams := sampleMac
        privParams := [] }
      msgDataBytes := sampleMsgData
      authParamsOffset := 47 }
    pdu := UsmModel.sampleInform
    contextEngineId := UsmModel.sampleEngine.engineId
    contextName := []
    securityLevel := "authNoPriv" }

theorem accepted_notification_authentic_sample :
    MessageRules UsmModel.sampleCrypto UsmModel.sampleUser sampleData sampleEnvelope.view := by
  obtain ⟨-, -, hrules, -⟩ := accepted_notification_authentic UsmModel.sampleCrypto UsmModel.sampleUser sampleData
    sampleEnvelope (by decide +kernel)
  exact hrules

theorem unwrapMessage_some {model : UsmModel} {data : Bytes} {pdu : Pdu}
    (h : model.unwrapMessage crypto data = .ok (some pdu)) :
    ∃ view msgData engineId contextName, decodeV3Message data = .ok view ∧
      view.usmParams.username = Utf8.encode model.user.username ∧
      (model.peerEngineId = [] ∨ view.usmParams.engineId = model.peerEngineId) ∧
      model.scopedPduOf crypto data view = .ok msgData ∧ ScopedPduElement engineId contextName pdu msgData := by
  rw [UsmModel.unwrapMessage] at h
  split at h
  · obtain ⟨-, h⟩ | ⟨-, h⟩ := ite_cases h <;> cases h
  rename_i view hview
  obtain ⟨-, h⟩ | ⟨husername, h⟩ := ite_cases h
  · cases h
  obtain ⟨-, h⟩ | ⟨hengine, h⟩ := ite_cases h
  · cases h
  obtain ⟨msgData, hmsgData, h⟩ := bind_ok_iff.mp h
  split at h
  · obtain ⟨-, h⟩ | ⟨-, h⟩ := ite_cases h <;> cases h
  rename_i engineId contextName pdu' hscoped
  obtain rfl := Option.some.inj (pure_ok_iff.mp h)
  refine ⟨view, msgData, engineId, contextName, hview, not_not.mp husername, ?_, hmsgData,
    decodeScopedPdu_iff.mp hscoped⟩
  by_cases hpeer : model.peerEngineId = []
  · exact .inl hpeer
  · exact .inr (not_not.mp fun hne => hengine ⟨hpeer, hne⟩)

theorem scopedPduOf_ok {model : UsmModel} {data msgData : Bytes} {view : V3MessageView}
    (h : model.scopedPduOf crypto data view = .ok msgData) :
    (model.user.authOn →
      model.verifyAuth crypto data view.authParamsOffset view.usmParams.authParams view.usmParams.engineId = .ok ()) ∧
      model.opened crypto view = .ok msgData := by
  rw [UsmModel.scopedPduOf] at h
  by_cases hauth : model.authEnabled = true
  · rw [if_pos hauth] at h
    obtain ⟨_, hverify, h⟩ := bind_ok_iff.mp h
    exact ⟨fun _ => hverify, h⟩
  · rw [if_neg hauth] at h
    exact ⟨fun hon => absurd (UsmModel.authEnabled_iff.mpr hon) hauth, h⟩

theorem decryptScopedPdu_tag {model : UsmModel} {msgData plain : Bytes} {params : UsmParams} {x : UInt8 × Bytes}
    (hx : Tlv x msgData) (h : model.decryptScopedPdu crypto msgData params = .ok plain) : x.1 = octetStringTag := by
  rw [UsmModel.decryptScopedPdu] at h
  split at h
  · obtain ⟨⟨⟨tag, content⟩, stop⟩, htlv, h⟩ := bind_ok_iff.mp h
    rw [ite_ok_iff, not_not] at h
    rw [(decodeTlv_reads.whole_iff _ _).mpr hx] at htlv
    obtain ⟨rfl, -⟩ := Prod.mk.inj (Except.ok.inj htlv)
    exact h.1
  · cases h
  · cases h

theorem priv_bit_of_unwrapped {model : UsmModel} {view : V3MessageView}
    {before after plain engineId contextName : Bytes} {pdu : Pdu} (hlayout : V3Layout view before after)
    (h : model.opened crypto view = .ok plain) (hplain : ScopedPduElement engineId contextName pdu plain) :
    view.msgFlags &&& msgFlagPriv ≠ 0 ↔ model.user.privOn := by
  obtain ⟨content, hdata⟩ := hlayout.data_tag
  rw [UsmModel.msgDataTag_eq] at hdata
  rw [UsmModel.opened] at h
  by_cases hpriv : model.user.privOn
  · rw [if_pos hpriv] at h
    have htag := decryptScopedPdu_tag hdata h
    refine ⟨fun _ => hpriv, fun _ hbit => ?_⟩
    simp [hbit, sequenceTag, octetStringTag] at htag
  · rw [if_neg hpriv, Except.ok.injEq] at h
    subst h
    obtain ⟨_, hsequence⟩ := hplain.exists_tlv
    have htag := congrArg Prod.fst (hdata.unique hsequence)
    refine ⟨fun hbit => ?_, fun hon => absurd hon hpriv⟩
    simp [hbit, sequenceTag, octetStringTag] at htag

theorem unwrap_enforces_iff (crypto : Crypto)
    (hhmac : ∀ authProtocol key msg, authProtocol ≠ .none → 12 ≤ (crypto.hmac authProtocol key msg).length)
    (model : UsmModel) (data : Bytes) (pdu : Pdu) (h : model.unwrapMessage crypto data = .ok (some pdu)) :
    ∃ view, decodeV3Message data = .ok view ∧ (MessageRules crypto model.user data view ↔
      (view.msgFlags &&& msgFlagAuth ≠ 0 ↔ model.user.authOn) ∧
        (model.user.authOn → view.usmParams.authParams.length ≤ 12)) := by
  obtain ⟨view, msgData, engineId, contextName, hview, -, -, hmsgData, hscoped⟩ := unwrapMessage_some h
  obtain ⟨before, after, -, hlayout⟩ := decodeV3Message_iff.mp hview
  obtain ⟨hverify, hopen⟩ := scopedPduOf_ok hmsgData
  have hpriv := priv_bit_of_unwrapped hlayout hopen hscoped
  refine ⟨view, hview, fun hrules => ⟨hrules.flags.1, fun hon => ?_⟩, fun ⟨hbit, hshort⟩ => ?_⟩
  · obtain ⟨_, _, -, -, hlen, -⟩ := hrules.authentic hon
    exact hlen.le
  · refine messageRules_of_verified model hview ⟨hbit, hpriv⟩ fun hon => ⟨?_, hverify hon⟩
    have hmac := (UsmModel.verifyAuth_ok_iff hon).mp (hverify hon)
    have hlen := congrArg List.length hmac
    rw [UsmModel.length_mac hhmac hon, List.length_take] at hlen
    have := hshort hon
    simp only [authTagLen] at hlen ⊢
    omega

theorem unwrap_enforces_sample : ∃ view, decodeV3Message sampleData = .ok view ∧
    (MessageRules UsmModel.sampleCrypto UsmModel.sampleUser sampleData view ↔
      (view.msgFlags &&& msgFlagAuth ≠ 0 ↔ UsmModel.sampleUser.authOn) ∧
        (UsmModel.sampleUser.authOn → view.usmParams.authParams.length ≤ 12)) :=
  unwrap_enforces_iff UsmModel.sampleCrypto UsmModel.sampleCrypto_lawful.length_hmac { user := UsmModel.sampleUser }
    sampleData UsmModel.sampleInform (by decide +kernel)

def unsignedData : Bytes :=
  [48, 113, 2, 1, 3, 48, 14, 2, 1, 2, 2, 3, 0, 255, 227, 4, 1, 5, 2, 1, 3, 4, 26, 48, 24, 4, 6, 128, 0, 31, 136, 4, 1,
    2, 1, 3, 2, 2, 2, 188, 4, 3, 111, 112, 115, 4, 0, 4, 0] ++ sampleMsgData

def overlongData : Bytes :=
  [48, 126, 2, 1, 3, 48, 14, 2, 1, 2, 2, 3, 0, 255, 227, 4, 1, 5, 2, 1, 3, 4, 39, 48, 37, 4, 6, 128, 0, 31, 136, 4, 1,
    2, 1, 3, 2, 2, 2, 188, 4, 3, 111, 112, 115, 4, 13, 152, 195, 197, 125, 217, 13, 150, 164, 65, 173, 115, 92, 0x99, 4,
    0] ++
    sampleMsgData

def overlongCrypto : Crypto :=
  { UsmModel.sampleCrypto with
    hmac := fun _ _ _ =>
      [152, 195, 197, 125, 217, 13, 150, 164, 65, 173, 115, 92, 184, 84, 150, 18, 11, 164, 130, 122] }

theorem unwrap_accepts_what_listener_rejects :
    (UsmModel.unwrapMessage UsmModel.sampleCrypto { user := { username := "ops" } } unsignedData =
        .ok (some UsmModel.sampleInform) ∧
      ∀ view, ¬ (decodeV3Message unsignedData = .ok view ∧
        MessageRules UsmModel.sampleCrypto { username := "ops" } unsignedData view)) ∧
    UsmModel.unwrapMessage overlongCrypto { user := UsmModel.sampleUser } overlongData =
      .ok (some UsmModel.sampleInform) ∧
      ∀ view, ¬ (decodeV3Message overlongData = .ok view ∧
        MessageRules overlongCrypto UsmModel.sampleUser overlongData view) := by
  refine ⟨⟨by decide +kernel, fun view ⟨hview, hrules⟩ => ?_⟩, by decide +kernel, fun view ⟨hview, hrules⟩ => ?_⟩
  · have hflags : (decodeV3Message unsignedData).map V3MessageView.msgFlags = .ok 5 := by decide +kernel
    rw [hview] at hflags
    have hauth := hrules.flags.1
    rw [Except.ok.inj hflags] at hauth
    exact absurd (hauth.mp (by decide)) (by decide)
  · have hlength : (decodeV3Message overlongData).map (fun view => view.usmParams.authParams.length) = .ok 13 := by
      decide +kernel
    rw [hview] at hlength
    obtain ⟨_, _, -, -, hlen, -⟩ := hrules.authentic (by decide)
    exact absurd (hlen.symm.trans (Except.ok.inj hlength)) (by decide)

end Notify

end TrishulSnmp
