import TrishulSnmp.Security.Usm
import TrishulSnmp.Wire.V3RoundTrip

namespace TrishulSnmp

open OffsetReader Outcome Ber Asn1 Wire

namespace UsmUser

variable (user : UsmUser)

def authOn : Prop := user.authProtocol ≠ .none

def privOn : Prop := user.privProtocol ≠ .none

instance : Decidable user.authOn := inferInstanceAs (Decidable (_ ≠ _))

instance : Decidable user.privOn := inferInstanceAs (Decidable (_ ≠ _))

def Supported : Prop := ¬ user.privOn ∨ user.privProtocol = .aes128 ∧ user.authOn ∧ user.privKey ≠ []

def macKey (crypto : Crypto) (engineId : Bytes) : Bytes :=
  if user.authKey = [] then []
  else if user.authKeyLocalized then user.authKey
  else localizedKey crypto user.authProtocol user.authKey engineId

def mac (crypto : Crypto) (engineId msg : Bytes) : Bytes :=
  (crypto.hmac user.authProtocol (user.macKey crypto engineId) msg).take authTagLen

def FlagsMatch (flags : UInt8) : Prop :=
  (flags &&& msgFlagAuth ≠ 0 ↔ user.authOn) ∧ (flags &&& msgFlagPriv ≠ 0 ↔ user.privOn)

end UsmUser

def UsmLocalEngine.InRange (engine : UsmLocalEngine) : Prop :=
  (0 ≤ engine.engineBoots ∧ engine.engineBoots < 4294967296) ∧ 0 ≤ engine.engineTime ∧ engine.engineTime < 4294967296

instance : DecidablePred UsmLocalEngine.InRange := fun _ => inferInstanceAs (Decidable ((_ ∧ _) ∧ _ ∧ _))

def UsmLocalEngine.paramsFor (engine : UsmLocalEngine) (user : UsmUser) (privParams : Bytes) : UsmParams :=
  { engineId := engine.engineId
    engineBoots := engine.engineBoots
    engineTime := engine.engineTime
    username := Utf8.encode user.username
    authParams := if user.authOn then UsmModel.authPlaceholder else []
    privParams := privParams }

/-- `x` returns octets, and `P` holds of them if they are few enough for the length of a TLV. -/
def Yields (x : Except Error Bytes) (P : Bytes → Prop) : Prop := ∃ raw, x = .ok raw ∧ (raw.length < 256 ^ 127 → P raw)

theorem Yields.intro {x : Except Error Bytes} {P : Bytes → Prop} {raw : Bytes} (h : x = .ok raw)
    (hP : raw.length < 256 ^ 127 → P raw) : Yields x P := ⟨raw, h, hP⟩

theorem Yields.imp {x : Except Error Bytes} {P Q : Bytes → Prop} (h : Yields x P) (hPQ : ∀ raw, P raw → Q raw) :
    Yields x Q := by
  obtain ⟨raw, hraw, hP⟩ := h
  exact ⟨raw, hraw, fun hlen => hPQ raw (hP hlen)⟩

def Fits (x : Except Error Bytes) : Prop := ∀ raw, x = .ok raw → raw.length < 256 ^ 127

instance (x : Except Error Bytes) : Decidable (Fits x) :=
  match x with
  | .ok raw => decidable_of_iff (raw.length < 256 ^ 127) ⟨fun h _ heq => Except.ok.inj heq ▸ h, fun h => h raw rfl⟩
  | .error _ => .isTrue fun _ h => by cases h

theorem Yields.of_fits {x : Except Error Bytes} {P : Bytes → Prop} (h : Yields x P) (hfits : Fits x) :
    ∃ raw, x = .ok raw ∧ P raw := by
  obtain ⟨raw, hraw, hP⟩ := h
  exact ⟨raw, hraw, hP (hfits raw hraw)⟩

theorem packUnsigned_ok_iff {n : ℤ} : (∃ packed, packUnsigned n = .ok packed) ↔ 0 ≤ n ∧ n < 4294967296 := by
  unfold packUnsigned
  split_ifs with h
  · exact ⟨fun _ => h, fun _ => ⟨_, rfl⟩⟩
  · exact ⟨fun ⟨_, hp⟩ => (by cases hp), fun hr => absurd hr h⟩

theorem packUnsigned_ok {n : ℤ} (h : 0 ≤ n ∧ n < 4294967296) : packUnsigned n = .ok (BigEndian.ofNat 4 n.toNat) :=
  if_pos h

theorem UsmUser.Supported.authOn_of_privOn {user : UsmUser} (h : user.Supported) (hpriv : user.privOn) :
    user.authOn := by
  obtain hnone | ⟨-, hauth, -⟩ := h
  · exact absurd hpriv hnone
  · exact hauth

namespace UsmModel

variable {crypto : Crypto} {model receiver : UsmModel}

theorem authEnabled_iff : model.authEnabled = true ↔ model.user.authOn := by simp [authEnabled, UsmUser.authOn]

theorem hmacKey_eq (h : model.user.authOn) (engineId : Bytes) :
    model.hmacKey crypto engineId = .ok (model.user.macKey crypto engineId) := by
  have hne : ¬ model.user.authProtocol = .none := h
  unfold hmacKey UsmUser.macKey localizeKey
  split_ifs <;> rfl

theorem computeAuthTag_eq (h : model.user.authOn) (msg engineId : Bytes) :
    model.computeAuthTag crypto msg engineId = .ok (model.user.mac crypto engineId msg) := by
  rw [computeAuthTag, if_neg h, hmacKey_eq h]
  rfl

theorem length_mac (hhmac : ∀ authProtocol key msg, authProtocol ≠ .none →
    12 ≤ (crypto.hmac authProtocol key msg).length) (h : model.user.authOn) (engineId msg : Bytes) :
    (model.user.mac crypto engineId msg).length = authTagLen := by
  rw [UsmUser.mac, List.length_take]
  exact Nat.min_eq_left (hhmac _ _ _ h)

theorem verifyAuth_ok_iff (h : model.user.authOn) {raw tag engineId : Bytes} {offset : ℕ} :
    model.verifyAuth crypto raw offset tag engineId = .ok () ↔
      model.user.mac crypto engineId (raw.take offset ++ authPlaceholder ++ raw.drop (offset + authTagLen)) =
        tag.take authTagLen := by
  rw [verifyAuth, computeAuthTag_eq h, ok_bind, ite_ok_iff, not_not]
  simp [authPlaceholder]

theorem replaced_window {before tag after : Bytes} (tag' : Bytes) (h : tag.length = authTagLen) :
    (before ++ tag ++ after).take before.length ++ tag' ++
      (before ++ tag ++ after).drop (before.length + authTagLen) = before ++ tag' ++ after := by
  rw [← h, ← List.length_append, List.drop_left, List.append_assoc before tag, List.take_left]

theorem verifyAuth_window_iff (h : model.user.authOn) {before tag after engineId : Bytes}
    (hlen : tag.length = authTagLen) :
    model.verifyAuth crypto (before ++ tag ++ after) before.length tag engineId = .ok () ↔
      tag = model.user.mac crypto engineId (before ++ authPlaceholder ++ after) := by
  rw [verifyAuth_ok_iff h, replaced_window _ hlen, List.take_of_length_le hlen.le, eq_comm]

theorem msgDataTag_eq (flags : UInt8) :
    (msgDataTag flags).1 = if flags &&& msgFlagPriv ≠ 0 then octetStringTag else sequenceTag := by
  unfold msgDataTag
  split_ifs <;> rfl

theorem msgFlags_match (pduType : PduType) : model.user.FlagsMatch (model.msgFlags pduType) := by
  unfold msgFlags UsmUser.FlagsMatch
  rw [← authEnabled_iff]
  by_cases hpriv : model.user.privOn
  · have hne : model.user.privProtocol ≠ .none := hpriv
    by_cases hauth : model.authEnabled = true <;> by_cases htype : pduType = .snmpv2Trap ∨ pduType = .response <;>
      simp [hpriv, hne, hauth, htype] <;> decide
  · have heq : model.user.privProtocol = .none := not_not.mp hpriv
    by_cases hauth : model.authEnabled = true <;> by_cases htype : pduType = .snmpv2Trap ∨ pduType = .response <;>
      simp [hpriv, heq, hauth, htype] <;> decide

theorem msgFlags_reportable (pduType : PduType) :
    model.msgFlags pduType &&& msgFlagReportable ≠ 0 ↔ ¬ (pduType = .snmpv2Trap ∨ pduType = .response) := by
  unfold msgFlags
  by_cases hpriv : model.user.privProtocol ≠ .none <;> by_cases hauth : model.authEnabled = true <;>
    by_cases htype : pduType = .snmpv2Trap ∨ pduType = .response <;> simp [hpriv, hauth, htype] <;> decide

theorem stampAuth_window (hcrypto : crypto.Lawful) (hauth : model.user.authOn) {view : V3MessageView}
    {before after : Bytes} (hlayout : V3Layout view before after) (hzero : view.usmParams.authParams = authPlaceholder)
    (engineId : Bytes) :
    ∃ tag, tag.length = authTagLen ∧
      model.stampAuth crypto (before ++ authPlaceholder ++ after) engineId = .ok (before ++ tag ++ after) ∧
      decodeV3Message (before ++ tag ++ after) = .ok (view.withAuthParams tag) ∧
      model.verifyAuth crypto (before ++ tag ++ after) before.length tag engineId = .ok () := by
  have hplaceholder : authPlaceholder.length = authTagLen := List.length_replicate
  have htag := length_mac hcrypto.length_hmac hauth engineId (before ++ authPlaceholder ++ after)
  have hdecode : decodeV3Message (before ++ authPlaceholder ++ after) = .ok view :=
    decodeV3Message_iff.mpr ⟨before, after, by rw [hzero], hlayout⟩
  refine ⟨_, htag, ?_, ?_, (verifyAuth_window_iff hauth htag).mpr rfl⟩
  · rw [stampAuth, computeAuthTag_eq hauth, ok_bind, hdecode, ok_bind, pure_ok_iff, hlayout.offset_eq,
      replaced_window _ hplaceholder]
  · apply decodeV3Message_iff.mpr
    refine ⟨before, after, rfl, hlayout.withAuthParams ?_⟩
    rw [htag, hzero, hplaceholder]

theorem stamp_decodes (hcrypto : crypto.Lawful) {msgId msgMaxSize : ℤ} {flags : UInt8} {params : UsmParams}
    {msgData raw : Bytes} (hraw : encodeV3Message msgId msgMaxSize flags params msgData = .ok raw)
    (hlen : raw.length < lengthLimit) (hdata : ∃ content, Tlv ((msgDataTag flags).1, content) msgData)
    (hparams : params.authParams = if model.user.authOn then authPlaceholder else []) :
    ∃ data tag offset, (if model.user.authOn then model.stampAuth crypto raw params.engineId else .ok raw) = .ok data ∧
      decodeV3Message data = .ok ((outgoingView msgId msgMaxSize flags params msgData offset).withAuthParams tag) ∧
      (model.user.authOn → tag.length = authTagLen ∧
        model.verifyAuth crypto data offset tag params.engineId = .ok ()) := by
  obtain ⟨before, after, rfl, hlayout⟩ := encodeV3Message_layout hraw hlen hdata
  by_cases hauth : model.user.authOn
  · rw [if_pos hauth] at hparams
    obtain ⟨tag, htag, hstamp, hdecode, hverify⟩ := stampAuth_window hcrypto hauth hlayout hparams params.engineId
    refine ⟨_, tag, before.length, ?_, hdecode, fun _ => ⟨htag, hverify⟩⟩
    rw [if_pos hauth, hparams]
    exact hstamp
  · rw [if_neg hauth] at hparams ⊢
    refine ⟨_, params.authParams, before.length, rfl, ?_, fun h => absurd h hauth⟩
    exact decodeV3Message_iff.mpr ⟨before, after, rfl, hlayout.withAuthParams rfl⟩

structure Stamps (crypto : Crypto) (model : UsmModel) (raw engineId : Bytes) (view : V3MessageView)
    (tag stamped : Bytes) :
    Prop where
  decoded : decodeV3Message raw = .ok view
  stamps : model.stampAuth crypto raw engineId = .ok stamped
  tagLength : tag.length = authTagLen
  window : stamped = raw.take view.authParamsOffset ++ tag ++ raw.drop (view.authParamsOffset + authTagLen)
  same : decodeV3Message stamped = .ok (view.withAuthParams tag)
  verified : model.verifyAuth crypto stamped view.authParamsOffset tag engineId = .ok ()

theorem auth_window_exact (crypto : Crypto) (hcrypto : crypto.Lawful) :
    (∀ data view, decodeV3Message data = .ok view →
      slice data view.authParamsOffset (view.authParamsOffset + view.usmParams.authParams.length) =
        view.usmParams.authParams) ∧
    ∀ (model : UsmModel) (msgId msgMaxSize : ℤ) (flags : UInt8) (params : UsmParams) (msgData engineId : Bytes),
      model.user.authOn → params.authParams = authPlaceholder →
      (∃ content, Tlv ((msgDataTag flags).1, content) msgData) →
      Yields (encodeV3Message msgId msgMaxSize flags params msgData) fun raw =>
        ∃ view tag stamped, Stamps crypto model raw engineId view tag stamped := by
  constructor
  · intro data view h
    obtain ⟨before, after, rfl, hlayout⟩ := decodeV3Message_iff.mp h
    rw [hlayout.offset_eq]
    exact slice_append before _ after
  · intro model msgId msgMaxSize flags params msgData engineId hauth hzero hdata
    obtain ⟨raw, hraw⟩ := encodeV3Message_isOk msgId msgMaxSize flags params msgData
    refine .intro hraw fun hlen => ?_
    obtain ⟨before, after, rfl, hlayout⟩ := encodeV3Message_layout hraw hlen hdata
    obtain ⟨tag, htag, hstamp, hsame, hverify⟩ := stampAuth_window hcrypto hauth hlayout hzero engineId
    have hdecode : decodeV3Message (before ++ authPlaceholder ++ after) =
        .ok (outgoingView msgId msgMaxSize flags params msgData before.length) := by
      rw [← hzero]
      exact decodeV3Message_iff.mpr ⟨before, after, rfl, hlayout⟩
    rw [hzero]
    exact ⟨_, tag, _, hdecode, hstamp, htag, (replaced_window tag List.length_replicate).symm, hsame, hverify⟩

def opened (crypto : Crypto) (model : UsmModel) (view : V3MessageView) : Except Error Bytes :=
  if model.user.privOn then model.decryptScopedPdu crypto view.msgDataBytes view.usmParams else .ok view.msgDataBytes

theorem protectScopedPdu_eq (salt plain : Bytes) (engine : UsmLocalEngine) :
    model.protectScopedPdu crypto salt plain engine =
      if model.user.privOn then model.encryptScopedPdu crypto salt plain engine else .ok ([], plain) := rfl

theorem protect_isOk (crypto : Crypto) (hsupported : model.user.Supported) (salt plain : Bytes)
    {engine : UsmLocalEngine} (hrange : model.user.privOn → engine.InRange) :
    ∃ privParams msgData, model.protectScopedPdu crypto salt plain engine = .ok (privParams, msgData) := by
  obtain hnone | ⟨haes, hauth, hkey⟩ := hsupported
  · exact ⟨[], plain, if_neg hnone⟩
  · have hpriv : model.user.privProtocol ≠ .none := by simp [haes]
    obtain ⟨hboots, htime⟩ := hrange hpriv
    have hne : ¬ model.user.authProtocol = .none := hauth
    rw [protectScopedPdu, if_pos hpriv, encryptScopedPdu, haes]
    simp only [encryptAes128, privKeyAes128, localizePrivKey, if_pos hkey, if_neg hne, packUnsigned_ok hboots,
      packUnsigned_ok htime, ok_bind]
    exact ⟨_, _, rfl⟩

theorem encryptAes128_undone (hcrypto : crypto.Lawful) {salt plain privParams msgData : Bytes} {engine : UsmLocalEngine}
    (hsalt : salt.length = 8) (h : model.encryptAes128 crypto salt plain engine = .ok (privParams, msgData))
    (hlen : msgData.length < lengthLimit) : (∃ content, Tlv (octetStringTag, content) msgData) ∧
      model.decryptAes128 crypto msgData privParams engine.engineId engine.engineBoots engine.engineTime =
        .ok plain := by
  obtain ⟨aesKey, hkey, h⟩ := bind_ok_iff.mp h
  obtain ⟨boots, hboots, h⟩ := bind_ok_iff.mp h
  obtain ⟨time, htime, h⟩ := bind_ok_iff.mp h
  obtain ⟨rfl, rfl⟩ := Prod.mk.inj (pure_ok_iff.mp h)
  have htlv := encodeTlv_tlv octetStringTag ((length_lt_encodeTlv _ _).trans hlen)
  refine ⟨⟨_, htlv⟩, ?_⟩
  simp only [decryptAes128, (decodeTlv_reads.whole_iff _ _).mpr htlv, ok_bind, ne_eq, not_true_eq_false, if_false,
    hsalt, hkey, hboots, htime, hcrypto.decrypt_encrypt]
  rfl

structure Delivered (crypto : Crypto) (model : UsmModel) (data : Bytes) (view : V3MessageView) (plain : Bytes) :
    Prop where
  decoded : decodeV3Message data = .ok view
  username : view.usmParams.username = Utf8.encode model.user.username
  flags : model.user.FlagsMatch view.msgFlags
  authentic : model.user.authOn → view.usmParams.authParams.length = authTagLen ∧
    model.verifyAuth crypto data view.authParamsOffset view.usmParams.authParams view.usmParams.engineId = .ok ()
  opened : model.opened crypto view = .ok plain

theorem Delivered.congr {data plain : Bytes} {view : V3MessageView} (h : Delivered crypto model data view plain)
    (huser : receiver.user = model.user) : Delivered crypto receiver data view plain := by
  obtain ⟨user, _, _, _, _, _, _⟩ := receiver
  obtain rfl : user = model.user := huser
  exact ⟨h.decoded, h.username, h.flags, h.authentic, h.opened⟩

theorem sealed_delivered (hcrypto : crypto.Lawful) {msgId : ℤ} {flags : UInt8} {engine : UsmLocalEngine}
    {salt plain content privParams msgData raw : Bytes} (hsalt : salt.length = 8)
    (hflags : model.user.FlagsMatch flags) (hplain : Tlv (sequenceTag, content) plain)
    (hprotect : model.protectScopedPdu crypto salt plain engine = .ok (privParams, msgData))
    (hraw : encodeV3Message msgId maxMsgSize flags (engine.paramsFor model.user privParams) msgData = .ok raw)
    (hlen : raw.length < lengthLimit) :
    ∃ data view, (if model.user.authOn then model.stampAuth crypto raw engine.engineId else .ok raw) = .ok data ∧
      Delivered crypto model data view plain ∧ view.usmParams.engineId = engine.engineId ∧ view.msgFlags = flags := by
  have hmsgData := (length_msgData_lt hraw).trans hlen
  have hopen : (∃ content, Tlv ((msgDataTag flags).1, content) msgData) ∧ ∀ params : UsmParams,
      params.engineId = engine.engineId → params.engineBoots = engine.engineBoots →
      params.engineTime = engine.engineTime → params.privParams = privParams →
      (if model.user.privOn then model.decryptScopedPdu crypto msgData params else .ok msgData) = .ok plain := by
    simp only [msgDataTag_eq, hflags.2]
    by_cases hpriv : model.user.privOn
    · rw [protectScopedPdu_eq, if_pos hpriv, encryptScopedPdu] at hprotect
      simp only [if_pos hpriv, decryptScopedPdu]
      split at hprotect
      · obtain ⟨htlv, hundone⟩ := encryptAes128_undone hcrypto hsalt hprotect hmsgData
        refine ⟨htlv, fun params h1 h2 h3 h4 => ?_⟩
        simp only [h1, h2, h3, h4, hundone]
      · cases hprotect
      · cases hprotect
    · rw [protectScopedPdu_eq, if_neg hpriv] at hprotect
      obtain ⟨rfl, rfl⟩ := Prod.mk.inj (Except.ok.inj hprotect)
      simp only [if_neg hpriv]
      exact ⟨⟨content, hplain⟩, fun _ _ _ _ _ => trivial⟩
  obtain ⟨data, tag, offset, hdata, hview, hverify⟩ := stamp_decodes hcrypto hraw hlen hopen.1 rfl
  exact ⟨data, _, hdata, ⟨hview, rfl, hflags, hverify, hopen.2 _ rfl rfl rfl rfl⟩, rfl, rfl⟩

theorem Delivered.unwrap {data plain engineId contextName : Bytes} {view : V3MessageView} {pdu : Pdu}
    (h : Delivered crypto receiver data view plain)
    (hpeer : receiver.peerEngineId = [] ∨ receiver.peerEngineId = view.usmParams.engineId)
    (hplain : ScopedPduElement engineId contextName pdu plain) :
    receiver.unwrapMessage crypto data = .ok (some pdu) := by
  have hscoped : receiver.scopedPduOf crypto data view = .ok plain := by
    rw [scopedPduOf]
    by_cases hauth : receiver.authEnabled = true
    · rw [if_pos hauth, (h.authentic (authEnabled_iff.mp hauth)).2]
      exact h.opened
    · rw [if_neg hauth]
      exact h.opened
  have hengine : ¬ (receiver.peerEngineId ≠ [] ∧ view.usmParams.engineId ≠ receiver.peerEngineId) := by
    rintro ⟨h1, h2⟩
    obtain h | h := hpeer
    · exact h1 h
    · exact h2 h.symm
  simp only [unwrapMessage, h.decoded, ne_eq, h.username, not_true_eq_false, if_false]
  rw [if_neg hengine, hscoped, ok_bind, decodeScopedPdu_iff.mpr hplain]
  rfl

theorem encodeScopedPdu_isOk {pdu : Pdu} {encoded : Bytes} (hencode : encodePdu pdu = .ok encoded)
    (engineId contextName : Bytes) : ∃ plain, encodeScopedPdu engineId contextName pdu = .ok plain :=
  ⟨_, by rw [encodeScopedPdu, hencode]; rfl⟩

theorem unstampedMessage_eq {salt plain privParams msgData : Bytes} {msgId : ℤ} {engine : UsmLocalEngine} {pdu : Pdu}
    (hplain : encodeScopedPdu engine.engineId model.contextName pdu = .ok plain)
    (hprotect : model.protectScopedPdu crypto salt plain engine = .ok (privParams, msgData)) :
    model.unstampedMessage crypto salt msgId engine pdu =
      encodeV3Message msgId maxMsgSize (model.msgFlags pdu.pduType)
      (engine.paramsFor model.user privParams) msgData := by
  rw [unstampedMessage, hplain, ok_bind, hprotect, ok_bind, UsmLocalEngine.paramsFor]
  simp only [authEnabled_iff]

theorem wrapped_delivered (hcrypto : crypto.Lawful) (hsupported : model.user.Supported) {pdu : Pdu} {encoded : Bytes}
    (hencode : encodePdu pdu = .ok encoded) (hdecode : decodePdu encoded = .ok pdu) {engine : UsmLocalEngine}
    (hengine : model.selectOutboundEngine pdu.pduType = .ok engine) (hrange : model.user.privOn → engine.InRange)
    {salt : Bytes} (hsalt : salt.length = 8) :
    Yields (encodeScopedPdu engine.engineId model.contextName pdu) fun plain =>
      Yields (model.unstampedMessage crypto salt (model.msgIdCounter + 1) engine pdu) fun _ =>
        ∃ data view, (model.wrapPdu crypto salt pdu).1 = .ok data ∧ Delivered crypto model data view plain ∧
          view.usmParams.engineId = engine.engineId ∧ view.msgFlags = model.msgFlags pdu.pduType ∧
          ScopedPduElement engine.engineId model.contextName pdu plain := by
  obtain ⟨plain, hplain⟩ := encodeScopedPdu_isOk hencode engine.engineId model.contextName
  refine .intro hplain fun hplainLen => ?_
  obtain ⟨privParams, msgData, hprotect⟩ := protect_isOk crypto hsupported salt plain hrange
  have hmessage := @unstampedMessage_eq crypto model salt plain privParams msgData (model.msgIdCounter + 1) engine pdu
    hplain hprotect
  obtain ⟨raw, hraw⟩ := encodeV3Message_isOk (model.msgIdCounter + 1) maxMsgSize (model.msgFlags pdu.pduType)
    (engine.paramsFor model.user privParams) msgData
  refine .intro (hmessage.trans hraw) fun hlen => ?_
  have hscoped := encodeScopedPdu_element hencode hdecode hplain hplainLen
  obtain ⟨content, htlv⟩ := hscoped.exists_tlv
  obtain ⟨data, view, hdata, hdelivered, hengineId, hflags⟩ :=
    sealed_delivered hcrypto hsalt (msgFlags_match pdu.pduType) htlv hprotect hraw hlen
  refine ⟨data, view, ?_, hdelivered, hengineId, hflags, hscoped⟩
  rw [wrapPdu, hengine]
  simp only [wrapMessage, hmessage, hraw, ok_bind, authEnabled_iff]
  exact hdata

theorem usm_round_trip (crypto : Crypto) (hcrypto : crypto.Lawful) (sender receiver : UsmModel)
    (huser : receiver.user = sender.user) (hsupported : sender.user.Supported) (pdu : Pdu) (encoded : Bytes)
    (hencode : encodePdu pdu = .ok encoded) (hdecode : decodePdu encoded = .ok pdu) (engine : UsmLocalEngine)
    (hengine : sender.selectOutboundEngine pdu.pduType = .ok engine) (hrange : engine.InRange)
    (hpeer : receiver.peerEngineId = [] ∨ receiver.peerEngineId = engine.engineId) (salt : Bytes)
    (hsalt : salt.length = 8) :
    Yields (encodeScopedPdu engine.engineId sender.contextName pdu) fun _ =>
      Yields (sender.unstampedMessage crypto salt (sender.msgIdCounter + 1) engine pdu) fun _ =>
        ∃ data, (sender.wrapPdu crypto salt pdu).1 = .ok data ∧
            receiver.unwrapMessage crypto data = .ok (some pdu) := by
  have hwrapped := wrapped_delivered hcrypto hsupported hencode hdecode hengine (fun _ => hrange) hsalt
  refine hwrapped.imp fun plain h => h.imp fun _ ⟨data, view, hdata, hdelivered, hengineId, _, hscoped⟩ => ?_
  exact ⟨data, hdata, (hdelivered.congr huser).unwrap (hengineId ▸ hpeer) hscoped⟩

def sampleUser : UsmUser :=
  { username := "ops"
    authProtocol := .sha1
    authKey := List.replicate 20 0x0B
    authKeyLocalized := true }

def sampleEngine : UsmLocalEngine :=
  { engineId := [0x80, 0x00, 0x1F, 0x88, 4, 1]
    engineBoots := 3
    engineTime := 700 }

def sampleNotifier : UsmModel :=
  { user := sampleUser
    peerEngineId := sampleEngine.engineId
    peerEngineBoots := sampleEngine.engineBoots
    peerEngineTime := sampleEngine.engineTime
    msgIdCounter := 1 }

def sampleInform : Pdu :=
  { pduType := .informRequest
    requestId := 77
    errorStatus := 0
    errorIndex := 0
    varbinds := [
      { oid := [1, 3, 6, 1, 2, 1, 1, 3, 0], value := .timeTicksValue 4200 },
      { oid := [1, 3, 6, 1, 6, 3, 1, 1, 4, 1, 0], value := .objectIdentifierValue [1, 3, 6, 1, 6, 3, 1, 1, 5, 3] }] }

def sampleCrypto : Crypto :=
  { digest := fun _ _ => []
    hmac := fun _ _ msg =>
      if PduType.informRequest.tag ∈ msg then
        [223, 168, 248, 212, 102, 232, 219, 27, 180, 139, 27, 92, 253, 52, 90, 47, 111, 22, 239, 170]
      else [237, 138, 187, 252, 167, 29, 63, 124, 14, 44, 13, 146, 62, 224, 215, 149, 160, 73, 20, 110]
    aesCfbEncrypt := fun _ _ plain => plain
    aesCfbDecrypt := fun _ _ encrypted => encrypted }

theorem sampleCrypto_lawful : sampleCrypto.Lawful := by
  refine ⟨fun _ _ msg _ => ?_, fun _ _ _ => rfl⟩
  simp only [sampleCrypto]
  split_ifs
  · decide
  · decide

theorem auth_window_exact_sample : ∃ msgData raw view tag stamped,
    encodeScopedPdu sampleEngine.engineId [] sampleInform = .ok msgData ∧
      encodeV3Message 2 maxMsgSize 0x05 (sampleEngine.paramsFor sampleUser []) msgData = .ok raw ∧
      Stamps sampleCrypto sampleNotifier raw sampleEngine.engineId view tag stamped := by
  obtain ⟨encoded, hencode⟩ : ∃ encoded, encodePdu sampleInform = .ok encoded := ⟨_, rfl⟩
  obtain ⟨msgData, hmsgData⟩ := encodeScopedPdu_isOk hencode sampleEngine.engineId []
  have hlen : Fits (encodeScopedPdu sampleEngine.engineId [] sampleInform) := by decide +kernel
  have hpreserved : decodePdu encoded = .ok sampleInform := by
    have h : encodePdu sampleInform >>= decodePdu = .ok sampleInform := by decide +kernel
    rwa [hencode] at h
  have hscoped := encodeScopedPdu_element hencode hpreserved hmsgData (hlen msgData hmsgData)
  have h := (auth_window_exact sampleCrypto sampleCrypto_lawful).2 sampleNotifier 2 maxMsgSize 0x05
    (sampleEngine.paramsFor sampleUser []) msgData sampleEngine.engineId (by decide) rfl hscoped.exists_tlv
  have hfits : Fits (encodeScopedPdu sampleEngine.engineId [] sampleInform >>= fun msgData =>
      encodeV3Message 2 maxMsgSize 0x05 (sampleEngine.paramsFor sampleUser []) msgData) := by decide +kernel
  rw [hmsgData] at hfits
  obtain ⟨raw, hraw, view, tag, stamped, hstamps⟩ := h.of_fits hfits
  exact ⟨msgData, raw, view, tag, stamped, hmsgData, hraw, hstamps⟩

theorem usm_round_trip_sample : ∃ data, (sampleNotifier.wrapPdu sampleCrypto [1, 2, 3, 4, 5, 6, 7, 8] sampleInform).1 =
    .ok data ∧
    UsmModel.unwrapMessage sampleCrypto { user := sampleUser } data = .ok (some sampleInform) := by
  obtain ⟨encoded, hencode, hdecode⟩ : ∃ encoded, encodePdu sampleInform = .ok encoded ∧
      decodePdu encoded = .ok sampleInform := ⟨_, rfl, by decide +kernel⟩
  have h := usm_round_trip sampleCrypto sampleCrypto_lawful sampleNotifier { user := sampleUser } rfl (.inl (by decide))
    sampleInform encoded hencode hdecode sampleEngine (by decide) (by decide) (.inl rfl) [1, 2, 3, 4, 5, 6, 7, 8] rfl
  obtain ⟨_, -, h⟩ := h.of_fits (by decide +kernel)
  obtain ⟨_, -, h⟩ := h.of_fits (by decide +kernel)
  exact h

end UsmModel

end TrishulSnmp
