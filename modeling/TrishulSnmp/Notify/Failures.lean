import TrishulSnmp.Notify.Acceptance

namespace TrishulSnmp.Notify

open OffsetReader Outcome Ber Asn1 Wire UsmModel

theorem validateSecurityLevel_failsOnly (flags : UInt8) (user : UsmUser) :
    FailsOnly (fun e => e.isProtocolError) (validateSecurityLevel flags user) :=
  failsOnly_ite (fun _ => failsOnly_error rfl) fun _ =>
    failsOnly_ite (fun _ => failsOnly_error rfl) fun _ => failsOnly_ok _

theorem validateReportable_failsOnly (flags : UInt8) (pduType : PduType) :
    FailsOnly (fun e => e.isProtocolError) (validateNotificationReportableFlag flags pduType) :=
  failsOnly_ite (fun _ => failsOnly_error rfl) fun _ =>
    failsOnly_ite (fun _ => failsOnly_error rfl) fun _ => failsOnly_ok _

theorem labelledOctets_failsOnly (label : String) (tag : UInt8) (content : Bytes) :
    FailsOnly (fun e => e.isProtocolError) (labelledOctets label tag content) :=
  failsOnly_ite (fun _ => failsOnly_error rfl) fun _ => failsOnly_ok _

theorem decodeScopedFields_failsOnly (data : Bytes) :
    FailsOnly (fun e => e.isProtocolError) (decodeScopedFields data) := by
  refine failsOnly_bind (decodeTlv_failsOnly _ _) fun _ _ => ?_
  refine failsOnly_ite (fun _ => failsOnly_error rfl) fun _ => ?_
  refine failsOnly_bind (expectEnd_failsOnly _ _) fun _ _ => ?_
  refine failsOnly_bind (decodeElement_failsOnly _ _ (labelledOctets_failsOnly _)) fun _ _ => ?_
  refine failsOnly_bind (decodeElement_failsOnly _ _ (labelledOctets_failsOnly _)) fun _ _ => ?_
  refine failsOnly_bind (decodeTlv_failsOnly _ _) fun _ _ => ?_
  exact failsOnly_bind (expectEnd_failsOnly _ _) fun _ _ => failsOnly_ok _

theorem decodeNotificationScopedPdu_failsOnly (data : Bytes) :
    FailsOnly (fun e => e.isProtocolError) (decodeNotificationScopedPdu data) := by
  refine failsOnly_bind (decodeScopedFields_failsOnly _) fun _ _ => ?_
  refine failsOnly_ite (fun _ => failsOnly_ok _) fun _ => ?_
  exact failsOnly_bind (decodePdu_failsOnly _) fun _ _ => failsOnly_ok _

variable {crypto : Crypto} {user : UsmUser} {data : Bytes}

theorem verifyAuth_failsOnly (model : UsmModel) (hauth : model.user.authOn) (raw tag engineId : Bytes) (offset : ℕ) :
    FailsOnly (fun e => e.isProtocolError) (model.verifyAuth crypto raw offset tag engineId) := by
  rw [verifyAuth, computeAuthTag_eq hauth, ok_bind]
  exact failsOnly_ite (fun _ => failsOnly_error rfl) fun _ => failsOnly_ok _

theorem checkAuth_failsOnly {view : V3MessageView} (hmatch : user.FlagsMatch view.msgFlags) :
    FailsOnly (fun e => e.isProtocolError) (checkAuth crypto data view (usmCodec user none)) := by
  refine failsOnly_ite (fun hbit => ?_) fun _ => failsOnly_ok _
  refine failsOnly_ite (fun _ => failsOnly_error rfl) fun _ => ?_
  exact verifyAuth_failsOnly (usmCodec user none) (hmatch.1.mp hbit) _ _ _ _

def Unpackable (params : UsmParams) : Prop :=
  ¬ ((0 ≤ params.engineBoots ∧ params.engineBoots < 4294967296) ∧ 0 ≤ params.engineTime ∧
    params.engineTime < 4294967296)

theorem packUnsigned_error {n : ℤ} (h : ¬ (0 ≤ n ∧ n < 4294967296)) :
    ∃ text, packUnsigned n = .error (.structError text) := ⟨_, if_neg h⟩

theorem privKeyAes128_ok (crypto : Crypto) {model : UsmModel} (hauth : model.user.authOn)
    (hkey : model.user.privKey ≠ []) (engineId : Bytes) :
    ∃ aesKey, model.privKeyAes128 crypto engineId = .ok aesKey := by
  have hne : ¬ model.user.authProtocol = .none := hauth
  rw [privKeyAes128, localizePrivKey, if_pos hkey, if_neg hne]
  exact ⟨_, rfl⟩

theorem decryptAes128_failsOnly (model : UsmModel) (hauth : model.user.authOn) (hkey : model.user.privKey ≠ [])
    {msgData : Bytes} {params : UsmParams} (h : ¬ (params.privParams.length = 8 ∧ Unpackable params)) :
    FailsOnly (fun e => e.isProtocolError) (model.decryptAes128 crypto msgData params.privParams params.engineId
      params.engineBoots params.engineTime) := by
  refine failsOnly_bind (decodeTlv_failsOnly _ _) fun _ _ => ?_
  refine failsOnly_ite (fun _ => failsOnly_error rfl) fun _ => ?_
  refine failsOnly_ite (fun _ => failsOnly_error rfl) fun hlen => ?_
  obtain ⟨aesKey, haesKey⟩ := privKeyAes128_ok crypto hauth hkey params.engineId
  obtain ⟨hboots, htime⟩ := not_not.mp fun hpack => h ⟨not_not.mp hlen, hpack⟩
  rw [haesKey, packUnsigned_ok hboots, packUnsigned_ok htime]
  exact failsOnly_ok _

theorem decryptAes128_raises (crypto : Crypto) (model : UsmModel) (hauth : model.user.authOn)
    (hkey : model.user.privKey ≠ []) {msgData content : Bytes} {params : UsmParams}
    (hdata : Tlv (octetStringTag, content) msgData) (hlen : params.privParams.length = 8) (hpack : Unpackable params) :
    ∃ text, model.decryptAes128 crypto msgData params.privParams params.engineId params.engineBoots
      params.engineTime = .error (.structError text) := by
  obtain ⟨aesKey, haesKey⟩ := privKeyAes128_ok crypto hauth hkey params.engineId
  simp only [decryptAes128, (decodeTlv_reads.whole_iff _ _).mpr hdata, ok_bind, ne_eq, not_true_eq_false, if_false,
    hlen, haesKey]
  by_cases hboots : 0 ≤ params.engineBoots ∧ params.engineBoots < 4294967296
  · obtain ⟨text, htext⟩ := packUnsigned_error fun htime => hpack ⟨hboots, htime⟩
    exact ⟨text, by rw [packUnsigned_ok hboots, ok_bind, htext, error_bind]⟩
  · obtain ⟨text, htext⟩ := packUnsigned_error hboots
    exact ⟨text, by rw [htext, error_bind]⟩

/-- A message the listener decrypts, with an initialisation vector it cannot build. -/
def UnpackableMessage (crypto : Crypto) (user : UsmUser) (data : Bytes) : Prop :=
  ∃ view, decodeV3Message data = .ok view ∧ view.usmParams.username = Utf8.encode user.username ∧
    MessageRules crypto user data view ∧ user.privOn ∧ view.usmParams.privParams.length = 8 ∧ Unpackable view.usmParams

theorem MessageRules.checked {view : V3MessageView} (h : MessageRules crypto user data view) :
    checkAuth crypto data view (usmCodec user none) = .ok () := by
  refine (checkAuth_ok_iff (usmCodec user none) h.flags).mpr fun hauth => ?_
  obtain ⟨before, after, hdata, hlayout, hlen, hmac⟩ := h.authentic hauth
  refine ⟨hlen, ?_⟩
  rw [hlayout.offset_eq, hdata, verifyAuth_window_iff hauth hlen]
  exact hmac

theorem unpackable_raises (hsupported : user.Supported) (h : UnpackableMessage crypto user data) :
    ∃ text, decodeV3NotificationMessage crypto data user = .error (.structError text) := by
  obtain ⟨view, hview, husername, hrules, hpriv, hlen, hpack⟩ := h
  obtain hnone | ⟨haes, hauth, hkey⟩ := hsupported
  · exact absurd hpriv hnone
  obtain ⟨before, after, -, hlayout⟩ := decodeV3Message_iff.mp hview
  obtain ⟨content, hdata⟩ := hlayout.data_tag
  rw [msgDataTag_eq, if_pos (hrules.flags.2.mpr hpriv)] at hdata
  obtain ⟨text, htext⟩ := decryptAes128_raises crypto (usmCodec user none) hauth hkey hdata hlen hpack
  have hlevel := validateSecurityLevel_ok_iff.mpr ⟨hrules.flags, fun _ => hauth⟩
  have hopen : openMsgData crypto view (usmCodec user none) = .error (.structError text) := by
    rw [openMsgData, if_pos (hrules.flags.2.mpr hpriv), decryptScopedPdu]
    simp only [show (usmCodec user none).user.privProtocol = .aes128 from haes]
    exact htext
  refine ⟨text, ?_⟩
  simp only [decodeV3NotificationMessage, hview, ok_bind, husername, ne_eq, not_true_eq_false, if_false, hlevel,
    hrules.checked, hopen, error_bind]

theorem openMsgData_failsOnly (hsupported : user.Supported) {view : V3MessageView}
    (hview : decodeV3Message data = .ok view) (husername : view.usmParams.username = Utf8.encode user.username)
    (hmatch : user.FlagsMatch view.msgFlags) (hcheck : checkAuth crypto data view (usmCodec user none) = .ok ())
    (h : ¬ UnpackableMessage crypto user data) :
    FailsOnly (fun e => e.isProtocolError) (openMsgData crypto view (usmCodec user none)) := by
  refine failsOnly_ite (fun hbit => ?_) fun _ => failsOnly_ok _
  have hpriv := hmatch.2.mp hbit
  obtain hnone | ⟨haes, hauth, hkey⟩ := hsupported
  · exact absurd hpriv hnone
  have hrules := messageRules_of_verified (usmCodec user none) hview hmatch ((checkAuth_ok_iff _ hmatch).mp hcheck)
  rw [decryptScopedPdu]
  simp only [show (usmCodec user none).user.privProtocol = .aes128 from haes]
  exact decryptAes128_failsOnly (usmCodec user none) hauth hkey fun hbad =>
    h ⟨view, hview, husername, hrules, hpriv, hbad.1, hbad.2⟩

theorem notification_failsOnly_iff (crypto : Crypto) (user : UsmUser) (hsupported : user.Supported) (data : Bytes) :
    FailsOnly (fun e => e.isProtocolError) (decodeV3NotificationMessage crypto data user) ↔
      ¬ HugeV3Number data ∧ ¬ UnpackableMessage crypto user data := by
  constructor
  · intro h
    constructor
    · intro hhuge
      obtain ⟨text, htext⟩ := decodeV3Message_huge hhuge
      have := h (.valueError text) (by rw [decodeV3NotificationMessage, htext, error_bind])
      simp [Error.isProtocolError] at this
    · intro hunpackable
      obtain ⟨text, htext⟩ := unpackable_raises hsupported hunpackable
      have := h _ htext
      simp [Error.isProtocolError] at this
  · rintro ⟨hhuge, hunpackable⟩
    refine failsOnly_bind (decodeV3Message_failsOnly hhuge) fun view hview => ?_
    refine failsOnly_ite (fun _ => failsOnly_ok _) fun husername => ?_
    refine failsOnly_bind (validateSecurityLevel_failsOnly _ _) fun _ hlevel => ?_
    obtain ⟨hmatch, -⟩ := validateSecurityLevel_ok_iff.mp hlevel
    refine failsOnly_bind (checkAuth_failsOnly hmatch) fun _ hcheck => ?_
    refine failsOnly_bind (openMsgData_failsOnly hsupported hview (not_not.mp husername) hmatch hcheck hunpackable)
      fun _ _ => ?_
    refine failsOnly_bind (decodeNotificationScopedPdu_failsOnly _) fun fields _ => ?_
    obtain ⟨_, _, pdu⟩ := fields
    cases pdu with
    | none => exact failsOnly_ok _
    | some pdu => exact failsOnly_bind (validateReportable_failsOnly _ _) fun _ _ => failsOnly_ok _

theorem notification_failsOnly_sample :
    FailsOnly (fun e => e.isProtocolError) (decodeV3NotificationMessage sampleCrypto sampleData sampleUser) := by
  refine (notification_failsOnly_iff sampleCrypto sampleUser (.inl (by decide)) sampleData).mpr ⟨fun hhuge => ?_, ?_⟩
  · have hview : decodeV3Message sampleData = .ok sampleEnvelope.view := by decide +kernel
    obtain ⟨text, htext⟩ := decodeV3Message_huge hhuge
    rw [hview] at htext
    cases htext
  · rintro ⟨_, -, -, -, hpriv, -⟩
    exact absurd hpriv (by decide)

def samplePrivUser : UsmUser :=
  { sampleUser with
    privProtocol := .aes128
    privKey := [112, 114, 105, 118, 97, 116, 101, 49] }

def lateData : Bytes :=
  [48, 75, 2, 1, 3, 48, 14, 2, 1, 2, 2, 3, 0, 255, 227, 4, 1, 7, 2, 1, 3, 4, 50, 48, 48, 4, 6, 128, 0, 31, 136, 4, 1,
    2, 5, 1, 0, 0, 0, 0, 2, 2, 2, 188, 4, 3, 111, 112, 115, 4, 12, 170, 183, 70, 240, 186, 223, 102, 238, 153, 78, 144,
    31, 4, 8, 1, 2, 3, 4, 5, 6, 7, 8, 4, 2, 0, 0]

def lateCrypto : Crypto :=
  { sampleCrypto with
    digest := fun _ _ => [248, 230, 62, 5, 243, 21, 55, 12, 150, 43, 165, 211, 162, 190, 44, 62, 100, 31, 215, 221]
    hmac := fun _ _ _ =>
      [170, 183, 70, 240, 186, 223, 102, 238, 153, 78, 144, 31, 251, 25, 249, 240, 169, 113, 115, 54] }

theorem late_engine_raises :
    ¬ FailsOnly (fun e => e.isProtocolError) (decodeV3NotificationMessage lateCrypto lateData samplePrivUser) := by
  have hraises : decodeV3NotificationMessage lateCrypto lateData samplePrivUser =
      .error (.structError "'I' format requires 0 <= number <= 4294967295") := by decide +kernel
  intro h
  exact absurd (h _ hraises) (by decide)

end TrishulSnmp.Notify
