import TrishulSnmp.Manager.Client
import TrishulSnmp.Mib.Accelerator
import TrishulSnmp.Notify.Events

namespace TrishulSnmp

open Outcome Mib Notify

def VarBind.plain (varbind : VarBind) : VarBind := { oid := varbind.oid, value := varbind.value }

def Response.plain (response : Response) : Response :=
  { response with varbinds := response.varbinds.map VarBind.plain }

def Notify.NotificationEvent.plain (event : NotificationEvent) : NotificationEvent :=
  { event with
    varbinds := event.varbinds.map VarBind.plain
    notificationName := none
    notificationDescription := none
    memberBindings := [] }

def SameData {α : Type} (plain : α → α) (x y : Except Error α) : Prop := x.map plain = y.map plain

theorem SameData.bind_pure {α : Type} {plain f : α → α} {x y : Except Error α} (h : SameData plain x y)
    (hf : ∀ a, plain (f a) = f (plain a)) :
    SameData plain (x >>= fun a => pure (f a)) (y >>= fun a => pure (f a)) := by
  have hmap (z : Except Error α) : (z >>= fun a => pure (f a)).map plain = (z.map plain).map f := by
    cases z with
    | error e => rfl
    | ok a => exact congrArg Except.ok (hf a)
  rw [SameData, hmap, hmap, h]

def PrintableVarbinds (varbinds : List RawVarBind) : Prop :=
  ∀ varbind ∈ varbinds, ShownArcs varbind.oid ∧ ∀ n ∈ varbind.value.shownIntegers, PyText.Printable n

instance : DecidablePred PrintableVarbinds := fun varbinds => inferInstanceAs (Decidable (∀ varbind ∈ varbinds,
  (∀ arc ∈ varbind.oid, PyText.Printable arc) ∧ ∀ n ∈ varbind.value.shownIntegers, PyText.Printable n))

namespace Mib.MibRegistry

variable (registry : MibRegistry)

theorem mem_of_lookupPrefix {oid : OID} {prefixLen : ℕ} {oidMatch : OidMatch}
    (h : registry.lookupPrefix oid prefixLen = some oidMatch) : ∀ arc ∈ oidMatch.suffix, arc ∈ oid := by
  induction prefixLen with
  | zero => cases h
  | succ prefixLen ih =>
    rw [lookupPrefix] at h
    split at h
    · cases h
      exact fun arc harc => List.mem_of_mem_drop harc
    · exact ih h

theorem shownArcs_unnamed {oid : OID} (h : ShownArcs oid) : ShownArcs (registry.unnamedArcs oid) := by
  rw [unnamedArcs]
  split
  · rename_i oidMatch hmatch
    apply registry.shownArcs_displayMatch
    exact fun arc harc => h arc (registry.mem_of_lookupPrefix hmatch arc harc)
  · exact h

theorem printable_valueIntegers {value : SnmpValue} (h : ∀ n ∈ value.shownIntegers, PyText.Printable n) :
    ∀ n ∈ registry.valueIntegers value, PyText.Printable n := by
  cases value with
  | objectIdentifierValue named => exact registry.shownArcs_unnamed h
  | _ => exact h

end Mib.MibRegistry

theorem PrintableVarbinds.showable {varbinds : List RawVarBind} (h : PrintableVarbinds varbinds)
    (bundle : Option MibRegistry) : Showable bundle varbinds := by
  intro varbind hmem
  obtain ⟨hoid, hvalue⟩ := h varbind hmem
  cases bundle with
  | none => exact hvalue
  | some registry =>
    rw [shownIntegers, List.forall_mem_append]
    exact ⟨registry.shownArcs_unnamed hoid, registry.printable_valueIntegers hvalue⟩

variable {varbinds : List RawVarBind} {bundle : Option MibRegistry}

def plainVarbinds (varbinds : List RawVarBind) : List VarBind :=
  varbinds.map fun varbind => { oid := varbind.oid, value := varbind.value }

theorem publicVarbinds_plain (hwell : WellFormedVarbinds varbinds) (hprintable : PrintableVarbinds varbinds)
    (bundle : Option MibRegistry) : ∃ shown, varbinds.mapM (publicVarbind (enrichVarbind bundle)) = .ok shown ∧
      shown.map VarBind.plain = plainVarbinds varbinds := by
  obtain ⟨shown, hshown⟩ := (publicVarbinds_isOk_iff hwell).mpr (hprintable.showable bundle)
  refine ⟨shown, hshown, ?_⟩
  rw [plainVarbinds, ← rawVarbinds_of_public hshown, List.map_map]
  rfl

theorem extractNotificationOid_plain (shown : List VarBind) :
    extractNotificationOid (shown.map VarBind.plain) = extractNotificationOid shown := by
  rw [extractNotificationOid, List.findSome?_map]
  rfl

theorem extractUptime_plain (shown : List VarBind) :
    extractUptime (shown.map VarBind.plain) = extractUptime shown := by
  rw [extractUptime, List.findSome?_map]
  rfl

theorem responseFromPdu_plain {pdu : Pdu} (hwell : WellFormedVarbinds pdu.varbinds)
    (hprintable : PrintableVarbinds pdu.varbinds) (bundle : Option MibRegistry) :
    (responseFromPdu (enrichVarbind bundle) pdu).map Response.plain = (do
      let errorStatus ← Wire.responseErrorStatus pdu.errorStatus
      return ⟨pdu.requestId, errorStatus, pdu.errorIndex, plainVarbinds pdu.varbinds⟩) := by
  obtain ⟨shown, hshown, hplain⟩ := publicVarbinds_plain hwell hprintable bundle
  rw [responseFromPdu]
  cases Wire.responseErrorStatus pdu.errorStatus with
  | error e => rfl
  | ok errorStatus =>
    simp only [ok_bind, hshown, ← hplain]
    rfl

def plainEvent (pdu : Pdu) (requestId : ℤ) (community : Option String) (sourceAddress : Option SocketAddress) :
    Except Error NotificationEvent :=
  match pduTypeName? pdu.pduType with
  | none => .error (.valueError
      s!"Unsupported notification PDU type: <PduType.{pdu.pduType.name}: {pdu.pduType.tag.toNat}>")
  | some pduType => .ok {
      requestId := requestId
      community := community
      sourceAddress := sourceAddress
      pduType := pduType
      varbinds := plainVarbinds pdu.varbinds
      notificationOid := extractNotificationOid (plainVarbinds pdu.varbinds)
      uptime := extractUptime (plainVarbinds pdu.varbinds) }

theorem notificationEventFromPdu_plain {pdu : Pdu} (hwell : WellFormedVarbinds pdu.varbinds)
    (hprintable : PrintableVarbinds pdu.varbinds) (requestId : ℤ) (community : Option String)
    (sourceAddress : Option SocketAddress) (bundle : Option MibRegistry) :
    (notificationEventFromPdu pdu requestId community sourceAddress bundle).map NotificationEvent.plain =
      plainEvent pdu requestId community sourceAddress := by
  obtain ⟨shown, hshown, hplain⟩ := publicVarbinds_plain hwell hprintable bundle
  obtain ⟨metadata, hmetadata⟩ := notificationMetadata_of_public hwell (hprintable.showable bundle) hshown
  rw [notificationEventFromPdu, plainEvent]
  cases pduTypeName? pdu.pduType with
  | none => rfl
  | some pduType =>
    simp only [hshown, ok_bind, hmetadata, ← hplain, extractNotificationOid_plain, extractUptime_plain]
    rfl

theorem notificationEventFromV3Envelope_sameData {envelope : V3NotificationEnvelope}
    (hwell : WellFormedVarbinds envelope.pdu.varbinds) (hprintable : PrintableVarbinds envelope.pdu.varbinds)
    (sourceAddress : Option SocketAddress) (bundle bundle' : Option MibRegistry) :
    SameData NotificationEvent.plain (notificationEventFromV3Envelope envelope sourceAddress bundle)
      (notificationEventFromV3Envelope envelope sourceAddress bundle') := by
  have hevent := notificationEventFromPdu_plain hwell hprintable envelope.pdu.requestId none sourceAddress
  have hsame := (hevent bundle).trans (hevent bundle').symm
  rw [SameData, notificationEventFromV3Envelope, notificationEventFromV3Envelope]
  cases Utf8.decode envelope.view.usmParams.username with
  | none => rfl
  | some username => exact SameData.bind_pure hsame fun _ => rfl

theorem bundles_keep_data {data : Bytes} {pdu : Pdu} (hdecoded : Wire.decodePdu data = .ok pdu)
    (hprintable : PrintableVarbinds pdu.varbinds) (bundle bundle' : Option MibRegistry) :
    SameData Response.plain (responseFromPdu (enrichVarbind bundle) pdu) (responseFromPdu (enrichVarbind bundle') pdu) ∧
      (∀ requestId community sourceAddress, SameData NotificationEvent.plain
        (notificationEventFromPdu pdu requestId community sourceAddress bundle)
        (notificationEventFromPdu pdu requestId community sourceAddress bundle')) ∧
      ∀ envelope sourceAddress, envelope.pdu = pdu → SameData NotificationEvent.plain
        (notificationEventFromV3Envelope envelope sourceAddress bundle)
        (notificationEventFromV3Envelope envelope sourceAddress bundle') := by
  have hwell := wellFormed_of_elements (Wire.decodePdu_iff.mp hdecoded).varbind_element
  refine ⟨?_, fun requestId community sourceAddress => ?_, ?_⟩
  · have h := responseFromPdu_plain hwell hprintable
    exact (h bundle).trans (h bundle').symm
  · have h := notificationEventFromPdu_plain hwell hprintable requestId community sourceAddress
    exact (h bundle).trans (h bundle').symm
  · rintro envelope sourceAddress rfl
    exact notificationEventFromV3Envelope_sameData hwell hprintable sourceAddress bundle bundle'

def sampleResponsePdu : Bytes :=
  [0xA2, 0x1A, 2, 1, 1, 2, 1, 0, 2, 1, 0, 0x30, 0x0F, 0x30, 0x0D, 6, 8, 0x2B, 6, 1, 2, 1, 1, 1, 0, 4, 1, 0x61]

theorem bundles_keep_data_sample : ∃ pdu, Wire.decodePdu sampleResponsePdu = .ok pdu ∧
    SameData Response.plain (responseFromPdu (enrichVarbind none) pdu)
      (responseFromPdu (enrichVarbind (some (MibRegistry.init MibRegistry.systemModules .empty))) pdu) := by
  have hdecoded : Wire.decodePdu sampleResponsePdu = .ok ⟨.response, 1, 0, 0,
      [{ oid := [1, 3, 6, 1, 2, 1, 1, 1, 0], value := .octetStringValue [0x61] }]⟩ := by decide +kernel
  have hprintable : PrintableVarbinds [{ oid := [1, 3, 6, 1, 2, 1, 1, 1, 0], value := .octetStringValue [0x61] }] := by
    decide +kernel
  exact ⟨_, hdecoded, (bundles_keep_data hdecoded hprintable none
    (some (MibRegistry.init MibRegistry.systemModules .empty))).1⟩

end TrishulSnmp
