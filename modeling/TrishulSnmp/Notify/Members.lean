import TrishulSnmp.Enrichment

namespace TrishulSnmp.Notify

open Outcome Mib

section Members

variable (registry : MibRegistry)

def declaredMembers (varbinds : List VarBind) : List MibMemberRef :=
  match extractNotificationOid varbinds with
  | none => []
  | some oid =>
    match registry.lookupOrNone oid with
    | .ok (some oidMatch) =>
      if oidMatch.matchedOid ≠ oid ∨ oidMatch.suffix ≠ [] then []
      else match registry.resolveNode oidMatch.module oidMatch.symbol with
        | none => []
        | some node => if node.objectType ≠ "NOTIFICATION-TYPE" then [] else node.members.getD []
    | _ => []

def payload (varbinds : List VarBind) : List VarBind :=
  varbinds.filter fun varbind => varbind.oid ≠ sysUptimeInstanceOid ∧ varbind.oid ≠ snmpTrapOidInstanceOid

def bindMembers (members : List MibMemberRef) (varbinds : List VarBind) : List NotificationMemberBinding :=
  members.mapIdx fun index member => { member := member, varbind := (payload varbinds)[index]? }

def InstanceOf (member : MibMemberRef) (oid : OID) : Prop :=
  ∀ node, registry.resolveNode member.module member.object = some node → node.oid <+: oid

instance (member : MibMemberRef) (oid : OID) : Decidable (InstanceOf registry member oid) :=
  match h : registry.resolveNode member.module member.object with
  | none => .isTrue (by simp [InstanceOf, h])
  | some node => decidable_of_iff (node.oid <+: oid) (by simp [InstanceOf, h])

def InDeclaredOrder (members : List MibMemberRef) (varbinds : List VarBind) : Prop :=
  ∀ pair ∈ members.zip (payload varbinds), InstanceOf registry pair.1 pair.2.oid

instance (members : List MibMemberRef) (varbinds : List VarBind) :
    Decidable (InDeclaredOrder registry members varbinds) :=
  inferInstanceAs (Decidable (∀ pair ∈ members.zip (payload varbinds), InstanceOf registry pair.1 pair.2.oid))

structure BoundToOwn (event : NotificationEvent) : Prop where
  own : ∀ binding ∈ event.memberBindings, ∀ varbind node, binding.varbind = some varbind →
    registry.resolveNode binding.member.module binding.member.object = some node → node.oid <+: varbind.oid
  absent : ∀ binding ∈ event.memberBindings, ∀ node,
    registry.resolveNode binding.member.module binding.member.object = some node →
    (∀ varbind ∈ event.varbinds, ¬ node.oid <+: varbind.oid) → binding.varbind = none

variable {registry}

theorem notificationMetadata_members {varbinds : List VarBind} {metadata : NotificationMetadata}
    (h : notificationMetadata (some registry) (extractNotificationOid varbinds) varbinds = .ok metadata) :
    metadata.memberBindings = bindMembers (declaredMembers registry varbinds) varbinds := by
  unfold declaredMembers
  cases hoid : extractNotificationOid varbinds with
  | none =>
    rw [hoid] at h
    cases h
    rfl
  | some oid =>
    rw [hoid, notificationMetadata] at h
    obtain ⟨found, hfound, h⟩ := bind_ok_iff.mp h
    simp only [hfound]
    cases found with
    | none =>
      cases h
      rfl
    | some oidMatch =>
      obtain ⟨name, -, h⟩ := bind_ok_iff.mp h
      simp only
      split_ifs at h ⊢
      · cases h
        rfl
      · cases hnode : registry.resolveNode oidMatch.module oidMatch.symbol with
        | none =>
          simp only [hnode] at h
          cases h
          rfl
        | some node =>
          simp only [hnode] at h ⊢
          split_ifs at h ⊢
          · cases h
            rfl
          · cases h
            rfl

theorem mem_bindMembers {members : List MibMemberRef} {varbinds : List VarBind} {member : MibMemberRef}
    {varbind : VarBind} :
    { member := member, varbind := some varbind } ∈ bindMembers members varbinds ↔
      (member, varbind) ∈ members.zip (payload varbinds) := by
  simp only [bindMembers, List.mem_iff_getElem?, List.getElem?_mapIdx, Option.map_eq_some_iff,
    List.getElem?_zip_eq_some, NotificationMemberBinding.mk.injEq]
  constructor
  · rintro ⟨index, other, hmember, rfl, hvarbind⟩
    exact ⟨index, hmember, hvarbind⟩
  · rintro ⟨index, hmember, hvarbind⟩
    exact ⟨index, member, hmember, rfl, hvarbind⟩

theorem boundToOwn_iff {event : NotificationEvent} {members : List MibMemberRef}
    (hbindings : event.memberBindings = bindMembers members event.varbinds) :
    BoundToOwn registry event ↔ InDeclaredOrder registry members event.varbinds := by
  constructor
  · rintro h ⟨member, varbind⟩ hpair node hnode
    have hbinding := mem_bindMembers.mpr hpair
    rw [← hbindings] at hbinding
    exact h.own _ hbinding varbind node rfl hnode
  · intro h
    have hown : ∀ binding ∈ event.memberBindings, ∀ varbind node, binding.varbind = some varbind →
        registry.resolveNode binding.member.module binding.member.object = some node → node.oid <+: varbind.oid := by
      rintro ⟨member, bound⟩ hbinding varbind node rfl hnode
      rw [hbindings] at hbinding
      exact h (member, varbind) (mem_bindMembers.mp hbinding) node hnode
    refine ⟨hown, fun binding hbinding node hnode habsent => ?_⟩
    cases hbound : binding.varbind with
    | none => rfl
    | some varbind =>
      have hreceived : varbind ∈ event.varbinds := by
        rw [hbindings] at hbinding
        obtain ⟨member, bound⟩ := binding
        obtain rfl := hbound
        exact (List.mem_filter.mp (List.of_mem_zip (mem_bindMembers.mp hbinding)).2).1
      exact absurd (hown binding hbinding varbind node hbound hnode) (habsent varbind hreceived)

theorem payload_plain (varbinds : List VarBind) :
    payload (varbinds.map VarBind.plain) = (payload varbinds).map VarBind.plain := by
  rw [payload, payload, List.filter_map]
  rfl

theorem inDeclaredOrder_plain {members : List MibMemberRef} {varbinds : List VarBind} :
    InDeclaredOrder registry members (varbinds.map VarBind.plain) ↔ InDeclaredOrder registry members varbinds := by
  rw [InDeclaredOrder, payload_plain, List.zip_map_right, List.forall_mem_map]
  rfl

theorem declaredMembers_plain (varbinds : List VarBind) :
    declaredMembers registry (varbinds.map VarBind.plain) = declaredMembers registry varbinds := by
  rw [declaredMembers, extractNotificationOid_plain, declaredMembers]

theorem boundToOwn_event {pdu : Pdu} {requestId : ℤ} {community : Option String} {sourceAddress : Option SocketAddress}
    {event : NotificationEvent}
    (h : notificationEventFromPdu pdu requestId community sourceAddress (some registry) = .ok event) :
    BoundToOwn registry event ↔ InDeclaredOrder registry (declaredMembers registry (plainVarbinds pdu.varbinds))
      (plainVarbinds pdu.varbinds) := by
  rw [notificationEventFromPdu] at h
  split at h
  · cases h
  · obtain ⟨shown, hshown, h⟩ := bind_ok_iff.mp h
    obtain ⟨metadata, hmetadata, h⟩ := bind_ok_iff.mp h
    obtain rfl := pure_ok_iff.mp h
    have hplain : plainVarbinds pdu.varbinds = shown.map VarBind.plain := by
      rw [plainVarbinds, ← rawVarbinds_of_public hshown, List.map_map]
      rfl
    rw [hplain, declaredMembers_plain, inDeclaredOrder_plain]
    exact boundToOwn_iff (notificationMetadata_members hmetadata)

theorem members_bound_iff (registry : MibRegistry) (pdu : Pdu) :
    let inOrder := InDeclaredOrder registry (declaredMembers registry (plainVarbinds pdu.varbinds))
      (plainVarbinds pdu.varbinds)
    (∀ requestId community sourceAddress event,
      notificationEventFromPdu pdu requestId community sourceAddress (some registry) = .ok event →
      (BoundToOwn registry event ↔ inOrder)) ∧
    ∀ envelope sourceAddress event, envelope.pdu = pdu →
      notificationEventFromV3Envelope envelope sourceAddress (some registry) = .ok event →
      (BoundToOwn registry event ↔ inOrder) := by
  refine ⟨fun requestId community sourceAddress event h => boundToOwn_event h, ?_⟩
  rintro envelope sourceAddress event rfl h
  rw [notificationEventFromV3Envelope] at h
  split at h
  · cases h
  · obtain ⟨plain, hplain, h⟩ := bind_ok_iff.mp h
    obtain rfl := pure_ok_iff.mp h
    rw [← boundToOwn_event hplain]
    exact ⟨fun h => ⟨h.own, h.absent⟩, fun h => ⟨h.own, h.absent⟩⟩

def outage : MibNode :=
  { MibRegistry.systemScalar "outage" 9 with
    objectType := "NOTIFICATION-TYPE"
    members := some [⟨"SNMPv2-MIB", "sysDescr"⟩, ⟨"SNMPv2-MIB", "sysName"⟩] }

def outageRegistry : MibRegistry := MibRegistry.init (.ofEntries [("SNMPv2-MIB", {
  module := "SNMPv2-MIB"
  imports := .empty
  objects := .ofEntries [("sysDescr", MibRegistry.systemScalar "sysDescr" 1),
    ("sysName", MibRegistry.systemScalar "sysName" 5)]
  notifications := .ofEntries [("outage", outage)]
  types := .empty })]) .empty

def outageTrap (payload : List RawVarBind) : Pdu :=
  { pduType := .snmpv2Trap
    requestId := 1
    errorStatus := 0
    errorIndex := 0
    varbinds := { oid := snmpTrapOidInstanceOid, value := .objectIdentifierValue outage.oid } :: payload }

def nameOf (arc : ℤ) : RawVarBind := { oid := [1, 3, 6, 1, 2, 1, 1, arc, 0], value := .octetStringValue [0x61] }

theorem outage_event (payload : List RawVarBind)
    (h : (notificationEventFromPdu (outageTrap payload) 1 (some "public") none (some outageRegistry)).isOk) :
    ∃ event, notificationEventFromPdu (outageTrap payload) 1 (some "public") none (some outageRegistry) =
      .ok event := by
  cases hevent : notificationEventFromPdu (outageTrap payload) 1 (some "public") none (some outageRegistry) with
  | ok event => exact ⟨event, rfl⟩
  | error e =>
    rw [hevent] at h
    cases h

theorem omitted_member_misbinds : ∃ event,
    notificationEventFromPdu (outageTrap [nameOf 5]) 1 (some "public") none (some outageRegistry) = .ok event ∧
      ¬ BoundToOwn outageRegistry event := by
  obtain ⟨event, hevent⟩ := outage_event [nameOf 5] (by decide +kernel)
  refine ⟨event, hevent, (boundToOwn_event hevent).not.mpr ?_⟩
  decide +kernel

theorem members_bound_sample : ∃ event,
    notificationEventFromPdu (outageTrap [nameOf 1, nameOf 5]) 1 (some "public") none (some outageRegistry) =
      .ok event ∧
      BoundToOwn outageRegistry event := by
  obtain ⟨event, hevent⟩ := outage_event [nameOf 1, nameOf 5] (by decide +kernel)
  have hbound := (members_bound_iff outageRegistry (outageTrap [nameOf 1, nameOf 5])).1 1 (some "public") none event
    hevent
  refine ⟨event, hevent, hbound.mpr ?_⟩
  decide +kernel

end Members

end TrishulSnmp.Notify
