import TrishulSnmp.Notify.Sender

namespace TrishulSnmp.Notify

open Outcome Mib

section StandardVarbinds

variable {varbinds : List NotificationVarBindInput} {explicit built : List (OID × SnmpValue)} {bundle : Option Resolver}

def StandardOnce (built : List (OID × SnmpValue)) : Prop :=
  ∃ rest, built.map Prod.fst = sysUptimeInstanceOid :: snmpTrapOidInstanceOid :: rest ∧
    sysUptimeInstanceOid ∉ rest ∧ snmpTrapOidInstanceOid ∉ rest

def WellTyped (varbind : OID × SnmpValue) : Prop :=
  (varbind.1 = sysUptimeInstanceOid → isTimeTicks varbind.2) ∧
    (varbind.1 = snmpTrapOidInstanceOid → isObjectIdentifier varbind.2)

theorem mem_zip_normalized {oids : List OID}
    (h : List.Forall₂ (fun (input : NotificationVarBindInput) oid => normalizeTarget bundle input.1 = .ok oid)
      varbinds oids) {varbind : OID × SnmpValue} :
    varbind ∈ oids.zip (varbinds.map Prod.snd) ↔
      ∃ input ∈ varbinds, normalizeTarget bundle input.1 = .ok varbind.1 ∧ input.2 = varbind.2 := by
  induction h with
  | nil => simp
  | @cons input oid varbinds oids hoid _ ih =>
    rw [List.map_cons, List.zip_cons_cons, List.mem_cons, ih]
    simp only [List.mem_cons, or_and_right, exists_or, exists_eq_left]
    have hfirst : varbind = (oid, input.2) ↔ normalizeTarget bundle input.1 = .ok varbind.1 ∧ input.2 = varbind.2 := by
      rw [hoid, Except.ok.injEq, Prod.ext_iff, eq_comm, eq_comm (a := varbind.2)]
    rw [hfirst]

theorem mem_normalizeExplicit (h : normalizeExplicitVarbinds varbinds bundle = .ok explicit)
    {varbind : OID × SnmpValue} :
    varbind ∈ explicit ↔ ∃ input ∈ varbinds, normalizeTarget bundle input.1 = .ok varbind.1 ∧ input.2 = varbind.2 := by
  obtain ⟨hempty, h⟩ | ⟨-, h⟩ := ite_cases h
  · rw [List.isEmpty_iff.mp hempty, ← Except.ok.inj h]
    simp
  · obtain ⟨oids, hoids, h⟩ := bind_ok_iff.mp h
    obtain rfl := pure_ok_iff.mp h
    obtain ⟨-, hoids⟩ | ⟨-, hoids⟩ := ite_cases hoids
    · cases hoids
    · exact mem_zip_normalized (List.forall₂_map_left_iff.mp (forall₂_of_mapM hoids))

theorem buildNotificationVarbinds_ok {notificationOid : OID} {uptime : ℤ}
    (h : buildNotificationVarbinds notificationOid varbinds uptime bundle = .ok built) :
    ∃ explicit, normalizeExplicitVarbinds varbinds bundle = .ok explicit ∧
      built = announcedVarbinds explicit uptime notificationOid := by
  obtain ⟨-, h⟩ | ⟨-, h⟩ := ite_cases h
  · cases h
  · obtain ⟨explicit, hexplicit, h⟩ := bind_ok_iff.mp h
    refine ⟨explicit, hexplicit, ?_⟩
    rw [foldl_add] at h
    exact (pure_ok_iff.mp h).symm

theorem wellTyped_iff {varbind : OID × SnmpValue} : WellTyped varbind ↔
    (uptimeOverride varbind = none → trapOidOverride varbind = none →
      varbind.1 ≠ sysUptimeInstanceOid ∧ varbind.1 ≠ snmpTrapOidInstanceOid) := by
  have hne : sysUptimeInstanceOid ≠ snmpTrapOidInstanceOid := by decide
  obtain ⟨oid, value⟩ := varbind
  cases value <;> simp [WellTyped, isTimeTicks, isObjectIdentifier, uptimeOverride, trapOidOverride]
  all_goals grind

theorem standardOnce_announced_iff {uptime : ℤ} {notificationOid : OID} :
    StandardOnce (announcedVarbinds explicit uptime notificationOid) ↔ ∀ varbind ∈ explicit, WellTyped varbind := by
  have hrest : StandardOnce (announcedVarbinds explicit uptime notificationOid) ↔
      ∀ varbind ∈ otherVarbinds explicit, varbind.1 ≠ sysUptimeInstanceOid ∧ varbind.1 ≠ snmpTrapOidInstanceOid := by
    simp only [StandardOnce, announcedVarbinds, List.map_cons, List.cons.injEq, true_and, exists_eq_left', List.mem_map,
      not_exists, not_and, forall_and, ne_eq]
  rw [hrest]
  simp only [otherVarbinds, List.mem_filter, decide_eq_true_eq, and_imp]
  exact forall₂_congr fun varbind _ => wellTyped_iff.symm

theorem standard_varbinds_once_iff {notificationOid : OID} {uptime : ℤ}
    (h : buildNotificationVarbinds notificationOid varbinds uptime bundle = .ok built) :
    StandardOnce built ↔
      ∀ input ∈ varbinds, ∀ oid, normalizeTarget bundle input.1 = .ok oid → WellTyped (oid, input.2) := by
  obtain ⟨explicit, hexplicit, rfl⟩ := buildNotificationVarbinds_ok h
  rw [standardOnce_announced_iff]
  constructor
  · intro hall input hinput oid hoid
    exact hall _ ((mem_normalizeExplicit hexplicit).mpr ⟨input, hinput, hoid, rfl⟩)
  · intro hall varbind hvarbind
    obtain ⟨input, hinput, hoid, hvalue⟩ := (mem_normalizeExplicit hexplicit).mp hvarbind
    have htyped := hall input hinput varbind.1 hoid
    rwa [hvalue] at htyped

theorem mistyped_override_doubles :
    buildNotificationVarbinds [1, 3, 6, 1, 6, 3, 1, 1, 5, 3] [(.text "1.3.6.1.2.1.1.3.0", .integerValue 7)] 0 none =
      .ok [(sysUptimeInstanceOid, .timeTicksValue 0),
        (snmpTrapOidInstanceOid, .objectIdentifierValue [1, 3, 6, 1, 6, 3, 1, 1, 5, 3]),
        (sysUptimeInstanceOid, .integerValue 7)] ∧
    ¬ StandardOnce [(sysUptimeInstanceOid, .timeTicksValue 0),
        (snmpTrapOidInstanceOid, .objectIdentifierValue [1, 3, 6, 1, 6, 3, 1, 1, 5, 3]),
        (sysUptimeInstanceOid, .integerValue 7)] := by
  constructor
  · decide +kernel
  · rintro ⟨rest, hrest, huptime, -⟩
    apply huptime
    rw [List.map_cons, List.map_cons, List.cons.injEq, List.cons.injEq] at hrest
    rw [← hrest.2.2]
    exact List.mem_singleton_self _

theorem standard_varbinds_once_sample : ∃ built,
    buildNotificationVarbinds [1, 3, 6, 1, 6, 3, 1, 1, 5, 3]
        [(.text "1.3.6.1.2.1.1.3.0", .timeTicksValue 44)] 123 none =
      .ok built ∧ StandardOnce built := by
  have hbuilt : buildNotificationVarbinds [1, 3, 6, 1, 6, 3, 1, 1, 5, 3]
      [(.text "1.3.6.1.2.1.1.3.0", .timeTicksValue 44)] 123 none = .ok [(sysUptimeInstanceOid, .timeTicksValue 44),
        (snmpTrapOidInstanceOid, .objectIdentifierValue [1, 3, 6, 1, 6, 3, 1, 1, 5, 3])] := by decide +kernel
  refine ⟨_, hbuilt, (standard_varbinds_once_iff hbuilt).mpr ?_⟩
  intro input hinput oid hoid
  obtain rfl := List.mem_singleton.mp hinput
  obtain rfl : sysUptimeInstanceOid = oid := Except.ok.inj (Eq.trans (by decide +kernel) hoid)
  exact ⟨fun _ => rfl, fun h => absurd h (by decide)⟩

end StandardVarbinds

end TrishulSnmp.Notify
