import Mathlib.Data.FinEnum
import TrishulSnmp.Wire.Asn1

namespace TrishulSnmp.Asn1

open BigEndian OffsetReader Outcome Ber

theorem high_bit_iff (b : UInt8) : b &&& 0x80 = 0 ↔ b.toNat < 128 := by
  revert b
  decide +kernel

theorem high_bit_set_iff (b : UInt8) : b &&& 0x80 = 0x80 ↔ ¬ b.toNat < 128 := by
  revert b
  decide +kernel

theorem append_bits (value : ℕ) (b : UInt8) :
    (value <<< 7) ||| (b &&& 0x7F).toNat = value * 128 + b.toNat % 128 := by
  have hlow : (b &&& 0x7F).toNat = b.toNat % 128 := by
    rw [UInt8.toNat_and]
    exact low_bits b.toNat
  have hlt : (b &&& 0x7F).toNat < 2 ^ 7 := by
    rw [hlow]
    omega
  rw [← Nat.shiftLeft_add_eq_or_of_lt hlt, Nat.shiftLeft_eq, hlow]

theorem decodeBase128From_sound {content : Bytes} {offset value n stop : ℕ}
    (h : decodeBase128From content offset value = .ok (n, stop)) :
    ∃ enc rest m, content = enc ++ rest ∧ Base128.Group m enc ∧
      n = value * 128 ^ enc.length + m ∧ stop = offset + enc.length := by
  induction content generalizing offset value with
  | nil => cases h
  | cons b content ih =>
    simp only [decodeBase128From, high_bit_iff, append_bits] at h
    by_cases hb : b.toNat < 128
    · rw [if_pos hb, Except.ok.injEq, Prod.mk.injEq] at h
      obtain ⟨rfl, rfl⟩ := h
      refine ⟨[b], content, b.toNat, rfl, Base128.group_singleton b hb, ?_, rfl⟩
      rw [List.length_singleton, Nat.mod_eq_of_lt hb]
      ring
    · rw [if_neg hb] at h
      obtain ⟨enc, rest, m, rfl, hg, rfl, rfl⟩ := ih h
      refine ⟨b :: enc, rest, _, rfl, hg.cons b (by omega), ?_, ?_⟩
      · rw [List.length_cons, pow_succ]
        ring
      · rw [List.length_cons]
        omega

theorem decodeBase128From_complete {n : ℕ} {enc : Bytes} (h : Base128.Group n enc) (rest : Bytes)
    (offset value : ℕ) : decodeBase128From (enc ++ rest) offset value =
      .ok (value * 128 ^ enc.length + n, offset + enc.length) := by
  induction enc generalizing n offset value with
  | nil => exact absurd rfl h.ne_nil
  | cons b enc ih =>
    rw [List.cons_append, decodeBase128From]
    simp only [high_bit_iff, append_bits]
    obtain ⟨hb, rfl, rfl⟩ | ⟨hb, m, hm, rfl⟩ := Base128.Group.cons_iff.mp h
    · rw [if_pos hb, List.length_singleton, Nat.mod_eq_of_lt hb, pow_one]
    · rw [if_neg (by omega), ih hm, List.length_cons, pow_succ, Except.ok.injEq, Prod.mk.injEq]
      refine ⟨by ring, by omega⟩

theorem decodeBase128_reads : Reads decodeBase128 Base128.Group where
  sound := by
    intro data offset n stop h
    obtain ⟨enc, rest, m, hdrop, hg, rfl, rfl⟩ := decodeBase128From_sound h
    rw [Nat.zero_mul, Nat.zero_add]
    refine ⟨enc, hg, ?_, rfl⟩
    rw [← List.drop_drop, hdrop, drop_length_append]
  complete := by
    intro n enc pre rest h
    have := decodeBase128From_complete h rest pre.length 0
    rwa [Nat.zero_mul, Nat.zero_add, ← drop_length_append pre (enc ++ rest), ← List.append_assoc] at this

theorem decodeBase128From_failsOnly (content : Bytes) (offset value : ℕ) :
    FailsOnly (fun e => e.isProtocolError) (decodeBase128From content offset value) := by
  induction content generalizing offset value with
  | nil => exact failsOnly_error rfl
  | cons b content ih => exact failsOnly_ite (fun _ => failsOnly_ok _) fun _ => ih _ _

/-- OBJECT IDENTIFIER contents as the decoder reads them: the first octet, whatever its high bit,
stands for the first two arcs, and the rest are terminated groups. -/
inductive OidContent : OID → Bytes → Prop
  | mk (first : UInt8) {arcs : List ℕ} {rest : Bytes} : Sequence Base128.Group arcs rest →
      OidContent ((firstArcs first).1 :: (firstArcs first).2 :: arcs.map fun arc : ℕ => (arc : ℤ)) (first :: rest)

theorem decodeOid_iff {content : Bytes} {oid : OID} :
    decodeOid content = .ok oid ↔ OidContent oid content := by
  cases content with
  | nil =>
    constructor
    · intro h
      cases h
    · intro h
      cases h
  | cons first rest =>
    have hfirst : octetAt (first :: rest) 0 = .ok first := rfl
    have hne : first :: rest ≠ [] := by simp
    rw [decodeOid, if_neg hne, hfirst, ok_bind]
    constructor
    · intro h
      obtain ⟨⟨arcs, stop⟩, harcs, h⟩ := bind_ok_iff.mp h
      obtain rfl := pure_ok_iff.mp h
      exact .mk first (readMany_sound decodeBase128_reads (fun _ _ => Base128.Group.ne_nil) _ 1 (by simp) harcs).1
    · intro h
      cases h with
      | @mk _ arcs _ hseq =>
        have := readMany_complete decodeBase128_reads (fun _ _ => Base128.Group.ne_nil)
          .nonTermination [first] hseq ((first :: rest).length + 1) (by grind)
        rw [List.singleton_append, List.length_singleton] at this
        rw [this]
        rfl

theorem decodeOid_failsOnly (content : Bytes) :
    FailsOnly (fun e => e.isProtocolError) (decodeOid content) := by
  refine failsOnly_ite (fun _ => failsOnly_error rfl) fun hne => ?_
  have hpos := List.length_pos_iff.mpr hne
  refine failsOnly_bind (failsOnly_octetAt hpos) fun first _ => ?_
  refine failsOnly_bind ?_ fun _ _ => failsOnly_ok _
  exact readMany_failsOnly _ decodeBase128_reads (fun _ _ => Base128.Group.ne_nil)
    (fun offset => decodeBase128From_failsOnly _ offset 0) _ 1 hpos (by omega)

/-- The value that the contents of an element stand for, by its tag. `oids` is the reading of
OBJECT IDENTIFIER contents. -/
inductive ValueContent (oids : OID → Bytes → Prop) : SnmpValue → UInt8 → Bytes → Prop
  | integer (content : Bytes) : content ≠ [] →
      ValueContent oids (.integerValue (toInt content)) integerTag content
  | octetString (content : Bytes) : ValueContent oids (.octetStringValue content) octetStringTag content
  | null : ValueContent oids .nullValue nullTag []
  | objectIdentifier (oid : OID) (content : Bytes) : oids oid content →
      ValueContent oids (.objectIdentifierValue oid) objectIdentifierTag content
  | ipAddress (content : Bytes) : content.length = 4 →
      ValueContent oids (.ipAddressValue (dotted content)) ipAddressTag content
  | counter32 (content : Bytes) : content ≠ [] →
      ValueContent oids (.counter32Value (BigEndian.toNat content)) counter32Tag content
  | gauge32 (content : Bytes) : content ≠ [] →
      ValueContent oids (.gauge32Value (BigEndian.toNat content)) gauge32Tag content
  | timeTicks (content : Bytes) : content ≠ [] →
      ValueContent oids (.timeTicksValue (BigEndian.toNat content)) timeTicksTag content
  | opaqueOctets (content : Bytes) : ValueContent oids (.opaqueValue content) opaqueTag content
  | counter64 (content : Bytes) : content ≠ [] →
      ValueContent oids (.counter64Value (BigEndian.toNat content)) counter64Tag content
  | noSuchObject : ValueContent oids .noSuchObjectValue noSuchObjectTag []
  | noSuchInstance : ValueContent oids .noSuchInstanceValue noSuchInstanceTag []
  | endOfMibView : ValueContent oids .endOfMibViewValue endOfMibViewTag []

theorem decodeSignedInteger_ok_iff {content : Bytes} {v : ℤ} :
    decodeSignedInteger content = .ok v ↔ content ≠ [] ∧ v = toInt content := by
  rw [decodeSignedInteger, ite_ok_iff, Except.ok.injEq, eq_comm (a := v)]

theorem decodeUnsignedInteger_ok_iff {content : Bytes} {v : ℤ} :
    decodeUnsignedInteger content = .ok v ↔ content ≠ [] ∧ v = BigEndian.toNat content := by
  rw [decodeUnsignedInteger, ite_ok_iff, Except.ok.injEq, eq_comm (a := v)]

theorem decodeIpAddress_ok_iff {content : Bytes} {text : String} :
    decodeIpAddress content = .ok text ↔ content.length = 4 ∧ text = dotted content := by
  rw [decodeIpAddress, ite_ok_iff, Except.ok.injEq, not_not, eq_comm (a := text)]

theorem requireEmpty_ok_iff {content : Bytes} {tag : UInt8} {u : Unit} :
    requireEmpty content tag = .ok u ↔ content = [] := by
  simp [requireEmpty]

theorem unsigned_ok_iff {content : Bytes} {type : ℤ → SnmpValue} {v : SnmpValue} :
    (decodeUnsignedInteger content >>= fun value => pure (type value)) = .ok v ↔
      content ≠ [] ∧ v = type (BigEndian.toNat content) := by
  rw [bind_ok_iff]
  constructor
  · rintro ⟨n, hn, h⟩
    obtain ⟨hne, rfl⟩ := decodeUnsignedInteger_ok_iff.mp hn
    cases h
    exact ⟨hne, rfl⟩
  · rintro ⟨hne, rfl⟩
    exact ⟨_, decodeUnsignedInteger_ok_iff.mpr ⟨hne, rfl⟩, rfl⟩

theorem empty_ok_iff {content : Bytes} {tag : UInt8} {value v : SnmpValue} :
    (requireEmpty content tag >>= fun _ => pure value) = .ok v ↔ content = [] ∧ v = value := by
  rw [bind_ok_iff]
  constructor
  · rintro ⟨_, he, h⟩
    cases h
    exact ⟨requireEmpty_ok_iff.mp he, rfl⟩
  · rintro ⟨he, rfl⟩
    exact ⟨(), requireEmpty_ok_iff.mpr he, rfl⟩

theorem decodeContent_sound {tag : UInt8} {content : Bytes} {v : SnmpValue}
    (h : decodeContent tag content = .ok v) : ValueContent OidContent v tag content := by
  rw [decodeContent] at h
  obtain ⟨rfl, h⟩ | ⟨-, h⟩ := ite_cases h
  · obtain ⟨n, hn, h⟩ := bind_ok_iff.mp h
    obtain ⟨hne, rfl⟩ := decodeSignedInteger_ok_iff.mp hn
    cases h
    exact .integer content hne
  obtain ⟨rfl, h⟩ | ⟨-, h⟩ := ite_cases h
  · cases h
    exact .octetString content
  obtain ⟨rfl, h⟩ | ⟨-, h⟩ := ite_cases h
  · obtain ⟨rfl, rfl⟩ := empty_ok_iff.mp h
    exact .null
  obtain ⟨rfl, h⟩ | ⟨-, h⟩ := ite_cases h
  · obtain ⟨oid, ho, h⟩ := bind_ok_iff.mp h
    cases h
    exact .objectIdentifier oid content (decodeOid_iff.mp ho)
  obtain ⟨rfl, h⟩ | ⟨-, h⟩ := ite_cases h
  · obtain ⟨text, ht, h⟩ := bind_ok_iff.mp h
    obtain ⟨hlen, rfl⟩ := decodeIpAddress_ok_iff.mp ht
    cases h
    exact .ipAddress content hlen
  obtain ⟨rfl, h⟩ | ⟨-, h⟩ := ite_cases h
  · obtain ⟨hne, rfl⟩ := unsigned_ok_iff.mp h
    exact .counter32 content hne
  obtain ⟨rfl, h⟩ | ⟨-, h⟩ := ite_cases h
  · obtain ⟨hne, rfl⟩ := unsigned_ok_iff.mp h
    exact .gauge32 content hne
  obtain ⟨rfl, h⟩ | ⟨-, h⟩ := ite_cases h
  · obtain ⟨hne, rfl⟩ := unsigned_ok_iff.mp h
    exact .timeTicks content hne
  obtain ⟨rfl, h⟩ | ⟨-, h⟩ := ite_cases h
  · cases h
    exact .opaqueOctets content
  obtain ⟨rfl, h⟩ | ⟨-, h⟩ := ite_cases h
  · obtain ⟨hne, rfl⟩ := unsigned_ok_iff.mp h
    exact .counter64 content hne
  obtain ⟨rfl, h⟩ | ⟨-, h⟩ := ite_cases h
  · obtain ⟨rfl, rfl⟩ := empty_ok_iff.mp h
    exact .noSuchObject
  obtain ⟨rfl, h⟩ | ⟨-, h⟩ := ite_cases h
  · obtain ⟨rfl, rfl⟩ := empty_ok_iff.mp h
    exact .noSuchInstance
  obtain ⟨rfl, h⟩ | ⟨-, h⟩ := ite_cases h
  · obtain ⟨rfl, rfl⟩ := empty_ok_iff.mp h
    exact .endOfMibView
  cases h

theorem decodeContent_complete {tag : UInt8} {content : Bytes} {v : SnmpValue}
    (h : ValueContent OidContent v tag content) : decodeContent tag content = .ok v := by
  cases h with
  | integer _ hne => simp [decodeContent, decodeSignedInteger, hne]
  | octetString => rfl
  | null => rfl
  | objectIdentifier oid _ ho =>
    change (decodeOid content >>= fun value => pure (SnmpValue.objectIdentifierValue value)) = _
    rw [decodeOid_iff.mpr ho]
    rfl
  | ipAddress _ hlen =>
    change (decodeIpAddress content >>= fun value => pure (SnmpValue.ipAddressValue value)) = _
    rw [decodeIpAddress_ok_iff.mpr ⟨hlen, rfl⟩]
    rfl
  | counter32 _ hne =>
    change (decodeUnsignedInteger content >>= fun value => pure (SnmpValue.counter32Value value)) = _
    exact unsigned_ok_iff.mpr ⟨hne, rfl⟩
  | gauge32 _ hne =>
    change (decodeUnsignedInteger content >>= fun value => pure (SnmpValue.gauge32Value value)) = _
    exact unsigned_ok_iff.mpr ⟨hne, rfl⟩
  | timeTicks _ hne =>
    change (decodeUnsignedInteger content >>= fun value => pure (SnmpValue.timeTicksValue value)) = _
    exact unsigned_ok_iff.mpr ⟨hne, rfl⟩
  | opaqueOctets => rfl
  | counter64 _ hne =>
    change (decodeUnsignedInteger content >>= fun value => pure (SnmpValue.counter64Value value)) = _
    exact unsigned_ok_iff.mpr ⟨hne, rfl⟩
  | noSuchObject => rfl
  | noSuchInstance => rfl
  | endOfMibView => rfl

theorem decodeContent_iff {tag : UInt8} {content : Bytes} {v : SnmpValue} :
    decodeContent tag content = .ok v ↔ ValueContent OidContent v tag content :=
  ⟨decodeContent_sound, decodeContent_complete⟩

theorem decodeContent_failsOnly (tag : UInt8) (content : Bytes) :
    FailsOnly (fun e => e.isProtocolError) (decodeContent tag content) := by
  have hok {α : Type} (f : α → SnmpValue) (a : α) :
      FailsOnly (fun e : Error => e.isProtocolError) (pure (f a)) := failsOnly_ok _
  have hsigned : FailsOnly (fun e => e.isProtocolError) (decodeSignedInteger content) :=
    failsOnly_ite (fun _ => failsOnly_error rfl) fun _ => failsOnly_ok _
  have hunsigned : FailsOnly (fun e => e.isProtocolError) (decodeUnsignedInteger content) :=
    failsOnly_ite (fun _ => failsOnly_error rfl) fun _ => failsOnly_ok _
  have hip : FailsOnly (fun e => e.isProtocolError) (decodeIpAddress content) :=
    failsOnly_ite (fun _ => failsOnly_error rfl) fun _ => failsOnly_ok _
  have hempty : FailsOnly (fun e => e.isProtocolError) (requireEmpty content tag) :=
    failsOnly_ite (fun _ => failsOnly_error rfl) fun _ => failsOnly_ok _
  rw [decodeContent]
  refine failsOnly_ite (fun _ => failsOnly_bind hsigned fun v _ => hok .integerValue v) fun _ => ?_
  refine failsOnly_ite (fun _ => failsOnly_ok _) fun _ => ?_
  refine failsOnly_ite (fun _ => failsOnly_bind hempty fun _ _ => failsOnly_ok _) fun _ => ?_
  refine failsOnly_ite (fun _ => failsOnly_bind (decodeOid_failsOnly content) fun v _ =>
    hok .objectIdentifierValue v) fun _ => ?_
  refine failsOnly_ite (fun _ => failsOnly_bind hip fun v _ => hok .ipAddressValue v) fun _ => ?_
  refine failsOnly_ite (fun _ => failsOnly_bind hunsigned fun v _ => hok .counter32Value v) fun _ => ?_
  refine failsOnly_ite (fun _ => failsOnly_bind hunsigned fun v _ => hok .gauge32Value v) fun _ => ?_
  refine failsOnly_ite (fun _ => failsOnly_bind hunsigned fun v _ => hok .timeTicksValue v) fun _ => ?_
  refine failsOnly_ite (fun _ => failsOnly_ok _) fun _ => ?_
  refine failsOnly_ite (fun _ => failsOnly_bind hunsigned fun v _ => hok .counter64Value v) fun _ => ?_
  refine failsOnly_ite (fun _ => failsOnly_bind hempty fun _ _ => failsOnly_ok _) fun _ => ?_
  refine failsOnly_ite (fun _ => failsOnly_bind hempty fun _ _ => failsOnly_ok _) fun _ => ?_
  refine failsOnly_ite (fun _ => failsOnly_bind hempty fun _ _ => failsOnly_ok _) fun _ => ?_
  exact failsOnly_error rfl

theorem decodeValue_tlv {tag : UInt8} {content data : Bytes} (h : Tlv (tag, content) data) :
    decodeValue data = decodeContent tag content := by
  have hread := (decodeTlv_reads.whole_iff data (tag, content)).mpr h
  simp only [decodeValue, hread, ok_bind, expectEnd_self]

def ValueSyntax (v : SnmpValue) (data : Bytes) : Prop :=
  ∃ tag content, Tlv (tag, content) data ∧ ValueContent OidContent v tag content

theorem decodeValue_ok_iff {data : Bytes} {v : SnmpValue} : decodeValue data = .ok v ↔ ValueSyntax v data := by
  constructor
  · intro h
    obtain ⟨⟨⟨tag, content⟩, stop⟩, htlv, h⟩ := bind_ok_iff.mp h
    obtain ⟨_, hend, h⟩ := bind_ok_iff.mp h
    rw [expectEnd_ok_iff.mp hend, decodeTlv_reads.whole_iff] at htlv
    exact ⟨tag, content, htlv, decodeContent_iff.mp h⟩
  · rintro ⟨tag, content, htlv, h⟩
    rw [decodeValue_tlv htlv]
    exact decodeContent_iff.mpr h

end TrishulSnmp.Asn1
