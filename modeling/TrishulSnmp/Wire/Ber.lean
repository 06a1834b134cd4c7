import TrishulSnmp.Library.Base128
import TrishulSnmp.Library.BigEndian
import TrishulSnmp.Library.OffsetReader
import TrishulSnmp.Types

namespace TrishulSnmp.Ber

open BigEndian OffsetReader Outcome

def octetAt (data : Bytes) (offset : ℕ) : Except Error UInt8 :=
  match data[offset]? with
  | some octet => .ok octet
  | none => .error (.indexError "index out of range")

/-- The argument is a `len`: it is not negative, and its octet count fits the seven bits of the
first octet for every object CPython can hold. -/
def encodeLength (length : ℕ) : Bytes :=
  if length < 0x80 then [UInt8.ofNat length]
  else
    let content := BigEndian.ofNat ((bitLength length + 7) / 8) length
    UInt8.ofNat (0x80 ||| content.length) :: content

def decodeLength (data : Bytes) (offset : ℕ) : Except Error (ℕ × ℕ) :=
  if offset ≥ data.length then .error (.protocolError "BER length is truncated")
  else do
    let first ← octetAt data offset
    let offset := offset + 1
    if first.toNat < 0x80 then return (first.toNat, offset)
    else
      let count := first.toNat &&& 0x7F
      let stop := offset + count
      if count = 0 then .error (.protocolError "Indefinite BER lengths are not supported")
      else if stop > data.length then .error (.protocolError "BER length payload is truncated")
      else return (BigEndian.toNat (slice data offset stop), stop)

def encodeTlv (tag : UInt8) (content : Bytes) : Bytes :=
  [tag] ++ encodeLength content.length ++ content

def decodeTlv (data : Bytes) (offset : ℕ) : Except Error ((UInt8 × Bytes) × ℕ) :=
  if offset ≥ data.length then .error (.protocolError "BER tag is truncated")
  else do
    let tag ← octetAt data offset
    let (length, contentOffset) ← decodeLength data (offset + 1)
    let stop := contentOffset + length
    if stop > data.length then .error (.protocolError "BER content is truncated")
    else return ((tag, slice data contentOffset stop), stop)

def expectEnd (data : Bytes) (offset : ℕ) : Except Error Unit :=
  if offset ≠ data.length then .error (.protocolError "Unexpected trailing BER content")
  else .ok ()

def decodeElement {α : Type} (read : UInt8 → Bytes → Except Error α) (data : Bytes) (offset : ℕ) :
    Except Error (α × ℕ) := do
  let ((tag, content), newOffset) ← decodeTlv data offset
  let x ← read tag content
  return (x, newOffset)

inductive LengthForm : ℕ → Bytes → Prop
  | short (first : UInt8) : first.toNat < 0x80 → LengthForm first.toNat [first]
  | long (first : UInt8) (content : Bytes) : first.toNat = 0x80 + content.length → content ≠ [] →
      LengthForm (BigEndian.toNat content) (first :: content)

inductive Tlv : UInt8 × Bytes → Bytes → Prop
  | mk (tag : UInt8) (content length : Bytes) : LengthForm content.length length →
      Tlv (tag, content) (tag :: (length ++ content))

def TlvHead (tag : UInt8) (length : ℕ) (head : Bytes) : Prop := ∃ len, LengthForm length len ∧ head = tag :: len

theorem tlv_iff_head {tag : UInt8} {content enc : Bytes} :
    Tlv (tag, content) enc ↔ ∃ head, TlvHead tag content.length head ∧ enc = head ++ content := by
  constructor
  · rintro ⟨_, _, len, hlen⟩
    exact ⟨tag :: len, ⟨len, hlen, rfl⟩, rfl⟩
  · rintro ⟨_, ⟨len, hlen, rfl⟩, rfl⟩
    exact .mk tag content len hlen

theorem octetAt_append (pre rest : Bytes) (octet : UInt8) :
    octetAt (pre ++ octet :: rest) pre.length = .ok octet := by simp [octetAt]

theorem octetAt_ok_iff {data : Bytes} {offset : ℕ} {octet : UInt8} :
    octetAt data offset = .ok octet ↔ data[offset]? = some octet := by
  unfold octetAt
  cases data[offset]? <;> simp

theorem drop_of_octetAt {data : Bytes} {offset : ℕ} {octet : UInt8}
    (h : octetAt data offset = .ok octet) : data.drop offset = octet :: data.drop (offset + 1) := by
  obtain ⟨hlt, hget⟩ := List.getElem?_eq_some_iff.mp (octetAt_ok_iff.mp h)
  rw [List.drop_eq_getElem_cons hlt, hget]

theorem failsOnly_octetAt {P : Error → Prop} {data : Bytes} {offset : ℕ} (h : offset < data.length) :
    FailsOnly P (octetAt data offset) := by
  rw [octetAt, List.getElem?_eq_getElem h]
  exact failsOnly_ok _

theorem low_bits (n : ℕ) : n &&& 0x7F = n % 128 := Nat.and_two_pow_sub_one_eq_mod n 7

theorem LengthForm.lt {n : ℕ} {enc : Bytes} (h : LengthForm n enc) : n < 256 ^ 127 := by
  cases h with
  | short first hlt => exact hlt.trans (by norm_num)
  | long first content hcount hne =>
    have hb : first.toNat < 256 := first.toNat_lt
    calc BigEndian.toNat content < 256 ^ content.length := BigEndian.toNat_lt content
      _ ≤ 256 ^ 127 := Nat.pow_le_pow_right (by norm_num) (by omega)

theorem LengthForm.ne_nil {n : ℕ} {enc : Bytes} (h : LengthForm n enc) : enc ≠ [] := by
  cases h <;> simp

theorem Tlv.ne_nil {x : UInt8 × Bytes} {enc : Bytes} (h : Tlv x enc) : enc ≠ [] := by
  cases h
  simp

theorem Tlv.length_lt {x : UInt8 × Bytes} {enc : Bytes} (h : Tlv x enc) : x.2.length < 256 ^ 127 := by
  obtain ⟨tag, content, length, hl⟩ := h
  exact hl.lt

theorem decodeLength_reads : Reads decodeLength LengthForm where
  sound := by
    intro data offset n stop h
    rw [decodeLength, ite_ok_iff, bind_ok_iff] at h
    obtain ⟨-, first, hfirst, h⟩ := h
    have hdrop := drop_of_octetAt hfirst
    by_cases hshort : first.toNat < 0x80
    · rw [if_pos hshort, pure_ok_iff, Prod.mk.injEq] at h
      obtain ⟨rfl, rfl⟩ := h
      exact ⟨[first], .short first hshort, hdrop, rfl⟩
    · rw [if_neg hshort, low_bits, ite_ok_iff, ite_ok_iff, pure_ok_iff, Prod.mk.injEq] at h
      obtain ⟨hcount, hend, rfl, rfl⟩ := h
      have hb : first.toNat < 256 := first.toNat_lt
      have hlen := length_slice data (offset + 1) (offset + 1 + first.toNat % 128) (by omega)
      refine ⟨first :: slice data (offset + 1) (offset + 1 + first.toNat % 128), .long first _ ?_ ?_, ?_, ?_⟩
      · omega
      · intro hnil
        rw [hnil, List.length_nil] at hlen
        omega
      · rw [hdrop, List.cons_append, ← slice_append_drop _ _ _ (by omega)]
      · rw [List.length_cons]
        omega
  complete := by
    intro n enc pre rest h
    cases h with
    | short first hshort =>
      have hget := octetAt_append pre rest first
      have hlt : ¬ pre.length ≥ (pre ++ [first] ++ rest).length := by simp
      rw [decodeLength, if_neg hlt, List.append_assoc, List.singleton_append, hget, ok_bind, if_pos hshort]
      rfl
    | long first content hcount hne =>
      have hpos : 0 < content.length := List.length_pos_iff.mpr hne
      have hb : first.toNat < 256 := first.toNat_lt
      have hmod : first.toNat % 128 = content.length := by omega
      have hget := octetAt_append pre (content ++ rest) first
      have hlt : ¬ pre.length ≥ (pre ++ first :: content ++ rest).length := by simp
      have hslice := slice_append (pre ++ [first]) content rest
      rw [List.length_append, List.length_singleton] at hslice
      have happ : pre ++ first :: content ++ rest = pre ++ [first] ++ content ++ rest := by simp
      have hend : ¬ pre.length + 1 + content.length > (pre ++ first :: content ++ rest).length := by
        simp
        omega
      have hfirst : octetAt (pre ++ first :: content ++ rest) pre.length = .ok first := by
        rw [List.append_assoc]
        exact hget
      simp only [decodeLength, if_neg hlt, hfirst, ok_bind, low_bits, hmod]
      rw [if_neg (by omega), if_neg (by omega), if_neg hend, happ, hslice, List.length_cons]
      simp only [pure, Except.pure, Except.ok.injEq, Prod.mk.injEq, true_and]
      omega

theorem decodeLength_failsOnly (data : Bytes) (offset : ℕ) :
    FailsOnly (fun e => e.isProtocolError) (decodeLength data offset) := by
  rw [decodeLength]
  refine failsOnly_ite (fun _ => failsOnly_error rfl) fun hlt => ?_
  refine failsOnly_bind (failsOnly_octetAt (by omega)) fun first _ => ?_
  refine failsOnly_ite (fun _ => failsOnly_ok _) fun _ => ?_
  refine failsOnly_ite (fun _ => failsOnly_error rfl) fun _ => ?_
  exact failsOnly_ite (fun _ => failsOnly_error rfl) fun _ => failsOnly_ok _

theorem decodeTlv_reads : Reads decodeTlv Tlv where
  sound := by
    rintro data offset ⟨tag, content⟩ stop h
    rw [decodeTlv, ite_ok_iff, bind_ok_iff] at h
    obtain ⟨-, tag', htag, h⟩ := h
    rw [bind_ok_iff] at h
    obtain ⟨⟨length, contentOffset⟩, hlength, h⟩ := h
    rw [ite_ok_iff, pure_ok_iff, Prod.mk.injEq, Prod.mk.injEq] at h
    obtain ⟨hend, ⟨rfl, rfl⟩, rfl⟩ := h
    obtain ⟨len, hform, hdrop, rfl⟩ := decodeLength_reads.sound hlength
    have hsl := length_slice data (offset + 1 + len.length) (offset + 1 + len.length + length) (by omega)
    rw [Nat.add_sub_cancel_left] at hsl
    refine ⟨tag' :: (len ++ slice data (offset + 1 + len.length) (offset + 1 + len.length + length)),
      .mk _ _ _ (by rw [hsl]; exact hform), ?_, ?_⟩
    · rw [drop_of_octetAt htag, hdrop, List.cons_append, List.append_assoc,
        ← slice_append_drop _ _ _ (by omega)]
    · simp only [List.length_cons, List.length_append, hsl]
      omega
  complete := by
    rintro ⟨tag, content⟩ enc pre rest ⟨_, _, len, hform⟩
    have happ : pre ++ tag :: (len ++ content) ++ rest = pre ++ [tag] ++ len ++ (content ++ rest) := by simp
    have happ' : pre ++ [tag] ++ len ++ (content ++ rest) = pre ++ [tag] ++ len ++ content ++ rest := by simp
    have hlt : ¬ pre.length ≥ (pre ++ tag :: (len ++ content) ++ rest).length := by simp
    have htag : octetAt (pre ++ tag :: (len ++ content) ++ rest) pre.length = .ok tag := by
      rw [List.append_assoc]
      exact octetAt_append _ _ _
    have hlength := decodeLength_reads.complete (pre ++ [tag]) (content ++ rest) hform
    rw [← happ, List.length_append, List.length_singleton] at hlength
    have hslice := slice_append (pre ++ [tag] ++ len) content rest
    rw [← happ', ← happ] at hslice
    simp only [List.length_append, List.length_singleton] at hslice
    have hend : ¬ pre.length + 1 + len.length + content.length >
        (pre ++ tag :: (len ++ content) ++ rest).length := by
      simp
      omega
    simp only [decodeTlv, if_neg hlt, htag, ok_bind, hlength, if_neg hend, hslice]
    simp only [pure, Except.pure, Except.ok.injEq, Prod.mk.injEq, true_and, List.length_cons,
      List.length_append]
    omega

theorem Tlv.unique {x y : UInt8 × Bytes} {enc : Bytes} (hx : Tlv x enc) (hy : Tlv y enc) : x = y := by
  have heq : enc ++ [] = enc ++ [] := rfl
  exact (decodeTlv_reads.unique hx hy heq).1

theorem decodeTlv_failsOnly (data : Bytes) (offset : ℕ) :
    FailsOnly (fun e => e.isProtocolError) (decodeTlv data offset) := by
  rw [decodeTlv]
  refine failsOnly_ite (fun _ => failsOnly_error rfl) fun hlt => ?_
  refine failsOnly_bind (failsOnly_octetAt (by omega)) fun tag _ => ?_
  refine failsOnly_bind (decodeLength_failsOnly _ _) fun x _ => ?_
  exact failsOnly_ite (fun _ => failsOnly_error rfl) fun _ => failsOnly_ok _

theorem decodeElement_reads {α : Type} {read : UInt8 → Bytes → Except Error α}
    {G : α → UInt8 → Bytes → Prop} (hread : ∀ tag content x, read tag content = .ok x ↔ G x tag content) :
    Reads (decodeElement read) fun x enc => ∃ tag content, Tlv (tag, content) enc ∧ G x tag content where
  sound := by
    intro data offset x stop h
    obtain ⟨⟨⟨tag, content⟩, newOffset⟩, htlv, h⟩ := bind_ok_iff.mp h
    obtain ⟨y, hy, h⟩ := bind_ok_iff.mp h
    obtain ⟨rfl, rfl⟩ := Prod.mk.inj (pure_ok_iff.mp h)
    obtain ⟨enc, henc, hdrop, hstop⟩ := decodeTlv_reads.sound htlv
    exact ⟨enc, ⟨tag, content, henc, (hread tag content y).mp hy⟩, hdrop, hstop⟩
  complete := by
    rintro x enc pre rest ⟨tag, content, htlv, hg⟩
    rw [decodeElement, decodeTlv_reads.complete pre rest htlv, ok_bind]
    simp only [(hread tag content x).mpr hg, ok_bind]
    rfl

theorem decodeElement_failsOnly {α : Type} {read : UInt8 → Bytes → Except Error α} (data : Bytes)
    (offset : ℕ) (hread : ∀ tag content, FailsOnly (fun e => e.isProtocolError) (read tag content)) :
    FailsOnly (fun e => e.isProtocolError) (decodeElement read data offset) := by
  refine failsOnly_bind (decodeTlv_failsOnly _ _) fun x _ => ?_
  exact failsOnly_bind (hread _ _) fun _ _ => failsOnly_ok _

theorem expectEnd_failsOnly (data : Bytes) (offset : ℕ) :
    FailsOnly (fun e => e.isProtocolError) (expectEnd data offset) :=
  failsOnly_ite (fun _ => failsOnly_error rfl) fun _ => failsOnly_ok _

theorem expectEnd_ok_iff {data : Bytes} {offset : ℕ} {u : Unit} :
    expectEnd data offset = .ok u ↔ offset = data.length := by
  simp [expectEnd]

@[simp] theorem expectEnd_self (data : Bytes) : expectEnd data data.length = .ok () :=
  expectEnd_ok_iff.mpr rfl

theorem encodeLength_form {length : ℕ} (h : length < 256 ^ 127) : LengthForm length (encodeLength length) := by
  by_cases hshort : length < 0x80
  · rw [encodeLength, if_pos hshort]
    have hval : (UInt8.ofNat length).toNat = length := by
      rw [UInt8.toNat_ofNat']
      omega
    have := LengthForm.short (UInt8.ofNat length) (by omega)
    rwa [hval] at this
  · have hcount : (bitLength length + 7) / 8 ≤ 127 := (octets_le_iff length 127).mpr h
    have hpos : 0 < (bitLength length + 7) / 8 := by
      by_contra hzero
      have := (octets_le_iff length 0).mp (by omega)
      omega
    have hval := BigEndian.toNat_ofNat _ length (lt_pow_octets length)
    rw [encodeLength, if_neg hshort]
    simp only [BigEndian.length_ofNat]
    rw [Base128.or_eq_add _ (by omega)]
    have := LengthForm.long (UInt8.ofNat (128 + (bitLength length + 7) / 8))
      (BigEndian.ofNat ((bitLength length + 7) / 8) length) (by
        rw [UInt8.toNat_ofNat', BigEndian.length_ofNat]
        omega) (by
        intro hnil
        have := congrArg List.length hnil
        rw [BigEndian.length_ofNat, List.length_nil] at this
        omega)
    rwa [hval] at this

theorem encodeTlv_tlv (tag : UInt8) {content : Bytes} (h : content.length < 256 ^ 127) :
    Tlv (tag, content) (encodeTlv tag content) := by
  rw [encodeTlv, List.append_assoc, List.singleton_append]
  exact .mk tag content _ (encodeLength_form h)

theorem length_encodeLength_le (length : ℕ) : (encodeLength length).length ≤ length + 1 := by
  by_cases hshort : length < 0x80
  · simp [encodeLength, if_pos hshort]
  · have hle : (bitLength length + 7) / 8 ≤ length := by
      apply (octets_le_iff length length).mpr
      exact Nat.lt_pow_self (by norm_num)
    simpa [encodeLength, if_neg hshort] using hle

theorem length_encodeTlv_le (tag : UInt8) (content : Bytes) :
    (encodeTlv tag content).length ≤ 2 * content.length + 2 := by
  have := length_encodeLength_le content.length
  simp only [encodeTlv, List.length_append, List.length_singleton]
  omega

theorem length_lt_encodeTlv (tag : UInt8) (content : Bytes) :
    content.length < (encodeTlv tag content).length := by
  simp only [encodeTlv, List.length_append, List.length_singleton]
  omega

end TrishulSnmp.Ber
