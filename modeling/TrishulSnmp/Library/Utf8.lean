import Mathlib.Data.List.Basic

/-!
UTF-8 text as lists of octets. `String` holds exactly the sequences of Unicode scalar values, which
is what Python's strict codec accepts and produces.
-/

namespace Utf8

def encode (text : String) : List UInt8 := text.toUTF8.data.toList

def decode (octets : List UInt8) : Option String := String.fromUTF8? ⟨octets.toArray⟩

theorem decode_eq_some_iff {octets : List UInt8} {text : String} :
    decode octets = some text ↔ octets = encode text := by
  unfold decode encode String.fromUTF8?
  constructor
  · intro h
    split at h
    · cases h
      simp [String.fromUTF8]
    · cases h
  · rintro rfl
    have hb : (⟨text.toUTF8.data.toList.toArray⟩ : ByteArray) = text.toByteArray := by simp
    simp only [hb, text.isValidUTF8, dif_pos]
    rfl

theorem decode_encode (text : String) : decode (encode text) = some text := decode_eq_some_iff.mpr rfl

end Utf8
