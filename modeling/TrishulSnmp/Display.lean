import TrishulSnmp.Library.PrintableText
import TrishulSnmp.Library.Utf8
import TrishulSnmp.Mib.Registry

namespace TrishulSnmp

open Outcome

def hexText (octets : Bytes) : String :=
  let digits := octets.flatMap fun octet => [octet.toNat / 16, octet.toNat % 16]
  String.ofList (digits.map Nat.digitChar)

theorem formatInt_isOk_iff {n : ℤ} : (∃ text, formatInt n = .ok text) ↔ PyText.Printable n := by
  refine ⟨fun hok => ?_, formatInt_ok⟩
  by_contra hlong
  obtain ⟨text, htext⟩ := hok
  obtain ⟨message, herror⟩ := formatInt_error hlong
  rw [herror] at htext
  cases htext

def ShownArcs (oid : OID) : Prop := ∀ arc ∈ oid, PyText.Printable arc

theorem Mib.oidToString_isOk_iff {oid : OID} : (∃ text, oidToString oid = .ok text) ↔ ShownArcs oid := by
  rw [oidToString, isOk_map_iff, mapM_isOk_iff, ShownArcs]
  exact forall₂_congr fun arc _ => formatInt_isOk_iff

namespace SnmpValue

def toDisplayString : SnmpValue → Except Error String
  | integerValue value => formatInt value
  | octetStringValue value =>
    if value = [] then .ok ""
    else match Utf8.decode value with
      | none => .ok (hexText value)
      | some decoded => if decoded.toList.all PyText.isPrintable then .ok decoded else .ok (hexText value)
  | nullValue => .ok "null"
  | objectIdentifierValue value => Mib.oidToString value
  | ipAddressValue value => .ok value
  | counter32Value value => formatInt value
  | gauge32Value value => formatInt value
  | timeTicksValue value => formatInt value
  | opaqueValue value => .ok (hexText value)
  | counter64Value value => formatInt value
  | noSuchObjectValue => .ok "noSuchObject"
  | noSuchInstanceValue => .ok "noSuchInstance"
  | endOfMibViewValue => .ok "endOfMibView"

def shownIntegers : SnmpValue → List ℤ
  | integerValue value | counter32Value value | gauge32Value value | timeTicksValue value | counter64Value value =>
      [value]
  | objectIdentifierValue value => value
  | _ => []

theorem toDisplayString_isOk_iff {value : SnmpValue} :
    (∃ text, value.toDisplayString = .ok text) ↔ ∀ n ∈ value.shownIntegers, PyText.Printable n := by
  have hone {n : ℤ} : (∃ text, formatInt n = .ok text) ↔ ∀ m ∈ [n], PyText.Printable m := by
    simpa using formatInt_isOk_iff
  cases value with
  | integerValue value | counter32Value value | gauge32Value value | timeTicksValue value | counter64Value value =>
    exact hone
  | objectIdentifierValue value => exact Mib.oidToString_isOk_iff
  | octetStringValue value =>
    refine iff_of_true ?_ (by simp [shownIntegers])
    rw [toDisplayString]
    split_ifs
    · exact ⟨_, rfl⟩
    · split
      · exact ⟨_, rfl⟩
      · split_ifs <;> exact ⟨_, rfl⟩
  | _ => simp [toDisplayString, shownIntegers]

end SnmpValue

end TrishulSnmp
