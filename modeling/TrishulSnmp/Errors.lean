import TrishulSnmp.Library.Outcome
import TrishulSnmp.Library.PyText

namespace TrishulSnmp

open Outcome

/-- The exceptions the modelled code raises. `nonTermination` is not one of Python's: it stands for
a loop that does not end. -/
inductive Error
  | protocolError (message : String)
  | authenticationError (message : String)
  | transportError (message : String)
  | requestTimeoutError (message : String)
  | invalidOidError (message : String)
  | unknownSymbolError (message : String)
  | unknownOidError (message : String)
  | translationError (message : String)
  | bundleValidationError (message : String)
  | valueError (message : String)
  | indexError (message : String)
  | keyError (key : List ℤ)
  | structError (message : String)
  | nonTermination
  deriving DecidableEq, Repr

def Error.isProtocolError : Error → Bool
  | .protocolError _ | .authenticationError _ => true
  | _ => false

def Error.isTransportError : Error → Bool
  | .transportError _ | .requestTimeoutError _ => true
  | _ => false

theorem Error.isTransportError_of_protocol (e : Error) (h : e.isProtocolError) : e.isTransportError = false := by
  cases e <;> first | rfl | cases h

def Error.reworded (prefixText : String) : Error → Error
  | .protocolError message | .authenticationError message => .protocolError (prefixText ++ message)
  | e => e

def hexOctet (octet : UInt8) : String :=
  let digits := Nat.toDigits 16 octet.toNat
  String.ofList ('0' :: 'x' :: (if digits.length < 2 then '0' :: digits else digits))

def formatInt (n : ℤ) : Except Error String :=
  match PyText.intText n with
  | some text => .ok (String.ofList text)
  | none => .error (.valueError ("Exceeds the limit (4300 digits) for integer string conversion; " ++
      "use sys.set_int_max_str_digits() to increase the limit"))

theorem formatInt_ok {n : ℤ} (h : PyText.Printable n) : ∃ text, formatInt n = .ok text := by
  rw [formatInt, PyText.intText, if_neg (not_not.mpr h)]
  exact ⟨_, rfl⟩

theorem formatInt_error {n : ℤ} (h : ¬ PyText.Printable n) : ∃ message, formatInt n = .error (.valueError message) := by
  rw [formatInt, PyText.intText, if_pos h]
  exact ⟨_, rfl⟩

theorem formatted_failsOnly {α : Type} {n : ℤ} (h : PyText.Printable n) (prefixText : String) :
    FailsOnly (fun e => e.isProtocolError)
      (formatInt n >>= fun shown => (.error (.protocolError (prefixText ++ shown)) : Except Error α)) := by
  obtain ⟨text, htext⟩ := formatInt_ok h
  rw [htext, ok_bind]
  exact failsOnly_error rfl

end TrishulSnmp
