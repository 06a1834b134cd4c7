import Mathlib.Data.List.Basic
import Mathlib.Data.Nat.Notation
import Mathlib.Data.Int.Notation

/-!
Python's text operations on the code points of a `str`, with the character tables of Unicode 14.
-/

namespace PyText

def isSpace (c : Char) : Bool :=
  let n := c.toNat
  (0x09 ≤ n && n ≤ 0x0D) || (0x1C ≤ n && n ≤ 0x20) || n == 0x85 || n == 0xA0 || n == 0x1680 ||
    (0x2000 ≤ n && n ≤ 0x200A) || n == 0x2028 || n == 0x2029 || n == 0x202F || n == 0x205F || n == 0x3000

def lstrip (strips : Char → Bool) (text : List Char) : List Char := text.dropWhile strips

def rstrip (strips : Char → Bool) (text : List Char) : List Char :=
  (text.reverse.dropWhile strips).reverse

def strip (text : List Char) : List Char := rstrip isSpace (lstrip isSpace text)

def decimalZeros : List ℕ :=
  [0x30, 0x660, 0x6F0, 0x7C0, 0x966, 0x9E6, 0xA66, 0xAE6, 0xB66, 0xBE6, 0xC66, 0xCE6, 0xD66, 0xDE6,
    0xE50, 0xED0, 0xF20, 0x1040, 0x1090, 0x17E0, 0x1810, 0x1946, 0x19D0, 0x1A80, 0x1A90, 0x1B50,
    0x1BB0, 0x1C40, 0x1C50, 0xA620, 0xA8D0, 0xA900, 0xA9D0, 0xA9F0, 0xAA50, 0xABF0, 0xFF10, 0x104A0,
    0x10D30, 0x11066, 0x110F0, 0x11136, 0x111D0, 0x112F0, 0x11450, 0x114D0, 0x11650, 0x116C0,
    0x11730, 0x118E0, 0x11950, 0x11C50, 0x11D50, 0x11DA0, 0x16A60, 0x16AC0, 0x16B50, 0x1D7CE,
    0x1D7D8, 0x1D7E2, 0x1D7EC, 0x1D7F6, 0x1E140, 0x1E2F0, 0x1E950, 0x1FBF0]

def decimal? (c : Char) : Option ℕ :=
  (decimalZeros.find? fun first => first ≤ c.toNat && c.toNat < first + 10).map fun first => c.toNat - first

/-- The ranges of digits that are not decimal: superscripts, circled digits and the like. -/
def otherDigits : List (ℕ × ℕ) :=
  [(0xB2, 0xB3), (0xB9, 0xB9), (0x1369, 0x1371), (0x19DA, 0x19DA), (0x2070, 0x2070),
    (0x2074, 0x2079), (0x2080, 0x2089), (0x2460, 0x2468), (0x2474, 0x247C), (0x2488, 0x2490),
    (0x24EA, 0x24EA), (0x24F5, 0x24FD), (0x24FF, 0x24FF), (0x2776, 0x277E), (0x2780, 0x2788),
    (0x278A, 0x2792), (0x10A40, 0x10A43), (0x10E60, 0x10E68), (0x11052, 0x1105A), (0x1F100, 0x1F10A)]

def isDigit (c : Char) : Bool :=
  (decimal? c).isSome || otherDigits.any fun range => range.1 ≤ c.toNat && c.toNat ≤ range.2

def allDigits (text : List Char) : Bool := !text.isEmpty && text.all isDigit

/-- The limit CPython puts on conversions between `int` and decimal text. -/
def maxStrDigits : ℕ := 4300

/-- The white space `int` skips: in ASCII it leaves out the separators 0x1C to 0x1F. -/
def isIntSpace (c : Char) : Bool := isSpace c && !(0x1C ≤ c.toNat && c.toNat ≤ 0x1F)

def parseDigits : List Char → Option (List ℕ)
  | [] => none
  | [c] => (decimal? c).map fun d => [d]
  | c :: '_' :: rest => do
    let d ← decimal? c
    let ds ← parseDigits rest
    return d :: ds
  | c :: rest => do
    let d ← decimal? c
    let ds ← parseDigits rest
    return d :: ds

def digitsValue (digits : List ℕ) : ℕ := digits.foldl (fun value d => value * 10 + d) 0

def parseNat (text : List Char) : Option ℕ := do
  let digits ← parseDigits text
  if digits.length > maxStrDigits then none else return digitsValue digits

def parseInt (text : List Char) : Option ℤ :=
  match rstrip isIntSpace (lstrip isIntSpace text) with
  | '-' :: rest => (parseNat rest).map fun n => -(n : ℤ)
  | '+' :: rest => (parseNat rest).map fun n => (n : ℤ)
  | rest => (parseNat rest).map fun n => (n : ℤ)

def splitDot (text : List Char) : List (List Char) := text.splitOn '.'

def partition (sep : List Char) : List Char → Option (List Char × List Char)
  | [] => none
  | c :: rest =>
    if sep.isPrefixOf (c :: rest) then some ([], (c :: rest).drop sep.length)
    else (partition sep rest).map fun parts => (c :: parts.1, parts.2)

def joinDot (parts : List (List Char)) : List Char := ['.'].intercalate parts

def natText (n : ℕ) : List Char := Nat.toDigits 10 n

def Printable (n : ℤ) : Prop := (natText n.natAbs).length ≤ maxStrDigits

instance : DecidablePred Printable := fun _ => inferInstanceAs (Decidable (_ ≤ _))

def intText (n : ℤ) : Option (List Char) :=
  if ¬ Printable n then none
  else some (if n < 0 then '-' :: natText n.natAbs else natText n.natAbs)

theorem splitDot_joinDot {parts : List (List Char)} (hne : parts ≠ [])
    (h : ∀ part ∈ parts, '.' ∉ part) : splitDot (joinDot parts) = parts := by
  exact List.splitOn_intercalate '.' h hne

theorem splitDot_ne_nil (text : List Char) : splitDot text ≠ [] := List.splitOn_ne_nil _ _

theorem octet_text (n : Fin 256) :
    parseInt (natText n) = some (n : ℤ) ∧ '.' ∉ natText n := by
  revert n
  decide +kernel

example : parseInt " １2_0\n".toList = some 120 := by decide
example : parseInt "1__0".toList = none := by decide

end PyText
