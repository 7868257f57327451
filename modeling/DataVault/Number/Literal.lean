/-
Module: DataVault.Number.Literal
Layer: Library
Purpose: The numbers that texts stand for (`Number(text)` behind the removal of blanks at both ends): decimal literals
  with a fraction and an exponent, the infinities, and digits in base 2, 8 and 16. Any other text is no number.
Imports: DataVault.Number.Double
Trusted boundary: human-reviewed spec
Main exports: numberOfText
-/
import DataVault.Number.Double

namespace DataVault.Number

/-- The value of a digit in base 16 at most. -/
def digitValue (c : Char) : Option Nat :=
  if '0' ≤ c ∧ c ≤ '9' then some (c.toNat - 48)
  else if 'a' ≤ c ∧ c ≤ 'f' then some (c.toNat - 87)
  else if 'A' ≤ c ∧ c ≤ 'F' then some (c.toNat - 55)
  else none

/-- The number that digits of a base stand for. -/
def digitsValue (base : Nat) (digits : List Char) : Option Nat :=
  digits.foldlM (fun value c => ((digitValue c).filter (· < base)).map (base * value + ·)) 0

/-- Digits of a base, one at least. -/
def wholeLiteral (base : Nat) (digits : List Char) : Double :=
  match digits, digitsValue base digits with
  | _ :: _, some value => toDouble value
  | _, _ => .nan

/-- The exponent that ends a decimal literal. -/
def exponentPart : List Char → Option Int
  | [] => some 0
  | c :: rest =>
      if c = 'e' ∨ c = 'E' then
        match rest with
        | '-' :: c :: digits => (digitsValue 10 (c :: digits)).map fun value => -(value : Int)
        | '+' :: c :: digits => (digitsValue 10 (c :: digits)).map Int.ofNat
        | c :: digits => (digitsValue 10 (c :: digits)).map Int.ofNat
        | [] => none
      else none

/-- A decimal literal without a sign: digits before or behind the point, and an exponent. -/
def decimalLiteral (text : List Char) : Option ℚ := do
  let (whole, rest) := text.span Char.isDigit
  let (fraction, rest) :=
    match rest with
    | '.' :: rest => rest.span Char.isDigit
    | _ => ([], rest)
  if whole.isEmpty && fraction.isEmpty then none
  else do
    let digits ← digitsValue 10 (whole ++ fraction)
    let exponent ← exponentPart rest
    pure (digits * 10 ^ (exponent - fraction.length))

/-- A literal whose sign has been read. -/
def signedLiteral (negative : Bool) (text : List Char) : Double :=
  if text = "Infinity".toList then .infinite negative
  else
    match decimalLiteral text with
    | some value => toDouble (if negative then -value else value)
    | none => .nan

/-- `Number(text)`, for a text without blanks at its ends. -/
def numberOfText : List Char → Double
  | [] => .finite 0
  | '0' :: 'x' :: digits | '0' :: 'X' :: digits => wholeLiteral 16 digits
  | '0' :: 'o' :: digits | '0' :: 'O' :: digits => wholeLiteral 8 digits
  | '0' :: 'b' :: digits | '0' :: 'B' :: digits => wholeLiteral 2 digits
  | '-' :: text => signedLiteral true text
  | '+' :: text => signedLiteral false text
  | text => signedLiteral false text

end DataVault.Number
