import CompanionLink.Text.Cut
import CompanionLink.Toml.Quoted

/-! TOML numbers: integers of 64 bits in four bases, and floats. -/

namespace CompanionLink.Toml

/-- Digits with single underscores between them, behind a first digit. -/
def moreDigits (isDigit : Char → Bool) : Scan (List Char)
  | '_' :: c :: rest =>
    if isDigit c then (moreDigits isDigit rest).map fun (digits, rest) => (c :: digits, rest)
    else none
  -- An underscore has to stand between digits.
  | '_' :: [] => none
  | c :: rest =>
    if isDigit c then (moreDigits isDigit rest).map fun (digits, rest) => (c :: digits, rest)
    else some ([], c :: rest)
  | [] => some ([], [])

/-- One or more digits with single underscores between them, leading zeros allowed. -/
def anyDigits (isDigit : Char → Bool) : Scan (List Char)
  | c :: rest =>
    if isDigit c then (moreDigits isDigit rest).map fun (digits, rest) => (c :: digits, rest)
    else none
  | [] => none

/-- The digits of a decimal number before its point: a zero stands alone. -/
def wholeDigits : Scan (List Char)
  -- What follows a leading zero is no part of the number.
  | '0' :: rest => some (['0'], rest)
  | text => anyDigits Char.isDigit text

/-- The number that digits of a base denote. -/
def valueInBase (base : Nat) (digits : List Char) : Nat :=
  digits.foldl (fun value digit => value * base + (hexDigit? digit).getD 0) 0

/-- An integer, if it fits in 64 bits with a sign. -/
def integerValue? (value : Int) : Option Value :=
  -- The bounds are those of a signed number of 64 bits.
  if -0x8000000000000000 ≤ value ∧ value ≤ 0x7FFFFFFFFFFFFFFF then some (.integer value) else none

/-- An integer of a base, behind the mark of the base. -/
def integerInBase (base : Nat) (isDigit : Char → Bool) : Scan Value := fun text => do
  let (digits, rest) ← anyDigits isDigit text
  let value ← integerValue? (valueInBase base digits)
  return (value, rest)

/-- The first power of two that no float reaches, less half of the last float's unit. -/
def floatLimit : Nat := Nat.pow 2 1024 - Nat.pow 2 970

/--
Whether a positive decimal number `digits · 10 ^ exponent` rounds to a finite float. Numbers far
from the limit are decided by their order of magnitude alone.
-/
def isFiniteFloat (digits : List Char) (exponent : Int) : Bool :=
  -- Leading zeros have no part in the order of magnitude.
  let significant := digits.dropWhile (· == '0')
  let magnitude := exponent + significant.length
  if significant.isEmpty ∨ magnitude < 300 then true
  else if magnitude > 400 then false
  else if exponent < 0 then
    decide (decimalValue significant < floatLimit * Nat.pow 10 exponent.natAbs)
  else decide (decimalValue significant * Nat.pow 10 exponent.natAbs < floatLimit)

/-- An exponent that is this great or greater takes no more digits. -/
def exponentLimit : Nat := 0x10000

/-- The exponent that digits denote: those behind the digit that reaches the limit do not count. -/
def exponentValue (digits : List Char) : Nat :=
  digits.foldl (fun value digit =>
    if value < exponentLimit then value * 10 + (digit.toNat - '0'.toNat) else value) 0

/-- The exponent of a float, if it has one. -/
def floatExponent : Scan (Option Int)
  | 'e' :: rest | 'E' :: rest =>
    -- The exponent may have a sign of its own.
    let (negative, rest) := match rest with
      | '-' :: rest => (true, rest)
      | '+' :: rest => (false, rest)
      | _ => (false, rest)
    (anyDigits Char.isDigit rest).map fun (digits, rest) =>
      (some (if negative then -(exponentValue digits : Int) else exponentValue digits), rest)
  | text => some (none, text)

/-- The digits of a float behind its point, if it has one. -/
def floatFraction : Scan (Option (List Char))
  -- A point needs digits behind it.
  | '.' :: rest => (anyDigits Char.isDigit rest).map fun (digits, rest) => (some digits, rest)
  | text => some (none, text)

/-- A decimal number behind its sign. Only a positive float has to be finite. -/
def decimalNumber (negative : Bool) : Scan Value := fun text => do
  let (whole, rest) ← wholeDigits text
  let (fraction, rest) ← floatFraction rest
  let (exponent, rest) ← floatExponent rest
  match fraction, exponent with
  -- Without point and exponent it is an integer.
  | none, none =>
    let value : Int := decimalValue whole
    let value ← integerValue? (if negative then -value else value)
    return (value, rest)
  | _, _ =>
    let fraction := fraction.getD []
    let exponent := exponent.getD 0 - fraction.length
    if negative || isFiniteFloat (whole ++ fraction) exponent then
      return (.float, rest)
    else none

/-- One of the words for the infinite and the undefined float. -/
def floatWord? : List Char → Option (List Char)
  | 'i' :: 'n' :: 'f' :: rest | 'n' :: 'a' :: 'n' :: rest => some rest
  | _ => none

/-- A number behind its sign. -/
def unsignedNumber (negative : Bool) : Scan Value := fun text =>
  match floatWord? text with
  | some rest => some (.float, rest)
  | none => decimalNumber negative text

/-- A number. A base other than ten takes no sign. -/
def number : Scan Value
  -- The marks of a base are tried before a zero can be taken for a number.
  | '0' :: 'x' :: rest => integerInBase 16 (fun c => (hexDigit? c).isSome) rest
  | '0' :: 'o' :: rest => integerInBase 8 (fun c => '0' ≤ c && c ≤ '7') rest
  | '0' :: 'b' :: rest => integerInBase 2 (fun c => c == '0' || c == '1') rest
  | '-' :: rest => unsignedNumber true rest
  | '+' :: rest => unsignedNumber false rest
  | text => unsignedNumber false text

end CompanionLink.Toml
