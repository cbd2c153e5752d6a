/-! Cutting text into lines and fields, and reading decimal numbers. -/

namespace CompanionLink

/-- Puts a character in front of the first piece. -/
def consFirst (c : Char) : List (List Char) → List (List Char)
  | [] => [[c]]
  | piece :: later => (c :: piece) :: later

/-- The pieces of a text between its pairs of carriage return and line feed. -/
def cutLines : List Char → List (List Char)
  | [] => [[]]
  -- A line feed or a carriage return by itself is part of its line.
  | '\r' :: '\n' :: rest => [] :: cutLines rest
  | c :: rest => consFirst c (cutLines rest)

/-- The text before and behind the first colon that a space follows. -/
def cutField? : List Char → Option (List Char × List Char)
  | [] => none
  -- The first separator counts, so a value may hold others.
  | ':' :: ' ' :: rest => some ([], rest)
  | c :: rest => (cutField? rest).map fun (key, value) => (c :: key, value)

/-- The text up to its first line feed, without a carriage return that stands before it. -/
def firstLine : List Char → List Char
  | [] | '\n' :: _ | '\r' :: '\n' :: _ => []
  | c :: rest => c :: firstLine rest

/-- The number that decimal digits denote. -/
def decimalValue (digits : List Char) : Nat :=
  digits.foldl (fun value digit => value * 10 + (digit.toNat - '0'.toNat)) 0

/-- Reads one or more decimal digits, which a plus sign may precede. -/
def readDecimal? (text : List Char) : Option Nat :=
  let digits := match text with
    | '+' :: rest => rest
    | _ => text
  -- A sign without digits is no number.
  if digits.isEmpty || !digits.all Char.isDigit then none else some (decimalValue digits)

end CompanionLink
