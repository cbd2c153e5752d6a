import CompanionLink.Toml.Value

/-! The characters of TOML, its blanks, its line ends and its comments. -/

namespace CompanionLink.Toml

/-- Whether a character is beyond ASCII. -/
def isBeyondAscii (c : Char) : Bool := 0x80 ≤ c.toNat

/-- Whether a character is a space or a tab. -/
def isSpace (c : Char) : Bool := c == ' ' || c == '\t'

/-- Whether a character may stand in a comment: any but a control character, a tab excepted. -/
def isCommentChar (c : Char) : Bool :=
  c == '\t' || (0x20 ≤ c.toNat && c.toNat ≤ 0x7E) || isBeyondAscii c

/-- Whether a character stands for itself between double quotes. -/
def isBasicChar (c : Char) : Bool := isCommentChar c && c != '"' && c != '\\'

/-- Whether a character may stand between single quotes. -/
def isLiteralChar (c : Char) : Bool := isCommentChar c && c != '\''

/-- Whether a character may stand in a key without quotes. -/
def isBareKeyChar (c : Char) : Bool := c.isAlphanum || c == '-' || c == '_'

/-- Drops spaces and tabs. -/
def skipSpaces (text : List Char) : List Char := text.dropWhile isSpace

/-- Takes a line end off. -/
def lineEnd? : List Char → Option (List Char)
  | '\n' :: rest | '\r' :: '\n' :: rest => some rest
  | _ => none

/-- Drops a comment, if one begins here. -/
def skipComment : List Char → List Char
  | '#' :: rest => rest.dropWhile isCommentChar
  | text => text

/-- Drops what may follow a value on its line, and the line's end or the end of the text. -/
def finishLine? (text : List Char) : Option (List Char) :=
  -- Whatever else stands behind a value spoils the line.
  match skipComment (skipSpaces text) with
  | [] => some []
  | rest => lineEnd? rest

/-- Drops spaces, tabs and line ends. -/
def skipBlankLines : List Char → List Char
  -- A carriage return counts only in front of a line feed.
  | ' ' :: rest | '\t' :: rest | '\n' :: rest | '\r' :: '\n' :: rest => skipBlankLines rest
  | text => text

/-- Dropping blank lines never makes a text longer. -/
theorem length_skipBlankLines_le (text : List Char) :
    (skipBlankLines text).length ≤ text.length := by
  -- The induction follows the text that is dropped.
  fun_induction skipBlankLines text with
  | case1 rest ih | case2 rest ih | case3 rest ih | case4 rest ih =>
    simp only [List.length_cons]
    omega
  | case5 => exact Nat.le_refl _

/--
Drops spaces, tabs, line ends and comments; a comment that no line end follows is not accepted.
The budget bounds the number of lines.
-/
def skipLines? : Nat → List Char → Option (List Char)
  | 0, text => some text
  | budget + 1, text =>
    match skipBlankLines text with
    -- Behind a comment more blank lines may come.
    | '#' :: rest => (lineEnd? (rest.dropWhile isCommentChar)).bind (skipLines? budget)
    | rest => some rest

/-- Drops all spaces, tabs, line ends and comments at the front of a text. -/
def skipInsideArray? (text : List Char) : Option (List Char) :=
  -- Each line takes at least one character.
  skipLines? (text.length + 1) text

end CompanionLink.Toml
