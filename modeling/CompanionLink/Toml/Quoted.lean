import CompanionLink.Toml.Lexical

/-! The four forms of TOML strings. -/

namespace CompanionLink.Toml

/-- The value of a hexadecimal digit. -/
def hexDigit? (c : Char) : Option Nat :=
  if c.isDigit then some (c.toNat - '0'.toNat)
  else if 'a' ≤ c ∧ c ≤ 'f' then some (c.toNat - 'a'.toNat + 10)
  else if 'A' ≤ c ∧ c ≤ 'F' then some (c.toNat - 'A'.toNat + 10)
  else none

/-- The character whose code the hexadecimal digits give, unless it is a surrogate or too great. -/
def charOfHex? (digits : List Char) : Option Char := do
  let code ← digits.foldlM (fun code digit => (hexDigit? digit).map (code * 16 + ·)) 0
  -- A surrogate is no character by itself.
  if code.isValidChar then some (Char.ofNat code) else none

/-- What a single character behind a backslash stands for. -/
def escaped? : Char → Option Char
  | 'b' => some '\x08'
  | 'f' => some '\x0c'
  | 'n' => some '\n'
  | 'r' => some '\r'
  | 't' => some '\t'
  | '"' => some '"'
  | '\\' => some '\\'
  | _ => none

/-- Takes an escape off, behind its backslash. -/
def escape : Scan Char
  -- The short form has four digits, the long one eight.
  | 'u' :: a :: b :: c :: d :: rest => (charOfHex? [a, b, c, d]).map (·, rest)
  | 'U' :: a :: b :: c :: d :: e :: f :: g :: h :: rest =>
    (charOfHex? [a, b, c, d, e, f, g, h]).map (·, rest)
  | c :: rest => (escaped? c).map (·, rest)
  | [] => none

/-- An escape takes at least one character. -/
theorem length_escape_lt {text rest : List Char} {c : Char} (found : escape text = some (c, rest)) :
    rest.length < text.length := by
  -- Each form of escape leaves a tail of the text behind it.
  unfold escape at found
  split at found
  all_goals simp_all only [Option.map_eq_some_iff, Prod.mk.injEq, reduceCtorEq, List.length_cons]
  all_goals
    obtain ⟨_, _, _, rfl⟩ := found
    omega

/-- The string up to the closing double quote. -/
def basicBody (text : List Char) : Option (List Char × List Char) :=
  match text with
  | '"' :: rest => some ([], rest)
  -- An escape is one character of the string.
  | '\\' :: rest =>
    match _found : escape rest with
    | some (c, rest') => (basicBody rest').map fun (body, rest) => (c :: body, rest)
    | none => none
  | c :: rest =>
    if isBasicChar c then (basicBody rest).map fun (body, rest) => (c :: body, rest) else none
  | [] => none
termination_by text.length
decreasing_by
  · have := length_escape_lt _found
    simp only [List.length_cons]
    omega
  · simp only [List.length_cons]
    omega

/-- The string up to the closing single quote. -/
def literalBody : Scan (List Char)
  | '\'' :: rest => some ([], rest)
  | c :: rest =>
    if isLiteralChar c then (literalBody rest).map fun (body, rest) => (c :: body, rest) else none
  | [] => none

/--
The text behind a backslash that ends its line: the line end and all blanks and line ends that
follow are dropped.
-/
def foldedLine? (text : List Char) : Option (List Char) :=
  (lineEnd? (skipSpaces text)).map skipBlankLines

/-- Taking a line end off makes a text shorter. -/
theorem length_lineEnd?_lt {text rest : List Char} (found : lineEnd? text = some rest) :
    rest.length < text.length := by
  -- A line end is one character or two.
  unfold lineEnd? at found
  split at found <;> cases found <;> simp only [List.length_cons] <;> omega

/-- Folding a line makes a text shorter. -/
theorem length_foldedLine?_lt {text rest : List Char} (found : foldedLine? text = some rest) :
    rest.length < text.length := by
  -- The line end itself is what makes it shorter; blanks cannot make it longer.
  simp only [foldedLine?, Option.map_eq_some_iff] at found
  obtain ⟨line, ended, rfl⟩ := found
  have shorter := length_lineEnd?_lt ended
  have blanks := length_skipBlankLines_le line
  have spaces := (List.dropWhile_sublist isSpace (l := text)).length_le
  simp only [skipSpaces] at shorter
  omega

/-- The string up to the closing three double quotes, before which two more may stand. -/
def longBasicBody (text : List Char) : Option (List Char × List Char) :=
  match text with
  -- Quotes in front of the closing ones belong to the string.
  | '"' :: '"' :: '"' :: '"' :: '"' :: rest => some (['"', '"'], rest)
  | '"' :: '"' :: '"' :: '"' :: rest => some (['"'], rest)
  | '"' :: '"' :: '"' :: rest => some ([], rest)
  -- A line end counts as a line feed, however it is written.
  | '\r' :: '\n' :: rest => (longBasicBody rest).map fun (body, rest) => ('\n' :: body, rest)
  | '\\' :: rest =>
    -- A backslash at the end of a line is no escape.
    match _folded : foldedLine? rest with
    | some rest' => longBasicBody rest'
    | none =>
      match _found : escape rest with
      | some (c, rest') => (longBasicBody rest').map fun (body, rest) => (c :: body, rest)
      | none => none
  | c :: rest =>
    if isCommentChar c || c == '\n' then
      (longBasicBody rest).map fun (body, rest) => (c :: body, rest)
    else none
  | [] => none
termination_by text.length
decreasing_by
  · simp only [List.length_cons]
    omega
  · have := length_foldedLine?_lt _folded
    simp only [List.length_cons]
    omega
  · have := length_escape_lt _found
    simp only [List.length_cons]
    omega
  · simp only [List.length_cons]
    omega

/-- The string up to the closing three single quotes, before which two more may stand. -/
def longLiteralBody : Scan (List Char)
  -- As between double quotes, but without escapes.
  | '\'' :: '\'' :: '\'' :: '\'' :: '\'' :: rest => some (['\'', '\''], rest)
  | '\'' :: '\'' :: '\'' :: '\'' :: rest => some (['\''], rest)
  | '\'' :: '\'' :: '\'' :: rest => some ([], rest)
  | '\r' :: '\n' :: rest => (longLiteralBody rest).map fun (body, rest) => ('\n' :: body, rest)
  | c :: rest =>
    if isCommentChar c || c == '\n' then
      (longLiteralBody rest).map fun (body, rest) => (c :: body, rest)
    else none
  | [] => none

/-- A long string's text without a line end right behind the opening quotes. -/
def afterOpening (text : List Char) : List Char :=
  -- A string may begin on the line below its opening quotes.
  (lineEnd? text).getD text

/-- A string on one line, in either kind of quotes. -/
def shortString : Scan (List Char)
  | '"' :: rest => basicBody rest
  | '\'' :: rest => literalBody rest
  | _ => none

/-- A string in any of the four forms. -/
def anyString : Scan (List Char)
  -- Three quotes are tried first, since two of them are an empty string.
  | '"' :: '"' :: '"' :: rest => longBasicBody (afterOpening rest)
  | '\'' :: '\'' :: '\'' :: rest => longLiteralBody (afterOpening rest)
  | text => shortString text

end CompanionLink.Toml
