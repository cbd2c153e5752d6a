import CompanionLink.Toml.Moment
import CompanionLink.Toml.Number
import CompanionLink.Toml.Table

/-! TOML values, keys and lines, and the table that a whole document denotes. -/

namespace CompanionLink.Toml

/-- The nesting of arrays and inline tables, and the parts of a key, stay below this number. -/
def nestingLimit : Nat := 80

/-- One part of a key. -/
def keyPart (text : List Char) : Option (String × List Char) :=
  match text with
  | '"' :: _ | '\'' :: _ => (shortString text).map fun (part, rest) => (String.ofList part, rest)
  | _ =>
    -- Without quotes an empty part is not accepted.
    let part := text.takeWhile isBareKeyChar
    if part.isEmpty then none else some (String.ofList part, text.dropWhile isBareKeyChar)

/-- The parts of a key, the dots between them, and the blanks around them. -/
def keyParts : Nat → Scan (List String)
  | 0, _ => none
  | budget + 1, text => do
    let (part, rest) ← keyPart (skipSpaces text)
    match skipSpaces rest with
    -- A dot has to be followed by another part.
    | '.' :: rest =>
      let (later, rest) ← keyParts budget rest
      return (part :: later, rest)
    | rest => return ([part], rest)

/-- A key. -/
def key : Scan (List String) := keyParts (nestingLimit - 1)

/-- The values of an array up to its closing bracket; the budget bounds their number. -/
def arrayItems (item : Scan Value) : Nat → Scan (List Value)
  | 0, _ => none
  | budget + 1, text => do
    match ← skipInsideArray? text with
    -- The array is empty, or its last comma stood behind a value.
    | ']' :: rest => return ([], rest)
    | rest =>
      let (value, rest) ← item rest
      match ← skipInsideArray? rest with
      | ',' :: rest =>
        let (later, rest) ← arrayItems item budget rest
        return (value :: later, rest)
      | ']' :: rest => return ([value], rest)
      | _ => none

/-- A key and its value, with the blanks around them. -/
def keyValue (item : Scan Value) : Scan (List String × Value) := fun text => do
  let (path, rest) ← key text
  match rest with
  | '=' :: rest =>
    let (value, rest) ← item (skipSpaces rest)
    return ((path, value), rest)
  | _ => none

/-- The entries of an inline table up to its closing brace, added to those before them. -/
def inlineEntries (item : Scan Value) : Nat → Entries → Scan Entries
  | 0, _, _ => none
  | budget + 1, entries, text => do
    let ((path, value), rest) ← keyValue item text
    -- An inline table is complete when its brace closes, so its keys only meet each other.
    let entries ← entries.insert true value path
    match skipSpaces rest with
    | ',' :: rest => inlineEntries item budget entries rest
    | '}' :: rest => return (entries, rest)
    | _ => none

/-- An inline table behind its opening brace. -/
def inlineTable (item : Scan Value) : Scan Value := fun text =>
  match skipSpaces text with
  | '}' :: rest => some (.table [], rest)
  | rest => (inlineEntries item rest.length [] rest).map fun (entries, rest) =>
    (.table (Entries.toValues entries), rest)

/-- A value, nested at most so deep. -/
def valueWithin : Nat → Scan Value
  | depth, text =>
    match text with
    | '"' :: _ | '\'' :: _ =>
      (anyString text).map fun (body, rest) => (.string (String.ofList body), rest)
    | 't' :: 'r' :: 'u' :: 'e' :: rest => some (.boolean true, rest)
    | 'f' :: 'a' :: 'l' :: 's' :: 'e' :: rest => some (.boolean false, rest)
    | '[' :: rest =>
      match depth with
      -- The nesting limit is reached.
      | 0 => none
      | depth + 1 =>
        (arrayItems (valueWithin depth) (rest.length + 1) rest).map fun (items, rest) =>
          (.array items, rest)
    | '\x7b' :: rest =>
      match depth with
      | 0 => none
      | depth + 1 => inlineTable (valueWithin depth) rest
    -- A date also begins with digits, so it has to be told from a number first.
    | _ => if beginsMoment text then moment text else number text

/-- A value. -/
def value : Scan Value := valueWithin (nestingLimit - 1)

/-- A document as far as it has been read. -/
structure Reading where
  root : Entries := []
  /-- The keys of the table that the last header opened. -/
  cursor : List String := []

/-- Opens what a header names, as a table or as an element of an array of tables. -/
def Reading.openHeader (reading : Reading) (path : List String)
    (openIn : String → Entries → Option Entries) : Option Reading := do
  let name ← path.getLast?
  let root ← reading.root.within (openIn name) path.dropLast
  return { root, cursor := path }

/-- Takes one line that is neither empty nor a comment. -/
def Reading.line (reading : Reading) (text : List Char) : Option (Reading × List Char) :=
  match text with
  -- The header opens one more element of an array of tables.
  | '[' :: '[' :: rest => do
    let (path, rest) ← key rest
    let rest ← mark? ']' rest >>= mark? ']' >>= finishLine?
    return (← reading.openHeader path Entries.openElement, rest)
  -- The header opens a table.
  | '[' :: rest => do
    let (path, rest) ← key rest
    let rest ← mark? ']' rest >>= finishLine?
    return (← reading.openHeader path Entries.openTable, rest)
  -- The line sets a key of the table that was opened last.
  | _ => do
    let ((path, value), rest) ← keyValue value text
    let root ← reading.root.within (Entries.insert true value path) reading.cursor
    return ({ reading with root }, ← finishLine? rest)

/-- Takes all lines; the budget bounds their number. -/
def Reading.lines : Nat → Reading → List Char → Option Reading
  | 0, _, _ => none
  | budget + 1, reading, text =>
    match skipSpaces text with
    | [] => some reading
    | '#' :: rest => do
      let rest ← finishLine? ('#' :: rest)
      reading.lines budget rest
    | rest =>
      -- An empty line has nothing but its end.
      match lineEnd? rest with
      | some rest => reading.lines budget rest
      | none => do
        let (reading, rest) ← reading.line rest
        reading.lines budget rest

/-- The table that a document denotes, if it is one. A byte order mark may stand in front. -/
def parse? (document : String) : Option Value :=
  let text := match document.toList with
    | '\ufeff' :: rest => rest
    | text => text
  -- Every line takes at least one character, so the budget never runs out.
  (Reading.lines (text.length + 1) {} text).map fun reading =>
    .table (Entries.toValues reading.root)

end CompanionLink.Toml
