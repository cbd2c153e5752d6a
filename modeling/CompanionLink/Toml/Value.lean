/-! The values of a TOML document, as far as a typed reader can tell them apart. -/

namespace CompanionLink.Toml

/-- A TOML value. Of a float and of a date or time only the kind is kept. -/
inductive Value where
  | string (text : String)
  | integer (value : Int)
  | float
  | boolean (value : Bool)
  | moment
  | array (items : List Value)
  | table (entries : List (String × Value))
deriving Repr, Inhabited

/-- A scanner takes what it stands for off the front of a text, or does not accept the text. -/
abbrev Scan (α : Type) := List Char → Option (α × List Char)

end CompanionLink.Toml
