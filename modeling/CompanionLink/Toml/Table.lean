import CompanionLink.Toml.Value

/-!
Tables under construction. How a table came about decides what may still be added to it: a table
that keys with dots made takes more such keys, and a table that a longer header implied takes a
header of its own.
-/

namespace CompanionLink.Toml

/-- How a table came about. -/
inductive Origin where
  /-- A header or an element of an array of tables opened it. -/
  | opened
  /-- A header of a table inside it implied it. -/
  | implied
  /-- A key with dots made it. -/
  | dotted
deriving DecidableEq, Repr, Inhabited

/-- What a key of a table under construction leads to. -/
inductive Item where
  | value (value : Value)
  | table (origin : Origin) (entries : List (String × Item))
  /-- An array of tables, the last one first. -/
  | tables (newestFirst : List (List (String × Item)))

/-- The keys of a table under construction and what they lead to. -/
abbrev Entries := List (String × Item)

namespace Entries

/-- Puts an item in place of the one that a key leads to. -/
def replace (entries : Entries) (key : String) (item : Item) : Entries :=
  entries.map fun (other, old) => if other == key then (other, item) else (other, old)

/--
Adds a value under a key with dots. The table that takes the last part has to be one that such
keys made; `takesKeys` says so of the present one.
-/
def insert (takesKeys : Bool) (value : Value) : List String → Entries → Option Entries
  | [], _ => none
  | [key], entries =>
    -- A key is set once.
    if takesKeys && (entries.lookup key).isNone then some (entries ++ [(key, .value value)])
    else none
  | key :: path, entries =>
    match entries.lookup key with
    -- The key makes a table of its own, which takes more keys with dots.
    | none => do
      let inner ← insert true value path []
      return entries ++ [(key, .table .dotted inner)]
    -- A table with a header, and a value, are complete.
    | some (.table .opened _) | some (.value _) | some (.tables []) => none
    | some (.table origin inner) => do
      let inner ← insert (origin == .dotted) value path inner
      return replace entries key (.table origin inner)
    -- Inside an array of tables the newest element is meant.
    | some (.tables (newest :: older)) => do
      let newest ← insert false value path newest
      return replace entries key (.tables (newest :: older))

/-- Changes the table that the parts of a header lead to, making it where it is missing. -/
def within (change : Entries → Option Entries) : List String → Entries → Option Entries
  | [], entries => change entries
  | key :: path, entries =>
    match entries.lookup key with
    | none => do
      let inner ← within change path []
      return entries ++ [(key, .table .implied inner)]
    -- A value is no table, and an array has to have an element.
    | some (.value _) | some (.tables []) => none
    | some (.table origin inner) => do
      let inner ← within change path inner
      return replace entries key (.table origin inner)
    | some (.tables (newest :: older)) => do
      let newest ← within change path newest
      return replace entries key (.tables (newest :: older))

/-- Opens a table, which may have been implied before. -/
def openTable (key : String) (entries : Entries) : Option Entries :=
  match entries.lookup key with
  | none => some (entries ++ [(key, .table .opened [])])
  -- What longer headers put into the table stays there.
  | some (.table .implied inner) => some (replace entries key (.table .opened inner))
  -- A second header for the same table is not accepted.
  | some _ => none

/-- Opens one more table of an array of tables. -/
def openElement (key : String) (entries : Entries) : Option Entries :=
  match entries.lookup key with
  | none => some (entries ++ [(key, .tables [[]])])
  -- The new element becomes the one that later headers mean.
  | some (.tables older) => some (replace entries key (.tables ([] :: older)))
  | some _ => none

end Entries

mutual

/-- The value of a finished item. -/
def Item.toValue : Item → Value
  | .value value => value
  | .table _ entries => .table (Entries.toValues entries)
  | .tables newestFirst => .array (Entries.toTables newestFirst).reverse

/-- The values of a finished table. -/
def Entries.toValues : List (String × Item) → List (String × Value)
  | [] => []
  | (key, item) :: later => (key, item.toValue) :: Entries.toValues later

/-- The values of finished tables. -/
def Entries.toTables : List (List (String × Item)) → List Value
  | [] => []
  | entries :: later => .table (Entries.toValues entries) :: Entries.toTables later

end

end CompanionLink.Toml
