import CompanionLink.Text.Cut

/-!
What cutting a text finds: the pieces between its separators, the field of a line, the number that
digits denote. Text that was put together from such parts is cut into them again.
-/

namespace CompanionLink

/-- What separates the lines of a text. -/
def lineEnd : List Char := ['\r', '\n']

/-- The pieces of a text between its separators. -/
structure IsCut (text : List Char) (pieces : List (List Char)) : Prop where
  some : pieces ≠ []
  whole : lineEnd.intercalate pieces = text
  unbroken : ∀ piece ∈ pieces, ¬ lineEnd <:+: piece

/-- The key and the value of a line: what stands before its first separator and behind it. -/
structure IsField (line key value : List Char) : Prop where
  whole : line = key ++ ':' :: ' ' :: value
  first {before after : List Char} (splits : line = before ++ ':' :: ' ' :: after) :
    key.length ≤ before.length

/-- A text denotes a number by one or more decimal digits, which a plus sign may precede. -/
def IsNumeral (text : List Char) (n : Nat) : Prop :=
  ∃ digits, (text = digits ∨ text = '+' :: digits) ∧ digits ≠ [] ∧
    (∀ c ∈ digits, c.isDigit = true) ∧ Nat.ofDigitChars 10 digits 0 = n

section Lines

variable {text piece : List Char} {pieces : List (List Char)}

/-- Every text has a first piece. -/
theorem cutLines_ne_nil (text : List Char) : cutLines text ≠ [] := by
  -- A separator opens a piece, and a character joins the first one there is.
  fun_induction cutLines text with
  | case1 | case2 => nofun
  | case3 c later whole ih =>
    cases pieces : cutLines later with
    | nil => exact absurd pieces ih
    | cons => nofun

/-- A separator between two texts is one of the text that they make. -/
theorem cutLines_append (text rest : List Char) :
    cutLines (text ++ '\r' :: '\n' :: rest) = cutLines text ++ cutLines rest := by
  fun_induction cutLines text with
  | case1 => rfl
  -- A separator cuts off an empty piece on both sides.
  | case2 later ih => exact congrArg ([] :: ·) ih
  | case3 c later whole ih =>
    -- No separator begins with the last character of the first text and ends in the one behind it.
    have apart : ∀ after, c = '\r' → later ++ '\r' :: '\n' :: rest = '\n' :: after → False := by
      intro after carriage begins
      cases later with
      | nil => exact absurd (List.cons.inj begins).1 (by decide)
      | cons d later => exact whole later carriage (by rw [(List.cons.inj begins).1])
    rw [List.cons_append, cutLines.eq_3 _ _ apart, ih]
    cases pieces : cutLines later with
    | nil => exact absurd pieces (cutLines_ne_nil later)
    | cons => rfl

/-- A text without a separator is one piece. -/
theorem cutLines_unbroken (unbroken : ¬ lineEnd <:+: piece) : cutLines piece = [piece] := by
  -- The cut finds no separator, so every character joins the one piece.
  fun_induction cutLines piece with
  | case1 => rfl
  | case2 later => exact absurd ⟨[], later, rfl⟩ unbroken
  | case3 c later whole ih =>
    rw [ih fun inside => unbroken (inside.trans (List.suffix_cons c later).isInfix)]
    rfl

/-- A line without a carriage return in it is cut off as a whole. -/
theorem cutLines_line {rest : List Char} (plain : '\r' ∉ piece) :
    cutLines (piece ++ '\r' :: '\n' :: rest) = piece :: cutLines rest := by
  -- A separator begins with a carriage return, and the line has none.
  have unbroken : ¬ lineEnd <:+: piece :=
    fun inside => plain (inside.subset (List.mem_cons_self ..))
  rw [cutLines_append, cutLines_unbroken unbroken, List.singleton_append]

/-- A further piece stands before the others and a separator. -/
theorem intercalate_cons (some : pieces ≠ []) :
    lineEnd.intercalate (piece :: pieces) = piece ++ lineEnd ++ lineEnd.intercalate pieces := by
  -- There is a next piece, which the separator stands before.
  obtain ⟨next, later, rfl⟩ := List.exists_cons_of_ne_nil some
  exact List.intercalate_cons_cons

/-- Texts that are put together with separators are cut one by one. -/
theorem cutLines_intercalate (some : pieces ≠ []) :
    cutLines (lineEnd.intercalate pieces) = pieces.flatMap cutLines := by
  -- Every separator between two of the texts is one of the whole.
  induction pieces with
  | nil => exact absurd rfl some
  | cons piece later ih =>
    by_cases last : later = []
    · rw [last, List.intercalate_singleton, List.flatMap_singleton]
    · have joined : lineEnd.intercalate (piece :: later) =
          piece ++ '\r' :: '\n' :: lineEnd.intercalate later := by
        rw [intercalate_cons last, List.append_assoc]
        rfl
      rw [joined, cutLines_append, ih last, List.flatMap_cons]

/-- Pieces without a separator are not cut any further. -/
theorem flatMap_cutLines_unbroken (unbroken : ∀ piece ∈ pieces, ¬ lineEnd <:+: piece) :
    pieces.flatMap cutLines = pieces := by
  -- Each piece is cut into itself, one after the other.
  induction pieces with
  | nil => rfl
  | cons piece later ih =>
    obtain ⟨first, others⟩ := List.forall_mem_cons.mp unbroken
    rw [List.flatMap_cons, cutLines_unbroken first, ih others, List.singleton_append]

/-- The pieces make the text again. -/
theorem intercalate_cutLines (text : List Char) : lineEnd.intercalate (cutLines text) = text := by
  fun_induction cutLines text with
  | case1 => rfl
  -- What was cut off is put back as an empty piece and its separator.
  | case2 later ih =>
    rw [intercalate_cons (cutLines_ne_nil later), ih]
    rfl
  | case3 c later whole ih =>
    obtain ⟨next, others, cut⟩ := List.exists_cons_of_ne_nil (cutLines_ne_nil later)
    rw [cut] at ih ⊢
    -- The first character goes in front of the first piece, and so of all of them.
    cases others with
    | nil => exact congrArg (c :: ·) ih
    | cons => exact congrArg (c :: ·) ih

/-- No piece holds a separator. -/
theorem unbroken_of_mem_cutLines (listed : piece ∈ cutLines text) : ¬ lineEnd <:+: piece := by
  -- The induction follows the cut, and a piece that grows at its front stays unbroken.
  fun_induction cutLines text generalizing piece with
  | case1 =>
    obtain rfl := List.mem_singleton.mp listed
    decide
  -- The piece is the empty one that was cut off, or one from behind the separator.
  | case2 later ih =>
    rcases List.mem_cons.mp listed with rfl | listed
    · decide
    · exact ih listed
  | case3 c later whole ih =>
    -- The rest is known from its pieces, so what begins it can be told.
    have again := intercalate_cutLines later
    obtain ⟨next, others, cut⟩ := List.exists_cons_of_ne_nil (cutLines_ne_nil later)
    rw [cut] at ih listed again
    rcases List.mem_cons.mp listed with rfl | listed
    · intro inside
      -- A separator inside begins at the new character or further behind.
      rcases List.infix_cons_iff.mp inside with ⟨tail, begins⟩ | inside
      · -- A line feed behind a carriage return would have been cut off as a separator.
        obtain ⟨carriage, begins⟩ := List.cons.inj begins
        rw [← begins] at again
        have feed : ∃ after, later = '\n' :: after := by
          cases others with
          | nil => exact ⟨_, again.symm⟩
          | cons => exact ⟨_, again.symm⟩
        exact whole feed.choose carriage.symm feed.choose_spec
      · exact ih (List.mem_cons_self ..) inside
    · exact ih (List.mem_cons_of_mem _ listed)

/-- Cutting finds the pieces of a text. -/
theorem isCut_iff : IsCut text pieces ↔ cutLines text = pieces := by
  constructor
  -- Pieces that are put together are cut again, and no further.
  · rintro ⟨some, rfl, unbroken⟩
    rw [cutLines_intercalate some]
    exact flatMap_cutLines_unbroken unbroken
  -- What is cut has the three properties of pieces.
  · rintro rfl
    exact ⟨cutLines_ne_nil text, intercalate_cutLines text, fun _ => unbroken_of_mem_cutLines⟩

end Lines

section Fields

variable {line key value : List Char}

/-- A field is cut behind its key, whatever its value holds. -/
theorem cutField?_append {key : List Char} (plain : ':' ∉ key) (value : List Char) :
    cutField? (key ++ ':' :: ' ' :: value) = some (key, value) := by
  induction key with
  -- An empty key ends where the line begins.
  | nil => rfl
  | cons c later ih =>
    rw [List.mem_cons, not_or] at plain
    -- The search goes on behind a character that is no colon.
    rw [List.cons_append, cutField?]
    · rw [ih plain.2, Option.map_some]
    · rintro after rfl
      exact absurd rfl plain.1

/-- Any separator in a line gives it a field. -/
theorem exists_cutField? (before after : List Char) :
    ∃ field, cutField? (before ++ ':' :: ' ' :: after) = some field := by
  -- By induction on what stands in front of the separator.
  induction before with
  | nil => exact ⟨_, rfl⟩
  | cons c later ih =>
    obtain ⟨field, found⟩ := ih
    rw [List.cons_append]
    -- Either the field is found here already, or it is the one found behind this character.
    generalize later ++ ':' :: ' ' :: after = rest at found ⊢
    rw [cutField?.eq_def]
    split
    · contradiction
    · exact ⟨_, rfl⟩
    · next c' rest' whole same =>
      obtain ⟨rfl, rfl⟩ := List.cons.inj same
      exact ⟨_, by rw [found, Option.map_some]⟩

/-- What is found is the field of the line. -/
theorem isField_of_cutField? (found : cutField? line = some (key, value)) :
    IsField line key value := by
  fun_induction cutField? line generalizing key with
  | case1 => cases found
  -- The separator stands first, and nothing can be shorter than no key.
  | case2 rest =>
    cases found
    exact ⟨rfl, fun _ => Nat.zero_le _⟩
  | case3 c rest whole ih =>
    obtain ⟨⟨later, behind⟩, found, same⟩ := Option.map_eq_some_iff.mp found
    cases same
    obtain ⟨joined, first⟩ := ih found
    refine ⟨by rw [joined, List.cons_append], fun {before after} splits => ?_⟩
    -- An earlier separator would have been found in place of this one.
    cases before with
    | nil =>
      obtain ⟨colon, space⟩ := List.cons.inj splits
      exact (whole _ colon space).elim
    | cons d before => exact Nat.succ_le_succ (first (List.cons.inj splits).2)

/-- A line is cut into its field. -/
theorem isField_iff : IsField line key value ↔ cutField? line = some (key, value) := by
  refine ⟨fun field => ?_, isField_of_cutField?⟩
  obtain ⟨⟨key', value'⟩, found⟩ := exists_cutField? key value
  rw [← field.whole] at found
  have other := isField_of_cutField? found
  -- Two first separators stand at the same place.
  have same := Nat.le_antisymm (field.first other.whole) (other.first field.whole)
  obtain ⟨rfl, rest⟩ := List.append_inj (field.whole.symm.trans other.whole) same
  rw [found, (List.cons.inj (List.cons.inj rest).2).2]

end Fields

section Numerals

variable {text digits : List Char} {n : Nat}

/-- The value of digits is that of the library. -/
theorem decimalValue_eq (digits : List Char) :
    decimalValue digits = Nat.ofDigitChars 10 digits 0 := by
  -- The two differ in the order of a product.
  simp only [decimalValue, Nat.ofDigitChars, Nat.mul_comm]

/-- Digits behind a plus sign are read as their value. -/
theorem readDecimal?_signed (some : digits ≠ []) (all : ∀ c ∈ digits, c.isDigit = true) :
    readDecimal? ('+' :: digits) = Option.some (Nat.ofDigitChars 10 digits 0) := by
  -- The sign is dropped, and what is left is read as digits.
  simp [readDecimal?, some, List.all_eq_true.mpr all, decimalValue_eq]

/-- Digits are read as their value. -/
theorem readDecimal?_digits (some : digits ≠ []) (all : ∀ c ∈ digits, c.isDigit = true) :
    readDecimal? digits = Option.some (Nat.ofDigitChars 10 digits 0) := by
  -- Digits alone have no sign to take off.
  unfold readDecimal?
  split
  · -- A plus sign is no digit, so no number begins with one.
    next rest =>
    have plus : Char.isDigit '+' = true := all '+' (List.mem_cons_self ..)
    exact absurd plus (by decide)
  · simp [some, List.all_eq_true.mpr all, decimalValue_eq]

/-- A numeral is read as the number that it denotes. -/
theorem isNumeral_iff : IsNumeral text n ↔ readDecimal? text = some n := by
  constructor
  -- rfl, some, all, rfl⟩
  · rintro ⟨digits, rfl | rfl, some, all, rfl⟩
    · exact readDecimal?_digits some all
    · exact readDecimal?_signed some all
  · intro read
    -- What is read are the characters behind a plus sign, or all of them.
    obtain ⟨digits, stands, reads⟩ : ∃ digits, (text = digits ∨ text = '+' :: digits) ∧
        readDecimal? text = if digits.isEmpty || !digits.all Char.isDigit then none
          else some (decimalValue digits) := by
      unfold readDecimal?
      split
      · exact ⟨_, .inr rfl, rfl⟩
      · exact ⟨_, .inl rfl, rfl⟩
    rw [reads] at read
    split at read
    · cases read
    · next plain =>
      rw [Bool.not_eq_true, Bool.or_eq_false_iff, List.isEmpty_eq_false_iff,
        Bool.not_eq_false', List.all_eq_true] at plain
      exact ⟨digits, stands, plain.1, plain.2,
        (decimalValue_eq digits).symm.trans (Option.some.inj read)⟩

/-- A number is read back from its digits. -/
theorem readDecimal?_toDigits (n : Nat) : readDecimal? (Nat.toDigits 10 n) = some n := by
  -- The library gives digits only, and reads them back.
  have digits : ∀ c ∈ Nat.toDigits 10 n, c.isDigit = true :=
    fun c listed => Nat.isDigit_of_mem_toDigits (by decide) (by decide) listed
  rw [readDecimal?_digits (by simp) digits, Nat.ofDigitChars_toDigits (by decide) (by decide)]

end Numerals

end CompanionLink
