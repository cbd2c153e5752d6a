/-! Byte strings, their text, and the piece of a buffer that one receive fills. -/

namespace CompanionLink

/-- A finite sequence of octets. -/
abbrev Bytes := List UInt8

namespace Bytes

/-- The octets of a text in UTF-8. -/
def ofText (text : String) : Bytes := text.toByteArray.data.toList

/-- The text that the octets spell in UTF-8, if they are well formed. -/
def toText? (bytes : Bytes) : Option String := String.fromUTF8? ⟨bytes.toArray⟩

/-- The octets of ASCII characters, one for each. -/
def ofAscii (characters : List Char) : Bytes := characters.map fun c => c.toNat.toUInt8

/-- The buffer with `written` laid over it from `offset` on. -/
def overwrite (buffer : Bytes) (offset : Nat) (written : Bytes) : Bytes :=
  buffer.take offset ++ written ++ buffer.drop (offset + written.length)

/-- Whether `needle` occurs contiguously in a byte string. -/
def occursIn (needle : Bytes) : Bytes → Bool
  | [] => needle.isEmpty
  | byte :: rest => needle.isPrefixOf (byte :: rest) || occursIn needle rest

/-- Every text is read back from its own octets. -/
theorem toText?_ofText (text : String) : toText? (ofText text) = some text := by
  -- The octets of a text are well formed by construction.
  have valid := text.isValidUTF8
  simp [toText?, ofText, String.fromUTF8?, valid, String.fromUTF8]

/-- Laying bytes over a buffer that has room for them keeps its length. -/
theorem length_overwrite {buffer written : Bytes} {offset : Nat}
    (fits : offset + written.length ≤ buffer.length) :
    (overwrite buffer offset written).length = buffer.length := by
  -- What is cut out of the buffer is as long as what is laid over it.
  simp only [overwrite, List.length_append, List.length_take, List.length_drop]
  omega

/-- The contiguous search succeeds exactly when the byte string splits around the needle. -/
theorem occursIn_iff {needle bytes : Bytes} :
    occursIn needle bytes = true ↔ ∃ before after, bytes = before ++ needle ++ after := by
  -- The needle stands right in front or somewhere behind the first octet.
  induction bytes with
  | nil =>
    simp only [occursIn, List.isEmpty_iff]
    constructor
    · rintro rfl; exact ⟨[], [], rfl⟩
    · rintro ⟨before, after, split⟩
      simp_all [eq_comm]
  | cons byte rest ih =>
    simp only [occursIn, Bool.or_eq_true, ih, List.isPrefixOf_iff_prefix]
    constructor
    · rintro (⟨after, whole⟩ | ⟨before, after, whole⟩)
      · exact ⟨[], after, by simp [whole]⟩
      · exact ⟨byte :: before, after, by simp [whole]⟩
    · rintro ⟨before, after, whole⟩
      cases before with
      | nil => exact .inl ⟨after, by simp [whole]⟩
      | cons first before =>
        simp only [List.cons_append, List.cons.injEq] at whole
        exact .inr ⟨before, after, whole.2⟩

end Bytes

end CompanionLink
