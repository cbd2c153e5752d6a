import CompanionLink.Bytes

/-! The octets of a text, character by character. -/

namespace CompanionLink

namespace Bytes

/-- The octets of a text are those of its characters in a row. -/
theorem ofText_ofList (characters : List Char) :
    ofText (String.ofList characters) = characters.flatMap String.utf8EncodeChar := by
  -- Encoding a text goes over its characters.
  simp [ofText, List.utf8Encode]

/-- The text that octets spell is the one that has them. -/
theorem toText?_eq_some_iff {bytes : Bytes} {text : String} :
    toText? bytes = some text ↔ ofText text = bytes := by
  constructor
  -- What is spelled has been found valid, and its octets are those given.
  · intro spelled
    unfold toText? String.fromUTF8? at spelled
    split at spelled
    · cases spelled
      exact List.toList_toArray
    · cases spelled
  -- The octets of a text are valid.
  · rintro rfl
    exact toText?_ofText text

/-- A character beyond the lower half has octets of the upper half only. -/
theorem le_toNat_of_mem_utf8EncodeChar {c : Char} (long : ¬ c.val.toNat ≤ 127) :
    ∀ octet ∈ String.utf8EncodeChar c, 128 ≤ octet.toNat := by
  -- Each of the three longer forms marks all its octets by their upper bit.
  simp only [String.utf8EncodeChar, if_neg long]
  split
  · simp only [List.forall_mem_cons, UInt8.toNat_ofNat']
    exact ⟨by omega, by omega, by simp⟩
  · split
    · simp only [List.forall_mem_cons, UInt8.toNat_ofNat']
      exact ⟨by omega, by omega, by omega, by simp⟩
    · simp only [List.forall_mem_cons, UInt8.toNat_ofNat']
      exact ⟨by omega, by omega, by omega, by omega, by simp⟩

/-- An octet of the lower half stands for the character of its number, in whatever text. -/
theorem toNat_eq_of_mem_utf8EncodeChar {c : Char} {octet : UInt8} (lower : octet.toNat < 128)
    (listed : octet ∈ String.utf8EncodeChar c) : c.toNat = octet.toNat := by
  -- An octet below 128 stands only in the short form.
  have size : c.toNat = c.val.toNat := rfl
  by_cases short : c.val.toNat ≤ 127
  · -- The short form is the number itself.
    simp only [String.utf8EncodeChar, if_pos short, List.mem_singleton] at listed
    rw [listed, UInt8.toNat_ofNat', size]
    omega
  -- Every octet of the longer forms is 128 or more.
  · have upper := le_toNat_of_mem_utf8EncodeChar short octet listed
    omega

/-- A text without a character of the lower half has no octet for it. -/
theorem not_mem_octets {characters : List Char} {mark : Char} {octet : UInt8}
    (lower : octet.toNat < 128) (number : mark.toNat = octet.toNat) (absent : mark ∉ characters) :
    octet ∉ characters.flatMap String.utf8EncodeChar := by
  intro listed
  obtain ⟨c, member, within⟩ := List.mem_flatMap.mp listed
  -- The octet can only come from the character of its number, which is not there.
  have same : c = mark := by
    apply Char.toNat_inj.mp
    rw [toNat_eq_of_mem_utf8EncodeChar lower within, number]
  exact absent (same ▸ member)

/-- The octets of characters in a row. -/
def octets (characters : List Char) : Bytes := characters.flatMap String.utf8EncodeChar

/-- No characters have no octets. -/
@[simp]
theorem octets_nil : octets [] = [] := rfl

/-- The octets of a character stand before those of the others. -/
@[simp]
theorem octets_cons (c : Char) (characters : List Char) :
    octets (c :: characters) = String.utf8EncodeChar c ++ octets characters :=
  List.flatMap_cons

/-- The octets of two texts in a row are those of the one and those of the other. -/
@[simp]
theorem octets_append (characters others : List Char) :
    octets (characters ++ others) = octets characters ++ octets others :=
  List.flatMap_append

/-- The octets of characters spell the text that they make. -/
theorem toText?_octets (characters : List Char) :
    toText? (octets characters) = some (.ofList characters) :=
  toText?_eq_some_iff.mpr (ofText_ofList characters)

/-- No other characters have the same octets. -/
theorem octets_injective : Function.Injective octets := by
  -- What has the octets is found again by decoding them.
  intro characters others same
  have texts := congrArg toText? same
  rw [toText?_octets, toText?_octets, Option.some_inj] at texts
  exact String.ofList_injective texts

/-- A character with an octet of the lower half has no other. -/
theorem utf8EncodeChar_eq_singleton {c : Char} {octet : UInt8} (lower : octet.toNat < 128)
    (listed : octet ∈ String.utf8EncodeChar c) : String.utf8EncodeChar c = [octet] := by
  -- Such a character has the short form, which is one octet.
  have size : c.val.toNat = octet.toNat := toNat_eq_of_mem_utf8EncodeChar lower listed
  have short : c.val.toNat ≤ 127 := by omega
  simp only [String.utf8EncodeChar, if_pos short, List.mem_singleton] at listed ⊢
  rw [listed]

/-- An octet of the lower half parts a text into what stands before its character and behind it. -/
theorem exists_split_octets {characters : List Char} {front rest : Bytes} {mark : UInt8}
    (lower : mark.toNat < 128) (spelled : octets characters = front ++ mark :: rest) :
    ∃ before c after, characters = before ++ c :: after ∧ octets before = front ∧
      octets after = rest := by
  induction characters generalizing front with
  -- No characters leave no room for the octet.
  | nil => simp at spelled
  | cons c later ih =>
    rw [octets_cons] at spelled
    rcases List.append_eq_append_iff.mp spelled with ⟨front', rfl, behind⟩ | ⟨own, ends, behind⟩
    · -- The octet comes behind those of the first character.
      obtain ⟨before, d, after, rfl, rfl, last⟩ := ih behind
      exact ⟨c :: before, d, after, rfl, octets_cons c before, last⟩
    · cases own with
      | nil =>
        -- It is the first octet behind them.
        have begins : octets later = [] ++ mark :: rest := behind.symm
        obtain ⟨before, d, after, rfl, first, last⟩ := ih begins
        exact ⟨c :: before, d, after, rfl, by simp [first, ends], last⟩
      | cons octet own =>
        -- The octet is one of the first character, which then has no other.
        obtain ⟨rfl, rfl⟩ := List.cons.inj behind
        have single := utf8EncodeChar_eq_singleton lower (by rw [ends]; simp)
        rw [single] at ends
        cases front with
        | nil =>
          obtain rfl : own = [] := by simpa using ends
          exact ⟨[], c, later, rfl, rfl, rfl⟩
        | cons => simp at ends

end Bytes

end CompanionLink
