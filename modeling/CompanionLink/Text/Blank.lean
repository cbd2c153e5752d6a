/-! Blank characters and the text between them. -/

namespace CompanionLink

/-- The characters that Unicode calls white space. -/
def isBlank (c : Char) : Bool :=
  let code := c.toNat
  (0x09 ≤ code && code ≤ 0x0D) || code == 0x20 || code == 0x85 || code == 0xA0 || code == 0x1680
    || (0x2000 ≤ code && code ≤ 0x200A) || code == 0x2028 || code == 0x2029 || code == 0x202F
    || code == 0x205F || code == 0x3000

/-- A text without the blanks at its ends. -/
def trimBlanks (text : List Char) : List Char :=
  -- The end is trimmed as the front of the reversed text.
  ((text.dropWhile isBlank).reverse.dropWhile isBlank).reverse

end CompanionLink
