import CompanionLink.Bytes

/-! What can be read from the start of a buffer after octets were laid over a part of it. -/

namespace CompanionLink

namespace Bytes

variable {buffer written : Bytes} {offset count : Nat}

/-- Up to the end of what was laid, the buffer is its old start and the new octets. -/
theorem take_overwrite (inside : offset ≤ buffer.length) (upTo : count = offset + written.length) :
    (overwrite buffer offset written).take count = buffer.take offset ++ written := by
  -- The cut falls right behind what was laid.
  have length : (buffer.take offset ++ written).length = count := by
    rw [List.length_append, List.length_take]
    omega
  rw [overwrite]
  exact List.take_left' length

end Bytes

end CompanionLink
