/-! What becomes of octets handed to a socket that never waits. -/

namespace CompanionLink

/-- What became of a send that does not wait. -/
inductive SendOutcome where
  /-- So many octets were taken. -/
  | sent (count : Nat)
  /-- Nothing can be taken now. -/
  | wouldBlock
  | failed (reason : String)
deriving DecidableEq, Repr, Inhabited

end CompanionLink
