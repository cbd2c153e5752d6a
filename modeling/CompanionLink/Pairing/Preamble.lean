import CompanionLink.Bytes

/-! The text preamble that a companion sends before frames, and the search for its marker. -/

namespace CompanionLink

/-- The octets `ET /target?sn=`, which mark a companion's request. -/
def handshakeMarker : Bytes :=
  .ofAscii ['E', 'T', ' ', '/', 't', 'a', 'r', 'g', 'e', 't', '?', 's', 'n', '=']

/-- The octets `Accept:EV340` and two line ends, the answer to a companion's request. -/
def handshakeReply : Bytes :=
  .ofAscii ['A', 'c', 'c', 'e', 'p', 't', ':', 'E', 'V', '3', '4', '0', '\r', '\n', '\r', '\n']

/-- How many octets are searched for the marker before the client is turned away. -/
def preambleLimit : Nat := 100

/-- The octets of a client's preamble seen so far. -/
structure Preamble where
  seen : Bytes := []
deriving DecidableEq, Repr, Inhabited

/-- What the octets seen so far say about a client. -/
inductive PreambleVerdict where
  /-- The marker was seen. -/
  | matched
  /-- The marker may still come. -/
  | pending
  /-- The limit was reached without the marker. -/
  | rejected
deriving DecidableEq, Repr, Inhabited

namespace Preamble

/-- How many more octets belong to the searched part. -/
def room (preamble : Preamble) : Nat := preambleLimit - preamble.seen.length

/-- The verdict on the octets seen so far. -/
def verdict (preamble : Preamble) : PreambleVerdict :=
  -- The marker counts wherever it stands, also if it ends at the limit.
  if Bytes.occursIn handshakeMarker preamble.seen then .matched
  else if preambleLimit ≤ preamble.seen.length then .rejected
  else .pending

/-- The preamble after more octets arrived; those past the limit are dropped. -/
def extend (preamble : Preamble) (bytes : Bytes) : Preamble :=
  -- A caller that asks for no more than the room never loses octets here.
  ⟨preamble.seen ++ bytes.take preamble.room⟩

/-- Takes more octets and judges the whole. -/
def feed (preamble : Preamble) (bytes : Bytes) : PreambleVerdict × Preamble :=
  ((preamble.extend bytes).verdict, preamble.extend bytes)

end Preamble

end CompanionLink
