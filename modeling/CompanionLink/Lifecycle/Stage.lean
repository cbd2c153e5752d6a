import CompanionLink.Beacon.Packet
import CompanionLink.Net.Address

/-! The stages that a link goes through, the outcome of an operation on it, and its settings. -/

namespace CompanionLink

/-- How an operation came out. -/
inductive Status where
  /-- It was done, or taken over to be done later. -/
  | ok
  /-- It has to wait for one that is going on. -/
  | busy
  | fail
deriving DecidableEq, Repr, Inhabited

/-- Whether a result is a success. -/
def Status.ofExcept {ε α : Type} : Except ε α → Status
  | .ok _ => .ok
  | .error _ => .fail

/-- The stages of a link, in the order in which a link goes through them. -/
inductive Stage where
  /-- The radio is not in use. -/
  | off
  /-- The radio was powered on and has not reported so far. -/
  | powering
  /-- The radio has just come up. -/
  | powered
  /-- A search may begin. -/
  | ready
  /-- A search is to be requested. -/
  | searching
  /-- The results of a search are coming in. -/
  | settling
  /-- The listing is up to date. -/
  | listed
  /-- An access point is being joined. -/
  | joining
  /-- The link to an access point is up. -/
  | joined
  /-- The access point has leased an address. -/
  | leased
  /-- The beacon is to be opened. -/
  | opening
  /-- The first announcement is out. -/
  | announced
  /-- Announcements go out at intervals. -/
  | visible
  /-- The pairing channel is to be opened. -/
  | offering
  /-- The pairing channel waits for a client. -/
  | listening
  /-- A client is paired. -/
  | paired
  /-- The link is shut down for good. -/
  | closed
deriving DecidableEq, Repr, Inhabited

namespace Stage

/-- The position of a stage in the order. -/
def rank (stage : Stage) : Nat := stage.ctorIdx

/-- The stages compare by their position in the order. -/
instance : Ord Stage := ⟨fun stage other => compare stage.rank other.rank⟩

/-- A stage comes no later than another if its position is no greater. -/
instance : LE Stage := ⟨fun stage other => stage.rank ≤ other.rank⟩

/-- Positions are numbers, so the order of stages can be tested. -/
instance (stage other : Stage) : Decidable (stage ≤ other) := Nat.decLe stage.rank other.rank

/-- Whether announcements go out at intervals in a stage. -/
def isVisible (stage : Stage) : Bool :=
  -- The closed stage stands last in the order but is no way up.
  visible ≤ stage && stage != closed

/-- Whether the link to an access point is up in a stage. -/
def hasLink (stage : Stage) : Bool :=
  -- As for visibility, the closed stage is taken out.
  joined ≤ stage && stage != closed

end Stage

/--
The timing, ports and habits of a link.

Times are in milliseconds, here and wherever time passes. They are added up and compared and nothing
else, so no law depends on the unit.
-/
structure LinkSettings where
  pairingPort : UInt16 := CompanionLink.pairingPort
  /-- Where announcements go when the subnet is not known. -/
  fallbackTarget : Ipv4Address := .limitedBroadcast
  /-- How long the radio may take to come up. -/
  powerTimeout : Nat := 10000
  /-- How long the results of a search come in. -/
  searchSettle : Nat := 20000
  /-- The time between the first announcement and regular ones. -/
  announceGrace : Nat := 2000
  /-- How long a join may take. -/
  joinTimeout : Nat := 30000
  /-- Whether a search begins as soon as the radio is ready. -/
  autoScan : Bool := true
deriving DecidableEq, Repr, Inhabited

end CompanionLink
