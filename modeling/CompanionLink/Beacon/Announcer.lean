import CompanionLink.Net.Address

/-! What the life cycle of the link asks of the component that announces the device. -/

namespace CompanionLink

/-- Why announcing failed. -/
inductive BeaconError where
  /-- No socket for announcements could be opened. -/
  | socket (reason : String)
  /-- An announcement could not be sent, which ends announcing. -/
  | send (target : SocketAddress) (reason : String)
deriving DecidableEq, Repr, Inhabited

/-- The text of a beacon error. -/
def BeaconError.message : BeaconError → String
  | .socket reason => "failed to open beacon socket: " ++ reason
  | .send target reason => "failed to send beacon to " ++ target.toText ++ ": " ++ reason

/-- A component that announces the device at regular intervals. -/
class Announcer (β : Type) where
  /-- Opens the socket and sends the first announcement to a target. -/
  start : β → Ipv4Address → Except BeaconError Unit × β
  /-- Closes the socket. -/
  stop : β → β
  /-- Lets milliseconds pass, and tells whether an announcement was sent. -/
  tick : β → Nat → Except BeaconError Bool × β
  /-- Whether the socket is open. -/
  isRunning : β → Bool

end CompanionLink
