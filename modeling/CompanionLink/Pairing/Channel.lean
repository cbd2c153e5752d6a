import CompanionLink.Net.Address
import CompanionLink.Pairing.Frame

/-! What the life cycle of the link asks of the channel that serves one paired client. -/

namespace CompanionLink

/-- Why the pairing channel failed. -/
inductive ChannelError where
  /-- The port could not be bound. -/
  | bind (port : UInt16) (reason : String)
  /-- The bound port could not be listened on. -/
  | listen (port : UInt16) (reason : String)
  /-- A waiting client could not be taken. -/
  | accept (reason : String)
  /-- The channel is not listening. -/
  | notListening
deriving DecidableEq, Repr, Inhabited

/-- The text of a channel error. -/
def ChannelError.message : ChannelError → String
  | .bind port reason =>
    "failed to bind pairing channel on port " ++ toString port.toNat ++ ": " ++ reason
  | .listen port reason => "failed to listen on port " ++ toString port.toNat ++ ": " ++ reason
  | .accept reason => "accept failed: " ++ reason
  | .notListening => "pairing channel is not listening"

/-- What an attempt to take a waiting client came to. -/
inductive AcceptOutcome where
  | accepted (peer : SocketAddress)
  /-- No client is waiting, or one is being served. -/
  | nonePending
deriving DecidableEq, Repr, Inhabited

/-- How many octets a read delivered, at the start of the buffer it leaves. -/
structure Delivery where
  count : Nat
  buffer : Bytes
deriving DecidableEq, Repr, Inhabited

/-- A delivery's octets. -/
def Delivery.bytes (delivery : Delivery) : Bytes := delivery.buffer.take delivery.count

/-- A channel that serves one client at a time. -/
class PairingChannel (χ : Type) where
  /-- Listens on a port; nothing changes while the channel listens already. -/
  listen : χ → UInt16 → Except ChannelError Unit × χ
  isListening : χ → Bool
  /-- Takes a waiting client, if no client is being served. -/
  accept : χ → Except ChannelError AcceptOutcome × χ
  hasClient : χ → Bool
  /-- Where the reader of the client's stream stands. -/
  reader : χ → FrameReader
  /-- Reads once into a buffer. -/
  read : χ → Bytes → Delivery × χ
  /-- Writes what one attempt takes and tells how many octets that were. -/
  write : χ → Bytes → Nat × χ
  /-- Drops the client and goes on listening. -/
  close : χ → χ
  /-- Drops the client and stops listening. -/
  shutdown : χ → χ

end CompanionLink
