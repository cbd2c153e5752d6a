import CompanionLink.Beacon.Announcer
import CompanionLink.Beacon.Packet
import CompanionLink.Net.SendOutcome

/-! The announcer that sends datagrams, reading the device's identity anew for each of them. -/

namespace CompanionLink

/-- A host that sends datagrams. -/
class DatagramHost (ν : Type) where
  /-- Opens a socket that may broadcast. -/
  openSocket : ν → Except String ν
  send : ν → SocketAddress → Bytes → SendOutcome × ν

/-- The device's identity at the moment. -/
class DeviceIdentity (ι : Type) where
  serialNumber : ι → String
  friendlyName : ι → String

/-- The ports and the timing of announcements. -/
structure BeaconSettings where
  /-- The port that announcements are sent to. -/
  port : UInt16 := beaconPort
  /-- The pairing port that announcements tell. -/
  pairingPort : UInt16 := pairingPort
  /-- The time between two announcements, in milliseconds. -/
  interval : Nat := beaconInterval
deriving DecidableEq, Repr, Inhabited

/-- The announcer over a host and an identity. -/
structure Transmitter (ι ν : Type) where
  identity : ι
  host : ν
  settings : BeaconSettings
  /-- Whether the socket is open. -/
  running : Bool := false
  target : SocketAddress := ⟨.limitedBroadcast, settings.port⟩
  /-- The time since the last announcement, in milliseconds. -/
  sinceLast : Nat := 0

namespace Transmitter

variable {ι ν : Type} [DeviceIdentity ι] [DatagramHost ν]

/-- What the next announcement says. -/
def packet (transmitter : Transmitter ι ν) : BeaconPacket where
  serial := DeviceIdentity.serialNumber transmitter.identity
  port := transmitter.settings.pairingPort
  name := DeviceIdentity.friendlyName transmitter.identity

/-- Closes the socket and forgets the time that has passed. -/
def stop (transmitter : Transmitter ι ν) : Transmitter ι ν :=
  { transmitter with running := false, sinceLast := 0 }

/-- Sends one announcement; a full send queue skips it, a failure stops announcing. -/
def announce (transmitter : Transmitter ι ν) : Except BeaconError Unit × Transmitter ι ν :=
  if transmitter.running then
    match DatagramHost.send transmitter.host transmitter.target transmitter.packet.encode with
    | (.failed reason, host) =>
      (.error (.send transmitter.target reason), { transmitter with host }.stop)
    -- An announcement that found the queue full is made up for by the next one.
    | (_, host) => (.ok (), { transmitter with host })
  else (.ok (), transmitter)

/-- Starts anew towards a target and sends the first announcement. -/
def start (transmitter : Transmitter ι ν) (target : Ipv4Address) :
    Except BeaconError Unit × Transmitter ι ν :=
  match DatagramHost.openSocket transmitter.host with
  | .error reason => (.error (.socket reason), transmitter.stop)
  | .ok host =>
    announce
      -- A socket that was open before goes, and with it the time that had passed.
      { transmitter with
        host, running := true, sinceLast := 0, target := ⟨target, transmitter.settings.port⟩ }

/-- Lets time pass. When the interval is over, an announcement is sent and the time starts anew. -/
def tick (transmitter : Transmitter ι ν) (elapsed : Nat) :
    Except BeaconError Bool × Transmitter ι ν :=
  if !transmitter.running then (.ok false, transmitter)
  else if transmitter.sinceLast + elapsed < transmitter.settings.interval then
    (.ok false, { transmitter with sinceLast := transmitter.sinceLast + elapsed })
  else
    -- The time beyond the interval is not carried over, and it starts anew after a failure, too.
    let (outcome, transmitter) := announce { transmitter with sinceLast := 0 }
    (outcome.map fun _ => true, transmitter)

/-- The transmitter announces as it is asked to, whatever host it has. -/
instance : Announcer (Transmitter ι ν) where
  start := start
  stop := stop
  tick := tick
  isRunning transmitter := transmitter.running

end Transmitter

end CompanionLink
