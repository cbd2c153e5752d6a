import CompanionLink.Beacon.Announcer
import CompanionLink.Beacon.Packet

/-! An announcer that counts what it would have sent and can be told to fail. -/

namespace CompanionLink

/-- The state of the counting announcer. -/
structure AnnouncerDouble where
  running : Bool := false
  /-- The targets it was started towards, oldest first. -/
  targets : List Ipv4Address := []
  /-- How often it stopped while running. -/
  stops : Nat := 0
  /-- How many announcements it sent. -/
  sent : Nat := 0
  /-- The time since the last announcement, in milliseconds. -/
  sinceLast : Nat := 0
  /-- Whether starting fails. -/
  failsStart : Bool := false
  /-- Whether the next announcement fails. -/
  failsNextSend : Bool := false
deriving DecidableEq, Repr, Inhabited

namespace AnnouncerDouble

/-- Sends one announcement; a failure stops announcing. -/
def send (announcer : AnnouncerDouble) : Except BeaconError Unit × AnnouncerDouble :=
  if announcer.failsNextSend then
    -- The failure was prepared for one announcement only.
    (.error (.send ⟨.limitedBroadcast, beaconPort⟩ "injected send failure"),
      { announcer with failsNextSend := false, running := false, stops := announcer.stops + 1 })
  else (.ok (), { announcer with sent := announcer.sent + 1 })

/-- Starts towards a target with a first announcement. -/
def start (announcer : AnnouncerDouble) (target : Ipv4Address) :
    Except BeaconError Unit × AnnouncerDouble :=
  if announcer.failsStart then (.error (.socket "injected socket failure"), announcer)
  else
    send
      -- The target counts as tried even if the first announcement fails.
      { announcer with running := true, sinceLast := 0, targets := announcer.targets ++ [target] }

/-- Stops, if it is running. -/
def stop (announcer : AnnouncerDouble) : AnnouncerDouble :=
  if announcer.running then { announcer with running := false, stops := announcer.stops + 1 }
  else announcer

/-- Lets time pass. When the interval is over, an announcement is sent and the time starts anew. -/
def tick (announcer : AnnouncerDouble) (elapsed : Nat) :
    Except BeaconError Bool × AnnouncerDouble :=
  if !announcer.running then (.ok false, announcer)
  else if announcer.sinceLast + elapsed < beaconInterval then
    (.ok false, { announcer with sinceLast := announcer.sinceLast + elapsed })
  else
    -- The time beyond the interval is not carried over.
    let (outcome, announcer) := send { announcer with sinceLast := 0 }
    (outcome.map fun _ => true, announcer)

/-- The counting announcer stands for a real one. -/
instance : Announcer AnnouncerDouble where
  start := start
  stop := stop
  tick := tick
  isRunning announcer := announcer.running

end AnnouncerDouble

end CompanionLink
