import CompanionLink.Double.Announcer
import CompanionLink.Double.Channel
import CompanionLink.Double.Manager
import CompanionLink.Lifecycle.Command
import CompanionLink.Lifecycle.Tick

/-!
Runs of a link over a prepared manager, announcer and channel: everything that can happen to it,
from inside and from outside, as one operation after another.
-/

namespace CompanionLink

/-- A link whose manager, announcer and channel are prepared from outside. -/
abbrev Bench := Link ManagerDouble AnnouncerDouble ChannelDouble

/-- Something that happens to a link. -/
inductive Operation where
  | tick (elapsed : Nat)
  | setPower (on : Bool)
  | connect (index : Nat)
  | scan
  | forget (index : Nat)
  | moveUp (index : Nat)
  | moveDown (index : Nat)
  | read (buffer : Bytes)
  | write (bytes : Bytes)
  | shutdown
  /-- The manager reports something. -/
  | emit (notification : Notification)
  /-- Requests of a kind fail from now on, or not any more. -/
  | failRequests (kind : RequestKind) (fails : Bool)
  | failDispatch (fails : Bool)
  | failStart (fails : Bool)
  | failNextSend
  /-- The announcer is stopped from outside. -/
  | stopAnnouncer
  | failListen (fails : Bool)
  | failAccept (fails : Bool)
  | queueClient (peer : SocketAddress)
  | pushInbound (bytes : Bytes)
  | hangUp
  /-- The channel is closed from outside. -/
  | closeChannel
  /-- The channel is shut down from outside. -/
  | shutdownChannel
deriving DecidableEq, Repr, Inhabited

/-- What an operation answers. -/
inductive Answer where
  | nothing
  | status (status : Status)
  | delivery (delivery : Delivery)
  | count (count : Nat)
deriving DecidableEq, Repr, Inhabited

namespace Bench

/-- A link after something happened to its announcer. -/
def onAnnouncer (bench : Bench) (change : AnnouncerDouble → AnnouncerDouble) : Answer × Bench :=
  (.nothing, { bench with announcer := change bench.announcer })

/-- A link after something happened to its channel. -/
def onChannel (bench : Bench) (change : ChannelDouble → ChannelDouble) : Answer × Bench :=
  (.nothing, { bench with channel := change bench.channel })

/-- A link after a command that answers a status. -/
def command (outcome : Status × Bench) : Answer × Bench := (.status outcome.1, outcome.2)

/-- Lets something happen to a link; only reporting to nobody is an error. -/
def perform (bench : Bench) : Operation → Except EmitError (Answer × Bench)
  | .tick elapsed => .ok (.nothing, bench.tick elapsed)
  | .setPower on => .ok (command (bench.setPower on))
  | .connect index => .ok (command (bench.connect index))
  | .scan => .ok (command bench.scan)
  | .forget index => .ok (command (bench.forget index))
  | .moveUp index => .ok (command (bench.moveUp index))
  | .moveDown index => .ok (command (bench.moveDown index))
  | .read buffer => let (delivery, bench) := bench.read buffer; .ok (.delivery delivery, bench)
  | .write bytes => let (count, bench) := bench.write bytes; .ok (.count count, bench)
  | .shutdown => .ok (.nothing, bench.shutdown)
  | .emit notification =>
    (bench.manager.emit notification).map fun manager => (.nothing, { bench with manager })
  | .failRequests kind fails =>
    .ok (.nothing, { bench with manager := bench.manager.setFailing kind fails })
  | .failDispatch fails =>
    .ok (.nothing, { bench with manager := { bench.manager with failsDispatch := fails } })
  | .failStart fails => .ok (bench.onAnnouncer ({ · with failsStart := fails }))
  | .failNextSend => .ok (bench.onAnnouncer ({ · with failsNextSend := true }))
  | .stopAnnouncer => .ok (bench.onAnnouncer AnnouncerDouble.stop)
  | .failListen fails => .ok (bench.onChannel ({ · with failsListen := fails }))
  | .failAccept fails => .ok (bench.onChannel ({ · with failsAccept := fails }))
  | .queueClient peer => .ok (bench.onChannel (·.queueClient peer))
  | .pushInbound bytes => .ok (bench.onChannel (·.pushInbound bytes))
  | .hangUp => .ok (bench.onChannel ChannelDouble.hangUp)
  | .closeChannel => .ok (bench.onChannel ChannelDouble.close)
  | .shutdownChannel => .ok (bench.onChannel ChannelDouble.shutdown)

/--
Lets the same time pass several times, and notes the number of each tick after which the link is
in another stage, with that stage.
-/
def ticks (bench : Bench) (elapsed times : Nat) : List (Nat × Stage) × Bench :=
  (List.range times).foldl (fun (notes, bench) index =>
    -- Ticks count from one.
    let after := bench.tick elapsed
    (if after.stage = bench.stage then notes else notes ++ [(index + 1, after.stage)], after))
    ([], bench)

/-- Lets one thing after another happen to a link. -/
def run (bench : Bench) : List Operation → Except EmitError Bench
  | [] => .ok bench
  | operation :: later => do
    let (_, bench) ← bench.perform operation
    bench.run later

end Bench

end CompanionLink
