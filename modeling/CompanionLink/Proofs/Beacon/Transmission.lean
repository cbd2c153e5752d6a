import CompanionLink.Identity
import CompanionLink.Net.Loopback
import CompanionLink.Proofs.Beacon.Cadence

/-!
The transmitter keeps the cadence of announcements. What it sends is counted by a host that logs its
datagrams, and over a host that does not it acts in the same way.
-/

namespace CompanionLink

/-- A host with the datagrams that it sent. -/
structure Logged (ν : Type) where
  host : ν
  /-- The datagrams with their targets, oldest first. -/
  datagrams : List (SocketAddress × Bytes) := []
deriving DecidableEq, Repr

/-- A host that either sends a datagram or fails, but never asks to wait. -/
class PromptSender (ν : Type) [DatagramHost ν] : Prop where
  prompt (host : ν) (target : SocketAddress) (bytes : Bytes) :
    (DatagramHost.send host target bytes).1 ≠ .wouldBlock

/-- The loopback sends a datagram or fails, and never asks to wait. -/
instance : PromptSender Loopback where
  prompt host target bytes := by
    -- Every way out of a send is a datagram sent or a fault.
    show (host.sendDatagram target bytes).1 ≠ .wouldBlock
    unfold Loopback.sendDatagram
    split
    · nofun
    · split
      · nofun
      · split <;> nofun

namespace Logged

variable {ν : Type} [DatagramHost ν]

/-- Sends a datagram, which is logged if it went out. -/
def send (logged : Logged ν) (target : SocketAddress) (bytes : Bytes) :
    SendOutcome × Logged ν :=
  match DatagramHost.send logged.host target bytes with
  | (.sent count, host) =>
    -- Only what was taken by the host is logged.
    (.sent count, { host, datagrams := logged.datagrams ++ [(target, bytes)] })
  | (outcome, host) => (outcome, { logged with host })

/-- A logged host is a host like the one that it logs. -/
instance : DatagramHost (Logged ν) where
  openSocket logged := (DatagramHost.openSocket logged.host).map ({ logged with host := · })
  send := send

/-- A datagram goes out exactly when the host sends it. -/
theorem send_host (logged : Logged ν) (target : SocketAddress) (bytes : Bytes) :
    DatagramHost.send logged.host target bytes =
      ((logged.send target bytes).1, (logged.send target bytes).2.host) := by
  -- The log is written beside the host, which answers as it does without.
  unfold send
  rcases DatagramHost.send logged.host target bytes with ⟨_ | _ | _, _⟩ <;> rfl

variable {logged later : Logged ν} {target : SocketAddress} {bytes : Bytes}

/-- Opening a socket logs nothing. -/
theorem datagrams_openSocket (opened : DatagramHost.openSocket logged = .ok later) :
    later.datagrams = logged.datagrams := by
  -- The log is carried over to the host with the open socket.
  have opened :
      (DatagramHost.openSocket logged.host).map ({ logged with host := · }) = .ok later := opened
  cases opening : DatagramHost.openSocket logged.host with
  | error =>
    rw [opening] at opened
    cases opened
  | ok =>
    rw [opening] at opened
    cases opened
    rfl

/-- A datagram that goes out is logged. -/
theorem datagrams_sent {count : Nat}
    (sent : DatagramHost.send logged target bytes = (.sent count, later)) :
    later.datagrams = logged.datagrams ++ [(target, bytes)] := by
  -- Of the answers of the host only this one writes to the log.
  have sent : logged.send target bytes = (.sent count, later) := sent
  unfold send at sent
  split at sent
  · cases sent
    rfl
  · rename_i outcome host other _
    cases sent
    exact absurd rfl (other _)

/-- A datagram that does not go out is not logged. -/
theorem datagrams_unsent {outcome : SendOutcome}
    (answered : DatagramHost.send logged target bytes = (outcome, later))
    (unsent : ∀ count, outcome ≠ .sent count) : later.datagrams = logged.datagrams := by
  -- An answer that is no datagram leaves the log alone.
  have answered : logged.send target bytes = (outcome, later) := answered
  unfold send at answered
  split at answered
  · cases answered
    exact absurd rfl (unsent _)
  · cases answered
    rfl

/-- A log does not make a host ask to wait. -/
instance [PromptSender ν] : PromptSender (Logged ν) where
  prompt logged target bytes := by
    -- The answer is that of the host inside.
    have prompt := PromptSender.prompt logged.host target bytes
    rwa [send_host] at prompt

end Logged

namespace Transmitter

variable {ι ν : Type} [DeviceIdentity ι] [DatagramHost ν]

/-- The transmitter without the log of its host. -/
def unlogged (transmitter : Transmitter ι (Logged ν)) : Transmitter ι ν :=
  { transmitter with host := transmitter.host.host }

/-- An announcement goes out as it does without the log. -/
theorem announce_unlogged (transmitter : Transmitter ι (Logged ν)) :
    transmitter.unlogged.announce =
      (transmitter.announce.1, transmitter.announce.2.unlogged) := by
  -- A transmitter that does not run sends nothing, and one that runs asks the host inside.
  rcases transmitter with ⟨identity, logged, settings, _ | _, target, sinceLast⟩
  · rfl
  · simp only [announce, unlogged, packet, if_true, Logged.send_host logged]
    rw [show DatagramHost.send logged = logged.send from rfl]
    generalize BeaconPacket.encode _ = datagram
    rcases logged.send target datagram with ⟨_ | _ | _, _⟩ <;> rfl

/-- A transmitter whose socket was opened towards a target. -/
def opened (transmitter : Transmitter ι ν) (host : ν) (target : Ipv4Address) : Transmitter ι ν :=
  { transmitter with
    host, running := true, sinceLast := 0, target := ⟨target, transmitter.settings.port⟩ }

/-- A start whose socket opens sends the first announcement. -/
theorem start_of_opens (transmitter : Transmitter ι ν) {host : ν}
    (opens : DatagramHost.openSocket transmitter.host = .ok host) (target : Ipv4Address) :
    transmitter.start target = (transmitter.opened host target).announce := by
  -- Opening comes first, and what is announced then is announced by the opened transmitter.
  unfold start
  rw [opens]
  rfl

/-- A start whose socket does not open says why. -/
theorem start_of_fails (transmitter : Transmitter ι ν) {reason : String}
    (fails : DatagramHost.openSocket transmitter.host = .error reason) (target : Ipv4Address) :
    transmitter.start target = (.error (.socket reason), transmitter.stop) := by
  -- Without a socket there is nothing to announce with.
  unfold start
  rw [fails]

/-- A tick of a stopped transmitter changes nothing. -/
theorem tick_idle {transmitter : Transmitter ι ν} (idle : transmitter.running = false)
    (elapsed : Nat) : transmitter.tick elapsed = (.ok false, transmitter) :=
  if_pos (by rw [idle]; rfl)

/-- A tick with which the interval is not over only takes time. -/
theorem tick_early {transmitter : Transmitter ι ν} (running : transmitter.running = true)
    {elapsed : Nat} (early : transmitter.sinceLast + elapsed < transmitter.settings.interval) :
    transmitter.tick elapsed =
      (.ok false, { transmitter with sinceLast := transmitter.sinceLast + elapsed }) :=
  (if_neg (by rw [running]; nofun)).trans (if_pos early)

/-- The tick with which the interval is over announces. -/
theorem tick_due {transmitter : Transmitter ι ν} (running : transmitter.running = true)
    {elapsed : Nat} (due : transmitter.settings.interval ≤ transmitter.sinceLast + elapsed) :
    transmitter.tick elapsed =
      (({ transmitter with sinceLast := 0 } : Transmitter ι ν).announce.1.map fun _ => true,
        ({ transmitter with sinceLast := 0 } : Transmitter ι ν).announce.2) :=
  (if_neg (by rw [running]; nofun)).trans (if_neg (Nat.not_lt.mpr due))

/-- The transmitter starts as it does without the log. -/
theorem start_unlogged (transmitter : Transmitter ι (Logged ν)) (target : Ipv4Address) :
    transmitter.unlogged.start target =
      ((transmitter.start target).1, (transmitter.start target).2.unlogged) := by
  -- The socket opens on both sides or on neither, and behind it the announcement is the same.
  have logged : DatagramHost.openSocket transmitter.host =
      (DatagramHost.openSocket transmitter.host.host).map ({ transmitter.host with host := · }) :=
    rfl
  cases opening : DatagramHost.openSocket transmitter.host.host with
  | error reason =>
    rw [opening] at logged
    rw [transmitter.start_of_fails logged, transmitter.unlogged.start_of_fails opening]
    rfl
  | ok host =>
    rw [opening] at logged
    rw [transmitter.start_of_opens logged, transmitter.unlogged.start_of_opens opening]
    -- The log holds no more than before until the announcement adds to it.
    exact announce_unlogged (transmitter.opened { transmitter.host with host } target)

/-- Time passes as it does without the log. -/
theorem tick_unlogged (transmitter : Transmitter ι (Logged ν)) (elapsed : Nat) :
    transmitter.unlogged.tick elapsed =
      ((transmitter.tick elapsed).1, (transmitter.tick elapsed).2.unlogged) := by
  -- The clock is not part of the host, so the same case is taken with the log and without.
  cases running : transmitter.running with
  | false =>
    have running' : transmitter.unlogged.running = false := running
    rw [tick_idle running, tick_idle running']
  | true =>
    have running' : transmitter.unlogged.running = true := running
    rcases Nat.lt_or_ge (transmitter.sinceLast + elapsed) transmitter.settings.interval
      with early | due
    · rw [tick_early running early, tick_early running' early]
      rfl
    · rw [tick_due running due, tick_due running' due]
      -- What goes out at the end of an interval goes out on both sides.
      have announced := announce_unlogged { transmitter with sinceLast := 0 }
      exact congrArg (fun result => (result.1.map fun _ => true, result.2)) announced

/-- The announcements of a transmitter are the datagrams in its log. -/
instance : Clocked (Transmitter ι (Logged ν)) where
  interval transmitter := transmitter.settings.interval
  sinceLast := sinceLast
  sent transmitter := transmitter.host.datagrams.length

/-- What becomes of an announcement over a host that never asks to wait. -/
theorem announce_outcome [PromptSender ν] (transmitter : Transmitter ι (Logged ν))
    (running : transmitter.running = true) :
    (∃ host, transmitter.announce = (.ok (), { transmitter with host }) ∧
        host.datagrams.length = transmitter.host.datagrams.length + 1) ∨
      ∃ reason host, transmitter.announce =
          (.error (.send transmitter.target reason), ({ transmitter with host }).stop) ∧
        host.datagrams.length = transmitter.host.datagrams.length := by
  have prompt :=
    PromptSender.prompt transmitter.host transmitter.target transmitter.packet.encode
  unfold announce
  rw [if_pos running]
  -- The host does not ask to wait, so the datagram is out or has failed.
  rcases answered : DatagramHost.send transmitter.host transmitter.target
    transmitter.packet.encode with ⟨count | _ | reason, host⟩
  · refine .inl ⟨host, rfl, ?_⟩
    rw [Logged.datagrams_sent answered, List.length_append, List.length_singleton]
  · exact absurd (congrArg Prod.fst answered) prompt
  · exact .inr ⟨reason, host, rfl, by rw [Logged.datagrams_unsent answered (fun _ => nofun)]⟩

/-- Over a host that never asks to wait, a transmitter starts, stops and ticks as it should. -/
instance [PromptSender ν] : TimedAnnouncer (Transmitter ι (Logged ν)) where
  started {transmitter later target} opened := by
    -- A start that succeeds has opened its socket and announced.
    have opened : transmitter.start target = (.ok (), later) := opened
    cases opening : DatagramHost.openSocket transmitter.host with
    | error reason =>
      rw [transmitter.start_of_fails opening] at opened
      cases opened
    | ok host =>
      rw [transmitter.start_of_opens opening] at opened
      obtain ⟨host, outcome, -⟩ | ⟨reason, host, outcome, -⟩ :=
        announce_outcome (transmitter.opened host target) rfl
      · cases outcome.symm.trans opened
        exact ⟨rfl, rfl⟩
      · cases outcome.symm.trans opened
  unsent {transmitter later target address reason} failed := by
    -- An announcement that could not be sent stands in no log, and neither did the open socket.
    have failed : transmitter.start target = (.error (.send address reason), later) := failed
    cases opening : DatagramHost.openSocket transmitter.host with
    | error reason =>
      rw [transmitter.start_of_fails opening] at failed
      cases failed
    | ok host =>
      rw [transmitter.start_of_opens opening] at failed
      obtain ⟨host, outcome, -⟩ | ⟨reason, host, outcome, same⟩ :=
        announce_outcome (transmitter.opened host target) rfl
      · cases outcome.symm.trans failed
      · cases outcome.symm.trans failed
        exact ⟨rfl, same.trans (congrArg List.length (Logged.datagrams_openSocket opening))⟩
  stopped transmitter := ⟨rfl, rfl⟩
  ticked transmitter elapsed := by
    -- Whether the transmitter runs comes first, then whether the interval is over.
    show TickOutcome transmitter elapsed (transmitter.tick elapsed)
    cases running : transmitter.running with
    | false =>
      rw [tick_idle running]
      exact .silent running running rfl
    | true =>
      rcases Nat.lt_or_ge (transmitter.sinceLast + elapsed) transmitter.settings.interval
        with early | due
      · rw [tick_early running early]
        exact .waits running early running rfl rfl rfl
      · rw [tick_due running due]
        obtain ⟨host, outcome, more⟩ | ⟨reason, host, outcome, same⟩ :=
          announce_outcome { transmitter with sinceLast := 0 } running
        · rw [outcome]
          exact .sends running due running rfl rfl more
        · rw [outcome]
          exact .fails running due rfl same

end Transmitter

/-- What a transmitter over a log does is what the one without it does. -/
structure Transmitter.LogsOnly {ι ν : Type} [DeviceIdentity ι] [DatagramHost ν]
    (transmitter : Transmitter ι (Logged ν)) : Prop where
  start (target : Ipv4Address) :
    transmitter.unlogged.start target =
      ((transmitter.start target).1, (transmitter.start target).2.unlogged)
  stop : transmitter.unlogged.stop = transmitter.stop.unlogged
  tick (elapsed : Nat) :
    transmitter.unlogged.tick elapsed =
      ((transmitter.tick elapsed).1, (transmitter.tick elapsed).2.unlogged)

/-- Announcements keep their cadence, counted or sent as datagrams. -/
theorem announcements_keep_cadence :
    KeepsCadence AnnouncerDouble ∧
      ∀ (ι ν : Type) [DeviceIdentity ι] [DatagramHost ν] [PromptSender ν],
        KeepsCadence (Transmitter ι (Logged ν)) ∧
          ∀ transmitter : Transmitter ι (Logged ν), transmitter.LogsOnly := by
  -- Both announcers tick as they should, which is all that the cadence asks for.
  refine ⟨TimedAnnouncer.keepsCadence, fun ι ν _ _ _ => ⟨TimedAnnouncer.keepsCadence, ?_⟩⟩
  intro transmitter
  exact ⟨transmitter.start_unlogged, rfl, transmitter.tick_unlogged⟩

/-- A transmitter over the loopback, which has sent nothing so far. -/
def Transmitter.overLoopback : Transmitter GivenIdentity (Logged Loopback) where
  identity := ⟨"0016535D7C2A", "EV3"⟩
  host := { host := {} }
  settings := {}

/-- Ten seconds in ticks of two. -/
def tenSeconds : List Nat := List.replicate 5 2000

/--
In ten seconds of two-second ticks behind a start an announcer sends once more, and a stop ends it.
-/
def AnnouncesOnce {β : Type} [Announcer β] [Clocked β] (before : β) : Prop :=
  let opened := (Announcer.start before .limitedBroadcast).2
  let run := runTicks opened tenSeconds
  -- The third tick is the one that the interval ends with.
  run.1.map (fun beat => beat.answer.toOption) =
      [some false, some false, some true, some false, some false] ∧
    (∃ count, Clocked.sent run.2 = Clocked.sent opened + count ∧
      count * 5000 ≤ 10000 ∧ 10000 < count * (5000 + 2000) + 5000) ∧
    Clocked.sent (runTicks (Announcer.stop run.2) [5000, 0, 60000]).2 = Clocked.sent run.2

/-- The cadence bounds what goes out in the ten seconds, whichever announcer it is. -/
theorem KeepsCadence.announcesOnce {β : Type} [Announcer β] [Clocked β]
    (cadence : KeepsCadence β) {before opened : β}
    (starts : Announcer.start before .limitedBroadcast = (.ok (), opened))
    (interval : Clocked.interval opened = 5000)
    (answers : (runTicks opened tenSeconds).1.map (fun beat => beat.answer.toOption) =
      [some false, some false, some true, some false, some false]) :
    AnnouncesOnce before := by
  -- The rate is read off for ticks of two seconds, and the silence for what follows the stop.
  have after : (Announcer.start before .limitedBroadcast).2 = opened := by rw [starts]
  have lengths := elapsed_runTicks opened tenSeconds
  have bounded : ∀ beat ∈ (runTicks opened tenSeconds).1, beat.elapsed ≤ 2000 := by
    intro beat among
    have among := List.mem_map_of_mem (f := Beat.elapsed) among
    rw [lengths] at among
    exact Nat.le_of_eq (List.eq_of_mem_replicate among)
  have sound : ∀ beat ∈ (runTicks opened tenSeconds).1,
      ∀ error, beat.answer ≠ .error error := by
    intro beat among error failed
    -- None of the answers is an error, which would show as nothing.
    have among := List.mem_map_of_mem (f := fun beat => beat.answer.toOption) among
    rw [answers, failed] at among
    simp [Except.toOption] at among
  have rate := cadence.rate starts (by rw [interval]; decide)
    (ticks_runTicks opened tenSeconds) bounded sound
  have total : tenSeconds.sum = 10000 := rfl
  rw [interval, Beat.time, lengths, total] at rate
  rw [AnnouncesOnce, after]
  exact ⟨answers, rate, (cadence.silent .stopped (ticks_runTicks _ _)).1⟩

/-- Ten seconds over the loopback bring one more datagram, and one more count to the double. -/
theorem announces_once_in_ten_seconds :
    AnnouncesOnce Transmitter.overLoopback ∧ AnnouncesOnce ({} : AnnouncerDouble) := by
  -- Starts and answers are computed; the counts follow from the cadence.
  have opened : (Transmitter.overLoopback.start .limitedBroadcast).1 = .ok () := rfl
  constructor
  · refine (announcements_keep_cadence.2 GivenIdentity Loopback).1.announcesOnce
      (Prod.ext opened rfl) ?_ ?_ <;> decide +kernel
  · exact announcements_keep_cadence.1.announcesOnce rfl rfl (by decide +kernel)

end CompanionLink
