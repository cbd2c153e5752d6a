import CompanionLink.Proofs.Lifecycle.Carrier
import CompanionLink.Proofs.Lifecycle.Parts
import CompanionLink.Proofs.Lifecycle.Resources
import Mathlib.Data.List.Induction

/-!
Where the beacon goes. Its target is found when the beacon is opened, and stays what it was then
until the beacon is opened anew, whatever becomes of the lease meanwhile.
-/

namespace CompanionLink

namespace AnnouncerDouble

/-- An announcement goes where the last start said, whether it can be sent or not. -/
@[simp] theorem targets_tick (announcer : AnnouncerDouble) (elapsed : Nat) :
    (announcer.tick elapsed).2.targets = announcer.targets := by
  -- An announcement that cannot be sent turns the announcer off, and writes no target.
  unfold tick
  split
  · rfl
  · split
    · rfl
    · unfold send
      dsimp only
      split <;> rfl

/-- A start that succeeds writes its target down behind the earlier ones. -/
theorem targets_start {announcer later : AnnouncerDouble} {target : Ipv4Address}
    (started : announcer.start target = (.ok (), later)) :
    later.targets = announcer.targets ++ [target] := by
  -- Either failure answers an error, so the start went all the way.
  unfold start at started
  split at started
  · cases started
  · unfold send at started
    split at started
    · cases started
    · cases started
      rfl

end AnnouncerDouble

open Link

/--
If the beacon runs now, it has been running since an earlier moment: towards the same target, and
for a link that is joined on the same access point.
-/
def KeepsBeacon (bench after : Bench) : Prop :=
  after.announcer.running = true →
    bench.announcer.running = true ∧ after.announcer.targets = bench.announcer.targets ∧
      after.linkId = bench.linkId

namespace KeepsBeacon

variable {bench after : Bench}

/-- Where announcer and joined access point stay, the beacon is kept. -/
theorem of_eq (announcer : after.announcer = bench.announcer)
    (linkId : after.linkId = bench.linkId) : KeepsBeacon bench after := by
  -- A beacon that runs afterwards ran before.
  intro running
  rw [announcer] at running ⊢
  exact ⟨running, rfl, linkId⟩

/-- Where the beacon does not run, the link may be joined on anything. -/
theorem of_silent (silent : after.announcer.running = false) : KeepsBeacon bench after := by
  -- It is only a running beacon that anything is asked about.
  intro running
  simp [silent] at running

/-- A beacon that is stopped leaves nothing to keep. -/
theorem of_stop {announcer : AnnouncerDouble} (stopped : after.announcer = announcer.stop) :
    KeepsBeacon bench after :=
  of_silent (by rw [stopped, AnnouncerDouble.running_stop])

/-- A beacon that was kept twice in a row was kept. -/
theorem trans {later : Bench} (first : KeepsBeacon bench after)
    (second : KeepsBeacon after later) : KeepsBeacon bench later := by
  -- It runs now, so it ran in between, and so it ran before.
  intro running
  obtain ⟨between, targets, linkId⟩ := second running
  obtain ⟨before, earlier, joined⟩ := first between
  exact ⟨before, targets.trans earlier, linkId.trans joined⟩

/-- A lost radio stops the beacon, and nothing else that is reported concerns it. -/
theorem note (bench : Bench) (notification : Notification) :
    KeepsBeacon bench (bench.note notification) := by
  -- Only a radio that goes out comes to the beacon.
  have technology : KeepsBeacon bench (bench.noteTechnology notification) := by
    rcases noteTechnology_cases bench notification with ⟨_, _, _, lost⟩ | ⟨_, kept⟩
    · rw [lost]
      exact of_stop rfl
    · rw [kept]
      exact of_eq rfl rfl
  cases notification with
  | technologyAdded | technologyRemoved | powered => exact technology
  | _ => exact of_eq rfl rfl

/-- The work of a tick finds the beacon as it was, or stopped. -/
theorem untilStep (bench : Bench) (elapsed : Nat) :
    KeepsBeacon bench (bench.untilStep elapsed) := by
  -- The announcer's own time may stop it, and changes no target.
  have ticked (link : Bench) :
      KeepsBeacon link { link with announcer := (Announcer.tick link.announcer elapsed).2 } :=
    fun running =>
      ⟨AnnouncerDouble.running_of_tick running, link.announcer.targets_tick elapsed, rfl⟩
  exact untilStep_keeps elapsed (fun _ _ _ _ kept => kept.trans (of_eq rfl rfl))
    (fun link notification kept => kept.trans (note link notification))
    (fun link kept => kept.trans (ticked link)) (of_eq rfl rfl)

/-- No command starts the beacon, and a link that is to be joined elsewhere stops it first. -/
theorem still (holds : HoldsByStage bench)
    {happening : Happening ManagerDouble AnnouncerDouble ChannelDouble}
    (own : happening.isOwn = true) (still : ∀ elapsed, happening ≠ .tick elapsed) :
    KeepsBeacon bench (Link.after bench happening) := by
  -- A join is the one command that changes what is joined, and leaves no beacon behind.
  cases happening with
  | outside => cases own
  | tick elapsed => exact absurd rfl (still elapsed)
  | setPower on =>
    rw [Link.after]
    have outcome := setPower_cases bench on
    revert outcome
    generalize bench.setPower on = result
    rintro (_ | _ | _ | _ | _)
    · exact of_eq rfl rfl
    · exact of_eq rfl rfl
    · exact of_eq rfl rfl
    · exact of_eq rfl rfl
    · exact of_stop rfl
  | connect index =>
    rw [Link.after]
    have outcome := connect_cases bench index
    revert outcome
    generalize bench.connect index = result
    rintro (_ | _ | ⟨_, ⟨_, _, open_⟩, _, _, free⟩ | _)
    · exact of_eq rfl rfl
    · exact of_eq rfl rfl
    · -- Where there is no link yet, there is no beacon either.
      have early : ¬ Stage.announced ≤ bench.stage := by
        revert free open_
        cases bench.stage <;> decide
      exact of_silent (holds.silent early)
    · exact of_stop rfl
  -- The others leave the announcer and what is joined.
  | scan =>
    rw [Link.after, Link.scan]
    split <;> exact of_eq rfl rfl
  | forget | moveUp | moveDown => exact of_eq rfl rfl
  | read buffer =>
    rw [Link.after, Link.read]
    split
    · exact of_eq rfl rfl
    · split <;> exact of_eq rfl rfl
  | write bytes =>
    rw [Link.after, Link.write]
    split <;> exact of_eq rfl rfl
  | shutdown =>
    rw [Link.after, Link.shutdown]
    split
    · exact of_eq rfl rfl
    · exact of_stop rfl

end KeepsBeacon

/-- A moment that starts the beacon, towards where announcements of the link belong right after. -/
structure OpensBeacon (bench after : Bench) : Prop where
  before : bench.stage = .opening
  at_ : after.stage = .announced
  target : after.announcer.targets.getLast? = some after.beaconTarget

/-- A stage's work opens the beacon, or leaves it to run as it did. -/
theorem beacon_of_works {bench after : Bench} (holds : HoldsByStage bench)
    (works : Works bench after) : OpensBeacon bench after ∨ KeepsBeacon bench after := by
  cases works with
  | beaconOpened at_ started =>
    refine .inl ⟨at_, rfl, ?_⟩
    have written := AnnouncerDouble.targets_start started
    exact (congrArg List.getLast? written).trans List.getLast?_concat
  | beaconFailed => exact .inr (.of_stop rfl)
  -- A link that is joined only now has not come to its beacon.
  | joinSucceeded at_ => exact .inr (.of_silent (holds.silent (by rw [at_]; decide)))
  | _ => exact .inr (.of_eq rfl rfl)

/-- A tick opens the beacon, or leaves it to run as it did. -/
theorem beacon_of_tick {bench : Bench} (holds : HoldsByStage bench)
    (kinds : bench.technologies.KindsMatch) (elapsed : Nat) :
    OpensBeacon bench (bench.tick elapsed) ∨ KeepsBeacon bench (bench.tick elapsed) := by
  -- A link that is given up stops its beacon; otherwise the stage's work decides.
  by_cases closed : bench.stage = .closed
  · rw [tick_closed closed]
    exact .inr (.of_eq rfl rfl)
  · have found := KeepsBeacon.untilStep bench elapsed
    rw [tick_eq closed]
    rcases step_cases (bench.untilStep elapsed) with ⟨_, _, lost⟩ | ⟨_, work⟩
    · rw [lost]
      exact .inr (.of_stop rfl)
    · rcases beacon_of_works (holds.untilStep elapsed) work with opened | kept
      · -- The stage that the work finds is the one before the tick, or no stage of a beacon.
        have stage := stage_untilStep bench kinds elapsed closed
        rw [opened.before] at stage
        split at stage
        · cases stage
        · exact .inl ⟨stage.symm, opened.at_, opened.target⟩
      · exact .inr (found.trans kept)

/-- Of all that can happen to a bench, only a tick opens the beacon. -/
theorem beacon_of_perform {bench after : Bench} {operation : Operation} {answer : Answer}
    (holds : HoldsByStage bench) (kinds : bench.technologies.KindsMatch)
    (performed : bench.perform operation = .ok (answer, after)) :
    (∃ elapsed, operation = .tick elapsed ∧ after = bench.tick elapsed ∧
      OpensBeacon bench after) ∨ KeepsBeacon bench after := by
  -- Operations of the link itself other than ticks share one argument.
  have command (happening : Happening ManagerDouble AnnouncerDouble ChannelDouble)
      (command : happening.isOwn = true) (still : ∀ elapsed, happening ≠ .tick elapsed) :
      KeepsBeacon bench (Link.after bench happening) := .still holds command still
  cases operation with
  | tick elapsed =>
    cases performed
    rcases beacon_of_tick holds kinds elapsed with opened | kept
    · exact .inl ⟨elapsed, rfl, rfl, opened⟩
    · exact .inr kept
  | emit notification =>
    obtain ⟨_, _, rfl⟩ := Bench.perform_emit performed
    exact .inr (.of_eq rfl rfl)
  -- A stopped beacon keeps nothing to be told of.
  | stopAnnouncer => cases performed; exact .inr (.of_stop rfl)
  | failStart | failNextSend =>
    cases performed
    exact .inr fun running => ⟨running, rfl, rfl⟩
  | failRequests | failDispatch | failListen | failAccept | queueClient | pushInbound | hangUp
  | closeChannel | shutdownChannel => cases performed; exact .inr (.of_eq rfl rfl)
  | setPower on => cases performed; exact .inr (command (.setPower on) rfl nofun)
  | connect index => cases performed; exact .inr (command (.connect index) rfl nofun)
  | scan => cases performed; exact .inr (command .scan rfl nofun)
  | forget index => cases performed; exact .inr (command (.forget index) rfl nofun)
  | moveUp index => cases performed; exact .inr (command (.moveUp index) rfl nofun)
  | moveDown index => cases performed; exact .inr (command (.moveDown index) rfl nofun)
  | read buffer => cases performed; exact .inr (command (.read buffer) rfl nofun)
  | write bytes => cases performed; exact .inr (command (.write bytes) rfl nofun)
  | shutdown => cases performed; exact .inr (command .shutdown rfl nofun)

/-- A run keeps the settings. -/
theorem Bench.settings_run {bench after : Bench} {operations : List Operation}
    (ran : bench.run operations = .ok after) : after.settings = bench.settings := by
  -- By induction on the run, since each operation is something that happens to a link.
  refine @Bench.run_keeps (fun later => later.settings = bench.settings) ?_ _ _ _ rfl ran
  intro earlier operation answer later same performed
  obtain ⟨happening, rfl⟩ := (Bench.perform_follows performed).exists_happening
  exact (settings_after earlier happening).trans same

/-- A running beacon was opened at some moment of the run, and kept from then on. -/
theorem beacon_opened {manager : ManagerDouble} {settings : LinkSettings}
    {operations : List Operation} {fresh bench : Bench}
    (started : Link.start manager {} {} settings = .ok fresh)
    (ran : fresh.run operations = .ok bench) (running : bench.announcer.running = true) :
    ∃ before elapsed later found, operations = before ++ .tick elapsed :: later ∧
      fresh.run before = .ok found ∧ OpensBeacon found (found.tick elapsed) ∧
      KeepsBeacon (found.tick elapsed) bench := by
  -- The last operation opened the beacon, or the beacon ran before it.
  induction operations using List.reverseRecOn generalizing bench with
  | nil =>
    cases ran
    obtain ⟨_, _, _, _, _, _, rfl⟩ := start_cases started
    cases running
  | append_singleton earlier operation ih =>
    obtain ⟨between, ranBefore, last⟩ := Bench.run_append.mp ran
    obtain ⟨_, performed⟩ := Bench.run_singleton.mp last
    have holds : HoldsByStage between :=
      Bench.run_keeps (fun before performed => before.perform performed) (.start started) ranBefore
    have kinds := (Bench.run_reachable started ranBefore).radioByStage.kinds
    rcases beacon_of_perform holds kinds performed with ⟨elapsed, rfl, rfl, opened⟩ | kept
    -- The last operation opened it, with nothing behind.
    · exact ⟨earlier, elapsed, [], between, rfl, ranBefore, opened, .of_eq rfl rfl⟩
    · obtain ⟨before, elapsed, later, found, rfl, ranFirst, opened, since⟩ :=
        ih ranBefore (kept running).1
      exact ⟨before, elapsed, later ++ [operation], found, by simp, ranFirst, opened,
        since.trans kept⟩

/--
In every run of a link over an announcer that was never used, the beacon runs only from its opening
to the pairing. A tick opened it and it has been running since then, while the link stayed joined on
the same access point. It goes where announcements belonged when that tick was over; that is where
they belong now if the carrier's lease is the same as then.
-/
theorem beacon_target_of_opening {manager : ManagerDouble} {settings : LinkSettings}
    {operations : List Operation} {fresh bench : Bench}
    (started : Link.start manager {} {} settings = .ok fresh)
    (ran : fresh.run operations = .ok bench) (running : bench.announcer.running = true) :
    (.announced ≤ bench.stage ∧ bench.stage ≤ .paired) ∧
    ∃ before elapsed later found, operations = before ++ .tick elapsed :: later ∧
      fresh.run before = .ok found ∧ found.stage = .opening ∧
      let opened := found.tick elapsed
      opened.stage = .announced ∧ opened.announcer.running = true ∧
      bench.announcer.targets = opened.announcer.targets ∧
      bench.announcer.targets.getLast? = some opened.beaconTarget ∧
      bench.linkId = opened.linkId ∧
      ((bench.carrier.bind fun point => point.lease) =
          (opened.carrier.bind fun point => point.lease) →
        bench.announcer.targets.getLast? = some bench.beaconTarget) := by
  have holds : HoldsByStage bench :=
    Bench.run_keeps (fun before performed => before.perform performed) (.start started) ran
  obtain ⟨before, elapsed, later, found, split, ranFirst, opens, since⟩ :=
    beacon_opened started ran running
  -- Since the opening neither the targets nor what is joined have changed.
  obtain ⟨runs, targets, linkId⟩ := since running
  have last := opens.target
  rw [← targets] at last
  refine ⟨holds.announcing running, before, elapsed, later, found, split, ranFirst, opens.before,
    opens.at_, runs, targets, last, linkId, fun same => ?_⟩
  -- Two links with equal settings and equal leases announce themselves alike.
  have settings := (Bench.settings_run ran).trans (Bench.settings_run ranFirst).symm
  rw [last, beaconTarget, beaconTarget, same, settings, settings_tick]

/-- A lease of an address with the netmask of its subnet. -/
def leaseOf (address : Ipv4Address) : Option Lease :=
  some { address, netmask := some (.ofOctets 255 255 255 0) }

/-- A manager with one access point, which is online and leased an address of a known subnet. -/
def leasedManager : ManagerDouble :=
  (ManagerDouble.withTechnology {} .wifi true).withAccessPoint
    ⟨"home", [.state .online, .lease (leaseOf (.ofOctets 10 0 0 5))]⟩

/-- A run that announces the link and is told of another lease then. -/
def renewal : List Operation :=
  [.setPower true, .tick 100, .tick 100, .tick 100, .tick 100, .tick 100,
    .emit (.propertyChanged "home" (.lease (leaseOf (.ofOctets 10 1 0 7)))), .tick 100]

/-- After a renewal, a beacon that fails is opened again, and goes where the new lease says. -/
theorem beacon_target_of_opening_again :
    ∃ fresh bench,
      Link.start leasedManager ({} : AnnouncerDouble) ({} : ChannelDouble) {} = .ok fresh ∧
      Bench.run fresh (renewal ++ [.tick 2000, .failNextSend, .tick 5000, .tick 100, .tick 100]) =
        .ok bench ∧
      bench.announcer.running = true ∧
      bench.announcer.targets = [.ofOctets 10 0 0 255, .ofOctets 10 1 0 255] ∧
      ∃ before elapsed found, Bench.run fresh before = .ok found ∧ found.stage = .opening ∧
        (found.tick elapsed).stage = .announced ∧
        (found.tick elapsed).beaconTarget = .ofOctets 10 1 0 255 := by
  refine ⟨_, _, rfl, rfl, rfl, rfl, ?_⟩
  -- The theorem gives the tick that opened the beacon which runs now.
  obtain ⟨_, before, elapsed, _, found, _, ran, opening, announced, _, _, last, _⟩ :=
    @beacon_target_of_opening leasedManager {}
      (renewal ++ [.tick 2000, .failNextSend, .tick 5000, .tick 100, .tick 100]) _ _ rfl rfl rfl
  have newest : some (.ofOctets 10 1 0 255) = some (found.tick elapsed).beaconTarget := last
  exact ⟨before, elapsed, found, ran, opening, announced, (Option.some.inj newest).symm⟩

/--
A beacon that goes on after a renewal still goes to the subnet of the earlier lease, and one that
goes on after the joined access point dropped out still goes to the subnet of that access point.
-/
theorem beacon_target_stays_behind :
    (∃ fresh bench,
      Link.start leasedManager ({} : AnnouncerDouble) ({} : ChannelDouble) {} = .ok fresh ∧
      Bench.run fresh renewal = .ok bench ∧
      bench.stage = .announced ∧ bench.announcer.running = true ∧
      (bench.carrier.bind fun point => point.lease) = leaseOf (.ofOctets 10 1 0 7) ∧
      bench.beaconTarget = .ofOctets 10 1 0 255 ∧
      bench.announcer.targets = [.ofOctets 10 0 0 255]) ∧
    ∃ fresh bench,
      Link.start townManager ({} : AnnouncerDouble) ({} : ChannelDouble) {} = .ok fresh ∧
      Bench.run fresh (movingHome ++ [.emit (.propertyChanged "home" (.state .idle)), .tick 100]) =
        .ok bench ∧
      bench.stage = .announced ∧ bench.announcer.running = true ∧
      (bench.carrier.bind fun point => point.lease) = leaseOf (.ofOctets 10 0 0 5) ∧
      bench.beaconTarget = .ofOctets 10 0 0 255 ∧
      bench.announcer.targets = [.ofOctets 192 168 1 255] :=
  -- Evaluation of the two runs.
  ⟨⟨_, _, rfl, rfl, rfl, rfl, rfl, rfl, rfl⟩, _, _, rfl, rfl, rfl, rfl, rfl, rfl, rfl⟩

end CompanionLink
