import CompanionLink.Proofs.Double.Hold
import CompanionLink.Proofs.Lifecycle.Reach

/-!
What a link holds open follows its stage. A running beacon, a listening socket and a client are
held in the stages that need them and in no other, whatever happens to the link.
-/

namespace CompanionLink

/-- The beacon runs, the channel listens and a client is held in the stages for it only. -/
structure HoldsByStage (bench : Bench) : Prop where
  announcing : bench.announcer.running = true → .announced ≤ bench.stage ∧ bench.stage ≤ .paired
  listening : bench.channel.listening = true → .leased ≤ bench.stage ∧ bench.stage ≤ .paired
  serving : bench.channel.client.isSome = true → bench.stage = .paired

namespace HoldsByStage

open Link

/-- A link that holds nothing open may be in any stage. -/
theorem of_nothing {bench : Bench} (silent : bench.announcer.running = false)
    (unheard : bench.channel.listening = false) (alone : bench.channel.client = none) :
    HoldsByStage bench where
  -- Each of the three conditions speaks of something that is held.
  announcing running := by simp [silent] at running
  listening open_ := by simp [unheard] at open_
  serving client := by simp [alone] at client

/-- A link whose announcer was stopped and whose channel was shut down may be in any stage. -/
theorem of_release {bench : Bench} {announcer : AnnouncerDouble} {channel : ChannelDouble}
    (stopped : bench.announcer = announcer.stop) (shut : bench.channel = channel.shutdown) :
    HoldsByStage bench := by
  -- Stopping and shutting down leave nothing of the three.
  apply of_nothing
  · rw [stopped, AnnouncerDouble.running_stop]
  · rw [shut, ChannelDouble.listening_shutdown]
  · rw [shut, ChannelDouble.client_shutdown]

/-- Within a stage, holding less is fine. -/
theorem of_less {bench after : Bench} (holds : HoldsByStage bench)
    (stage : after.stage = bench.stage)
    (runs : after.announcer.running = true → bench.announcer.running = true)
    (listens : after.channel.listening = true → bench.channel.listening = true)
    (serves : after.channel.client.isSome = true → bench.channel.client.isSome = true) :
    HoldsByStage after where
  -- What is held afterwards was held before, in the same stage.
  announcing running := by rw [stage]; exact holds.announcing (runs running)
  listening open_ := by rw [stage]; exact holds.listening (listens open_)
  serving client := by rw [stage]; exact holds.serving (serves client)

/-- What is held follows from the stage, the announcer and the channel alone. -/
theorem congr {bench after : Bench} (holds : HoldsByStage bench) (stage : after.stage = bench.stage)
    (announcer : after.announcer = bench.announcer) (channel : after.channel = bench.channel) :
    HoldsByStage after := by
  -- Equal parts hold equally much.
  apply holds.of_less stage
  · rw [announcer]; exact id
  · rw [channel]; exact id
  · rw [channel]; exact id

/-- Before the beacon is opened it does not run. -/
theorem silent {bench : Bench} (holds : HoldsByStage bench)
    (early : ¬ Stage.announced ≤ bench.stage) : bench.announcer.running = false := by
  -- Otherwise the stage would be late enough for it.
  cases running : bench.announcer.running with
  | false => rfl
  | true => exact absurd (holds.announcing running).1 early

/-- Before the access point has leased an address nothing listens. -/
theorem unheard {bench : Bench} (holds : HoldsByStage bench)
    (early : ¬ Stage.leased ≤ bench.stage) : bench.channel.listening = false := by
  -- A channel that listens would show a lease.
  cases open_ : bench.channel.listening with
  | false => rfl
  | true => exact absurd (holds.listening open_).1 early

/-- A client is held in the stage for it only. -/
theorem alone {bench : Bench} (holds : HoldsByStage bench) (unpaired : bench.stage ≠ .paired) :
    bench.channel.client = none := by
  -- A client would show that the link is paired.
  cases client : bench.channel.client with
  | none => rfl
  | some peer => exact absurd (holds.serving (by simp [client])) unpaired

/-- Stages before the lease hold nothing open, so they may lead anywhere. -/
theorem of_early {bench after : Bench} (holds : HoldsByStage bench)
    (early : ¬ Stage.leased ≤ bench.stage) (announcer : after.announcer = bench.announcer)
    (channel : after.channel = bench.channel) : HoldsByStage after := by
  -- No beacon, no socket and no client can be there yet.
  have quiet : ¬ Stage.announced ≤ bench.stage := by
    revert early
    cases bench.stage <;> decide
  have unpaired : bench.stage ≠ .paired := by
    rintro paired
    exact early (by rw [paired]; decide)
  apply of_nothing
  · rw [announcer, holds.silent quiet]
  · rw [channel, holds.unheard early]
  · rw [channel, holds.alone unpaired]

/-- Between the lease and the pairing, a stage may lead to one that still allows what is held. -/
theorem of_unpaired {bench after : Bench} (holds : HoldsByStage bench)
    (unpaired : bench.stage ≠ .paired) (next : Stage) (entered : after.stage = next)
    (linked : .leased ≤ next ∧ next ≤ .paired) (announcer : after.announcer = bench.announcer)
    (announced : bench.announcer.running = true → .announced ≤ next)
    (channel : after.channel = bench.channel) : HoldsByStage after where
  -- Outside the pairing no client is held, so that the announcer is the only part in question.
  announcing running := by
    rw [announcer] at running
    rw [entered]
    exact ⟨announced running, linked.2⟩
  listening _ := by
    rw [entered]
    exact linked
  serving client := by
    rw [channel, holds.alone unpaired] at client
    cases client

/-- Where a beacon and a socket may be open, only the client has to be accounted for. -/
theorem of_announced {after : Bench} (next : Stage) (entered : after.stage = next)
    (open_ : .announced ≤ next ∧ next ≤ .paired)
    (served : after.channel.client = none ∨ next = .paired) : HoldsByStage after where
  announcing _ := by rw [entered]; exact open_
  listening _ := by
    -- Every bound on the beacon is one on the socket as well.
    rw [entered]
    refine ⟨?_, open_.2⟩
    revert open_
    cases next <;> decide
  serving client := by
    rw [entered]
    rcases served with alone | paired
    · simp [alone] at client
    · exact paired

/-- Entering the next stage keeps what is held within its stages. -/
theorem passes {bench : Bench} {next : Stage} (holds : HoldsByStage bench)
    (why : Passes bench next) : HoldsByStage (bench.enter next) := by
  -- Up to the lease nothing is held; from there on each stage allows what the one before it held.
  cases why with
  | cameUp at_ | foundJoined at_ | foundAlone at_ | asked at_ | settled at_
  | connectedMeanwhile at_ | askedAgain at_ | leased at_ =>
    exact holds.of_early (by rw [at_]; decide) rfl rfl
  | prepared at_ =>
    -- The channel may still listen from before the beacon stopped.
    have silent := holds.silent (by rw [at_]; decide)
    refine holds.of_unpaired (by rw [at_]; decide) .opening rfl (by decide) rfl ?_ rfl
    intro running
    simp [silent] at running
  | graceOver at_ =>
    exact of_announced .visible rfl (by decide) (.inl (holds.alone (by rw [at_]; decide)))
  | shown at_ =>
    exact of_announced .offering rfl (by decide) (.inl (holds.alone (by rw [at_]; decide)))
  | silenced at_ stopped =>
    have stopped : bench.announcer.running = false := stopped
    have unpaired : bench.stage ≠ .paired := by
      rintro paired
      simp [paired] at at_
    refine holds.of_unpaired unpaired .leased rfl (by decide) rfl ?_ rfl
    intro running
    simp [stopped] at running
  | clientGone at_ gone =>
    have gone : bench.channel.client.isSome = false := gone
    have alone : bench.channel.client = none := by simpa using gone
    exact of_announced .listening rfl (by decide) (.inl alone)

/-- A stage's work keeps what is held within its stages. -/
theorem works {bench after : Bench} (holds : HoldsByStage bench) (works : Works bench after) :
    HoldsByStage after := by
  cases works with
  | rests => exact holds
  | passes why => exact holds.passes why
  | powerTimedOut at_ | searchImpossible at_ | searchTaken at_ | searchRefused at_
  | searchRejected at_ | joinFailed at_ | joinSucceeded at_ =>
    -- These stages hold nothing open, and their work opens nothing.
    exact holds.of_early (by rw [at_]; decide) rfl rfl
  | joinPending => exact holds.congr rfl rfl rfl
  | beaconOpened at_ =>
    exact of_announced .announced rfl (by decide) (.inl (holds.alone (by rw [at_]; decide)))
  | beaconFailed => exact of_release rfl rfl
  | channelOpened at_ running opened =>
    have opened : bench.channel.listen bench.settings.pairingPort = _ := opened
    -- Opening the socket brings no client with it.
    have same := ChannelDouble.client_listen bench.channel bench.settings.pairingPort
    rw [opened, holds.alone (by rw [at_]; decide)] at same
    exact of_announced .listening rfl (by decide) (.inl same)
  | channelFailed at_ running failed =>
    exact holds.congr rfl rfl (ChannelDouble.listen_error failed)
  | clientTaken => exact of_announced .paired rfl (by decide) (.inr rfl)
  | channelGone at_ running gone =>
    -- A channel that does not listen is left as it was.
    have same := ChannelDouble.accept_nobody gone (by simp)
    refine of_announced .offering rfl (by decide) (.inl ?_)
    exact (congrArg ChannelDouble.client same).trans (holds.alone (by rw [at_]; decide))
  | nobodyTaken at_ running answered nobody =>
    exact holds.congr rfl rfl (ChannelDouble.accept_nobody answered nobody)

/-- A step keeps what is held within its stages. -/
theorem step {bench : Bench} (holds : HoldsByStage bench) : HoldsByStage bench.step := by
  -- A lost access point closes everything, so no stage is too early for what is left.
  rcases step_cases bench with ⟨_, _, lost⟩ | ⟨_, work⟩
  · rw [lost]
    exact of_release rfl rfl
  · exact holds.works work

/-- A notification keeps what is held within its stages: a lost radio releases everything. -/
theorem note {bench : Bench} (holds : HoldsByStage bench) (notification : Notification) :
    HoldsByStage (bench.note notification) := by
  -- Only a lost radio acts at once, and it releases everything.
  have technology : HoldsByStage (bench.noteTechnology notification) := by
    rcases noteTechnology_cases bench notification with ⟨_, _, _, lost⟩ | ⟨_, kept⟩
    · rw [lost]
      exact of_release rfl rfl
    · rw [kept]
      exact holds.congr rfl rfl rfl
  cases notification with
  | technologyAdded | technologyRemoved | powered => exact technology
  | _ => exact holds.congr rfl rfl rfl

/-- What a tick's work finds is held within its stages. -/
theorem untilStep {bench : Bench} (holds : HoldsByStage bench) (elapsed : Nat) :
    HoldsByStage (bench.untilStep elapsed) := by
  refine untilStep_keeps elapsed (fun _ _ _ _ holds => holds.congr rfl rfl rfl)
    (fun _ notification holds => holds.note notification) (fun _ holds => ?_) holds
  -- A beacon that runs after its time has passed ran before.
  exact holds.of_less rfl AnnouncerDouble.running_of_tick id id

/-- A tick keeps what is held within its stages. -/
theorem tick {bench : Bench} (holds : HoldsByStage bench) (elapsed : Nat) :
    HoldsByStage (bench.tick elapsed) := by
  -- A closed link does not change, and any other comes to the work of its stage.
  by_cases closed : bench.stage = .closed
  · rw [tick_closed closed]
    exact holds
  · rw [tick_eq closed]
    exact (holds.untilStep elapsed).step

/-- Switching the power keeps what is held within its stages. -/
theorem setPower {bench : Bench} (holds : HoldsByStage bench) (on : Bool) :
    HoldsByStage (bench.setPower on).2 := by
  -- Only the way up from the bottom and the way down change the stage.
  have outcome := setPower_cases bench on
  revert outcome
  generalize bench.setPower on = result
  rintro (_ | _ | ⟨at_, _⟩ | _ | _)
  · exact holds
  · exact holds.congr rfl rfl rfl
  · exact holds.of_early (by rw [at_]; decide) rfl rfl
  · exact holds.congr rfl rfl rfl
  · exact of_release rfl rfl

/-- Asking for a join keeps what is held within its stages: what was open is closed first. -/
theorem connect {bench : Bench} (holds : HoldsByStage bench) (index : Nat) :
    HoldsByStage (bench.connect index).2 := by
  -- A link that has to be given up for the join is released, and an earlier one held nothing.
  have outcome := connect_cases bench index
  revert outcome
  generalize bench.connect index = result
  rintro (_ | _ | ⟨_, up, _, _, free⟩ | _)
  · exact holds.congr rfl rfl rfl
  · exact holds.congr rfl rfl rfl
  -- Before the link there is neither a beacon nor a socket.
  · have early : ¬ Stage.leased ≤ bench.stage := by
      have closed := up.2.2
      revert free closed
      cases bench.stage <;> decide
    exact holds.of_early early rfl rfl
  · exact of_release rfl rfl

/-- A search is only written down, so it changes nothing that is held. -/
theorem scan {bench : Bench} (holds : HoldsByStage bench) : HoldsByStage bench.scan.2 := by
  -- By cases on the stage, each of which writes to the request or to nothing.
  unfold Link.scan
  split <;> exact holds.congr rfl rfl rfl

/-- Reading may lose the client and changes nothing else that is held. -/
theorem read {bench : Bench} (holds : HoldsByStage bench) (buffer : Bytes) :
    HoldsByStage (bench.read buffer).2 := by
  -- The link looks at the channel only while it is paired.
  unfold Link.read
  split
  · exact holds
  · split
    · exact holds.congr rfl rfl rfl
    · have same := ChannelDouble.listening_read bench.channel buffer
      exact holds.of_less rfl id same.symm.trans ChannelDouble.client_of_read

/-- Writing changes nothing that is held. -/
theorem write {bench : Bench} (holds : HoldsByStage bench) (bytes : Bytes) :
    HoldsByStage (bench.write bytes).2 := by
  -- The link passes octets on only while it is paired, and the channel keeps what it has.
  unfold Link.write
  split
  · exact holds
  · obtain ⟨listening, client⟩ := ChannelDouble.write_holds bench.channel bytes
    exact holds.of_less rfl id listening.symm.trans (congrArg Option.isSome client).symm.trans

/-- A link that is shut down holds nothing, and one that was closed already is left alone. -/
theorem shutdown {bench : Bench} (holds : HoldsByStage bench) : HoldsByStage bench.shutdown := by
  -- A closed link is left as it is, and any other one releases.
  unfold Link.shutdown
  split
  · exact holds
  · exact of_release rfl rfl

/-- Whatever happens to a bench keeps what is held within its stages. -/
theorem perform {bench after : Bench} {operation : Operation} {answer : Answer}
    (holds : HoldsByStage bench) (performed : bench.perform operation = .ok (answer, after)) :
    HoldsByStage after := by
  -- Failures and clients that are prepared open nothing; stops from outside only take away.
  cases operation with
  | tick elapsed => cases performed; exact holds.tick elapsed
  | setPower on => cases performed; exact holds.setPower on
  | connect index => cases performed; exact holds.connect index
  | scan => cases performed; exact holds.scan
  | forget | moveUp | moveDown => cases performed; exact holds.congr rfl rfl rfl
  | read buffer => cases performed; exact holds.read buffer
  | write bytes => cases performed; exact holds.write bytes
  | shutdown => cases performed; exact holds.shutdown
  | emit notification =>
    obtain ⟨_, _, rfl⟩ := Bench.perform_emit performed
    exact holds.congr rfl rfl rfl
  | failRequests | failDispatch => cases performed; exact holds.congr rfl rfl rfl
  | failStart | failNextSend =>
    cases performed
    exact holds.of_less rfl id id id
  -- A stopped announcer does not run, whatever it did before.
  | stopAnnouncer =>
    cases performed
    refine holds.of_less rfl (fun running => ?_) id id
    simp at running
  | failListen | failAccept | queueClient | pushInbound | hangUp =>
    cases performed
    exact holds.of_less rfl id id id
  | closeChannel =>
    cases performed
    refine holds.of_less rfl id id fun client => ?_
    simp at client
  | shutdownChannel =>
    cases performed
    refine holds.of_less rfl id (fun open_ => ?_) fun client => ?_
    · simp at open_
    · simp at client

/-- A link over an announcer and a channel that were never used holds nothing. -/
theorem start {manager : ManagerDouble} {settings : LinkSettings} {bench : Bench}
    (started : Link.start manager {} {} settings = .ok bench) : HoldsByStage bench := by
  -- Nothing was running, listening or served when the link was made.
  obtain ⟨_, _, _, _, _, _, rfl⟩ := start_cases started
  exact of_nothing rfl rfl rfl

/-- A link that is paired after its stage's work has a client. -/
theorem client_of_works {bench after : Bench} (works : Works bench after)
    (paired : after.stage = .paired) : after.channel.client.isSome = true := by
  -- Pairing is entered with a client, and left once the channel has none.
  cases works with
  | rests why => cases why with
    | serving _ client => exact client
    | _ => simp_all
  | passes why => cases why <;> cases paired
  -- The client that was taken is there.
  | clientTaken at_ running accepted =>
    have held := (ChannelDouble.accept_accepted accepted).2.2.1
    exact Option.isSome_iff_exists.mpr ⟨_, held⟩
  | joinPending at_ | channelFailed at_ | nobodyTaken at_ =>
    rw [show bench.stage = .paired from paired] at at_
    cases at_
  | _ => cases paired

/-- After a tick, a link is paired exactly while its channel has a client. -/
theorem paired_iff_tick {bench : Bench} (holds : HoldsByStage bench) (elapsed : Nat) :
    (bench.tick elapsed).stage = .paired ↔
      (bench.tick elapsed).channel.client.isSome = true := by
  -- That a client means pairing is the invariant; the other way the last step decides it.
  refine ⟨fun paired => ?_, (holds.tick elapsed).serving⟩
  by_cases closed : bench.stage = .closed
  · rw [tick_closed closed, closed] at paired
    cases paired
  · rw [tick_eq closed] at paired ⊢
    rcases step_cases (bench.untilStep elapsed) with ⟨_, _, lost⟩ | ⟨_, work⟩
    · rw [lost] at paired
      cases paired
    · exact client_of_works work paired

end HoldsByStage

/--
In every run of a link over an announcer and a channel that were never used, the beacon runs, the
channel listens and a client is held in the stages for it only. Right after a tick, the link is
paired exactly if a client is held.
-/
theorem resources_follow_stage {manager : ManagerDouble} {settings : LinkSettings}
    {operations : List Operation} {fresh bench : Bench}
    (started : Link.start manager {} {} settings = .ok fresh)
    (ran : fresh.run operations = .ok bench) :
    HoldsByStage bench ∧
    ∀ elapsed, (bench.tick elapsed).stage = .paired ↔
      (bench.tick elapsed).channel.client.isSome = true := by
  -- The invariant holds at the start, and every operation of the run keeps it.
  have holds : HoldsByStage bench :=
    Bench.run_keeps (fun before performed => before.perform performed) (.start started) ran
  exact ⟨holds, holds.paired_iff_tick⟩

/-- A link that comes up takes the client that waits, and holds it while paired. -/
theorem resources_follow_stage_homecoming :
    ∃ fresh bench,
      Link.start homeManager ({} : AnnouncerDouble) ({} : ChannelDouble) {} = .ok fresh ∧
      Bench.run fresh homecoming = .ok bench ∧ bench.stage = .paired ∧
      bench.announcer.running = true ∧ bench.channel.listening = true ∧
      bench.channel.client.isSome = true ∧ HoldsByStage bench ∧
      ∀ elapsed, (bench.tick elapsed).stage = .paired ↔
        (bench.tick elapsed).channel.client.isSome = true := by
  -- The run up to the pairing is evaluated, and every tick behind it is the theorem's.
  refine ⟨_, _, rfl, rfl, rfl, rfl, rfl, rfl, ?_⟩
  exact @resources_follow_stage homeManager {} homecoming _ _ rfl rfl

end CompanionLink
