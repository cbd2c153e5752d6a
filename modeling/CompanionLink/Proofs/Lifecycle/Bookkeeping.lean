import CompanionLink.Proofs.Double.Hold
import CompanionLink.Proofs.Lifecycle.Carrier

/-!
What a link remembers of joins follows its stage. A target is stored while a join waits for it, the
joined access point while the link is up, and a link that is cut off lets go within the same tick.
-/

namespace CompanionLink

namespace Link

variable {μ β χ : Type} [NetworkManager μ] [Announcer β] [PairingChannel χ]

/-- A target is stored exactly during a join, and a joined access point only under a link. -/
structure JoinByStage (link : Link μ β χ) : Prop where
  target : link.joinTarget.isSome = true ↔ link.stage = .joining
  joined : link.linkId.isSome = true → link.stage.hasLink = true

namespace JoinByStage

variable {link after : Link μ β χ}

section Stage

omit [NetworkManager μ] [Announcer β] [PairingChannel χ]

/-- Only the stage matters, and whether anything is remembered. -/
theorem congr (join : JoinByStage link) (stage : after.stage = link.stage)
    (target : after.joinTarget.isSome = link.joinTarget.isSome)
    (joined : after.linkId = link.linkId) : JoinByStage after where
  -- Neither half asks for which target or which access point it is.
  target := by rw [stage, target]; exact join.target
  joined := by rw [stage, joined]; exact join.joined

/-- A link that remembers nothing may be in any stage but the one that waits for a join. -/
theorem of_nothing (stage : after.stage ≠ .joining) (target : after.joinTarget = none)
    (joined : after.linkId = none) : JoinByStage after where
  -- What is not remembered asks for nothing.
  target := by simp [stage, target]
  joined := by simp [joined]

/-- Outside a join a link may move on, if it keeps being up to the access point that it joined. -/
theorem moves (join : JoinByStage link) {stage : Stage} (at_ : link.stage = stage)
    (idle : stage ≠ .joining) (next : after.stage ≠ .joining)
    (linked : stage.hasLink = true → after.stage.hasLink = true)
    (target : after.joinTarget = link.joinTarget) (joined : after.linkId = link.linkId) :
    JoinByStage after where
  target := by
    -- Outside a join nothing was stored, and so it is after the move.
    have none : ¬ link.joinTarget.isSome = true := fun some =>
      idle (at_.symm.trans (join.target.mp some))
    rw [target]
    exact iff_of_false none next
  joined := by
    rw [joined]
    exact fun some => linked (at_ ▸ join.joined some)

/-- Outside a join no target is stored. -/
theorem untargeted (join : JoinByStage link) (idle : link.stage ≠ .joining) :
    link.joinTarget = none := by
  -- A stored target would mean that the link waits for its join.
  cases held : link.joinTarget with
  | none => rfl
  | some target => exact absurd (join.target.mp (by simp [held])) idle

/-- Where the link is not up, no access point is remembered as joined. -/
theorem unjoined (join : JoinByStage link) (unlinked : link.stage.hasLink = false) :
    link.linkId = none := by
  -- A remembered access point would mean that the link is up to one.
  cases held : link.linkId with
  | none => rfl
  | some id => exact absurd (join.joined (by simp [held])) (by simp [unlinked])

end Stage

omit [NetworkManager μ] in
/-- A way on from one stage to the next begins and ends no join. -/
theorem passes {next : Stage} (join : JoinByStage link) (why : Passes link next) :
    JoinByStage (link.enter next) := by
  -- No stage with a link leads to one without it.
  cases why with
  | cameUp at_ | foundJoined at_ | foundAlone at_ | asked at_ | settled at_
  | connectedMeanwhile at_ | askedAgain at_ => exact join.moves at_ nofun nofun nofun rfl rfl
  | leased at_ | prepared at_ | graceOver at_ | shown at_ | clientGone at_ =>
    exact join.moves at_ nofun nofun (fun _ => rfl) rfl rfl
  | silenced at_ =>
    rcases at_ with at_ | at_ | at_ <;> exact join.moves at_ nofun nofun (fun _ => rfl) rfl rfl

/-- A stage's work stores a target or a joined access point only where the stage says. -/
theorem works (join : JoinByStage link) (works : Works link after) : JoinByStage after := by
  -- Each way of working starts in its stage, which tells what is held before and after.
  cases works with
  | rests => exact join
  | passes why => exact join.passes why
  | powerTimedOut at_ | searchImpossible at_ | searchTaken at_ | searchRefused at_
  | searchRejected at_ => exact join.moves at_ nofun nofun nofun rfl rfl
  -- A join that ends takes its target with it, whether or not it comes to a link.
  | joinFailed at_ => exact of_nothing nofun rfl (join.unjoined (by rw [at_]; rfl))
  | joinSucceeded => exact ⟨iff_of_false nofun nofun, fun _ => rfl⟩
  | joinPending at_ wanted => exact join.congr rfl (by rw [wanted]; rfl) rfl
  | beaconOpened at_ | channelOpened at_ | clientTaken at_ | channelGone at_ =>
    exact join.moves at_ nofun nofun (fun _ => rfl) rfl rfl
  | beaconFailed => exact of_nothing nofun rfl rfl
  | channelFailed | nobodyTaken => exact join.congr rfl rfl rfl

/-- A step keeps what is remembered within its stages: a link that is lost is forgotten. -/
theorem step (join : JoinByStage link) : JoinByStage link.step := by
  -- Losing the access point is one case, and the stage's work the other.
  rcases step_cases link with ⟨linked, _, lost⟩ | ⟨_, work⟩
  · -- There was no join under way while the link was up.
    have idle : link.stage ≠ .joining := by
      intro waits
      rw [waits] at linked
      cases linked
    rw [lost]
    exact of_nothing nofun (join.untargeted idle) rfl
  · exact join.works work

omit [NetworkManager μ] in
/-- A notification may mark a target, but only a lost radio makes a link forget. -/
theorem note (join : JoinByStage link) (notification : Notification) :
    JoinByStage (link.note notification) := by
  -- The failure of a join is noted on the target that is there, which neither adds nor removes one.
  have technology : JoinByStage (link.noteTechnology notification) := by
    rcases noteTechnology_cases link notification with ⟨_, _, _, lost⟩ | ⟨_, kept⟩
    · rw [lost]
      exact of_nothing nofun rfl rfl
    · rw [kept]
      exact join.congr rfl rfl rfl
  cases notification with
  | technologyAdded | technologyRemoved | powered => exact technology
  | joinFailed id reason => exact join.congr rfl (Option.isSome_map ..) rfl
  | _ => exact join.congr rfl rfl rfl

/-- What a tick's work finds is remembered within its stages. -/
theorem untilStep (join : JoinByStage link) (elapsed : Nat) :
    JoinByStage (link.untilStep elapsed) :=
  -- Time and announcer do not come into it, so that only the notifications are left.
  untilStep_keeps elapsed (fun _ _ _ _ join => join.congr rfl rfl rfl)
    (fun _ notification join => join.note notification) (fun _ join => join.congr rfl rfl rfl) join

/-- A tick keeps what is remembered within its stages. -/
theorem tick (join : JoinByStage link) (elapsed : Nat) : JoinByStage (link.tick elapsed) := by
  -- A closed link keeps what it has, and any other one takes in and steps.
  by_cases closed : link.stage = .closed
  · rw [tick_closed closed]
    exact join
  · rw [tick_eq closed]
    exact (join.untilStep elapsed).step

/-- Switching the radio off makes a link forget, and switching it on begins without a join. -/
theorem setPower (join : JoinByStage link) (on : Bool) : JoinByStage (link.setPower on).2 := by
  -- Two of the five outcomes move the link: one enters the way up, the other takes it down.
  have outcome := setPower_cases link on
  revert outcome
  generalize link.setPower on = result
  rintro (_ | _ | ⟨at_, _⟩ | _ | _)
  · exact join
  · exact join.congr rfl rfl rfl
  · exact join.moves at_ nofun nofun nofun rfl rfl
  · exact join.congr rfl rfl rfl
  · exact of_nothing nofun rfl rfl

/-- A join that is taken over has a target, and takes the place of whatever was joined. -/
theorem connect (join : JoinByStage link) (index : Nat) : JoinByStage (link.connect index).2 := by
  have outcome := connect_cases link index
  revert outcome
  generalize link.connect index = result
  rintro (_ | _ | _ | _)
  · exact join.congr rfl rfl rfl
  · exact join.congr rfl rfl rfl
  -- Whether or not a link has to be given up for it, the access point at the index is the target.
  · exact ⟨iff_of_true rfl rfl, nofun⟩
  · exact ⟨iff_of_true rfl rfl, nofun⟩

/-- Whatever happens to a link keeps what it remembers within its stages. -/
theorem follows (join : JoinByStage link) (happened : Follows link after) :
    JoinByStage after := by
  -- A command for a join is the only one that sets a target, and has its own lemma.
  cases happened with
  | tick elapsed => exact join.tick elapsed
  | setPower on => exact join.setPower on
  | connect index => exact join.connect index
  -- The other commands touch neither the stage nor what is joined.
  | scan =>
    unfold scan
    split <;> exact join.congr rfl rfl rfl
  | forget | moveUp | moveDown | outside => exact join.congr rfl rfl rfl
  | read buffer =>
    unfold read
    split
    · exact join
    · split <;> exact join.congr rfl rfl rfl
  | write bytes =>
    unfold write
    split
    · exact join
    · exact join.congr rfl rfl rfl
  | shutdown =>
    unfold shutdown
    split
    · exact join
    · exact of_nothing nofun rfl rfl

end JoinByStage

/-- Every link that some history leads to remembers joins as its stage says. -/
theorem Reachable.joinByStage {link : Link μ β χ} (reachable : Reachable link) :
    JoinByStage link := by
  -- By induction on the history: a fresh link remembers nothing.
  induction reachable with
  | start started =>
    obtain ⟨_, _, _, _, _, _, rfl⟩ := start_cases started
    exact .of_nothing nofun rfl rfl
  | follow _ happened join => exact join.follows happened

/-- The work of a tick that finds a join finds its target, and is nothing but to wait for it. -/
theorem JoinByStage.join_polled {link : Link μ β χ} (join : JoinByStage link)
    (open_ : link.stage ≠ .closed) {elapsed : Nat}
    (waits : (link.untilStep elapsed).stage = .joining) :
    (∃ target, (link.untilStep elapsed).joinTarget = some target) ∧
      link.tick elapsed = (link.untilStep elapsed).stepJoining := by
  -- Taking in what was reported keeps the stages in line, so the wait it finds has its target.
  refine ⟨Option.isSome_iff_exists.mp ((join.untilStep elapsed).target.mpr waits), ?_⟩
  rw [tick_eq open_, Link.step, stepStage, waits]
  rfl

omit [NetworkManager μ] in
/-- Once a link is off, no notification touches what it held. -/
theorem note_off {link : Link μ β χ} (off : link.stage = .off) (notification : Notification) :
    (link.note notification).stage = .off ∧
      (link.note notification).announcer = link.announcer ∧
      (link.note notification).channel = link.channel := by
  -- A radio that is lost again finds nothing to take down.
  have technology : link.noteTechnology notification =
      { link with technologies := (link.technologies.apply notification).2 } := by
    rcases noteTechnology_cases link notification with ⟨_, up, _⟩ | ⟨_, kept⟩
    · exact absurd off up
    · exact kept
  cases notification with
  | technologyAdded | technologyRemoved | powered =>
    rw [note, technology]
    exact ⟨off, rfl, rfl⟩
  | _ => exact ⟨off, rfl, rfl⟩

omit [NetworkManager μ] in
/-- Once a link is off, notifications in a row do not touch what it held. -/
theorem foldl_note_off (delivered : List Notification) {link : Link μ β χ}
    (off : link.stage = .off) :
    (delivered.foldl note link).stage = .off ∧
      (delivered.foldl note link).announcer = link.announcer ∧
      (delivered.foldl note link).channel = link.channel := by
  -- By induction on the notifications, each of which leaves an off link off.
  induction delivered generalizing link with
  | nil => exact ⟨off, rfl, rfl⟩
  | cons notification later ih =>
    obtain ⟨stays, announcer, channel⟩ := note_off off notification
    obtain ⟨down, silent, shut⟩ := ih stays
    exact ⟨down, silent.trans announcer, shut.trans channel⟩

omit [NetworkManager μ] in
/-- Notifications that put out the radio of a link that was up release what it held, once. -/
theorem foldl_note_lost (delivered : List Notification) {link : Link μ β χ}
    (kinds : link.technologies.KindsMatch) (up : link.stage.isUp = true)
    (lost : link.technologies.losesPower delivered = true) :
    (delivered.foldl note link).stage = .off ∧
      (delivered.foldl note link).announcer = Announcer.stop link.announcer ∧
      (delivered.foldl note link).channel = PairingChannel.shutdown link.channel := by
  induction delivered generalizing link with
  -- No notification puts out nothing.
  | nil => cases lost
  | cons notification later ih =>
    rw [Technologies.losesPower, Bool.or_eq_true] at lost
    rw [List.foldl_cons]
    cases first : link.technologies.wifiPowered &&
        !(link.technologies.apply notification).2.wifiPowered with
    | true =>
      -- This notification releases everything, and the later ones find the link off.
      rw [note_lost kinds up first]
      exact foldl_note_off later rfl
    -- The radio goes on, so that it is one of the later notifications that puts it out.
    | false =>
      obtain ⟨_, _, noted⟩ := note_spared kinds first
      have rest := lost.resolve_left (by simp [first])
      rw [noted]
      exact ih (kinds.apply notification) up rest

/--
A link that let go during a tick: its channel was shut down and its announcer was stopped, after
the beacon's time passed or with no time for it.
-/
structure LetsGo (link after : Link μ β χ) (elapsed : Nat) : Prop where
  channel : after.channel = PairingChannel.shutdown link.channel
  announcer : after.announcer = Announcer.stop link.announcer ∨
    after.announcer = Announcer.stop (Announcer.tick link.announcer elapsed).2

/-- A tick that takes in that the radio went out lets go of everything that the link held. -/
theorem tick_lost_letsGo {link : Link μ β χ} (kinds : link.technologies.KindsMatch)
    (up : link.stage.isUp = true) (lost : link.losesRadio = true) (elapsed : Nat) :
    LetsGo link (link.tick elapsed) elapsed := by
  -- The drain alone decides, since a link that is off does no more in the tick.
  let handed : Link μ β χ :=
    { link with elapsed := link.elapsed + elapsed, manager := link.drainedManager }
  have goesOut : handed.technologies.losesPower link.delivered = true := lost
  obtain ⟨off, silent, shut⟩ := @foldl_note_lost _ _ _ _ _ link.delivered handed kinds up goesOut
  -- A link that is off lets no beacon's time pass and does no work.
  have found : link.untilStep elapsed = link.delivered.foldl note handed := by
    show tickBeacon (link.delivered.foldl note handed) elapsed = _
    rw [tickBeacon, off]
    rfl
  have still : link.tick elapsed = link.delivered.foldl note handed := by
    rw [tick_eq (Stage.isUp_iff.mp up).2.2, found, Link.step, stepStage, off]
    rfl
  rw [still]
  exact ⟨shut, .inl silent⟩

/-- A tick of a link that keeps its radio and is cut off lets go of everything that it held. -/
theorem tick_cutOff_letsGo {link : Link μ β χ} (kinds : link.technologies.KindsMatch)
    (linked : link.stage.hasLink = true) (kept : link.losesRadio = false)
    (alone : link.IsCutOff) (elapsed : Nat) : LetsGo link (link.tick elapsed) elapsed := by
  -- The radio was kept, so the tick ends with the release of a link that was cut off.
  let handed : Link μ β χ :=
    { link with elapsed := link.elapsed + elapsed, manager := link.drainedManager }
  -- What was reported concerns neither the beacon nor the channel, as the radio was kept.
  have staysLit : handed.technologies.losesPower link.delivered = false := kept
  obtain ⟨_, _, _, noted⟩ := @foldl_note_spared _ _ _ _ _ link.delivered handed kinds staysLit
  obtain ⟨announcer, status, ticked, passed⟩ :=
    tickBeacon_eq (link.delivered.foldl note handed) elapsed
  have found : link.untilStep elapsed =
      { link.delivered.foldl note handed with announcer, status } := ticked
  rw [noted] at found passed
  rw [tick_cutOff kinds linked kept alone, found]
  exact ⟨rfl, passed.imp (congrArg Announcer.stop) (congrArg Announcer.stop)⟩

/-- A link that is cut off lets go within a tick and ends in the listing, or off with its radio. -/
theorem RadioByStage.tick_alone {link : Link μ β χ} (radio : RadioByStage link)
    (linked : link.stage.hasLink = true) (alone : link.IsCutOff) (elapsed : Nat) :
    (link.tick elapsed).stage = (if link.losesRadio then .off else .listed) ∧
      LetsGo link (link.tick elapsed) elapsed := by
  have up := Stage.isUp_of_hasLink linked
  -- A radio that goes out is noted before the tick's work could find the link cut off.
  cases lost : link.losesRadio with
  | true =>
    exact ⟨stage_tick_lost radio.kinds up lost elapsed,
      tick_lost_letsGo radio.kinds up lost elapsed⟩
  | false =>
    exact ⟨stage_tick_cutOff radio.kinds linked lost alone elapsed,
      tick_cutOff_letsGo radio.kinds linked lost alone elapsed⟩

/-- A bench that let go announces nothing, listens to nobody and holds no client. -/
theorem LetsGo.nothing_open {bench after : Bench} {elapsed : Nat}
    (letsGo : LetsGo bench after elapsed) :
    after.announcer.running = false ∧ after.channel.listening = false ∧
      after.channel.client = none := by
  -- Beacon and channel were ended last, and ending them leaves nothing open.
  refine ⟨?_, ?_, ?_⟩
  · rcases letsGo.announcer with stopped | stopped <;> rw [stopped]
    · exact bench.announcer.running_stop
    · exact (bench.announcer.tick elapsed).2.running_stop
  · rw [letsGo.channel]
    exact bench.channel.listening_shutdown
  · rw [letsGo.channel]
    exact bench.channel.client_shutdown

end Link

open Link in
/--
Whatever happened to a link, a target is stored exactly while a join waits for it, a joined access
point only while the link is up to one, and some listed access point is then connected. So a tick
that comes to a join finds its target.

If nothing is connected any more once a tick has taken everything in, a link that was up to an
access point has let go by the end of that tick and forgotten what it was joined to. It is then in
the listing, or off if the radio went out as well.
-/
theorem joins_kept_by_stage {μ β χ : Type} [NetworkManager μ] [Announcer β] [PairingChannel χ]
    {link : Link μ β χ} (reachable : Reachable link) :
    (link.joinTarget.isSome = true ↔ link.stage = .joining) ∧
    (link.linkId.isSome = true → link.stage.hasLink = true) ∧
    (link.stage.hasLink = true → ∃ point ∈ link.directory.entries, point.isConnected = true) ∧
    (link.stage ≠ .closed → ∀ elapsed, (link.untilStep elapsed).stage = .joining →
      (∃ target, (link.untilStep elapsed).joinTarget = some target) ∧
        link.tick elapsed = (link.untilStep elapsed).stepJoining) ∧
    (link.stage.hasLink = true → ∀ elapsed,
      (∀ point ∈ (link.untilStep elapsed).directory.entries, point.isConnected = false) →
      let after := link.tick elapsed
      after.stage = (if link.losesRadio then .off else .listed) ∧
        after.joinTarget = none ∧ after.linkId = none ∧ LetsGo link after elapsed) ∧
    ∀ {bench after : Bench} {elapsed : Nat}, LetsGo bench after elapsed →
      after.announcer.running = false ∧ after.channel.listening = false ∧
        after.channel.client = none := by
  have join := reachable.joinByStage
  refine ⟨join.target, join.joined, fun linked => ?_, fun open_ elapsed waits =>
    join.join_polled open_ waits, fun linked elapsed alone => ?_, LetsGo.nothing_open⟩
  -- The access point that carries the link is the connected one.
  · obtain ⟨carrier, carried⟩ := reachable.carried linked
    exact ⟨carrier, carrier_connected carried⟩
  · -- Only notifications change the directory, so the tick's work finds the link cut off.
    rw [(untilStep_told link elapsed).1] at alone
    obtain ⟨stage, letsGo⟩ := reachable.radioByStage.tick_alone linked alone elapsed
    have later := join.tick elapsed
    refine ⟨stage, later.untargeted ?_, later.unjoined ?_, letsGo⟩
    · rw [stage]
      split <;> nofun
    · rw [stage]
      split <;> rfl

/--
A join that the home was asked for has its target. Once it came up and both access points are gone,
one tick closes the beacon and forgets the home.
-/
theorem joins_kept_by_stage_leaving :
    ∃ fresh waiting alone,
      Link.start townManager ({} : AnnouncerDouble) ({} : ChannelDouble) {} = .ok fresh ∧
      Bench.run fresh [.setPower true, .tick 100, .connect 1] = .ok waiting ∧
      Bench.run fresh (movingHome ++ [.emit (.propertyChanged "cafe" (.state .idle)),
        .emit (.propertyChanged "home" (.state .idle))]) = .ok alone ∧
      (waiting.stage = .joining ∧ waiting.joinTarget.isSome = true ∧
        waiting.tick 100 = (waiting.untilStep 100).stepJoining) ∧
      alone.linkId = some "home" ∧ alone.announcer.running = true ∧
      (alone.tick 100).stage = .listed ∧ (alone.tick 100).linkId = none ∧
      (alone.tick 100).announcer.running = false := by
  -- The two runs are evaluated, and their last tick is what the theorem says of it.
  refine ⟨_, _, _, rfl, rfl, rfl, ⟨rfl, ?_, ?_⟩, rfl, rfl, ?_⟩
  · have reachable := @Bench.run_reachable townManager {} {} {}
      [.setPower true, .tick 100, .connect 1] _ _ rfl rfl
    exact (joins_kept_by_stage reachable).1.mpr rfl
  -- The tick in the joining stage is the poll of the join.
  · have reachable := @Bench.run_reachable townManager {} {} {}
      [.setPower true, .tick 100, .connect 1] _ _ rfl rfl
    obtain ⟨_, _, _, polled, _⟩ := joins_kept_by_stage reachable
    exact (polled nofun 100 rfl).2
  · have reachable := @Bench.run_reachable townManager {} {} {}
      (movingHome ++ [.emit (.propertyChanged "cafe" (.state .idle)),
        .emit (.propertyChanged "home" (.state .idle))]) _ _ rfl rfl
    obtain ⟨_, _, _, _, cutOff, closes⟩ := joins_kept_by_stage reachable
    obtain ⟨stage, _, forgotten, letsGo⟩ := cutOff rfl 100 (by decide)
    exact ⟨stage, forgotten, (closes letsGo).1⟩

end CompanionLink
