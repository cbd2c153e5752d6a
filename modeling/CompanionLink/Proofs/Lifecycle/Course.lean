import CompanionLink.Proofs.Lifecycle.Frame

/-!
The course of a link through its stages. A tick goes one way on from its stage, unless the radio or
the access point is lost; a command moves a link only to where its name says.
-/

namespace CompanionLink

/-- The stages that a tick may come to from a stage, while nothing that the link needs is lost. -/
def Stage.onward : Stage → List Stage
  -- A link that is off waits for a command.
  | .off => [.off]
  | .powering => [.powering, .powered, .off]
  | .powered => [.joined, .ready]
  | .ready => [.ready, .searching]
  | .searching => [.settling, .listed]
  | .settling => [.settling, .listed]
  | .listed => [.listed, .joined, .searching]
  | .joining => [.joining, .joined, .listed]
  | .joined => [.joined, .leased]
  | .leased => [.opening]
  | .opening => [.announced, .off]
  | .announced => [.announced, .visible]
  -- From the first announcement on, a beacon that stopped leads back to its preparation.
  | .visible => [.offering, .leased]
  | .offering => [.offering, .listening, .leased]
  | .listening => [.listening, .paired, .offering, .leased]
  | .paired => [.paired, .listening]
  | .closed => [.closed]

namespace Stage

/-- Whether the radio has come up in a stage, and the link is not shut down. -/
def isUp (stage : Stage) : Bool := powered ≤ stage && stage != closed

/-- Up is every stage but the ones with the radio off and the one at the end. -/
theorem isUp_iff {stage : Stage} :
    stage.isUp = true ↔ stage ≠ .off ∧ stage ≠ .powering ∧ stage ≠ .closed := by
  cases stage <;> decide

/-- An open link that is not up is off, or on its way to the radio. -/
theorem down_of_not_isUp {stage : Stage} (open_ : stage ≠ .closed) (down : stage.isUp = false) :
    stage = .off ∨ stage = .powering := by
  -- By the stage.
  revert open_ down
  cases stage <;> decide

/-- No way on leads to the end of a link. -/
theorem ne_closed_of_onward {stage next : Stage} (open_ : stage ≠ .closed)
    (onward : next ∈ stage.onward) : next ≠ .closed := by
  -- By cases on the stage, of which only the last one leads to itself.
  rintro rfl
  revert onward open_
  cases stage <;> decide

/-- A link that is up to an access point is up. -/
theorem isUp_of_hasLink {stage : Stage} (linked : stage.hasLink = true) : stage.isUp = true := by
  -- By the stage.
  revert linked
  cases stage <;> decide

/-- No stage's work gives up an access point that is there. -/
theorem listed_not_onward {stage : Stage} (linked : stage.hasLink = true) :
    .listed ∉ stage.onward := by
  -- By cases on the stages with an access point.
  revert linked
  cases stage <;> decide

/-- Only the opening of the beacon can fail so badly that the whole link is given up. -/
theorem off_not_onward {stage : Stage} (up : stage.isUp = true) (other : stage ≠ .opening) :
    .off ∉ stage.onward := by
  -- By cases on the stages that are up.
  revert up other
  cases stage <;> decide

end Stage

namespace Link

variable {μ β χ : Type} [NetworkManager μ] [Announcer β] [PairingChannel χ]

omit [NetworkManager μ] [Announcer β] [PairingChannel χ] in
/-- A link is carried as long as any access point is connected, the joined one or another. -/
theorem carrier_eq_none_iff (link : Link μ β χ) :
    link.carrier = none ↔ ∀ point ∈ link.directory.entries, point.isConnected = false := by
  have first : link.directory.firstConnected = none ↔
      ∀ point ∈ link.directory.entries, point.isConnected = false := by
    simp [Directory.firstConnected]
  rw [carrier, Option.or_eq_none_iff, first]
  refine ⟨fun ⟨_, alone⟩ => alone, fun alone => ⟨?_, alone⟩⟩
  -- The joined access point is one of the listed ones, so it cannot be connected alone.
  rw [Option.filter_eq_none_iff]
  intro point joined
  obtain ⟨id, _, found⟩ := Option.bind_eq_some_iff.mp joined
  simpa using alone point (List.mem_of_find?_eq_some found)

omit [NetworkManager μ] [Announcer β] [PairingChannel χ] in
/-- A link is in the stage it has entered. -/
@[simp] theorem stage_enter (link : Link μ β χ) (stage : Stage) :
    (link.enter stage).stage = stage := rfl

omit [NetworkManager μ] [Announcer β] [PairingChannel χ] in
/-- A join that is given up leads back to the listing. -/
@[simp] theorem stage_abandonJoin (link : Link μ β χ) : link.abandonJoin.stage = .listed := rfl

omit [NetworkManager μ] in
/-- A link that is powered down is off. -/
@[simp] theorem stage_powerDown (link : Link μ β χ) : link.powerDown.stage = .off := rfl

/-- A stage's work goes one of the ways on from its stage. -/
theorem Works.onward {link after : Link μ β χ} (works : Works link after) :
    after.stage ∈ link.stage.onward := by
  cases works with
  | rests why => cases why with
    | unused at_ | ended at_ | comingUp at_ | unasked at_ | settling at_ | listing at_
    | unleased at_ | announcing at_ | serving at_ => rw [at_]; decide
  | passes why => cases why with
    | cameUp at_ | foundJoined at_ | foundAlone at_ | asked at_ | settled at_
    | connectedMeanwhile at_ | askedAgain at_ | leased at_ | prepared at_ | graceOver at_
    | shown at_ | clientGone at_ => rw [at_, stage_enter]; decide
    -- Three stages rely on the beacon, and each of them falls back alike.
    | silenced at_ => rcases at_ with at_ | at_ | at_ <;> rw [at_, stage_enter] <;> decide
  | powerTimedOut at_ | searchImpossible at_ | searchTaken at_ | searchRefused at_
  | searchRejected at_ | joinSucceeded at_ | beaconOpened at_ | channelOpened at_
  | clientTaken at_ | channelGone at_ => rw [at_, stage_enter]; decide
  | joinFailed at_ => rw [at_, stage_abandonJoin]; decide
  | beaconFailed at_ => rw [at_, stage_powerDown]; decide
  | joinPending at_ | channelFailed at_ | nobodyTaken at_ =>
    -- The stage stays, so it is the one at hand.
    show link.stage ∈ link.stage.onward
    rw [at_]
    decide

omit [NetworkManager μ] in
/-- Before the radio is up, no notification moves a link. -/
theorem stage_foldl_note_down {delivered : List Notification} {link : Link μ β χ}
    (down : link.stage = .off ∨ link.stage = .powering) :
    (delivered.foldl note link).stage = link.stage := by
  -- Each notification leaves a link that is down where it is.
  induction delivered generalizing link with
  | nil => rfl
  | cons notification later ih =>
    -- A radio that is lost that early is not waited for any less.
    have technology : (link.noteTechnology notification).stage = link.stage := by
      rcases noteTechnology_cases link notification with ⟨_, off, powering, _⟩ | ⟨_, kept⟩
      · exact absurd down (not_or.mpr ⟨off, powering⟩)
      · rw [kept]
    have stays : (link.note notification).stage = link.stage := by
      cases notification with
      | technologyAdded | technologyRemoved | powered => exact technology
      | _ => rfl
    rw [List.foldl_cons, ih (stays ▸ down), stays]

omit [NetworkManager μ] in
/-- The notification that puts out the radio of a link that is up gives the link up. -/
theorem note_lost {link : Link μ β χ} (kinds : link.technologies.KindsMatch)
    (up : link.stage.isUp = true) {notification : Notification}
    (lost : (link.technologies.wifiPowered &&
      !(link.technologies.apply notification).2.wifiPowered) = true) :
    link.note notification =
      { link with technologies := (link.technologies.apply notification).2 }.powerDown := by
  -- The loss is told by the notification alone, and the stage lets it count.
  rw [Bool.and_eq_true, Bool.not_eq_true'] at lost
  have change := (Technologies.apply_lost_iff kinds notification).mpr lost
  obtain ⟨off, powering, _⟩ := Stage.isUp_iff.mp up
  -- Of the two things that can come of it, only the loss fits.
  have down : link.noteTechnology notification =
      { link with technologies := (link.technologies.apply notification).2 }.powerDown := by
    rcases noteTechnology_cases link notification with ⟨_, _, _, down⟩ | ⟨early, _⟩
    · exact down
    · exact absurd (early change) (not_or.mpr ⟨off, powering⟩)
  cases notification with
  | technologyAdded | technologyRemoved | powered => exact down
  | _ => cases change

omit [NetworkManager μ] in
/-- A notification that puts the radio out takes a link down that was up. -/
theorem stage_note_lost {link : Link μ β χ} (kinds : link.technologies.KindsMatch)
    (up : link.stage.isUp = true) {notification : Notification}
    (lost : (link.technologies.wifiPowered &&
      !(link.technologies.apply notification).2.wifiPowered) = true) :
    (link.note notification).stage = .off := by
  -- Such a notification powers the link down.
  rw [note_lost kinds up lost, stage_powerDown]

omit [NetworkManager μ] in
/-- Once some of the notifications puts the radio out, a link that was up is off. -/
theorem stage_foldl_note_lost {delivered : List Notification} {link : Link μ β χ}
    (kinds : link.technologies.KindsMatch) (up : link.stage.isUp = true)
    (lost : link.technologies.losesPower delivered = true) :
    (delivered.foldl note link).stage = .off := by
  induction delivered generalizing link with
  | nil => cases lost
  | cons notification later ih =>
    rw [Technologies.losesPower, Bool.or_eq_true] at lost
    rw [List.foldl_cons]
    cases first : link.technologies.wifiPowered &&
        !(link.technologies.apply notification).2.wifiPowered with
    | true =>
      -- From there on nothing that is reported moves the link, not even a radio that comes back.
      have down := stage_note_lost kinds up first
      rw [stage_foldl_note_down (.inl down), down]
    | false =>
      -- The loss is still to come, and this notification leaves the link up for it.
      obtain ⟨_, _, noted⟩ := note_spared kinds first
      have rest := lost.resolve_left (by simp [first])
      rw [noted]
      exact ih (kinds.apply notification) up rest

/-- Whether the next tick takes in that the radio went out. -/
def losesRadio (link : Link μ β χ) : Bool := link.technologies.losesPower link.delivered

/-- Whether no access point is connected any more once the next tick has taken everything in. -/
def IsCutOff (link : Link μ β χ) : Prop :=
  ∀ point ∈ (link.directory.told link.delivered).entries, point.isConnected = false

/-- The work of a tick finds a link in its stage, unless the radio went out under it. -/
theorem stage_untilStep (link : Link μ β χ) (kinds : link.technologies.KindsMatch) (elapsed : Nat)
    (open_ : link.stage ≠ .closed) :
    (link.untilStep elapsed).stage =
      if link.stage.isUp = true ∧ link.losesRadio = true then .off else link.stage := by
  let handed : Link μ β χ :=
    { link with elapsed := link.elapsed + elapsed, manager := link.drainedManager }
  have handed_kinds : handed.technologies.KindsMatch := kinds
  -- Letting the beacon's time pass moves no link, so the notifications decide.
  have drained : (link.untilStep elapsed).stage = (link.delivered.foldl note handed).stage := by
    obtain ⟨announcer, status, ticked, _⟩ :=
      tickBeacon_eq { link with elapsed := link.elapsed + elapsed }.drain elapsed
    rw [untilStep, ticked]
    rfl
  rw [drained]
  -- A link that is down has no radio to lose, and one that is up may lose it in the drain.
  cases up : link.stage.isUp with
  | false =>
    have down : handed.stage = .off ∨ handed.stage = .powering :=
      Stage.down_of_not_isUp open_ up
    rw [if_neg (by simp)]
    exact stage_foldl_note_down down
  | true =>
    cases lost : link.losesRadio with
    | true =>
      have goesOut : handed.technologies.losesPower link.delivered = true := lost
      rw [if_pos ⟨rfl, rfl⟩]
      exact stage_foldl_note_lost handed_kinds up goesOut
    | false =>
      have staysLit : handed.technologies.losesPower link.delivered = false := lost
      obtain ⟨_, _, _, noted⟩ := foldl_note_spared handed_kinds staysLit
      rw [if_neg (by simp), noted]

/-- A tick that takes in that the radio went out leaves no link up. -/
theorem stage_tick_lost {link : Link μ β χ} (kinds : link.technologies.KindsMatch)
    (up : link.stage.isUp = true) (lost : link.losesRadio = true) (elapsed : Nat) :
    (link.tick elapsed).stage = .off := by
  have open_ := (Stage.isUp_iff.mp up).2.2
  have found := stage_untilStep link kinds elapsed open_
  rw [if_pos ⟨up, lost⟩] at found
  -- There is no work to do and no access point to lose in the stage that is left.
  rw [tick_eq open_, step, stepStage, found]
  exact found

/-- A tick of a link that keeps its radio and is cut off does nothing but give the link up. -/
theorem tick_cutOff {link : Link μ β χ} (kinds : link.technologies.KindsMatch)
    (linked : link.stage.hasLink = true) (kept : link.losesRadio = false)
    (alone : link.IsCutOff) (elapsed : Nat) :
    link.tick elapsed =
      { (link.untilStep elapsed).release with linkId := none }.enter .listed := by
  have open_ := (Stage.isUp_iff.mp (Stage.isUp_of_hasLink linked)).2.2
  -- The drain moves the link nowhere, so the step finds it up and without a carrier.
  have found := stage_untilStep link kinds elapsed open_
  rw [if_neg (by simp [kept])] at found
  have none_ : (link.untilStep elapsed).carrier = none := by
    rw [carrier_eq_none_iff, (untilStep_told link elapsed).1]
    exact alone
  rw [tick_eq open_]
  rcases step_cases (link.untilStep elapsed) with ⟨_, _, lost⟩ | ⟨held, _⟩
  · exact lost
  -- Otherwise the step would have found a carrier.
  · have some_ := held (by rw [found, linked])
    rw [none_] at some_
    cases some_

/-- A tick of a link that keeps its radio gives it up to the listing if it is cut off. -/
theorem stage_tick_cutOff {link : Link μ β χ} (kinds : link.technologies.KindsMatch)
    (linked : link.stage.hasLink = true) (kept : link.losesRadio = false)
    (alone : link.IsCutOff) (elapsed : Nat) : (link.tick elapsed).stage = .listed := by
  -- Giving the link up ends with entering the listing.
  rw [tick_cutOff kinds linked kept alone, stage_enter]

/-- Every other tick goes one of the ways on. -/
theorem stage_tick_onward {link : Link μ β χ} (kinds : link.technologies.KindsMatch)
    (kept : ¬ (link.stage.isUp = true ∧ link.losesRadio = true))
    (carried : ¬ (link.stage.hasLink = true ∧ link.IsCutOff)) (elapsed : Nat) :
    (link.tick elapsed).stage ∈ link.stage.onward := by
  -- Neither a lost radio nor a lost access point interferes, so the stage's own work decides.
  by_cases closed : link.stage = .closed
  · rw [tick_closed closed, closed]
    decide
  -- The drain leaves the stage, so the work begins there.
  · have found := stage_untilStep link kinds elapsed closed
    rw [if_neg kept] at found
    rw [tick_eq closed, ← found]
    rcases step_cases (link.untilStep elapsed) with ⟨linked, none_, _⟩ | ⟨_, work⟩
    · -- Nothing that carries the link would mean that it is cut off.
      rw [carrier_eq_none_iff, (untilStep_told link elapsed).1] at none_
      rw [found] at linked
      exact absurd ⟨linked, none_⟩ carried
    · exact work.onward

/-- While the beacon is opened, the link is given up if it does not start. -/
theorem stage_tick_opening {link : Link μ β χ} (kinds : link.technologies.KindsMatch)
    (at_ : link.stage = .opening) (kept : link.losesRadio = false) (carried : ¬ link.IsCutOff)
    (elapsed : Nat) :
    (link.tick elapsed).stage = .off ↔
      ∃ error, (Announcer.start (link.untilStep elapsed).announcer
        (link.untilStep elapsed).beaconTarget).1 = .error error := by
  -- A radio that is kept and a carrier that is there leave the beacon to decide.
  have open_ : link.stage ≠ .closed := by rw [at_]; decide
  have found := stage_untilStep link kinds elapsed open_
  rw [if_neg (by simp [kept]), at_] at found
  -- The access point is there, so the step comes to the beacon.
  have held : (link.untilStep elapsed).carrier.isNone = false := by
    rw [Option.isNone_eq_false_iff, Option.isSome_iff_ne_none, Ne, carrier_eq_none_iff,
      (untilStep_told link elapsed).1]
    exact carried
  have work : (link.untilStep elapsed).step = (link.untilStep elapsed).stepOpening := by
    rw [step, held, Bool.and_false, if_neg Bool.false_ne_true, stepStage, found]
  rw [tick_eq open_, work, stepOpening]
  -- Opened or not, the stage behind says which it was.
  rcases Announcer.start (link.untilStep elapsed).announcer (link.untilStep elapsed).beaconTarget
    with ⟨error | _, announcer⟩
  · exact iff_of_true rfl ⟨error, rfl⟩
  · constructor
    · intro off
      cases off
    · rintro ⟨_, refused⟩
      cases refused

/-- Switching the radio off ends at the bottom, and switching it on only starts from there. -/
theorem stage_setPower (link : Link μ β χ) (on : Bool) :
    (link.setPower on).2.stage =
      if (link.setPower on).1 = .ok then
        if on = false then .off else if link.stage = .off then .powering else link.stage
      else link.stage := by
  -- By the five outcomes of the switch.
  have outcome := setPower_cases link on
  revert outcome
  generalize link.setPower on = result
  rintro (_ | _ | ⟨at_, _⟩ | ⟨_, begun, _⟩ | _)
  · rfl
  · rfl
  · simp [at_]
  · simp [begun]
  · simp

/-- A join that is taken over moves a link to wait for it; a refused one leaves it where it is. -/
theorem stage_connect (link : Link μ β χ) (index : Nat) :
    (link.connect index).2.stage =
      if (link.connect index).1 = .ok then .joining else link.stage := by
  -- Two refusals leave the stage, and a request that is taken enters the wait, linked or not.
  have outcome := connect_cases link index
  revert outcome
  generalize link.connect index = result
  rintro (_ | _ | _ | _) <;> rfl

/-- No other command moves a link. -/
theorem stage_command (link : Link μ β χ) {happening : Happening μ β χ}
    (command : happening.isCommand = true) (noPower : ∀ on, happening ≠ .setPower on)
    (noJoin : ∀ index, happening ≠ .connect index) :
    (link.after happening).stage = link.stage := by
  -- What is left works on the directory, the channel or the manager.
  cases happening with
  | tick | shutdown | outside => cases command
  | setPower on => exact absurd rfl (noPower on)
  | connect index => exact absurd rfl (noJoin index)
  | forget | moveUp | moveDown => rfl
  -- A search is noted down, and reads and writes go to the channel.
  | scan => rw [after, scan]; split <;> rfl
  | read buffer =>
    rw [after, read]
    split
    · rfl
    · split <;> rfl
  | write bytes => rw [after, write]; split <;> rfl

/-- No tick closes a link. -/
theorem tick_open {link : Link μ β χ} (kinds : link.technologies.KindsMatch)
    (open_ : link.stage ≠ .closed) (elapsed : Nat) : (link.tick elapsed).stage ≠ .closed := by
  -- A tick comes out in one of three ways, and none of them closes the link.
  by_cases lost : link.stage.isUp = true ∧ link.losesRadio = true
  · rw [stage_tick_lost kinds lost.1 lost.2]
    decide
  · by_cases alone : link.stage.hasLink = true ∧ link.IsCutOff
    · have up := Stage.isUp_of_hasLink alone.1
      rw [stage_tick_cutOff kinds alone.1 (by simpa [up] using lost) alone.2]
      decide
    · exact Stage.ne_closed_of_onward open_ (stage_tick_onward kinds lost alone elapsed)

/-- No command but the shutdown closes a link. -/
theorem command_open {link : Link μ β χ} (open_ : link.stage ≠ .closed)
    {happening : Happening μ β χ} (command : happening.isCommand = true) :
    (link.after happening).stage ≠ .closed := by
  cases happening with
  | setPower on =>
    rw [after, stage_setPower]
    -- The switch leads off, to the way up, or nowhere.
    split
    · split
      · decide
      · split
        · decide
        · exact open_
    · exact open_
  | connect index =>
    rw [after, stage_connect]
    split
    · decide
    · exact open_
  -- What moves no link does not close it.
  | _ => rw [stage_command link command (by simp) (by simp)]; exact open_

/-- No command opens a link again that is closed. -/
theorem command_closed {link : Link μ β χ} (closed : link.stage = .closed)
    {happening : Happening μ β χ} (command : happening.isCommand = true) :
    (link.after happening).stage = .closed := by
  -- The two commands that can move a link refuse first of all if it is closed.
  cases happening with
  | setPower on =>
    rw [after, setPower, if_pos closed]
    exact closed
  | connect index =>
    rw [after, connect, if_pos (by simp [closed])]
    exact closed
  | _ => rw [stage_command link command (by simp) (by simp)]; exact closed

/-- A shutdown leaves a link closed, also the second time. -/
theorem stage_shutdown (link : Link μ β χ) : link.shutdown.stage = .closed := by
  -- A link that is closed already stays so.
  unfold shutdown
  split
  · assumption
  · rfl

end Link

open Link in
/--
A tick moves a link one way on from its stage. Besides, a link that is up to an access point goes
to the listing exactly if the radio is kept and no access point is connected any more, and a link
that is up goes off exactly if the radio goes out, or the beacon does not open.

Of the commands, the switch moves a link off or starts it, a join moves it to wait, a shutdown
closes it, and no other one moves it.
-/
theorem stages_follow_course {μ β χ : Type} [NetworkManager μ] [Announcer β] [PairingChannel χ]
    {link : Link μ β χ} (reachable : Reachable link) :
    (∀ elapsed,
      let next := (link.tick elapsed).stage
      (next ∈ link.stage.onward ∨ link.stage.hasLink = true ∧ next = .listed ∨
        link.stage.isUp = true ∧ next = .off) ∧
      (link.stage.hasLink = true → (next = .listed ↔ link.losesRadio = false ∧ link.IsCutOff)) ∧
      (link.stage.isUp = true →
        (next = .off ↔ link.losesRadio = true ∨
          link.stage = .opening ∧ ¬ link.IsCutOff ∧
            ∃ error, (Announcer.start (link.untilStep elapsed).announcer
              (link.untilStep elapsed).beaconTarget).1 = .error error))) ∧
    (∀ on, (link.setPower on).2.stage =
      if (link.setPower on).1 = .ok then
        if on = false then .off else if link.stage = .off then .powering else link.stage
      else link.stage) ∧
    (∀ index, (link.connect index).2.stage =
      if (link.connect index).1 = .ok then .joining else link.stage) ∧
    (∀ happening : Happening μ β χ, happening.isCommand = true →
      (∀ on, happening ≠ .setPower on) → (∀ index, happening ≠ .connect index) →
      (link.after happening).stage = link.stage) ∧
    link.shutdown.stage = .closed := by
  have kinds := reachable.radioByStage.kinds
  refine ⟨fun elapsed => ?_, link.stage_setPower, link.stage_connect,
    fun _ command noPower noJoin => link.stage_command command noPower noJoin,
    link.stage_shutdown⟩
  -- What commands do has been said lemma by lemma, so the tick is left.
  intro next
  -- The three ways that a tick can come out exclude each other.
  by_cases lost : link.stage.isUp = true ∧ link.losesRadio = true
  · have off : next = .off := stage_tick_lost kinds lost.1 lost.2 elapsed
    exact ⟨.inr (.inr ⟨lost.1, off⟩), fun _ => by simp [off, lost.2],
      fun _ => by simp [off, lost.2]⟩
  · by_cases alone : link.stage.hasLink = true ∧ link.IsCutOff
    · have up := Stage.isUp_of_hasLink alone.1
      have kept : link.losesRadio = false := by simpa [up] using lost
      have listed : next = .listed := stage_tick_cutOff kinds alone.1 kept alone.2 elapsed
      exact ⟨.inr (.inl ⟨alone.1, listed⟩), fun _ => by simp [listed, kept, alone.2],
        fun _ => by simp [listed, kept, alone.2]⟩
    · have onward : next ∈ link.stage.onward := stage_tick_onward kinds lost alone elapsed
      refine ⟨.inl onward, fun linked => ?_, fun up => ?_⟩
      · -- The listing is no way on, and the link is not cut off.
        have other : next ≠ .listed := fun same => Stage.listed_not_onward linked (same ▸ onward)
        exact ⟨fun listed => absurd listed other, fun cut => absurd ⟨linked, cut.2⟩ alone⟩
      · have kept : link.losesRadio = false := by simpa [up] using lost
        by_cases at_ : link.stage = .opening
        · have carried : ¬ link.IsCutOff := fun cut => alone ⟨by rw [at_]; decide, cut⟩
          have opened := stage_tick_opening kinds at_ kept carried elapsed
          simpa [kept, at_, carried] using opened
        · have other : next ≠ .off := fun same => Stage.off_not_onward up at_ (same ▸ onward)
          simp [other, kept, at_]

/-- A paired link goes to the listing when its access point drops out, and off with the radio. -/
theorem stages_follow_course_losses :
    ∃ fresh cutOff dark,
      Link.start homeManager ({} : AnnouncerDouble) ({} : ChannelDouble) {} = .ok fresh ∧
      Bench.run fresh (homecoming ++ [.emit (.propertyChanged "home" (.state .idle))]) =
        .ok cutOff ∧
      Bench.run fresh
        (homecoming ++ [.emit (.powered (ManagerDouble.technologyPath .wifi) false)]) = .ok dark ∧
      (cutOff.stage = .paired ∧ (cutOff.tick 100).stage = .listed) ∧
      dark.stage = .paired ∧ (dark.tick 100).stage = .off := by
  -- Both losses are read off the theorem, in the tick that learns of them.
  refine ⟨_, _, _, rfl, rfl, rfl, ⟨rfl, ?_⟩, rfl, ?_⟩
  · have reachable := @Bench.run_reachable homeManager {} {} {}
      (homecoming ++ [.emit (.propertyChanged "home" (.state .idle))]) _ _ rfl rfl
    obtain ⟨_, toListing, _⟩ := (stages_follow_course reachable).1 100
    exact (toListing rfl).mpr ⟨rfl, by unfold Link.IsCutOff; decide⟩
  · have reachable := @Bench.run_reachable homeManager {} {} {}
      (homecoming ++ [.emit (.powered (ManagerDouble.technologyPath .wifi) false)]) _ _ rfl rfl
    obtain ⟨_, _, toOff⟩ := (stages_follow_course reachable).1 100
    exact (toOff rfl).mpr (.inl rfl)

end CompanionLink
