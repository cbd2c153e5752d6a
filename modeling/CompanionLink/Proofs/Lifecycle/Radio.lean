import CompanionLink.Proofs.Lifecycle.Reach

/-!
While a link is up its radio is on. Power is checked once, when the radio comes up; from there on
every loss of it is noticed and takes the link down.
-/

namespace CompanionLink

namespace Link

variable {μ β χ : Type} [NetworkManager μ] [Announcer β] [PairingChannel χ]

/-- The technologies are kept apart by kind, and the radio is on while the link is up. -/
structure RadioByStage (link : Link μ β χ) : Prop where
  kinds : link.technologies.KindsMatch
  lit : .powered ≤ link.stage → link.stage ≤ .paired → link.technologies.wifiPowered = true

/-- A stage with a link to an access point is one in which the link is up. -/
theorem up_of_hasLink {stage : Stage} (linked : stage.hasLink = true) :
    .powered ≤ stage ∧ stage ≤ .paired := by
  -- By cases on the stages with an access point.
  revert linked
  cases stage <;> decide

omit [NetworkManager μ] [Announcer β] [PairingChannel χ] in
/-- Only the technologies and the stage matter for the radio. -/
theorem RadioByStage.congr {link after : Link μ β χ} (radio : RadioByStage link)
    (technologies : after.technologies = link.technologies) (stage : after.stage = link.stage) :
    RadioByStage after where
  -- Nothing else is asked of a link.
  kinds := by rw [technologies]; exact radio.kinds
  lit := by rw [technologies, stage]; exact radio.lit

omit [NetworkManager μ] [Announcer β] [PairingChannel χ] in
/-- Where the link is not up, nothing is asked of the radio. -/
theorem RadioByStage.of_down {link : Link μ β χ} (kinds : link.technologies.KindsMatch)
    (down : link.stage = .off ∨ link.stage = .powering ∨ link.stage = .closed) :
    RadioByStage link := by
  -- None of the three stages lies between coming up and the pairing.
  refine ⟨kinds, fun up open_ => ?_⟩
  have out : ¬ (.powered ≤ link.stage ∧ link.stage ≤ .paired) := by
    rcases down with at_ | at_ | at_ <;> rw [at_] <;> decide
  exact absurd ⟨up, open_⟩ out

omit [NetworkManager μ] [Announcer β] [PairingChannel χ] in
/-- A link may enter any stage while its radio is on. -/
theorem RadioByStage.of_lit {link after : Link μ β χ} (radio : RadioByStage link)
    (technologies : after.technologies = link.technologies)
    (lit : link.technologies.wifiPowered = true) : RadioByStage after := by
  -- The radio is as it was, and it was on.
  refine ⟨?_, fun _ _ => ?_⟩
  · rw [technologies]
    exact radio.kinds
  · rw [technologies]
    exact lit

omit [NetworkManager μ] [Announcer β] [PairingChannel χ] in
/-- From a stage in which the link is up, it may enter any other. -/
theorem RadioByStage.of_up {link after : Link μ β χ} (radio : RadioByStage link)
    (up : .powered ≤ link.stage ∧ link.stage ≤ .paired)
    (technologies : after.technologies = link.technologies) : RadioByStage after :=
  -- Being up is what showed that the radio is on.
  radio.of_lit technologies (radio.lit up.1 up.2)

/-- A stage's work leads into the stages of a link that is up only over a radio that is on. -/
theorem RadioByStage.works {link after : Link μ β χ} (radio : RadioByStage link)
    (works : Works link after) : RadioByStage after := by
  -- Only coming up enters the stages that need the radio; every other way starts in one of them.
  cases works with
  | rests => exact radio
  | passes why =>
    cases why with
    | cameUp at_ lit => exact radio.of_lit rfl lit
    | silenced at_ =>
      have up : .powered ≤ link.stage ∧ link.stage ≤ .paired := by
        rcases at_ with at_ | at_ | at_ <;> rw [at_] <;> decide
      exact radio.of_up up rfl
    | foundJoined at_ | foundAlone at_ | asked at_ | settled at_ | connectedMeanwhile at_
    | askedAgain at_ | leased at_ | prepared at_ | graceOver at_ | shown at_ | clientGone at_ =>
      exact radio.of_up (by rw [at_]; decide) rfl
  -- A radio that did not come up leaves the link off.
  | powerTimedOut => exact .of_down radio.kinds (.inl rfl)
  | beaconFailed => exact .of_down radio.kinds (.inl rfl)
  | searchImpossible at_ | searchTaken at_ | searchRefused at_ | searchRejected at_
  | joinFailed at_ | joinSucceeded at_ | joinPending at_ | beaconOpened at_ | channelOpened at_
  | channelFailed at_ | clientTaken at_ | channelGone at_ | nobodyTaken at_ =>
    exact radio.of_up (by rw [at_]; decide) rfl

/-- A step keeps the radio on while the link is up. -/
theorem RadioByStage.step {link : Link μ β χ} (radio : RadioByStage link) :
    RadioByStage link.step := by
  -- A lost access point lowers the stage and leaves the radio as it is.
  rcases step_cases link with ⟨linked, _, lost⟩ | ⟨_, work⟩
  · rw [lost]
    exact radio.of_up (up_of_hasLink linked) rfl
  · exact radio.works work

omit [NetworkManager μ] in
/-- A notification about technologies that puts the radio out takes a link down that was up. -/
theorem RadioByStage.noteTechnology {link : Link μ β χ} (radio : RadioByStage link)
    (notification : Notification) : RadioByStage (link.noteTechnology notification) := by
  -- A loss that is acted on leaves the link off, and one that is not came too early to matter.
  have kinds := radio.kinds.apply notification
  have lost := Technologies.apply_lost_iff radio.kinds notification
  rcases noteTechnology_cases link notification with ⟨_, _, _, down⟩ | ⟨early, kept⟩
  · rw [down]
    exact .of_down kinds (.inl rfl)
  · rw [kept]
    refine ⟨kinds, fun up open_ => ?_⟩
    -- The radio was on before, so if it were out now the loss would have been acted on.
    cases dark : (link.technologies.apply notification).2.wifiPowered with
    | true => rfl
    | false =>
      have down := early (lost.mpr ⟨radio.lit up open_, dark⟩)
      have out : ¬ Stage.powered ≤ link.stage := by
        rcases down with at_ | at_ <;> rw [at_] <;> decide
      exact absurd up out

omit [NetworkManager μ] in
/-- Every notification keeps the radio on while the link is up. -/
theorem RadioByStage.note {link : Link μ β χ} (radio : RadioByStage link)
    (notification : Notification) : RadioByStage (link.note notification) := by
  -- Notifications about access points are none of the radio's.
  have technology := radio.noteTechnology notification
  cases notification with
  | technologyAdded | technologyRemoved | powered => exact technology
  | _ => exact radio.congr rfl rfl

/-- What the work of a tick finds is a link whose radio is on while it is up. -/
theorem RadioByStage.untilStep {link : Link μ β χ} (radio : RadioByStage link) (elapsed : Nat) :
    RadioByStage (link.untilStep elapsed) := by
  -- Each notification of the drain keeps the radio, and the beacon does not touch it.
  exact untilStep_keeps elapsed (fun _ _ _ _ radio => radio.congr rfl rfl)
    (fun _ notification radio => radio.note notification) (fun _ radio => radio.congr rfl rfl) radio

/-- A tick keeps the radio on while the link is up. -/
theorem RadioByStage.tick {link : Link μ β χ} (radio : RadioByStage link) (elapsed : Nat) :
    RadioByStage (link.tick elapsed) := by
  -- A closed link does not change, and any other comes to the work of its stage.
  by_cases closed : link.stage = .closed
  · rw [tick_closed closed]
    exact radio
  · rw [tick_eq closed]
    exact (radio.untilStep elapsed).step

/-- Switching the power off takes the link down, and switching it on puts the radio on. -/
theorem RadioByStage.setPower {link : Link μ β χ} (radio : RadioByStage link) (on : Bool) :
    RadioByStage (link.setPower on).2 := by
  -- The refusals change nothing; the others put the radio as the switch says.
  have outcome := setPower_cases link on
  revert outcome
  generalize link.setPower on = result
  rintro (_ | _ | ⟨_, switched⟩ | ⟨_, _, switched⟩ | ⟨_, switched⟩)
  · exact radio
  · exact radio.congr rfl rfl
  · exact .of_down (radio.kinds.setWifiPower switched) (.inr (.inl rfl))
  -- The radio that was switched on is powered.
  · have kinds := radio.kinds.setWifiPower switched
    obtain ⟨wifi, _, rfl⟩ := Technologies.setWifiPower_ok switched
    exact ⟨kinds, fun _ _ => rfl⟩
  · exact .of_down (radio.kinds.setWifiPower switched) (.inl rfl)

/-- A join begins only over a radio that is on. -/
theorem RadioByStage.connect {link : Link μ β χ} (radio : RadioByStage link) (index : Nat) :
    RadioByStage (link.connect index).2 := by
  -- The check that comes before the request is what the new stage relies on.
  have outcome := connect_cases link index
  revert outcome
  generalize link.connect index = result
  rintro (_ | _ | ⟨lit, _⟩ | ⟨lit, _⟩)
  · exact radio.congr rfl rfl
  · exact radio.congr rfl rfl
  · exact radio.of_lit rfl lit
  · exact radio.of_lit rfl lit

/-- Whatever happens to a link keeps its radio on while it is up. -/
theorem RadioByStage.follows {link after : Link μ β χ} (radio : RadioByStage link)
    (happened : Follows link after) : RadioByStage after := by
  -- Commands that touch neither the stage nor the technologies keep both.
  cases happened with
  | tick elapsed => exact radio.tick elapsed
  | setPower on => exact radio.setPower on
  | connect index => exact radio.connect index
  | scan =>
    unfold scan
    split <;> exact radio.congr rfl rfl
  | forget | moveUp | moveDown => exact radio.congr rfl rfl
  | read buffer =>
    unfold read
    split
    · exact radio
    · split <;> exact radio.congr rfl rfl
  | write bytes =>
    unfold write
    split
    · exact radio
    · exact radio.congr rfl rfl
  -- Nothing is registered with a closed link.
  | shutdown =>
    unfold shutdown
    split
    · exact radio
    · exact .of_down Technologies.kindsMatch_empty (.inr (.inr rfl))
  | outside => exact radio.congr rfl rfl

/-- Registering technologies one after the other keeps each slot with its kind. -/
theorem kindsMatch_registerAll (technologies : List Technology) :
    (registerAll technologies).KindsMatch := by
  -- The fold starts with empty slots and registers one technology at a time.
  have folded : ∀ registered : Technologies, registered.KindsMatch →
      (technologies.foldl (fun registered technology => (registered.added technology).2)
        registered).KindsMatch := by
    induction technologies with
    | nil => exact fun _ kinds => kinds
    | cons technology later ih => exact fun _ kinds => ih _ (kinds.added technology)
  exact folded {} Technologies.kindsMatch_empty

/-- Every link that some history leads to has its radio on while it is up. -/
theorem Reachable.radioByStage {link : Link μ β χ} (reachable : Reachable link) :
    RadioByStage link := by
  -- A link starts off, where nothing is asked of the radio, and goes on one change at a time.
  induction reachable with
  | start started =>
    obtain ⟨_, technologies, _, _, _, _, rfl⟩ := start_cases started
    exact .of_down (kindsMatch_registerAll technologies) (.inl rfl)
  | follow _ happened radio => exact radio.follows happened

/-- While a link is up, a join is answered as the manager answers the request. -/
theorem RadioByStage.connect_status {link : Link μ β χ} (radio : RadioByStage link)
    (up : .powered ≤ link.stage) (open_ : link.stage ≤ .paired) (index : Nat) :
    (link.connect index).1 =
      .ofExcept (Directory.submit link.manager (link.directory.joinRequest index)).1 := by
  -- What the manager answers is the answer, unless power is wanting.
  have outcome := connect_cases link index
  revert outcome
  generalize link.connect index = result
  rintro (dark | ⟨_, _, refused⟩ | ⟨_, _, _, taken⟩ | ⟨_, _, _, taken⟩)
  · -- Neither is the radio out nor is the link down, so a refusal cannot be for want of power.
    have lit := radio.lit up open_
    rcases dark with dark | at_ | at_ | at_
    · rw [lit] at dark
      cases dark
    all_goals
      have out : ¬ (.powered ≤ link.stage ∧ link.stage ≤ .paired) := by rw [at_]; decide
      exact absurd ⟨up, open_⟩ out
  · rw [refused]
    rfl
  · rw [taken]
    rfl
  · rw [taken]
    rfl

/-- A tick that comes to a search asks a powered radio for it. -/
theorem RadioByStage.search_requested {link : Link μ β χ} (radio : RadioByStage link)
    (open_ : link.stage ≠ .closed) {elapsed : Nat}
    (search : (link.untilStep elapsed).stage = .searching) :
    ∃ wifi, (link.untilStep elapsed).technologies.wifi = some wifi ∧ wifi.powered = true ∧
      link.tick elapsed = (link.untilStep elapsed).stepSearching ∧
      (link.tick elapsed).manager =
        (NetworkManager.submit (link.untilStep elapsed).manager (.scan wifi.path)).2 := by
  -- The drain keeps the radio in line, so the stage it finds tells that the radio is on.
  have lit := (radio.untilStep elapsed).lit (by rw [search]; decide) (by rw [search]; decide)
  obtain ⟨wifi, held, powered⟩ := Technologies.wifiPowered_iff.mp lit
  -- A search is not the work of a link that can be lost, so the step is the stage's work.
  have work : link.tick elapsed = (link.untilStep elapsed).stepSearching := by
    rw [tick_eq open_, Link.step, stepStage, search]
    rfl
  refine ⟨wifi, held, powered, work, ?_⟩
  rw [work, stepSearching]
  simp only [Technologies.wifiPath, held, Option.map_some]
  -- Taken or refused, the manager has been asked.
  split
  · rename_i taken
    rw [taken]
    rfl
  · rename_i refused
    rw [refused]
    rfl

end Link

open Link in
/--
Whatever happened to a link, while it is up a wifi technology is registered and powered, and asking
for a join answers what the manager answers. Every search that a tick comes to is handed to the
manager, for a radio that is powered then.
-/
theorem radio_powered_while_up {μ β χ : Type} [NetworkManager μ] [Announcer β] [PairingChannel χ]
    {link : Link μ β χ} (reachable : Reachable link) :
    (.powered ≤ link.stage → link.stage ≤ .paired →
      (∃ wifi, link.technologies.wifi = some wifi ∧ wifi.kind = .wifi ∧ wifi.powered = true) ∧
      ∀ index, (link.connect index).1 =
        .ofExcept (Directory.submit link.manager (link.directory.joinRequest index)).1) ∧
    (link.stage ≠ .closed → ∀ elapsed, (link.untilStep elapsed).stage = .searching →
      ∃ wifi, (link.untilStep elapsed).technologies.wifi = some wifi ∧ wifi.powered = true ∧
        link.tick elapsed = (link.untilStep elapsed).stepSearching ∧
        (link.tick elapsed).manager =
          (NetworkManager.submit (link.untilStep elapsed).manager (.scan wifi.path)).2) := by
  -- The invariant gives the powered radio; the two consequences are laws of their own.
  have radio := reachable.radioByStage
  refine ⟨fun up open_ => ⟨?_, radio.connect_status up open_⟩,
    fun open_ elapsed search => radio.search_requested open_ search⟩
  obtain ⟨wifi, held, powered⟩ := Technologies.wifiPowered_iff.mp (radio.lit up open_)
  exact ⟨wifi, held, radio.kinds.wifi wifi held, powered⟩

/-- A run in which the radio goes out and comes on again within one tick, while the link is up. -/
def flicker : List Operation :=
  [.setPower true, .tick 100, .emit (.powered (ManagerDouble.technologyPath .wifi) false),
    .emit (.powered (ManagerDouble.technologyPath .wifi) true), .tick 100, .setPower true,
    .tick 100, .tick 100, .tick 100]

/-- A radio that only flickers takes the link down, and switched on anew it has a search to do. -/
theorem radio_powered_while_up_flicker :
    ∃ fresh bench,
      Link.start (ManagerDouble.withTechnology {} .wifi true) ({} : AnnouncerDouble)
        ({} : ChannelDouble) {} = .ok fresh ∧
      Bench.run fresh flicker = .ok bench ∧ bench.stage = .searching ∧
      (∃ wifi, bench.technologies.wifi = some wifi ∧ wifi.kind = .wifi ∧ wifi.powered = true) ∧
      ∃ wifi, (bench.untilStep 100).technologies.wifi = some wifi ∧ wifi.powered = true ∧
        bench.tick 100 = (bench.untilStep 100).stepSearching ∧
        (bench.tick 100).manager =
          (NetworkManager.submit (bench.untilStep 100).manager (.scan wifi.path)).2 := by
  -- The run is evaluated, and both facts are the theorem's.
  refine ⟨_, _, rfl, rfl, rfl, ?_⟩
  have reachable := @Bench.run_reachable (ManagerDouble.withTechnology {} .wifi true) {} {} {}
    flicker _ _ rfl rfl
  obtain ⟨powered, searched⟩ := radio_powered_while_up reachable
  exact ⟨(powered (by decide) (by decide)).1, searched (by decide) 100 rfl⟩

end CompanionLink
