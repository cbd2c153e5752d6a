import CompanionLink.Proofs.Double.Searches
import CompanionLink.Proofs.Lifecycle.Course
import Mathlib.Data.Bool.Basic

/-!
The searches that a link hands to its manager. Each one was asked for, or is the one that a link
begins by itself once it is ready, and none outlives the radio that it was asked of.
-/

namespace CompanionLink

/-- The stages that a search begins in: while it is to be requested, and while it may be. -/
def Stage.precedesSearch : Stage → Bool
  | .ready | .searching => true
  | _ => false

/-- A search begins only where the radio has come up. -/
theorem Stage.isUp_of_precedesSearch {stage : Stage} (precedes : stage.precedesSearch = true) :
    stage.isUp = true := by
  -- Only two stages come before a search.
  cases stage with
  | ready | searching => rfl
  | _ => cases precedes

namespace Link

/-- How many happenings of a run pass a test on the link that they find. -/
def times {μ β χ : Type} [NetworkManager μ] [Announcer β] [PairingChannel χ]
    (test : Link μ β χ → Happening μ β χ → Bool) (link : Link μ β χ) :
    List (Happening μ β χ) → Nat
  | [] => 0
  | happening :: later => (test link happening).toNat + times test (link.after happening) later

section Unasked

variable {μ β χ : Type} [NetworkManager μ] [Announcer β] [PairingChannel χ]

/-- No search is requested of a link that is not up. -/
def UnaskedWhileDown (link : Link μ β χ) : Prop :=
  link.stage.isUp = false → link.scanRequested = false

namespace UnaskedWhileDown

variable {link after : Link μ β χ}

omit [NetworkManager μ] [Announcer β] [PairingChannel χ] in
/-- Only the stage matters, and whether a search was asked for. -/
theorem congr (unasked : UnaskedWhileDown link) (stage : after.stage = link.stage)
    (asked : after.scanRequested = link.scanRequested) : UnaskedWhileDown after := by
  -- The law is about the stage and the request alone.
  rw [UnaskedWhileDown, stage, asked]
  exact unasked

omit [NetworkManager μ] [Announcer β] [PairingChannel χ] in
/-- A link that is up may have been asked for a search. -/
theorem of_up (up : after.stage.isUp = true) : UnaskedWhileDown after := by
  -- A link that is up is not the one that the condition is about.
  intro down
  rw [up] at down
  cases down

omit [NetworkManager μ] [Announcer β] [PairingChannel χ] in
/-- A link that forgets what it was asked for may be in any stage. -/
theorem of_unasked (asked : after.scanRequested = false) : UnaskedWhileDown after :=
  fun _ => asked

/-- A link that goes down by its own work was not up, or gives everything up. -/
theorem works (unasked : UnaskedWhileDown link) (works : Works link after) :
    UnaskedWhileDown after := by
  -- By the way on, of which those that lead down forget the request.
  cases works with
  | rests => exact unasked
  | passes why =>
    cases why <;> exact of_up rfl
  | powerTimedOut at_ => exact of_unasked (unasked (by rw [at_]; rfl))
  | beaconFailed | searchImpossible | searchTaken | searchRefused => exact of_unasked rfl
  | joinPending | channelFailed | nobodyTaken => exact unasked.congr rfl rfl
  | searchRejected | joinFailed | joinSucceeded | beaconOpened | channelOpened | clientTaken
  | channelGone => exact of_up rfl

/-- A step leaves no request with a link that is not up. -/
theorem step (unasked : UnaskedWhileDown link) : UnaskedWhileDown link.step := by
  -- Losing the access point leaves the link up, in its listing.
  rcases step_cases link with ⟨_, _, lost⟩ | ⟨_, work⟩
  · rw [lost]
    exact of_up rfl
  · exact unasked.works work

omit [NetworkManager μ] in
/-- A notification leaves no request with a link that it takes down. -/
theorem note (unasked : UnaskedWhileDown link) (notification : Notification) :
    UnaskedWhileDown (link.note notification) := by
  -- Only a radio that goes out moves a link, and it clears the request.
  have technology : UnaskedWhileDown (link.noteTechnology notification) := by
    rcases noteTechnology_cases link notification with ⟨_, _, _, lost⟩ | ⟨_, kept⟩
    · rw [lost]
      exact of_unasked rfl
    · rw [kept]
      exact unasked.congr rfl rfl
  cases notification with
  | technologyAdded | technologyRemoved | powered => exact technology
  | _ => exact unasked.congr rfl rfl

/-- What a tick's work finds has no request unless it is up. -/
theorem untilStep (unasked : UnaskedWhileDown link) (elapsed : Nat) :
    UnaskedWhileDown (link.untilStep elapsed) :=
  -- A notification that counts as a loss takes the request along.
  untilStep_keeps elapsed (fun _ _ _ _ unasked => unasked.congr rfl rfl)
    (fun _ notification unasked => unasked.note notification)
    (fun _ unasked => unasked.congr rfl rfl) unasked

/-- A tick leaves no request with a link that is not up. -/
theorem tick (unasked : UnaskedWhileDown link) (elapsed : Nat) :
    UnaskedWhileDown (link.tick elapsed) := by
  -- A closed link does not move.
  by_cases closed : link.stage = .closed
  · rw [tick_closed closed]
    exact unasked
  · rw [tick_eq closed]
    exact (unasked.untilStep elapsed).step

/-- The power switch leaves no request with a link that is not up. -/
theorem setPower (unasked : UnaskedWhileDown link) (on : Bool) :
    UnaskedWhileDown (link.setPower on).2 := by
  have outcome := setPower_cases link on
  revert outcome
  generalize link.setPower on = result
  rintro (_ | _ | ⟨at_, _⟩ | _ | _)
  · exact unasked
  · exact unasked.congr rfl rfl
  -- A link that begins to power up was off, and nobody asks that of a search.
  · exact of_unasked (unasked (by rw [at_]; rfl))
  · exact unasked.congr rfl rfl
  · exact of_unasked rfl

/-- A join leaves no request with a link that is not up. -/
theorem connect (unasked : UnaskedWhileDown link) (index : Nat) :
    UnaskedWhileDown (link.connect index).2 := by
  -- A refusal leaves everything, and a join that is taken is under way with the link up.
  have outcome := connect_cases link index
  revert outcome
  generalize link.connect index = result
  rintro (_ | _ | _ | _)
  · exact unasked.congr rfl rfl
  · exact unasked.congr rfl rfl
  · exact of_up rfl
  · exact of_up rfl

omit [NetworkManager μ] [Announcer β] [PairingChannel χ] in
/-- Only the listing stages take a request for a search. -/
theorem scan (unasked : UnaskedWhileDown link) : UnaskedWhileDown link.scan.2 := by
  -- The stages that take a request are stages of a link that is up.
  unfold Link.scan
  split
  · next at_ => exact of_up (by rw [at_]; rfl)
  · next at_ => exact of_up (by rw [at_]; rfl)
  · exact unasked
  · exact unasked
  · exact unasked

/-- Whatever happens to a link, none that is not up has been asked for a search. -/
theorem follows (unasked : UnaskedWhileDown link) (happened : Follows link after) :
    UnaskedWhileDown after := by
  -- What neither asks for a search nor moves the link is immediate.
  cases happened with
  | tick elapsed => exact unasked.tick elapsed
  | setPower on => exact unasked.setPower on
  | connect index => exact unasked.connect index
  | scan => exact unasked.scan
  | forget | moveUp | moveDown | outside => exact unasked.congr rfl rfl
  | read buffer =>
    unfold read
    split
    · exact unasked
    · split <;> exact unasked.congr rfl rfl
  | write bytes =>
    unfold write
    split
    · exact unasked
    · exact unasked.congr rfl rfl
  -- A closed link takes no search.
  | shutdown =>
    unfold shutdown
    split
    · exact unasked
    · exact of_unasked rfl

end UnaskedWhileDown

/-- No link that some history leads to was asked for a search while it is not up. -/
theorem Reachable.unaskedWhileDown {link : Link μ β χ} (reachable : Reachable link) :
    UnaskedWhileDown link := by
  -- By induction on the history: nothing is asked of a fresh link.
  induction reachable with
  | start started =>
    obtain ⟨_, _, _, _, _, _, rfl⟩ := start_cases started
    exact .of_unasked rfl
  | follow _ happened unasked => exact unasked.follows happened

/--
How many searches a link may still hand over without being asked again: the one that is under way
or requested, and the one that it begins by itself while it is ready.
-/
def searchesDue (link : Link μ β χ) : Nat :=
  (link.scanRequested || link.stage == .searching).toNat +
    (link.settings.autoScan && link.stage == .ready).toNat

variable {link after : Link μ β χ}

section Due

omit [NetworkManager μ] [Announcer β] [PairingChannel χ]

/-- While a search is to be requested it is the only one that is due, whoever asked for it. -/
theorem searchesDue_searching (at_ : link.stage = .searching) : link.searchesDue = 1 := by
  -- The request is merged into the search that the stage is about to make.
  rw [searchesDue, at_, show (Stage.searching == .ready) = false from rfl, Bool.and_false,
    beq_self_eq_true, Bool.or_true]
  rfl

/-- A link that is ready begins a search by itself, besides the one that it was asked for. -/
theorem searchesDue_ready (at_ : link.stage = .ready) :
    link.searchesDue = link.scanRequested.toNat + link.settings.autoScan.toNat := by
  -- In this stage a search by itself and a requested one are due apart from each other.
  rw [searchesDue, at_, show (Stage.ready == .searching) = false from rfl, Bool.or_false,
    beq_self_eq_true, Bool.and_true]

/-- Outside the two stages that a search begins in, only a requested one is due. -/
theorem searchesDue_aside (aside : link.stage.precedesSearch = false) :
    link.searchesDue = link.scanRequested.toNat := by
  -- Neither of the two stages is the link's.
  have apart (stage : Stage) (precedes : stage.precedesSearch = true) :
      (link.stage == stage) = false := by
    rw [beq_eq_false_iff_ne]
    rintro rfl
    rw [aside] at precedes
    cases precedes
  rw [searchesDue, apart .searching rfl, apart .ready rfl, Bool.or_false, Bool.and_false]
  rfl

/-- A link that is led aside has no more searches due, if it was not asked for one meanwhile. -/
theorem searchesDue_le (asked : after.scanRequested ≤ link.scanRequested)
    (aside : after.stage.precedesSearch = false) : after.searchesDue ≤ link.searchesDue := by
  -- Aside of the two stages the request alone counts, and it was counted before.
  rw [searchesDue_aside aside, searchesDue]
  exact Nat.le_trans (Bool.toNat_le_toNat (Bool.le_trans asked (Bool.left_le_or _ _)))
    (Nat.le_add_right _ _)

/-- A request makes one more search due at most. -/
theorem searchesDue_asked (link : Link μ β χ) :
    { link with scanRequested := true }.searchesDue ≤ link.searchesDue + 1 := by
  -- The request counts one, whatever the stage adds.
  simp only [searchesDue, Bool.true_or, Bool.toNat_true]
  omega

/-- Nothing is due where the link is not up. -/
theorem searchesDue_down (unasked : UnaskedWhileDown link) (down : link.stage.isUp = false) :
    link.searchesDue = 0 := by
  -- A link that is down is in neither of the stages and has no request.
  have aside : link.stage.precedesSearch = false := by
    refine eq_false_of_ne_true fun precedes => ?_
    rw [Stage.isUp_of_precedesSearch precedes] at down
    cases down
  rw [searchesDue_aside aside, unasked down]
  rfl

end Due

omit [NetworkManager μ] in
/-- No notification makes a search due. -/
theorem searchesDue_note (link : Link μ β χ) (notification : Notification) :
    (link.note notification).searchesDue ≤ link.searchesDue := by
  -- Only a radio that goes out changes anything, and it clears the request.
  have technology : (link.noteTechnology notification).searchesDue ≤ link.searchesDue := by
    rcases noteTechnology_cases link notification with ⟨_, _, _, lost⟩ | ⟨_, kept⟩
    · rw [lost]
      exact searchesDue_le (Bool.false_le _) rfl
    · rw [kept]
      exact Nat.le_refl _
  cases notification with
  | technologyAdded | technologyRemoved | powered => exact technology
  | _ => exact Nat.le_refl _

/-- What a tick takes in before its work makes no search due. -/
theorem searchesDue_untilStep (link : Link μ β χ) (elapsed : Nat) :
    (link.untilStep elapsed).searchesDue ≤ link.searchesDue :=
  -- Time and announcer do not count, and no notification adds.
  @untilStep_keeps _ _ _ _ _ _ (fun later => later.searchesDue ≤ link.searchesDue) _ elapsed
    (fun _ _ _ _ fewer => fewer)
    (fun later notification fewer => Nat.le_trans (searchesDue_note later notification) fewer)
    (fun _ fewer => fewer) (Nat.le_refl _)

omit [NetworkManager μ] in
/-- A notification leaves a link in its stage, or takes it down with its radio. -/
theorem stage_note (link : Link μ β χ) (notification : Notification) :
    (link.note notification).stage = link.stage ∨ (link.note notification).stage = .off := by
  -- Only a radio that goes out moves a link.
  have technology : (link.noteTechnology notification).stage = link.stage ∨
      (link.noteTechnology notification).stage = .off := by
    rcases noteTechnology_cases link notification with ⟨_, _, _, lost⟩ | ⟨_, kept⟩
    · rw [lost]
      exact .inr rfl
    · rw [kept]
      exact .inl rfl
  cases notification with
  | technologyAdded | technologyRemoved | powered => exact technology
  | _ => exact .inl rfl

/-- The work of a tick finds a link in its stage, or off. -/
theorem stage_untilStep_or_off (link : Link μ β χ) (elapsed : Nat) :
    (link.untilStep elapsed).stage = link.stage ∨ (link.untilStep elapsed).stage = .off := by
  -- By the parts of a tick before its work, none of which leaves the two stages.
  refine @untilStep_keeps _ _ _ _ _ _
    (fun later => later.stage = link.stage ∨ later.stage = .off) _ elapsed
    (fun _ _ _ _ found => found) (fun later notification found => ?_) (fun _ found => found)
    (.inl rfl)
  rcases stage_note later notification with same | off
  · rwa [same]
  · exact .inr off

/-- Whether a happening is a request for a search that is granted. -/
def grantsSearch (link : Link μ β χ) : Happening μ β χ → Bool
  | .scan => link.scan.1 == .ok
  | _ => false

/-- Whether a happening brings a link to the stage in which a search may begin. -/
def becomesReady (link : Link μ β χ) (happening : Happening μ β χ) : Bool :=
  link.stage != .ready && (link.after happening).stage == .ready

/-- The radio that a happening searches with: the one registered when a tick comes to a search. -/
def radioSearched (link : Link μ β χ) : Happening μ β χ → Option Technology
  | .tick elapsed =>
    -- The search is made by the stage that the tick's work finds.
    if (link.untilStep elapsed).stage = .searching then
      (link.untilStep elapsed).technologies.wifi
    else none
  | _ => none

/-- Whether a happening puts the radio out: a tick that takes it in, or the switch. -/
def putsOut (link : Link μ β χ) : Happening μ β χ → Bool
  | .tick _ => link.losesRadio
  | .setPower on => !on && (link.setPower on).1 == .ok
  | _ => false

/-- Whether work leads a link from where its radio came up to where a search may begin. -/
def readied (link after : Link μ β χ) : Bool := link.stage == .powered && after.stage == .ready

/--
The search that a stage asks for was due, and no other one becomes due but the one that a link
begins by itself.
-/
theorem Works.searchesDue_le (works : Works link after) :
    after.searchesDue + (link.stage == .searching).toNat ≤
      link.searchesDue + (link.settings.autoScan && link.readied after).toNat := by
  -- Most work is done elsewhere, and leads elsewhere.
  have aside (at_ : link.stage ≠ .searching) (fewer : after.searchesDue ≤ link.searchesDue) :
      after.searchesDue + (link.stage == .searching).toNat ≤
        link.searchesDue + (link.settings.autoScan && link.readied after).toNat := by
    rw [beq_eq_false_iff_ne.mpr at_]
    exact Nat.le_trans fewer (Nat.le_add_right _ _)
  -- Work that comes to the search leaves none due, and one was due.
  have searched (at_ : link.stage = .searching) (done : after.searchesDue = 0) :
      after.searchesDue + (link.stage == .searching).toNat ≤
        link.searchesDue + (link.settings.autoScan && link.readied after).toNat := by
    rw [done, at_, searchesDue_searching at_]
    exact Nat.le_add_right _ _
  -- By the way on: the search itself first, then what leads towards one, then the rest.
  cases works with
  | searchImpossible at_ | searchTaken at_ | searchRefused at_ =>
    exact searched at_ (searchesDue_aside rfl)
  | rests why =>
    refine aside ?_ (Nat.le_refl _)
    cases why with
    | unused at_ | ended at_ | comingUp at_ | unasked at_ | settling at_ | listing at_
    | unleased at_ | announcing at_ | serving at_ => rw [at_]; nofun
  | passes why =>
    cases why with
    -- The search that is under way now was requested, or is the one of a link that is ready.
    | asked at_ wanted =>
      refine aside (by rw [at_]; nofun) ?_
      rw [searchesDue_searching (stage_enter ..), searchesDue_ready at_]
      rcases wanted with wanted | wanted <;> rw [wanted]
      · exact Nat.le_add_right _ _
      · exact Nat.le_add_left _ _
    | askedAgain at_ _ wanted =>
      refine aside (by rw [at_]; nofun) ?_
      rw [searchesDue_searching (stage_enter ..),
        searchesDue_aside (by rw [at_]; rfl), wanted]
      exact Nat.le_refl _
    | foundAlone at_ =>
      have readied : link.readied (link.enter .ready) = true := by simp [Link.readied, at_]
      rw [readied, Bool.and_true, searchesDue_ready (stage_enter ..), at_,
        searchesDue_aside (by rw [at_]; rfl)]
      exact Nat.le_refl _
    | cameUp at_ | foundJoined at_ | settled at_ | connectedMeanwhile at_ | leased at_
    | prepared at_ | graceOver at_ | shown at_ | clientGone at_ =>
      exact aside (by rw [at_]; nofun) (Link.searchesDue_le (Bool.le_refl _) rfl)
    | silenced at_ =>
      refine aside ?_ (Link.searchesDue_le (Bool.le_refl _) rfl)
      rcases at_ with at_ | at_ | at_ <;> rw [at_] <;> nofun
  | joinPending at_ | channelFailed at_ | nobodyTaken at_ =>
    exact aside (by rw [at_]; nofun) (Nat.le_refl _)
  | powerTimedOut at_ | searchRejected at_ | joinFailed at_ | joinSucceeded at_ | beaconOpened at_
  | channelOpened at_ | clientTaken at_ | channelGone at_ =>
    exact aside (by rw [at_]; nofun) (Link.searchesDue_le (Bool.le_refl _) rfl)
  | beaconFailed at_ => exact aside (by rw [at_]; nofun) (Link.searchesDue_le (Bool.false_le _) rfl)

/-- A step hands over what was due, whether or not it finds the access point lost. -/
theorem searchesDue_step (link : Link μ β χ) :
    link.step.searchesDue + (link.stage == .searching).toNat ≤
      link.searchesDue + (link.settings.autoScan && link.readied link.step).toNat := by
  -- A link that lost its access point was not about to search.
  rcases step_cases link with ⟨linked, _, lost⟩ | ⟨_, work⟩
  · have apart : link.stage ≠ .searching := by
      intro at_
      rw [at_] at linked
      cases linked
    have fewer : link.step.searchesDue ≤ link.searchesDue := by
      rw [lost]
      exact Link.searchesDue_le (Bool.le_refl _) rfl
    rw [beq_eq_false_iff_ne.mpr apart]
    exact Nat.le_trans fewer (Nat.le_add_right _ _)
  · exact work.searchesDue_le

/-- A closed link comes to no search. -/
theorem radioSearched_closed (closed : link.stage = .closed) (elapsed : Nat) :
    link.radioSearched (.tick elapsed) = none := by
  -- The work of a closed link finds it closed or off, and neither searches.
  rw [radioSearched, if_neg]
  rcases stage_untilStep_or_off link elapsed with same | off
  · rw [same, closed]
    nofun
  · rw [off]
    nofun

/-- A tick hands over what was due, and another search becomes due once the link is ready. -/
theorem searchesDue_tick (link : Link μ β χ) (elapsed : Nat) :
    (link.tick elapsed).searchesDue + (link.radioSearched (.tick elapsed)).isSome.toNat ≤
      link.searchesDue +
        (link.settings.autoScan && link.becomesReady (.tick elapsed)).toNat := by
  -- The drain adds nothing, so the step's count is the tick's.
  by_cases closed : link.stage = .closed
  · rw [tick_closed closed, radioSearched_closed closed]
    exact Nat.le_add_right _ _
  · have found := searchesDue_untilStep link elapsed
    have stepped := searchesDue_step (link.untilStep elapsed)
    rw [settings_untilStep, ← tick_eq closed] at stepped
    -- A radio is searched with only in the stage of a search.
    have searched : (link.radioSearched (.tick elapsed)).isSome.toNat ≤
        ((link.untilStep elapsed).stage == .searching).toNat := by
      refine Bool.toNat_le_toNat (Bool.le_iff_imp.mpr fun some => ?_)
      rw [radioSearched] at some
      split at some
      · next at_ => exact beq_iff_eq.mpr at_
      · cases some
    -- What a tick readies was not ready before, as nothing but its work moves it there.
    have readied : (link.settings.autoScan &&
          (link.untilStep elapsed).readied (link.tick elapsed)).toNat ≤
        (link.settings.autoScan && link.becomesReady (.tick elapsed)).toNat := by
      refine Bool.toNat_le_toNat (Bool.le_iff_imp.mpr fun both => ?_)
      simp only [Link.readied, Bool.and_eq_true, beq_iff_eq] at both
      obtain ⟨auto, powered, ready⟩ := both
      have before : link.stage = .powered := by
        rcases stage_untilStep_or_off link elapsed with same | off
        · rw [← same, powered]
        · rw [off] at powered
          cases powered
      simp [becomesReady, Link.after, auto, before, ready]
    omega

/--
Whatever happens to a link hands over a search only if it was due, and makes one due only if it is a
request that is granted, or the link becomes ready.
-/
theorem searchesDue_after (link : Link μ β χ) (happening : Happening μ β χ) :
    (link.after happening).searchesDue + (link.radioSearched happening).isSome.toNat ≤
      link.searchesDue + (link.grantsSearch happening).toNat +
        (link.settings.autoScan && link.becomesReady happening).toNat := by
  -- Only ticks come to a search, so all else only has to keep what is due.
  have quiet (unsearched : link.radioSearched happening = none)
      (fewer : (link.after happening).searchesDue ≤
        link.searchesDue + (link.grantsSearch happening).toNat) :
      (link.after happening).searchesDue + (link.radioSearched happening).isSome.toNat ≤
        link.searchesDue + (link.grantsSearch happening).toNat +
          (link.settings.autoScan && link.becomesReady happening).toNat := by
    rw [unsearched]
    exact Nat.le_trans fewer (Nat.le_add_right _ _)
  cases happening with
  | tick elapsed => exact searchesDue_tick link elapsed
  | setPower on =>
    refine quiet rfl ?_
    have outcome := setPower_cases link on
    rw [Link.after]
    revert outcome
    generalize link.setPower on = result
    rintro (_ | _ | _ | _ | _)
    · exact Nat.le_refl _
    · exact Nat.le_refl _
    · exact Link.searchesDue_le (Bool.le_refl _) rfl
    · exact Nat.le_refl _
    · exact Link.searchesDue_le (Bool.false_le _) rfl
  | connect index =>
    refine quiet rfl ?_
    have outcome := connect_cases link index
    rw [Link.after]
    revert outcome
    generalize link.connect index = result
    rintro (_ | _ | _ | _)
    · exact Nat.le_refl _
    · exact Nat.le_refl _
    · exact Link.searchesDue_le (Bool.le_refl _) rfl
    · exact Link.searchesDue_le (Bool.le_refl _) rfl
  -- A search that is accepted is one more due.
  | scan =>
    refine quiet rfl ?_
    rw [Link.after, grantsSearch, scan]
    split
    · exact searchesDue_asked link
    · exact searchesDue_asked link
    all_goals exact Nat.le_refl _
  | read buffer =>
    refine quiet rfl ?_
    rw [Link.after, read]
    split
    · exact Nat.le_refl _
    · split <;> exact Nat.le_refl _
  | write bytes =>
    refine quiet rfl ?_
    rw [Link.after, write]
    split <;> exact Nat.le_refl _
  -- Closing the link drops what was due.
  | shutdown =>
    refine quiet rfl ?_
    rw [Link.after, shutdown]
    split
    · exact Nat.le_refl _
    · exact Link.searchesDue_le (Bool.false_le _) rfl
  | forget | moveUp | moveDown | outside => exact quiet rfl (Nat.le_refl _)

/-- A happening that puts the radio out searches with nothing, and leaves no search due. -/
theorem searchesDue_putsOut (reachable : Reachable link) {happening : Happening μ β χ}
    (out : link.putsOut happening = true) :
    link.radioSearched happening = none ∧ (link.after happening).searchesDue = 0 := by
  -- By what puts it out: notifications that a tick takes in, or the switch.
  have unasked := reachable.unaskedWhileDown
  cases happening with
  | tick elapsed =>
    have lost : link.losesRadio = true := out
    rw [Link.after]
    by_cases closed : link.stage = .closed
    · rw [tick_closed closed]
      exact ⟨radioSearched_closed closed elapsed, searchesDue_down unasked (by rw [closed]; rfl)⟩
    · -- A link that was up is off by now, and one that was not has nothing to give up.
      have down : (link.untilStep elapsed).stage.isUp = false := by
        rw [stage_untilStep link reachable.radioByStage.kinds elapsed closed]
        split
        · rfl
        · next kept => simpa [lost] using kept
      have apart (stage : Stage) (up : stage.isUp = true) :
          (link.untilStep elapsed).stage ≠ stage := by
        rintro rfl
        rw [up] at down
        cases down
      -- An off link readies nothing and searches with nothing, so the count comes to zero.
      have stepped := searchesDue_step (link.untilStep elapsed)
      rw [searchesDue_down (unasked.untilStep elapsed) down, Link.readied,
        beq_eq_false_iff_ne.mpr (apart .powered rfl), Bool.false_and, Bool.and_false] at stepped
      refine ⟨by rw [radioSearched, if_neg (apart .searching rfl)], ?_⟩
      rw [tick_eq closed]
      exact Nat.eq_zero_of_le_zero (Nat.le_trans (Nat.le_add_right _ _) stepped)
  | setPower on =>
    refine ⟨rfl, ?_⟩
    have outcome := setPower_cases link on
    rw [putsOut] at out
    rw [Link.after]
    revert out outcome
    generalize link.setPower on = result
    rintro out (_ | _ | _ | _ | _)
    -- Only the switch that was taken puts the radio out, and it gives up what was due.
    · simp at out
    · simp at out
    · cases out
    · cases out
    · exact searchesDue_aside rfl
  | _ => cases out

/-- A search is asked of the wifi technology that is registered and powered, and that stays so. -/
theorem radioSearched_registered (reachable : Reachable link) {happening : Happening μ β χ}
    {wifi : Technology} (searched : link.radioSearched happening = some wifi) :
    wifi.kind = .wifi ∧ wifi.powered = true ∧
      (link.after happening).technologies.wifi = some wifi := by
  -- A tick that comes to a search does so with the radio on, and that radio is the registered one.
  cases happening with
  | tick elapsed =>
    have open_ : link.stage ≠ .closed := by
      intro closed
      rw [radioSearched_closed closed] at searched
      cases searched
    rw [radioSearched] at searched
    split at searched
    · next search =>
      have radio := reachable.radioByStage
      obtain ⟨_, held, powered, work, _⟩ := radio.search_requested open_ search
      cases held.symm.trans searched
      -- The request itself leaves the technologies as they are.
      have same : (link.tick elapsed).technologies = (link.untilStep elapsed).technologies := by
        rw [work, stepSearching]
        split
        · rfl
        · split <;> rfl
      rw [Link.after, same]
      exact ⟨(radio.untilStep elapsed).kinds.wifi wifi held, powered, held⟩
    · cases searched
  | _ => cases searched

end Unasked

section Record

variable {β χ : Type} [Announcer β] [PairingChannel χ]

/-- Whether a happening leaves it to the link what its manager writes down. -/
def keepsRecord (link : Link ManagerDouble β χ) : Happening ManagerDouble β χ → Bool
  | .outside manager _ _ => manager.calls == link.manager.calls
  | _ => true

/-- Whether every happening of a run leaves it to the link what its manager writes down. -/
def keepsRecords (link : Link ManagerDouble β χ) : List (Happening ManagerDouble β χ) → Bool
  | [] => true
  | happening :: later => link.keepsRecord happening && (link.after happening).keepsRecords later

variable {link after : Link ManagerDouble β χ}

/-- The work of a tick finds every search that was written down before, and no other one. -/
theorem searches_untilStep (link : Link ManagerDouble β χ) (elapsed : Nat) :
    (link.untilStep elapsed).manager.searches = link.manager.searches := by
  -- Draining takes notifications out of the manager, and no call is made.
  rw [(untilStep_told link elapsed).2]
  exact link.manager.searches_takeNotifications

/-- Only a stage asks for a search, and it asks for the radio that is registered. -/
theorem searches_step (link : Link ManagerDouble β χ) :
    link.step.manager.searches = link.manager.searches ++
      if link.stage = .searching then
        (link.technologies.wifi.map fun wifi => wifi.path).toList
      else [] := by
  -- The stage of the search calls the manager for it, and no other work does.
  by_cases search : link.stage = .searching
  · have work : link.step = link.stepSearching := by
      rw [Link.step, stepStage, search]
      rfl
    rw [work, stepSearching, Technologies.wifiPath, if_pos search]
    cases held : link.technologies.wifi with
    | none => simp [enter]
    | some wifi =>
      -- Taken or refused, the request is in the record.
      have written := link.manager.searches_scan wifi.path
      simp only [Option.map_some, Option.toList_some]
      split
      · next taken => rwa [taken] at written
      · next refused => rwa [refused] at written
  · rw [if_neg search, List.append_nil]
    rcases step_cases link with ⟨_, _, lost⟩ | ⟨_, work⟩
    · rw [lost]
      rfl
    · revert work
      generalize link.step = after
      intro work
      cases work with
      | searchTaken at_ | searchRefused at_ => exact absurd at_ search
      | _ => rfl

/-- What is written down of searches meanwhile is the one that a tick comes to. -/
theorem searches_after {happening : Happening ManagerDouble β χ}
    (kept : link.keepsRecord happening = true) :
    (link.after happening).manager.searches = link.manager.searches ++
      ((link.radioSearched happening).map fun wifi => wifi.path).toList := by
  -- Whatever is no tick searches with no radio, so it has to leave the record of searches alone.
  have idle (quiet : link.radioSearched happening = none)
      (same : (link.after happening).manager.searches = link.manager.searches) :
      (link.after happening).manager.searches = link.manager.searches ++
        ((link.radioSearched happening).map fun wifi => wifi.path).toList := by
    rw [quiet, same, Option.map_none, Option.toList_none, List.append_nil]
  cases happening with
  | tick elapsed =>
    by_cases closed : link.stage = .closed
    · refine idle (radioSearched_closed closed elapsed) ?_
      rw [Link.after, tick_closed closed]
    · rw [Link.after, tick_eq closed, searches_step, searches_untilStep, radioSearched]
      split <;> rfl
  | setPower on =>
    refine idle rfl ?_
    have switch := ManagerDouble.searches_setWifiPower link.technologies link.manager on
    have outcome := setPower_cases link on
    rw [Link.after]
    revert outcome
    generalize link.setPower on = result
    rintro (_ | ⟨_, answered⟩ | ⟨_, answered⟩ | ⟨_, _, answered⟩ | ⟨_, answered⟩)
    · rfl
    all_goals rwa [answered] at switch
  -- A join is asked for, which is no search.
  | connect index =>
    refine idle rfl ?_
    have request := link.manager.searches_submit (link.directory.asksNoSearch index (.head _))
    have outcome := connect_cases link index
    rw [Link.after]
    revert outcome
    generalize link.connect index = result
    rintro (_ | ⟨_, _, answered⟩ | ⟨_, _, _, answered⟩ | ⟨_, _, _, answered⟩)
    · rfl
    all_goals rwa [answered] at request
  | scan =>
    refine idle rfl ?_
    rw [Link.after, scan]
    split <;> rfl
  | forget index =>
    exact idle rfl (link.manager.searches_submit (link.directory.asksNoSearch index (by simp)))
  | moveUp index =>
    exact idle rfl (link.manager.searches_submit (link.directory.asksNoSearch index (by simp)))
  | moveDown index =>
    exact idle rfl (link.manager.searches_submit (link.directory.asksNoSearch index (by simp)))
  | read buffer =>
    refine idle rfl ?_
    rw [Link.after, read]
    split
    · rfl
    · split <;> rfl
  | write bytes =>
    refine idle rfl ?_
    rw [Link.after, write]
    split <;> rfl
  | shutdown =>
    refine idle rfl ?_
    rw [Link.after, shutdown]
    split
    · rfl
    · exact link.manager.searches_unsubscribe
  -- Others keep the record of calls, whatever else they do.
  | outside manager announcer channel =>
    have calls : manager.calls = link.manager.calls := by simpa [keepsRecord] using kept
    exact idle rfl (ManagerDouble.searches_congr calls)

/--
The searches of a run and those that are due after it were due before it or granted, or are the ones
that a link begins by itself.
-/
theorem searches_afterAll {run : List (Happening ManagerDouble β χ)}
    (kept : link.keepsRecords run = true) :
    (link.afterAll run).manager.searches.length + (link.afterAll run).searchesDue ≤
      link.manager.searches.length + link.searchesDue + times grantsSearch link run +
        if link.settings.autoScan then times becomesReady link run else 0 := by
  -- By induction on the run, with what is due carried from one happening to the next.
  induction run generalizing link with
  | nil => exact Nat.le_add_right _ _
  | cons happening later ih =>
    rw [keepsRecords, Bool.and_eq_true] at kept
    -- One happening takes from what is due as much as it writes down.
    have written := congrArg List.length (searches_after kept.1)
    have one : ((link.radioSearched happening).map fun wifi => wifi.path).toList.length =
        (link.radioSearched happening).isSome.toNat := by
      cases link.radioSearched happening <;> rfl
    have due := searchesDue_after link happening
    have rest := ih kept.2
    have goesOn : link.afterAll (happening :: later) = (link.after happening).afterAll later := rfl
    rw [List.length_append, one] at written
    rw [settings_after] at rest
    rw [goesOn, times, times]
    cases auto : link.settings.autoScan with
    | false =>
      rw [auto] at due rest
      simp only [Bool.false_and, Bool.toNat_false, Bool.false_eq_true, if_false] at due rest ⊢
      omega
    | true =>
      rw [auto] at due rest
      simp only [Bool.true_and, if_true] at due rest ⊢
      omega

omit [Announcer β] [PairingChannel χ] in
/-- A link that is started has searched for nothing, and no search is due. -/
theorem searches_start {manager : ManagerDouble} {announcer : β} {channel : χ}
    {settings : LinkSettings} {fresh : Link ManagerDouble β χ}
    (started : Link.start manager announcer channel settings = .ok fresh) :
    fresh.manager.searches = manager.searches ∧ fresh.searchesDue = 0 ∧
      fresh.settings = settings := by
  -- The subscription is the only call so far.
  obtain ⟨later, _, _, granted, _, _, rfl⟩ := start_cases started
  obtain ⟨_, rfl⟩ := ManagerDouble.subscribe_ok granted
  refine ⟨?_, searchesDue_aside rfl, rfl⟩
  simp [ManagerDouble.searches, ManagerDouble.record, ManagerCall.search?]

end Record

end Link

open Link in
/--
In every run of a link over the prepared manager, whatever it announces and pairs with, no more
searches were handed over than requests for one were granted, besides at most one for each time that
a link became ready which begins searches by itself.

What happens writes down the search of a tick that comes to one and no other. It names the wifi
technology that is registered and powered then. Once the radio goes out or is switched off the count
begins anew, so that no search that was granted before is handed over after it.
-/
theorem searches_within_requests {β χ : Type} [Announcer β] [PairingChannel χ]
    {manager : ManagerDouble} {announcer : β} {channel : χ} {settings : LinkSettings}
    {fresh : Link ManagerDouble β χ}
    (started : Link.start manager announcer channel settings = .ok fresh)
    {run : List (Happening ManagerDouble β χ)} (kept : fresh.keepsRecords run = true) :
    let link := fresh.afterAll run
    link.manager.searches.length ≤ manager.searches.length + times grantsSearch fresh run +
      (if settings.autoScan then times becomesReady fresh run else 0) ∧
    (∀ happening, link.keepsRecord happening = true →
      (link.after happening).manager.searches = link.manager.searches ++
        ((link.radioSearched happening).map fun wifi => wifi.path).toList ∧
      ∀ wifi, link.radioSearched happening = some wifi → wifi.kind = .wifi ∧
        wifi.powered = true ∧ (link.after happening).technologies.wifi = some wifi) ∧
    ∀ happening, link.putsOut happening = true →
      let dark := link.after happening
      ∀ later, dark.keepsRecords later = true →
        (dark.afterAll later).manager.searches.length ≤
          link.manager.searches.length + times grantsSearch dark later +
            (if settings.autoScan then times becomesReady dark later else 0) := by
  obtain ⟨unsearched, nothing, same⟩ := searches_start started
  have counted := searches_afterAll kept
  have reachable := (Reachable.start started).afterAll run
  rw [unsearched, nothing, same] at counted
  refine ⟨by omega, fun happening keeps => ⟨searches_after keeps, fun wifi searched =>
    radioSearched_registered reachable searched⟩, fun happening out later keeps => ?_⟩
  -- Once the radio is out nothing is due any more, and the count starts from there.
  obtain ⟨idle, spent⟩ := searchesDue_putsOut reachable out
  -- Neither a tick nor the switch comes from outside, so the record is the link's.
  have own : (fresh.afterAll run).keepsRecord happening = true := by
    cases happening with
    | outside => cases out
    | _ => rfl
  have written := searches_after own
  have since := searches_afterAll keeps
  rw [spent, settings_after, settings_afterAll, same] at since
  rw [idle, Option.map_none, Option.toList_none, List.append_nil] at written
  rw [written] at since
  omega

/-- A manager with a powered radio and one access point, which is not connected. -/
def villageManager : ManagerDouble :=
  (ManagerDouble.withTechnology {} .wifi true).withAccessPoint ⟨"home", []⟩

/--
A run that is granted a search and led aside by a join, which is given up, until it comes to its
search.
-/
def detour : List (Happening ManagerDouble AnnouncerDouble ChannelDouble) :=
  [.setPower true, .tick 100, .tick 100, .scan, .tick 100, .connect 0, .tick 30000, .tick 100]

/-- The search is made, and another one is granted in the listing. -/
def anotherSearch : List (Happening ManagerDouble AnnouncerDouble ChannelDouble) :=
  [.tick 100, .tick 20000, .scan]

/-- The radio is switched on again and comes up, as if a search were to follow. -/
def restart : List (Happening ManagerDouble AnnouncerDouble ChannelDouble) :=
  [.setPower true, .tick 100, .tick 100, .tick 100, .tick 100]

/--
A link that is asked for every search comes to the one it was granted before a join. The next one is
granted in the listing, and forgotten when the radio is switched off before it was handed over.
-/
theorem searches_within_requests_detour :
    ∃ fresh : Bench,
      Link.start villageManager {} {} { autoScan := false } = .ok fresh ∧
      (fresh.afterAll detour).stage = .searching ∧
      ((fresh.afterAll detour).after (.tick 100)).manager.searches =
        [ManagerDouble.technologyPath .wifi] ∧
      let asked := fresh.afterAll (detour ++ anotherSearch)
      let dark := asked.after (.setPower false)
      (asked.scanRequested = true ∧ asked.manager.searches.length ≤ 2) ∧
      (dark.afterAll restart).stage = .ready ∧
        (dark.afterAll restart).manager.searches.length ≤ 1 := by
  refine ⟨_, rfl, rfl, ?_, ⟨rfl, ?_⟩, rfl, ?_⟩
  · obtain ⟨-, searched, -⟩ := @searches_within_requests _ _ _ _ villageManager {} {}
      { autoScan := false } _ rfl detour rfl
    exact (searched (.tick 100) rfl).1
  -- The two parts behind the second request are read off one application.
  all_goals
    obtain ⟨granted, -, forgotten⟩ := @searches_within_requests _ _ _ _ villageManager {} {}
      { autoScan := false } _ rfl (detour ++ anotherSearch) rfl
  · exact granted
  · exact forgotten (.setPower false) rfl restart rfl

end CompanionLink
