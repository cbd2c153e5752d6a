import CompanionLink.Proofs.Lifecycle.Ascent
import Mathlib.Algebra.GroupWithZero.Nat

/-!
The stages that end by the clock: the radio coming up, a search settling and the first announcement
being out. The lengths of the ticks since the stage was entered decide when one of them is over.
-/

namespace CompanionLink

/-- The stages that end by the clock, with their time and the stage behind it. -/
inductive Timed (settings : LinkSettings) : Stage → Nat → Stage → Prop
  | powering : Timed settings .powering settings.powerTimeout .off
  | settling : Timed settings .settling settings.searchSettle .listed
  | announced : Timed settings .announced settings.announceGrace .visible

/-- A timed stage is none of those that a loss, a join or a shutdown leads to. -/
theorem Timed.ne_lost {settings : LinkSettings} {stage next : Stage} {limit : Nat}
    (timed : Timed settings stage limit next) :
    stage ≠ .off ∧ stage ≠ .listed ∧ stage ≠ .joining ∧ stage ≠ .closed := by
  -- By cases on the three timed stages.
  cases timed <;> decide

/-- The stage behind a timed stage is another one. -/
theorem Timed.ne_next {settings : LinkSettings} {stage next : Stage} {limit : Nat}
    (timed : Timed settings stage limit next) : stage ≠ next := by
  -- By cases on the three timed stages.
  cases timed <;> decide

/-- Whether a notification tells that a search was rejected. -/
def Notification.rejectsSearch : Notification → Bool
  | .scanFailed _ _ => true
  | _ => false

/-- The lengths of the ticks of a run. -/
def tickLengths {μ β χ : Type} : List (Happening μ β χ) → List Nat
  | [] => []
  | .tick elapsed :: later => elapsed :: tickLengths later
  | _ :: later => tickLengths later

/-- What is no tick has no length. -/
theorem tickLengths_still {μ β χ : Type} {happening : Happening μ β χ}
    (still : ∀ elapsed, happening ≠ .tick elapsed) (later : List (Happening μ β χ)) :
    tickLengths (happening :: later) = tickLengths later := by
  -- By cases on the happening.
  cases happening with
  | tick elapsed => exact absurd rfl (still elapsed)
  | _ => rfl

/-- The last tick of a run adds its length. -/
theorem tickLengths_concat {μ β χ : Type} (earlier : List (Happening μ β χ)) (elapsed : Nat) :
    tickLengths (earlier ++ [.tick elapsed]) = tickLengths earlier ++ [elapsed] := by
  -- By induction on the earlier part.
  induction earlier with
  | nil => rfl
  | cons happening later ih =>
    rcases happening.tick_or_still with ⟨first, rfl⟩ | still
    · exact congrArg (first :: ·) ih
    · rw [List.cons_append, tickLengths_still still, tickLengths_still still, ih]

namespace Link

variable {μ β χ : Type} [NetworkManager μ] [Announcer β] [PairingChannel χ]

/--
Whether a happening leaves a timed stage to its clock. A tick does unless it takes in what the stage
waits for, that the search was rejected, or that what the stage needs was lost.
-/
def leavesAlone (link : Link μ β χ) : Happening μ β χ → Bool
  | .tick elapsed =>
    match link.stage with
    -- The radio is still dark.
    | .powering => !(link.untilStep elapsed).technologies.wifiPowered
    -- The radio is kept, and no search was rejected.
    | .settling => !link.losesRadio && !link.delivered.any (·.rejectsSearch)
    -- The radio is kept, and so is a connected access point.
    | .announced =>
      !link.losesRadio &&
        (link.directory.told link.delivered).entries.any (fun point => point.isConnected)
    | _ => true
  | happening => link.spares happening

/-- Whether a run leaves a timed stage to its clock, until the link has left the stage. -/
def leftAlone (link : Link μ β χ) (stage : Stage) : List (Happening μ β χ) → Bool
  | [] => true
  | happening :: later =>
    link.leavesAlone happening &&
      ((link.after happening).stage != stage || (link.after happening).leftAlone stage later)

/-- A link is in a stage throughout a run. -/
def StaysIn (link : Link μ β χ) (stage : Stage) (run : List (Happening μ β χ)) : Prop :=
  ∀ moment ≤ run.length, (link.atMoment run moment).stage = stage

/-- A link has been in a timed stage for some time, and its search has not been rejected. -/
structure Waits (stage : Stage) (time : Nat) (link : Link μ β χ) : Prop where
  at_ : link.stage = stage
  waited : link.elapsed = time
  accepted : stage = .settling → link.scanRejected = false

variable {link : Link μ β χ} {stage next : Stage} {limit time : Nat}

/-- Work that enters a timed stage starts its clock, with a search that is not rejected. -/
theorem Works.waits {found after : Link μ β χ} (works : Works found after)
    (timed : Timed found.settings stage limit next) (before : found.stage ≠ stage)
    (entered : after.stage = stage) : Waits stage 0 after := by
  -- Of all the work there is, two ways on enter a timed stage from another one.
  cases works with
  | rests | joinPending | channelFailed | nobodyTaken => exact absurd entered before
  | searchTaken => exact ⟨entered, rfl, fun _ => rfl⟩
  | beaconOpened =>
    cases entered
    exact ⟨rfl, rfl, nofun⟩
  -- No other way on leads into a timed stage.
  | passes why => cases why <;> cases entered <;> cases timed
  | powerTimedOut | searchImpossible | searchRefused | searchRejected | joinFailed
  | joinSucceeded | beaconFailed | channelOpened | clientTaken | channelGone =>
    cases entered
    cases timed

/-- A link that has just entered a timed stage has waited no time. -/
theorem waits_of_entered (kinds : link.technologies.KindsMatch) {happening : Happening μ β χ}
    (timed : Timed link.settings stage limit next) (before : link.stage ≠ stage)
    (entered : (link.after happening).stage = stage) : Waits stage 0 (link.after happening) := by
  -- Ticks and the power switch can enter a timed stage, and they start its clock.
  obtain ⟨off, listed, joining, closed⟩ := timed.ne_lost
  cases happening with
  | tick elapsed =>
    have open_ : link.stage ≠ .closed := by
      intro ended
      rw [after, tick_closed ended] at entered
      exact before entered
    -- The work of the tick finds the link in its stage, or off.
    have found : (link.untilStep elapsed).stage ≠ stage := by
      rw [stage_untilStep link kinds elapsed open_]
      split
      · exact off.symm
      · exact before
    have settings := settings_untilStep link elapsed
    rw [after, tick_eq open_] at entered ⊢
    rcases step_cases (link.untilStep elapsed) with ⟨_, _, lost⟩ | ⟨_, works⟩
    · rw [lost] at entered
      exact absurd entered.symm listed
    · exact works.waits (settings ▸ timed) found entered
  | setPower on =>
    have outcome := setPower_cases link on
    rw [after] at entered ⊢
    generalize link.setPower on = result at entered outcome ⊢
    cases outcome with
    | closed | refused | kept => exact absurd entered before
    -- The switch begins to power up a link that was off, and with it the clock.
    | begun =>
      cases entered
      exact ⟨rfl, rfl, fun other => by cases other⟩
    | ended => exact absurd entered.symm off
  | connect index =>
    rw [after, stage_connect] at entered
    split at entered
    · exact absurd entered.symm joining
    · exact absurd entered before
  | shutdown => exact absurd (entered.symm.trans link.stage_shutdown) closed
  | outside => exact absurd entered before
  | _ => exact absurd ((stage_command link rfl (by simp) (by simp)).symm.trans entered) before

/-- What is no tick and leaves a timed stage to its clock leaves the clock alone. -/
theorem Waits.still {settings : LinkSettings} (waits : Waits stage time link)
    (timed : Timed settings stage limit next) {happening : Happening μ β χ}
    (still : ∀ elapsed, happening ≠ .tick elapsed) (alone : link.leavesAlone happening = true) :
    Waits stage time (link.after happening) := by
  -- The condition on a command excludes those that move the link or that answer with a success.
  obtain ⟨at_, waited, accepted⟩ := waits
  obtain ⟨off, -⟩ := timed.ne_lost
  cases happening with
  | tick elapsed => exact absurd rfl (still elapsed)
  | setPower on =>
    have spared : (on || (link.setPower on).1 != .ok) = true := alone
    have outcome := setPower_cases link on
    rw [after]
    generalize link.setPower on = result at spared outcome ⊢
    cases outcome with
    | closed | refused | kept => exact ⟨at_, waited, accepted⟩
    -- Only a link that is off begins to power up.
    | begun bottom => exact absurd (at_.symm.trans bottom) off
    | ended => cases spared
  | connect index =>
    have spared : ((link.connect index).1 != .ok) = true := alone
    have outcome := connect_cases link index
    rw [after]
    generalize link.connect index = result at spared outcome ⊢
    cases outcome with
    | unpowered | refused => exact ⟨at_, waited, accepted⟩
    | taken | switched => cases spared
  | shutdown => cases alone
  -- What stays in the stage leaves its clock.
  | scan => rw [after, scan]; split <;> exact ⟨at_, waited, accepted⟩
  | read buffer =>
    rw [after, read]
    split
    · exact ⟨at_, waited, accepted⟩
    · split <;> exact ⟨at_, waited, accepted⟩
  | write bytes => rw [after, write]; split <;> exact ⟨at_, waited, accepted⟩
  | forget | moveUp | moveDown | outside => exact ⟨at_, waited, accepted⟩

omit [NetworkManager μ] in
/-- A notification that rejects no search leaves the search accepted. -/
theorem scanRejected_note (accepted : link.scanRejected = false) {notification : Notification}
    (silent : notification.rejectsSearch = false) :
    (link.note notification).scanRejected = false := by
  -- Only the failure of a search rejects it.
  have technology : (link.noteTechnology notification).scanRejected = false := by
    rcases noteTechnology_cases link notification with ⟨_, _, _, lost⟩ | ⟨_, kept⟩
    · rw [lost]
      rfl
    · rw [kept]
      exact accepted
  cases notification with
  | scanFailed => cases silent
  | technologyAdded | technologyRemoved | powered => exact technology
  | _ => exact accepted

omit [NetworkManager μ] in
/-- Notifications that reject no search leave the search accepted. -/
theorem scanRejected_foldl_note {delivered : List Notification} {link : Link μ β χ}
    (accepted : link.scanRejected = false)
    (silent : delivered.any (·.rejectsSearch) = false) :
    (delivered.foldl note link).scanRejected = false := by
  -- By induction on the notifications.
  induction delivered generalizing link with
  | nil => exact accepted
  | cons notification later ih =>
    rw [List.any_cons, Bool.or_eq_false_iff] at silent
    exact ih (scanRejected_note accepted silent.1) silent.2

/-- While the radio comes up, nothing that is taken in touches the clock. -/
theorem elapsed_untilStep_powering (at_ : link.stage = .powering) (elapsed : Nat) :
    (link.untilStep elapsed).elapsed = link.elapsed + elapsed := by
  -- Stage and clock are kept together, since only an up link is taken down.
  have drained : { link with elapsed := link.elapsed + elapsed }.drain.stage = .powering ∧
      { link with elapsed := link.elapsed + elapsed }.drain.elapsed = link.elapsed + elapsed := by
    refine @drain_keeps _ _ _ _ _ _
      (fun later => later.stage = .powering ∧ later.elapsed = link.elapsed + elapsed)
      (fun _ _ kept => kept) (fun later notification kept => ?_) _ ⟨at_, rfl⟩
    -- A radio that is lost that early takes no link down.
    have technology : (later.noteTechnology notification).stage = .powering ∧
        (later.noteTechnology notification).elapsed = link.elapsed + elapsed := by
      rcases noteTechnology_cases later notification with ⟨_, _, powering, _⟩ | ⟨_, written⟩
      · exact absurd kept.1 powering
      · rw [written]
        exact kept
    cases notification with
    | technologyAdded | technologyRemoved | powered => exact technology
    | _ => exact kept
  obtain ⟨_, _, ticked, _⟩ :=
    tickBeacon_eq { link with elapsed := link.elapsed + elapsed }.drain elapsed
  rw [untilStep, ticked]
  exact drained.2

/-- The work of a tick that leaves the stage to its clock finds the tick's length on the clock. -/
theorem Waits.untilStep {settings : LinkSettings} (waits : Waits stage time link)
    (timed : Timed settings stage limit next) (kinds : link.technologies.KindsMatch)
    {elapsed : Nat} (alone : link.leavesAlone (.tick elapsed) = true) :
    Waits stage (time + elapsed) (link.untilStep elapsed) := by
  -- Each timed stage has its own reason why the drain leaves it alone.
  obtain ⟨at_, waited, accepted⟩ := waits
  rw [leavesAlone, at_] at alone
  cases timed with
  | powering =>
    have found := stage_untilStep link kinds elapsed (by rw [at_]; decide)
    rw [if_neg (by rw [at_]; exact fun up => nomatch up.1), at_] at found
    refine ⟨found, ?_, fun other => absurd other (by decide)⟩
    rw [elapsed_untilStep_powering at_, waited]
  -- The radio is kept, and no rejection is taken in.
  | settling =>
    rw [Bool.and_eq_true, Bool.not_eq_true', Bool.not_eq_true'] at alone
    obtain ⟨stage, clock⟩ := untilStep_lit kinds alone.1 elapsed
    refine ⟨stage.trans at_, by rw [clock, waited], fun _ => ?_⟩
    obtain ⟨_, _, ticked, _⟩ :=
      tickBeacon_eq { link with elapsed := link.elapsed + elapsed }.drain elapsed
    rw [Link.untilStep, ticked]
    exact scanRejected_foldl_note (accepted rfl) alone.2
  | announced =>
    rw [Bool.and_eq_true, Bool.not_eq_true'] at alone
    obtain ⟨stage, clock⟩ := untilStep_lit kinds alone.1 elapsed
    exact ⟨stage.trans at_, by rw [clock, waited], fun other => absurd other (by decide)⟩

/-- A link without an access point to lose does its stage's work. -/
theorem step_of_apart (apart : link.stage.hasLink = false) : link.step = link.stepStage := by
  -- The check for a lost access point is for links that are up to one.
  rw [step, apart, Bool.false_and, if_neg Bool.false_ne_true]

/-- A link that an access point carries does its stage's work. -/
theorem step_of_carried (carried : link.carrier ≠ none) : link.step = link.stepStage := by
  -- The check for a lost access point finds one.
  rw [step, Option.isNone_eq_false_iff.mpr (Option.isSome_iff_ne_none.mpr carried),
    Bool.and_false, if_neg Bool.false_ne_true]

/-- A tick that leaves the stage to its clock ends the stage exactly if its time is over. -/
theorem Waits.tick (waits : Waits stage time link) (timed : Timed link.settings stage limit next)
    (kinds : link.technologies.KindsMatch) {elapsed : Nat}
    (alone : link.leavesAlone (.tick elapsed) = true) :
    if time + elapsed < limit then Waits stage (time + elapsed) (link.tick elapsed)
    else (link.tick elapsed).stage = next ∧
      (stage = .powering → (link.tick elapsed).status = .fail) := by
  -- In each of the three stages the clock is compared with the limit after the same checks.
  have found := waits.untilStep timed kinds alone
  have settings := settings_untilStep link elapsed
  have open_ : link.stage ≠ .closed := waits.at_ ▸ timed.ne_lost.2.2.2
  rw [leavesAlone, waits.at_] at alone
  rw [tick_eq open_]
  cases timed with
  | powering =>
    have dark : (link.untilStep elapsed).technologies.wifiPowered = false := by simpa using alone
    rw [step_of_apart (by rw [found.at_]; rfl), stepStage, found.at_]
    simp only [stepPowering, dark, Bool.false_eq_true, if_false, settings, found.waited]
    -- A dark radio is given up when its time is over, with a failure.
    by_cases early : time + elapsed < link.settings.powerTimeout
    · rw [if_pos early, if_neg (Nat.not_le.mpr early)]
      exact found
    · rw [if_neg early, if_pos (Nat.not_lt.mp early)]
      exact ⟨rfl, fun _ => rfl⟩
  | settling =>
    rw [step_of_apart (by rw [found.at_]; rfl), stepStage, found.at_]
    simp only [stepSettling, found.accepted rfl, Bool.false_eq_true, if_false, settings,
      found.waited]
    -- The results have come in when the time is over.
    by_cases early : time + elapsed < link.settings.searchSettle
    · rw [if_pos early, if_neg (Nat.not_le.mpr early)]
      exact found
    · rw [if_neg early, if_pos (Nat.not_lt.mp early)]
      exact ⟨rfl, fun other => absurd other (by decide)⟩
  | announced =>
    -- A connected access point in the listing carries the link, so it is not cut off.
    have carried : (link.untilStep elapsed).carrier ≠ none := by
      rw [Ne, carrier_eq_none_iff, (untilStep_told link elapsed).1]
      intro cutOff
      obtain ⟨point, listed, connected⟩ := List.any_eq_true.mp (Bool.and_eq_true_iff.mp alone).2
      rw [cutOff point listed] at connected
      cases connected
    rw [step_of_carried carried, stepStage, found.at_]
    simp only [settings, found.waited]
    by_cases early : time + elapsed < link.settings.announceGrace
    · rw [if_pos early, if_neg (Nat.not_le.mpr early)]
      exact found
    · rw [if_neg early, if_pos (Nat.not_lt.mp early)]
      exact ⟨rfl, fun other => absurd other (by decide)⟩

section Runs

variable {happening last : Happening μ β χ} {earlier later run : List (Happening μ β χ)}

/-- A link stays in a stage if it is in it and stays there after the first happening. -/
theorem staysIn_cons : link.StaysIn stage (happening :: later) ↔
    link.stage = stage ∧ (link.after happening).StaysIn stage later := by
  -- The moments of a run are its beginning and those of the rest.
  constructor
  · intro stays
    exact ⟨stays 0 (Nat.zero_le _), fun moment within => stays (moment + 1) (by simpa using within)⟩
  · rintro ⟨at_, stays⟩ moment within
    cases moment with
    | zero => exact at_
    | succ moment => exact stays moment (by simpa using within)

/-- A run that leaves a stage alone does so before its last happening, and with it. -/
theorem leftAlone_concat (alone : link.leftAlone stage (earlier ++ [last]) = true) :
    link.leftAlone stage earlier = true ∧
      (link.StaysIn stage earlier → (link.afterAll earlier).leavesAlone last = true) := by
  -- By induction on the earlier part, as long as it stays in the stage.
  induction earlier generalizing link with
  | nil => exact ⟨rfl, fun _ => (Bool.and_eq_true_iff.mp alone).1⟩
  | cons happening later ih =>
    rw [List.cons_append, leftAlone, Bool.and_eq_true, Bool.or_eq_true] at alone
    obtain ⟨first, moved | rest⟩ := alone
    · -- A link that has moved on is not asked for any more.
      refine ⟨by rw [leftAlone, first, moved]; rfl, fun stays => ?_⟩
      have at_ : (link.after happening).stage = stage :=
        (staysIn_cons.mp stays).2 0 (Nat.zero_le _)
      exact absurd at_ (by simpa using moved)
    -- The first happening leaves the link in its stage, so the rest decides.
    · obtain ⟨before, behind⟩ := ih rest
      refine ⟨by rw [leftAlone, first, before, Bool.or_true]; rfl, fun stays => ?_⟩
      exact behind (staysIn_cons.mp stays).2

/-- A link waits in a timed stage until the lengths of the ticks come to its time. -/
theorem Waits.through (waits : Waits stage time link) (timed : Timed link.settings stage limit next)
    (reachable : Reachable link) (alone : link.leftAlone stage run = true) :
    if tickLengths run = [] ∨ time + (tickLengths run).sum < limit then
      link.StaysIn stage run ∧ Waits stage (time + (tickLengths run).sum) (link.afterAll run)
    else ¬ link.StaysIn stage run := by
  -- Each happening adds its length to the clock, so the rest of the run has less time left.
  induction run generalizing link time with
  | nil =>
    rw [if_pos (.inl rfl)]
    refine ⟨fun moment within => ?_, waits⟩
    rw [Nat.le_zero.mp within]
    exact waits.at_
  | cons happening later ih =>
    rw [leftAlone, Bool.and_eq_true, Bool.or_eq_true] at alone
    obtain ⟨first, rest⟩ := alone
    have goesOn {passed : Nat} (waits : Waits stage passed (link.after happening)) :=
      ih waits (by rwa [settings_after]) (reachable.follow (follows_after link happening))
        (rest.resolve_left (by simp [waits.at_]))
    simp only [staysIn_cons, waits.at_, true_and]
    rcases happening.tick_or_still with ⟨elapsed, rfl⟩ | still
    · have ticked := waits.tick timed reachable.radioByStage.kinds first
      simp only [tickLengths, List.sum_cons, List.cons_ne_nil, false_or, ← Nat.add_assoc]
      split at ticked
      · next early =>
        have rest := goesOn ticked
        -- The rest may hold no tick at all, and then no more time passes.
        by_cases none : tickLengths later = []
        · simp only [none, List.sum_nil, Nat.add_zero, true_or, if_true] at rest ⊢
          rw [if_pos early]
          exact rest
        · simp only [none, false_or] at rest ⊢
          exact rest
      · next late =>
        rw [if_neg (by omega)]
        intro stays
        -- The stage behind is another one.
        have at_ := (stays 0 (Nat.zero_le _)).symm.trans ticked.1
        exact timed.ne_next at_
    · rw [tickLengths_still still]
      exact goesOn (waits.still timed still first)

end Runs

end Link

open Link in
/--
From when a link enters a timed stage it stays there, over ticks of any lengths and everything that
leaves the stage to its clock, exactly as long as the lengths of the ticks fall short of the time of
the stage. The first tick with which they do not leads to the stage behind; the radio that did not
come up is a failure. Nothing that went before counts, and nothing between the ticks starts the
clock anew.
-/
theorem timed_stages_follow_clock {μ β χ : Type} [NetworkManager μ] [Announcer β]
    [PairingChannel χ] {link : Link μ β χ} (reachable : Reachable link)
    {entering : Happening μ β χ} {stage next : Stage} {limit : Nat}
    (timed : Timed link.settings stage limit next) (before : link.stage ≠ stage)
    (entered : (link.after entering).stage = stage) {run : List (Happening μ β χ)}
    (alone : (link.after entering).leftAlone stage run = true) :
    (tickLengths run ≠ [] →
      ((link.after entering).StaysIn stage run ↔ (tickLengths run).sum < limit)) ∧
    ∀ earlier elapsed, run = earlier ++ [.tick elapsed] →
      (tickLengths earlier = [] ∨ (tickLengths earlier).sum < limit) →
      limit ≤ (tickLengths run).sum →
      ((link.after entering).afterAll run).stage = next ∧
        (stage = .powering → ((link.after entering).afterAll run).status = .fail) := by
  have waits := waits_of_entered reachable.radioByStage.kinds timed before entered
  -- Entering starts the clock at zero, and the whole run is left to one lemma.
  have timed' : Timed (link.after entering).settings stage limit next := by rwa [settings_after]
  have follows := reachable.follow (follows_after link entering)
  constructor
  · intro some
    have through := waits.through timed' follows alone
    simp only [some, false_or, Nat.zero_add] at through
    split at through
    · next early => exact iff_of_true through.1 early
    · next late => exact iff_of_false through late
  · rintro earlier elapsed rfl short reached
    obtain ⟨apart, last⟩ := leftAlone_concat alone
    have through := waits.through timed' follows apart
    simp only [Nat.zero_add] at through
    rw [if_pos short] at through
    -- The last tick finds the lengths of the earlier ones on the clock.
    have kept : ((link.after entering).afterAll earlier).settings = link.settings := by
      rw [settings_afterAll, settings_after]
    have ticked := through.2.tick (kept ▸ timed) (follows.afterAll earlier).radioByStage.kinds
      (last through.1)
    rw [tickLengths_concat] at reached
    rw [if_neg (by simpa using reached)] at ticked
    rw [afterAll_concat]
    exact ticked

/-- Ticks and commands while a search settles, one millisecond short of its time. -/
def settling : List (Happening ManagerDouble AnnouncerDouble ChannelDouble) :=
  [.tick 0, .setPower true, .tick 12000, .scan, .forget 0, .connect 7, .tick 7999]

/-- A search settles for its time, whatever is asked for in between, and then the listing stands. -/
theorem timed_stages_follow_clock_settling :
    ∃ fresh link : Bench,
      Link.start (ManagerDouble.withTechnology {} .wifi true) {} {} {} = .ok fresh ∧
      Bench.run fresh [.setPower true, .tick 100, .tick 100, .tick 100] = .ok link ∧
      (link.tick 300).StaysIn .settling settling ∧
      ((link.tick 300).afterAll (settling ++ [.tick 1])).stage = .listed := by
  -- The clock decides both, without evaluating the ticks in between.
  refine ⟨_, _, rfl, rfl, ?_, ?_⟩
  all_goals
    have reachable := @Bench.run_reachable (ManagerDouble.withTechnology {} .wifi true) {} {} {}
      [.setPower true, .tick 100, .tick 100, .tick 100] _ _ rfl rfl
  · have clock := @timed_stages_follow_clock _ _ _ _ _ _ _ reachable (.tick 300) _ _ _ .settling
      (by decide) rfl settling (by decide)
    exact (clock.1 (by decide)).mpr (by decide)
  · have clock := @timed_stages_follow_clock _ _ _ _ _ _ _ reachable (.tick 300) _ _ _ .settling
      (by decide) rfl (settling ++ [.tick 1]) (by decide)
    exact (clock.2 settling 1 rfl (.inr (by decide)) (by decide)).1

end CompanionLink
