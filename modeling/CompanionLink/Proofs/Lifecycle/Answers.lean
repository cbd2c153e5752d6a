import CompanionLink.Lifecycle.Run
import CompanionLink.Proofs.Lifecycle.Happening

/-!
How the status of a link goes with the answers of its commands. Most commands write what they answer
to the status; a request for a search and the power switch of a closed link answer and leave it
alone, and then it still tells how something earlier came out.
-/

namespace CompanionLink

/-- A result is a success or a failure, and never says to wait. -/
theorem Status.ofExcept_ne_busy {ε α : Type} (result : Except ε α) :
    Status.ofExcept result ≠ .busy := by
  -- Either kind of result names its status outright.
  cases result <;> nofun

namespace Link

variable {μ β χ : Type} [NetworkManager μ] [Announcer β] [PairingChannel χ]

/-- The status that a command answers. Ticks, reads and writes answer none. -/
def answer? (link : Link μ β χ) : Happening μ β χ → Option Status
  -- Reads and writes answer with octets, and the rest with nothing.
  | .setPower on => some (link.setPower on).1
  | .connect index => some (link.connect index).1
  | .scan => some link.scan.1
  | .forget index => some (link.forget index).1
  | .moveUp index => some (link.moveUp index).1
  | .moveDown index => some (link.moveDown index).1
  | _ => none

/-- Whether a happening leaves the status alone, whatever it answers. -/
def keepsStatus (link : Link μ β χ) : Happening μ β χ → Bool
  | .tick _ | .setPower _ => link.stage == .closed
  | .connect _ | .forget _ | .moveUp _ | .moveDown _ => false
  -- A read shows in the status only if its buffer has no room for a length.
  | .read buffer => link.stage != .paired || lengthPrefixSize ≤ buffer.length
  | .scan | .write _ | .shutdown | .outside .. => true

/-- Whether every happening of a run leaves the status alone. -/
def keepsStatusAll (link : Link μ β χ) : List (Happening μ β χ) → Bool
  | [] => true
  | happening :: later => link.keepsStatus happening && (link.after happening).keepsStatusAll later

variable {link after : Link μ β χ}

/-! ### What is written to the status -/

omit [NetworkManager μ] [Announcer β] [PairingChannel χ] in
/-- Asking for a search leaves the status as it was, in every stage. -/
theorem status_scan (link : Link μ β χ) : link.scan.2.status = link.status := by
  -- None of the five answers is written down.
  unfold scan
  split <;> rfl

/-- Switching the power writes its answer to the status, unless the link is closed. -/
theorem status_setPower (open_ : link.stage ≠ .closed) (on : Bool) :
    (link.setPower on).2.status = (link.setPower on).1 := by
  -- The closed stage is the one case that writes nothing, and it was excluded.
  have outcome := setPower_cases link on
  revert outcome
  generalize link.setPower on = result
  rintro (at_ | _ | _ | _ | _)
  · exact absurd at_ open_
  all_goals rfl

/-- Asking for a join writes the answer to the status, whatever decides it. -/
theorem status_connect (link : Link μ β χ) (index : Nat) :
    (link.connect index).2.status = (link.connect index).1 := by
  -- The early returns go through the same report as the last one.
  have outcome := connect_cases link index
  revert outcome
  generalize link.connect index = result
  rintro (_ | _ | _ | _) <;> rfl

/-- A command that does not leave the status alone writes what it answers. -/
theorem status_after_answer {command : Happening μ β χ} {answer : Status}
    (answered : link.answer? command = some answer) (written : link.keepsStatus command = false) :
    (link.after command).status = answer := by
  -- Each loud command ends with a status that it also reports.
  cases command with
  | setPower on =>
    cases answered
    exact status_setPower (by simpa [keepsStatus] using written) on
  | connect index =>
    cases answered
    exact status_connect link index
  | scan => cases written
  -- The requests about a listed access point end in one way.
  | forget | moveUp | moveDown =>
    cases answered
    rfl
  | _ => cases answered

/-- What leaves the status alone leaves it as it was. -/
theorem status_after_kept {happening : Happening μ β χ}
    (kept : link.keepsStatus happening = true) : (link.after happening).status = link.status := by
  -- Each happening that keeps the status does so by its own guard.
  cases happening with
  | tick elapsed =>
    have closed : link.stage = .closed := by simpa [keepsStatus] using kept
    rw [Link.after, tick_closed closed]
  | setPower on =>
    have closed : link.stage = .closed := by simpa [keepsStatus] using kept
    rw [Link.after, setPower, if_pos closed]
  | scan => exact status_scan link
  -- A read writes a status only for a buffer that is too small.
  | read buffer =>
    rw [Link.after, read]
    split
    · rfl
    · next paired =>
      have roomy : ¬ buffer.length < lengthPrefixSize := by
        simpa [keepsStatus, Decidable.not_not.mp paired] using kept
      rw [if_neg roomy]
  | write bytes => rw [Link.after, write]; split <;> rfl
  | shutdown => rw [Link.after, shutdown]; split <;> rfl
  | outside => rfl
  | connect | forget | moveUp | moveDown => cases kept

/-- The only commands that answer and leave the status alone. -/
theorem keepsStatus_answered_iff {command : Happening μ β χ} {answer : Status}
    (answered : link.answer? command = some answer) :
    link.keepsStatus command = true ↔
      command = .scan ∨ link.stage = .closed ∧ ∃ on, command = .setPower on := by
  -- Among the commands that answer, only these two leave the status at any time.
  cases command with
  | setPower | connect | scan | forget | moveUp | moveDown => simp [keepsStatus]
  | _ => cases answered

/-- A status stands until something writes to it. -/
theorem status_afterAll_kept {run : List (Happening μ β χ)}
    (kept : link.keepsStatusAll run = true) : (link.afterAll run).status = link.status := by
  -- By induction on the run: its first happening keeps the status, and so do the later ones.
  induction run generalizing link with
  | nil => rfl
  | cons happening later ih =>
    rw [keepsStatusAll, Bool.and_eq_true] at kept
    exact (ih kept.2).trans (status_after_kept kept.1)

/-! ### The answer that no status shows -/

/-- Only a request for a search is ever told to wait, which is while one is under way. -/
theorem answer_busy_iff {command : Happening μ β χ} :
    link.answer? command = some .busy ↔
      command = .scan ∧ (link.stage = .searching ∨ link.stage = .settling) := by
  -- A search is told to wait in two of its five cases; no other command knows that answer.
  constructor
  · intro busy
    cases command with
    | scan =>
      simp only [answer?, scan, Option.some.injEq] at busy
      refine ⟨rfl, ?_⟩
      split at busy
      · cases busy
      · cases busy
      · next at_ => exact .inl at_
      · next at_ => exact .inr at_
      · cases busy
    -- The switch and a join end well or fail, and so does a request.
    | setPower on =>
      have outcome := setPower_cases link on
      rw [answer?, Option.some.injEq] at busy
      revert busy outcome
      generalize link.setPower on = result
      rintro busy (_ | _ | _ | _ | _) <;> cases busy
    | connect index =>
      have outcome := connect_cases link index
      rw [answer?, Option.some.injEq] at busy
      revert busy outcome
      generalize link.connect index = result
      rintro busy (_ | _ | _ | _) <;> cases busy
    | forget | moveUp | moveDown =>
      exact absurd (Option.some.inj busy) (Status.ofExcept_ne_busy _)
    | _ => cases busy
  · rintro ⟨rfl, at_ | at_⟩ <;> rw [answer?, scan, at_]

/-- What a command writes to the status is never that it has to wait. -/
theorem status_after_answer_ne_busy {command : Happening μ β χ} {answer : Status}
    (answered : link.answer? command = some answer) (written : link.keepsStatus command = false) :
    (link.after command).status ≠ .busy := by
  rw [status_after_answer answered written]
  rintro rfl
  -- Only a request for a search answers so, and that one leaves the status alone.
  obtain ⟨rfl, _⟩ := answer_busy_iff.mp answered
  cases written

/-- A stage's work says how it came out, or nothing; it never says to wait. -/
theorem Works.status (works : Works link after) :
    after.status = link.status ∨ after.status ≠ .busy := by
  -- The work that writes a status writes success or failure.
  cases works with
  | rests | passes | joinPending | beaconOpened | channelOpened | clientTaken | channelGone
  | nobodyTaken => exact .inl rfl
  | powerTimedOut | searchImpossible | searchTaken | searchRefused | searchRejected | joinFailed
  | joinSucceeded | beaconFailed | channelFailed => exact .inr nofun

omit [NetworkManager μ] in
/-- What the manager reports is not an operation, and does not show in the status. -/
theorem status_note (link : Link μ β χ) (notification : Notification) :
    (link.note notification).status = link.status := by
  -- Only news of the technologies can drop a radio, and dropping one writes no status.
  have technology : (link.noteTechnology notification).status = link.status := by
    rcases noteTechnology_cases link notification with ⟨_, _, _, lost⟩ | ⟨_, kept⟩
    · rw [lost]
      rfl
    · rw [kept]
  cases notification with
  | technologyAdded | technologyRemoved | powered => exact technology
  | _ => rfl

/-- A tick that fails to announce says that it failed. -/
theorem status_untilStep (link : Link μ β χ) (elapsed : Nat) :
    (link.untilStep elapsed).status = link.status ∨ (link.untilStep elapsed).status = .fail := by
  -- Draining writes nothing, so only an announcement that fails is left.
  have drained : { link with elapsed := link.elapsed + elapsed }.drain.status = link.status :=
    @drain_keeps _ _ _ _ _ _ (fun later => later.status = link.status) (fun _ _ same => same)
      (fun later notification same => (status_note later notification).trans same) _ rfl
  rw [untilStep, tickBeacon]
  split
  · split
    · exact .inl drained
    · exact .inr rfl
  · exact .inl drained

/-- A tick that begins without being told to wait ends so as well. -/
theorem status_tick_ne_busy (calm : link.status ≠ .busy) (elapsed : Nat) :
    (link.tick elapsed).status ≠ .busy := by
  -- A closed link does not move; otherwise the drain comes before the stage's work.
  by_cases closed : link.stage = .closed
  · rwa [tick_closed closed]
  · have found : (link.untilStep elapsed).status ≠ .busy := by
      rcases status_untilStep link elapsed with same | failed
      · rwa [same]
      · rw [failed]
        nofun
    rw [tick_eq closed]
    rcases step_cases (link.untilStep elapsed) with ⟨_, _, lost⟩ | ⟨_, work⟩
    -- A link that lost its access point keeps the status of the drain.
    · rw [lost]
      exact found
    · rcases work.status with same | other
      · rwa [same]
      · exact other

/-- A link that is not told to wait by its status is not told so after whatever happens. -/
theorem status_after_ne_busy (calm : link.status ≠ .busy) (happening : Happening μ β χ) :
    (link.after happening).status ≠ .busy := by
  -- What writes no status is settled, and what writes one writes no request to wait.
  cases kept : link.keepsStatus happening with
  | true => rwa [status_after_kept kept]
  | false =>
    cases happening with
    | tick elapsed => exact status_tick_ne_busy calm elapsed
    | setPower | connect | forget | moveUp | moveDown => exact status_after_answer_ne_busy rfl kept
    -- The one status that a read writes is a failure.
    | read buffer =>
      rw [Link.after, read]
      split
      · exact calm
      · split
        · nofun
        · exact calm
    | scan | write | shutdown | outside => cases kept

/-- The status of a link that some history leads to never says to wait. -/
theorem Reachable.status_ne_busy (reachable : Reachable link) : link.status ≠ .busy := by
  -- By induction on the history, from a fresh link, whose status is a success.
  induction reachable with
  | start started =>
    obtain ⟨_, _, _, _, _, _, rfl⟩ := start_cases started
    nofun
  | follow _ happened calm =>
    obtain ⟨happening, rfl⟩ := happened.exists_happening
    exact status_after_ne_busy calm happening

end Link

open Link in
/--
In every link that some history leads to, a command that answers leaves its answer in the status,
but for a request for a search and for the power switch of a closed link, which leave the status as
it was. No status ever says to wait, so that a search that is told to wait never shows. Whatever the
status is after a command, it stands until something writes to it.
-/
theorem status_tells_answer {μ β χ : Type} [NetworkManager μ] [Announcer β] [PairingChannel χ]
    {link : Link μ β χ} (reachable : Reachable link) {command : Happening μ β χ} {answer : Status}
    (answered : link.answer? command = some answer) :
    let silent := command = .scan ∨ link.stage = .closed ∧ ∃ on, command = .setPower on
    let after := link.after command
    (¬ silent → after.status = answer) ∧ (silent → after.status = link.status) ∧
      (after.status = answer ↔ (silent → link.status = answer)) ∧ after.status ≠ .busy ∧
      ∀ later, after.keepsStatusAll later = true →
        (after.afterAll later).status = after.status := by
  -- Two lemmas decide it: a loud command shows its answer, and a silent one shows nothing.
  intro silent after
  have alone : link.keepsStatus command = true ↔ silent := keepsStatus_answered_iff answered
  have told (loud : ¬ silent) : after.status = answer :=
    status_after_answer answered (by simpa [← alone] using loud)
  have stays (quiet : silent) : after.status = link.status :=
    status_after_kept (alone.mpr quiet)
  -- Both ways give the equivalence, and the rest is said of every command.
  refine ⟨told, stays, ⟨fun shown quiet => (stays quiet).symm.trans shown, fun before => ?_⟩,
    status_after_ne_busy reachable.status_ne_busy command, fun later => status_afterAll_kept⟩
  by_cases quiet : silent
  · exact (stays quiet).trans (before quiet)
  · exact told quiet

/-- A run that switches the radio on and comes to a search. -/
def searchingRun : List (Happening ManagerDouble AnnouncerDouble ChannelDouble) :=
  [.setPower true, .tick 100, .tick 100, .tick 100]

/--
A join that is refused while a search is under way shows as a failure. It still does after a search
was told to wait, the link was shut down and the power was to be switched.
-/
theorem status_tells_answer_refused :
    ∃ fresh : Bench,
      Link.start (ManagerDouble.withTechnology {} .wifi true) {} {} {} = .ok fresh ∧
      let link := fresh.afterAll searchingRun
      link.stage = .searching ∧ link.status = .ok ∧
        link.answer? (.connect 7) = some .fail ∧ (link.after (.connect 7)).status = .fail ∧
        ((link.after (.connect 7)).afterAll [.scan, .shutdown, .setPower true]).status =
          (link.after (.connect 7)).status := by
  refine ⟨_, rfl, rfl, rfl, rfl, ?_⟩
  have reachable := (@Link.Reachable.start _ _ _ _ _ _
    (ManagerDouble.withTechnology {} .wifi true) ({} : AnnouncerDouble) ({} : ChannelDouble) {} _
    rfl).afterAll searchingRun
  obtain ⟨told, -, -, -, stands⟩ :=
    @status_tells_answer _ _ _ _ _ _ _ reachable (.connect 7) .fail rfl
  -- A join is none of the commands that leave the status alone.
  refine ⟨told ?_, stands _ rfl⟩
  rintro (same | ⟨_, _, same⟩) <;> cases same

/--
The status misses a search that is refused while the radio is off or that is told to wait, and a
power switch that fails because the link is closed, although a join that fails then does show.
-/
theorem status_misses_answer :
    ∃ fresh : Bench,
      Link.start (ManagerDouble.withTechnology {} .wifi true) {} {} {} = .ok fresh ∧
      (fresh.answer? .scan = some .fail ∧ (fresh.after .scan).status = .ok) ∧
      let link := fresh.afterAll searchingRun
      (link.answer? .scan = some .busy ∧ (link.after .scan).status = .ok) ∧
      let closed := link.shutdown
      (closed.answer? (.setPower true) = some .fail ∧
        (closed.after (.setPower true)).status = .ok) ∧
      closed.answer? (.connect 0) = some .fail ∧ (closed.after (.connect 0)).status = .fail :=
  -- Evaluation of the two runs.
  ⟨_, rfl, ⟨rfl, rfl⟩, ⟨rfl, rfl⟩, ⟨rfl, rfl⟩, rfl, rfl⟩

end CompanionLink
