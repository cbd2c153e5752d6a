import CompanionLink.Proofs.Double.Hold
import Mathlib.Algebra.GroupWithZero.Nat

/-!
How often announcements go out. One is sent by the first tick with which the interval is over, and
the time beyond the interval is dropped, so the rate is bounded from both sides by the interval and
the longest tick. An announcer that was stopped, or could not send, is silent until it is started.
-/

namespace CompanionLink

/-- What can be seen of an announcer between its ticks. -/
class Clocked (β : Type) where
  /-- The time between two announcements, in milliseconds. -/
  interval : β → Nat
  /-- The time since the last announcement. -/
  sinceLast : β → Nat
  /-- How many announcements have gone out. -/
  sent : β → Nat

/-- One tick of an announcer, with what it answered. -/
structure Beat where
  elapsed : Nat
  answer : Except BeaconError Bool

/-- The time that passes with some ticks. -/
def Beat.time (beats : List Beat) : Nat := (beats.map Beat.elapsed).sum

/-- The time of ticks is that of the first and that of the others. -/
theorem Beat.time_cons (elapsed : Nat) (answer : Except BeaconError Bool) (beats : List Beat) :
    time (⟨elapsed, answer⟩ :: beats) = elapsed + time beats := rfl

section Announcers

variable {β : Type} [Announcer β] [Clocked β]

/-- Two announcers that look alike, whatever else has changed from one to the other. -/
structure Alike (announcer later : β) : Prop where
  running : Announcer.isRunning later = Announcer.isRunning announcer
  interval : Clocked.interval later = Clocked.interval announcer
  sinceLast : Clocked.sinceLast later = Clocked.sinceLast announcer
  sent : Clocked.sent later = Clocked.sent announcer

/-- Ticks of an announcer in a row; before each of them it may have become one that looks alike. -/
inductive Ticks : β → List Beat → β → Prop
  /-- No time passes. -/
  | done {announcer : β} : Ticks announcer [] announcer
  /-- One more tick, with the announcer changed in nothing that its ticks depend on. -/
  | tick {announcer meanwhile after : β} {elapsed : Nat} {beats : List Beat}
      (alike : Alike announcer meanwhile)
      (later : Ticks (Announcer.tick meanwhile elapsed).2 beats after) :
      Ticks announcer (⟨elapsed, (Announcer.tick meanwhile elapsed).1⟩ :: beats) after

/-- Ticks of given lengths, with nothing between them. -/
def runTicks (announcer : β) : List Nat → List Beat × β
  | [] => ([], announcer)
  | elapsed :: later =>
    let (answer, announcer) := Announcer.tick announcer elapsed
    let (beats, announcer) := runTicks announcer later
    (⟨elapsed, answer⟩ :: beats, announcer)

/-- Ticks of given lengths follow one another. -/
theorem ticks_runTicks (announcer : β) (lengths : List Nat) :
    Ticks announcer (runTicks announcer lengths).1 (runTicks announcer lengths).2 := by
  -- Nothing comes between two ticks, so each announcer is alike to itself.
  induction lengths generalizing announcer with
  | nil => exact .done
  | cons elapsed later ih => exact .tick ⟨rfl, rfl, rfl, rfl⟩ (ih _)

omit [Clocked β] in
/-- Every tick has its length. -/
theorem elapsed_runTicks (announcer : β) (lengths : List Nat) :
    (runTicks announcer lengths).1.map Beat.elapsed = lengths := by
  -- A tick is written down with the length that it was given.
  induction lengths generalizing announcer with
  | nil => rfl
  | cons elapsed later ih => exact congrArg (elapsed :: ·) (ih _)

/-- What a tick does, and what it answers. -/
inductive TickOutcome (announcer : β) (elapsed : Nat) : Except BeaconError Bool × β → Prop
  /-- An announcer that does not run sends nothing. -/
  | silent {later : β} (idle : Announcer.isRunning announcer = false)
      (stays : Announcer.isRunning later = false)
      (sent : Clocked.sent later = Clocked.sent announcer) :
      TickOutcome announcer elapsed (.ok false, later)
  /-- The interval is not over. -/
  | waits {later : β} (running : Announcer.isRunning announcer = true)
      (early : Clocked.sinceLast announcer + elapsed < Clocked.interval announcer)
      (stays : Announcer.isRunning later = true)
      (interval : Clocked.interval later = Clocked.interval announcer)
      (sinceLast : Clocked.sinceLast later = Clocked.sinceLast announcer + elapsed)
      (sent : Clocked.sent later = Clocked.sent announcer) :
      TickOutcome announcer elapsed (.ok false, later)
  /-- The interval is over, an announcement is sent and the time starts anew. -/
  | sends {later : β} (running : Announcer.isRunning announcer = true)
      (due : Clocked.interval announcer ≤ Clocked.sinceLast announcer + elapsed)
      (stays : Announcer.isRunning later = true)
      (interval : Clocked.interval later = Clocked.interval announcer)
      (sinceLast : Clocked.sinceLast later = 0)
      (sent : Clocked.sent later = Clocked.sent announcer + 1) :
      TickOutcome announcer elapsed (.ok true, later)
  /-- The announcement failed, which ends announcing. -/
  | fails {error : BeaconError} {later : β} (running : Announcer.isRunning announcer = true)
      (due : Clocked.interval announcer ≤ Clocked.sinceLast announcer + elapsed)
      (stops : Announcer.isRunning later = false)
      (sent : Clocked.sent later = Clocked.sent announcer) :
      TickOutcome announcer elapsed (.error error, later)

/-- An announcer that starts, stops and ticks as it should. -/
class TimedAnnouncer (β : Type) [Announcer β] [Clocked β] : Prop where
  /-- A successful start lets it run with no time passed. -/
  started {announcer later : β} {target : Ipv4Address}
    (opened : Announcer.start announcer target = (.ok (), later)) :
    Announcer.isRunning later = true ∧ Clocked.sinceLast later = 0
  /-- A start whose first announcement fails leaves it stopped. -/
  unsent {announcer later : β} {target : Ipv4Address} {address : SocketAddress} {reason : String}
    (failed : Announcer.start announcer target = (.error (.send address reason), later)) :
    Announcer.isRunning later = false ∧ Clocked.sent later = Clocked.sent announcer
  /-- A stop silences it and sends nothing. -/
  stopped (announcer : β) :
    Announcer.isRunning (Announcer.stop announcer) = false ∧
      Clocked.sent (Announcer.stop announcer) = Clocked.sent announcer
  /-- A tick comes out in one of four ways. -/
  ticked (announcer : β) (elapsed : Nat) :
    TickOutcome announcer elapsed (Announcer.tick announcer elapsed)

/-- An announcer that has just announced: it was started, or a tick of it has sent. -/
inductive Fresh : β → Prop
  | started {before announcer : β} {target : Ipv4Address}
      (opened : Announcer.start before target = (.ok (), announcer)) : Fresh announcer
  | sent {before announcer : β} {elapsed : Nat}
      (ticked : Announcer.tick before elapsed = (.ok true, announcer)) : Fresh announcer

/-- An announcer has come to its end: it was stopped, or an announcement could not be sent. -/
inductive Ends (announcer : β) : β → Prop
  /-- It was stopped. -/
  | stopped : Ends announcer (Announcer.stop announcer)
  /-- Its first announcement failed. -/
  | unsent {later : β} {target : Ipv4Address} {address : SocketAddress} {reason : String}
      (failed : Announcer.start announcer target = (.error (.send address reason), later)) :
      Ends announcer later
  /-- A later announcement failed. -/
  | failed {later : β} {elapsed : Nat} {error : BeaconError}
      (ticked : Announcer.tick announcer elapsed = (.error error, later)) : Ends announcer later

/-- When announcements go out, and how many. -/
structure KeepsCadence (β : Type) [Announcer β] [Clocked β] : Prop where
  /-- A tick tells whether it sends. -/
  told {announcer later : β} {elapsed : Nat} {answer : Except BeaconError Bool}
    (ticked : Announcer.tick announcer elapsed = (answer, later)) :
    (answer = .ok true → Clocked.sent later = Clocked.sent announcer + 1) ∧
      (answer ≠ .ok true → Clocked.sent later = Clocked.sent announcer)
  /-- The first tick with which the interval is over is the first that is not quiet. -/
  due {announcer after : β} {since : List Beat} {last : Beat} (fresh : Fresh announcer)
    (ticks : Ticks announcer (since ++ [last]) after)
    (quiet : ∀ beat ∈ since, beat.answer = .ok false) :
    last.answer = .ok false ↔ Beat.time (since ++ [last]) < Clocked.interval announcer
  /-- The announcements that follow a start are bounded from both sides by the time that passed. -/
  rate {before announcer after : β} {target : Ipv4Address} {beats : List Beat} {longest : Nat}
    (opened : Announcer.start before target = (.ok (), announcer))
    (positive : 0 < Clocked.interval announcer) (ticks : Ticks announcer beats after)
    (bounded : ∀ beat ∈ beats, beat.elapsed ≤ longest)
    (sound : ∀ beat ∈ beats, ∀ error, beat.answer ≠ .error error) :
    ∃ count, Clocked.sent after = Clocked.sent announcer + count ∧
      count * Clocked.interval announcer ≤ Beat.time beats ∧
      Beat.time beats <
        count * (Clocked.interval announcer + longest) + Clocked.interval announcer
  /-- At its end an announcer sends nothing, however much time passes. -/
  silent {announcer later after : β} {beats : List Beat} (ends : Ends announcer later)
    (ticks : Ticks later beats after) :
    Clocked.sent after = Clocked.sent announcer ∧ ∀ beat ∈ beats, beat.answer = .ok false

namespace TickOutcome

variable {announcer meanwhile later : β} {elapsed : Nat} {answer : Except BeaconError Bool}
  {result : Except BeaconError Bool × β}

omit [Announcer β] [Clocked β] in
/-- Only what can be seen of an announcer matters for its tick. -/
theorem of_alike [Announcer β] [Clocked β] (alike : Alike announcer meanwhile)
    (outcome : TickOutcome meanwhile elapsed result) : TickOutcome announcer elapsed result := by
  -- Each fact that decides an outcome is about something that alike announcers share.
  obtain ⟨running, interval, sinceLast, sent⟩ := alike
  cases outcome with
  | silent idle stays same => exact .silent (running ▸ idle) stays (same.trans sent)
  -- An announcement that is not due for one is not due for the other.
  | waits lit early stays kept passed same =>
    rw [sinceLast, interval] at early
    exact .waits (running ▸ lit) early stays (kept.trans interval) (by rw [passed, sinceLast])
      (same.trans sent)
  | sends lit due stays kept reset more =>
    rw [sinceLast, interval] at due
    exact .sends (running ▸ lit) due stays (kept.trans interval) reset (by rw [more, sent])
  | fails lit due stops same =>
    rw [sinceLast, interval] at due
    exact .fails (running ▸ lit) due stops (same.trans sent)

/-- A tick sends exactly if it says so. -/
theorem told (outcome : TickOutcome announcer elapsed (answer, later)) :
    (answer = .ok true → Clocked.sent later = Clocked.sent announcer + 1) ∧
      (answer ≠ .ok true → Clocked.sent later = Clocked.sent announcer) := by
  -- Of the four outcomes one sends, and it is the one that says so.
  cases outcome with
  | silent _ _ sent | waits _ _ _ _ _ sent | fails _ _ _ sent => exact ⟨nofun, fun _ => sent⟩
  | sends _ _ _ _ _ sent => exact ⟨fun _ => sent, fun other => absurd rfl other⟩

end TickOutcome

namespace TimedAnnouncer

variable [TimedAnnouncer β] {announcer later after : β} {beats : List Beat}

/-- The first of some ticks comes to one of the outcomes, and the others follow it. -/
theorem ticks_cons {elapsed : Nat} {answer : Except BeaconError Bool}
    (ticks : Ticks announcer (⟨elapsed, answer⟩ :: beats) after) :
    ∃ later, TickOutcome announcer elapsed (answer, later) ∧ Ticks later beats after := by
  -- The announcer that ticks is alike to the one before, and so is what it comes to.
  cases ticks with
  | tick alike rest => exact ⟨_, (ticked _ _).of_alike alike, rest⟩

/-- A fresh announcer runs, and its clock begins anew. -/
theorem fresh_anew (fresh : Fresh announcer) :
    Announcer.isRunning announcer = true ∧ Clocked.sinceLast announcer = 0 := by
  -- A start sets the clock, and of the outcomes of a tick only sending answers that it did.
  cases fresh with
  | started opened => exact started opened
  | @sent before _ elapsed sends =>
    have outcome := ticked before elapsed
    rw [sends] at outcome
    cases outcome with
    | sends _ _ stays _ sinceLast _ => exact ⟨stays, sinceLast⟩

/-- An announcer at its end does not run, and came there without an announcement. -/
theorem ends_idle (ends : Ends announcer later) :
    Announcer.isRunning later = false ∧ Clocked.sent later = Clocked.sent announcer := by
  -- Of the outcomes of a tick only a failure answers with an error.
  cases ends with
  | stopped => exact stopped announcer
  | unsent failed => exact unsent failed
  | @failed _ elapsed _ failed =>
    have outcome := ticked announcer elapsed
    rw [failed] at outcome
    cases outcome with
    | fails _ _ stops sent => exact ⟨stops, sent⟩

/-- Ticks of an announcer that does not run send nothing. -/
theorem ticks_idle (ticks : Ticks announcer beats after)
    (idle : Announcer.isRunning announcer = false) :
    Clocked.sent after = Clocked.sent announcer ∧ ∀ beat ∈ beats, beat.answer = .ok false := by
  -- A tick does not start an announcer, so the next one finds it idle as well.
  induction beats generalizing announcer with
  | nil =>
    cases ticks
    exact ⟨rfl, nofun⟩
  | cons beat beats ih =>
    rcases beat with ⟨elapsed, answer⟩
    obtain ⟨later, outcome, rest⟩ := ticks_cons ticks
    cases outcome with
    | silent _ stays sent =>
      obtain ⟨same, quiet⟩ := ih rest stays
      exact ⟨same.trans sent, List.forall_mem_cons.mpr ⟨rfl, quiet⟩⟩
    -- The other outcomes are those of an announcer that runs.
    | waits running | sends running | fails running =>
      exact nomatch running.symm.trans idle

/-- The time of quiet ticks adds up on the clock, and the next one is quiet while that is short. -/
theorem ticks_quiet {since : List Beat} {last : Beat}
    (ticks : Ticks announcer (since ++ [last]) after)
    (running : Announcer.isRunning announcer = true)
    (quiet : ∀ beat ∈ since, beat.answer = .ok false) :
    last.answer = .ok false ↔
      Clocked.sinceLast announcer + Beat.time (since ++ [last]) < Clocked.interval announcer := by
  -- A quiet tick moves its length from the ticks to come onto the clock.
  induction since generalizing announcer with
  | nil =>
    rcases last with ⟨elapsed, answer⟩
    obtain ⟨_, outcome, _⟩ := ticks_cons ticks
    cases outcome with
    | silent idle => exact nomatch running.symm.trans idle
    | waits _ early => exact iff_of_true rfl early
    -- Whether the announcement goes out or not, the interval is over.
    | sends _ due | fails _ due => exact iff_of_false nofun (Nat.not_lt.mpr due)
  | cons beat since ih =>
    obtain ⟨said, still⟩ := List.forall_mem_cons.mp quiet
    rcases beat with ⟨elapsed, answer⟩
    obtain ⟨later, outcome, rest⟩ := ticks_cons ticks
    cases outcome with
    | silent idle => exact nomatch running.symm.trans idle
    | waits _ _ stays interval sinceLast _ =>
      rw [ih rest stays still, sinceLast, interval, List.cons_append, Beat.time_cons,
        Nat.add_assoc]
    | sends | fails => cases said

/-- From any time on the clock, every announcement takes an interval, and at most a tick more. -/
theorem ticks_rate {longest : Nat} (ticks : Ticks announcer beats after)
    (running : Announcer.isRunning announcer = true)
    (early : Clocked.sinceLast announcer < Clocked.interval announcer)
    (bounded : ∀ beat ∈ beats, beat.elapsed ≤ longest)
    (sound : ∀ beat ∈ beats, ∀ error, beat.answer ≠ .error error) :
    ∃ count, Clocked.sent after = Clocked.sent announcer + count ∧
      count * Clocked.interval announcer ≤ Clocked.sinceLast announcer + Beat.time beats ∧
      Clocked.sinceLast announcer + Beat.time beats <
        count * (Clocked.interval announcer + longest) + Clocked.interval announcer := by
  -- What the clock shows counts towards the first announcement, and starts anew behind each.
  induction beats generalizing announcer with
  | nil =>
    cases ticks
    exact ⟨0, rfl, by omega, by simpa [Beat.time] using early⟩
  | cons beat beats ih =>
    rcases beat with ⟨elapsed, answer⟩
    obtain ⟨(fits : elapsed ≤ longest), within⟩ := List.forall_mem_cons.mp bounded
    obtain ⟨fine, others⟩ := List.forall_mem_cons.mp sound
    obtain ⟨later, outcome, rest⟩ := ticks_cons ticks
    rw [Beat.time_cons]
    cases outcome with
    | silent idle => exact nomatch running.symm.trans idle
    -- Waiting moves the time of the tick onto the clock, so the sum of both is unchanged.
    | waits _ short stays interval sinceLast sent =>
      obtain ⟨count, total, least, most⟩ :=
        ih rest stays (by rw [sinceLast, interval]; exact short) within others
      rw [sinceLast, interval, Nat.add_assoc] at least most
      exact ⟨count, total.trans (by rw [sent]), least, most⟩
    | sends _ due stays interval sinceLast sent =>
      -- The time up to here is an interval at least, and less than an interval and this tick.
      obtain ⟨count, total, least, most⟩ :=
        ih rest stays (by rw [sinceLast, interval]; omega) within others
      rw [sinceLast, interval, Nat.zero_add] at least most
      -- One interval more is counted, with all of the time that has passed for it.
      refine ⟨count + 1, by rw [total, sent]; omega, ?_, ?_⟩
      · rw [Nat.succ_mul]
        omega
      · rw [Nat.succ_mul]
        omega
    -- A failure would be an error among the answers.
    | fails => exact absurd rfl (fine _)

/-- An announcer that starts, stops and ticks as it should keeps the cadence. -/
theorem keepsCadence : KeepsCadence β where
  -- Each field is the law of one tick or the induction over many.
  told {announcer later elapsed answer} tick := by
    have outcome := ticked announcer elapsed
    rw [tick] at outcome
    exact outcome.told
  -- Behind an announcement the clock shows nothing yet.
  due fresh ticks quiet := by
    obtain ⟨running, anew⟩ := fresh_anew fresh
    rw [ticks_quiet ticks running quiet, anew, Nat.zero_add]
  rate {before announcer _ _ _ _} opened positive ticks bounded sound := by
    obtain ⟨running, anew⟩ := started opened
    have rate := ticks_rate ticks running (anew ▸ positive) bounded sound
    rwa [anew, Nat.zero_add] at rate
  silent ends ticks := by
    obtain ⟨idle, same⟩ := ends_idle ends
    obtain ⟨sent, quiet⟩ := ticks_idle ticks idle
    exact ⟨sent.trans same, quiet⟩

end TimedAnnouncer

end Announcers

namespace AnnouncerDouble

/-- The counting announcer shows its own clock and count, over a fixed interval. -/
instance : Clocked AnnouncerDouble where
  interval _ := beaconInterval
  sinceLast := sinceLast
  sent := sent

variable {announcer later : AnnouncerDouble}

/-- An announcement that goes out is counted, and nothing else changes. -/
theorem send_ok (sent : announcer.send = (.ok (), later)) :
    later = { announcer with sent := announcer.sent + 1 } := by
  -- A prepared failure would have answered with an error.
  unfold send at sent
  split at sent
  · cases sent
  · exact (Prod.mk.inj sent).2.symm

/-- An announcement that fails stops the announcer, and is not counted. -/
theorem send_error {error : BeaconError} (failed : announcer.send = (.error error, later)) :
    later.running = false ∧ later.sent = announcer.sent := by
  -- Only a prepared failure answers with an error, and that stops without counting.
  unfold send at failed
  split at failed
  · cases failed
    exact ⟨rfl, rfl⟩
  · cases failed

/-- A start that opens its socket sends an announcement. -/
theorem start_of_opens (opens : announcer.failsStart = false) (target : Ipv4Address) :
    announcer.start target =
      send
        { announcer with
          running := true, sinceLast := 0, targets := announcer.targets ++ [target] } :=
  if_neg (Bool.eq_false_iff.mp opens)

/-- A start that opens no socket says so. -/
theorem start_of_fails (fails : announcer.failsStart = true) (target : Ipv4Address) :
    announcer.start target = (.error (.socket "injected socket failure"), announcer) :=
  if_pos fails

/-- A tick of a stopped announcer changes nothing. -/
theorem tick_idle (idle : announcer.running = false) (elapsed : Nat) :
    announcer.tick elapsed = (.ok false, announcer) :=
  if_pos (by rw [idle]; rfl)

/-- A tick with which the interval is not over only takes time. -/
theorem tick_early (running : announcer.running = true) {elapsed : Nat}
    (early : announcer.sinceLast + elapsed < beaconInterval) :
    announcer.tick elapsed =
      (.ok false, { announcer with sinceLast := announcer.sinceLast + elapsed }) :=
  (if_neg (by rw [running]; nofun)).trans (if_pos early)

/-- The tick with which the interval is over sends. -/
theorem tick_due (running : announcer.running = true) {elapsed : Nat}
    (due : beaconInterval ≤ announcer.sinceLast + elapsed) :
    announcer.tick elapsed =
      (({ announcer with sinceLast := 0 } : AnnouncerDouble).send.1.map fun _ => true,
        ({ announcer with sinceLast := 0 } : AnnouncerDouble).send.2) :=
  (if_neg (by rw [running]; nofun)).trans (if_neg (Nat.not_lt.mpr due))

/-- The counting announcer starts, stops and ticks as it should. -/
instance : TimedAnnouncer AnnouncerDouble where
  started {announcer later target} opened := by
    -- A start that succeeds has opened its socket and sent.
    have opened : announcer.start target = (.ok (), later) := opened
    cases fails : announcer.failsStart with
    | true =>
      rw [start_of_fails fails] at opened
      cases opened
    | false =>
      rw [start_of_opens fails] at opened
      cases send_ok opened
      exact ⟨rfl, rfl⟩
  unsent {announcer later target address reason} failed := by
    -- What could not be sent was to go out behind an open socket.
    have failed : announcer.start target = (.error (.send address reason), later) := failed
    cases fails : announcer.failsStart with
    | true =>
      rw [start_of_fails fails] at failed
      cases failed
    | false =>
      rw [start_of_opens fails] at failed
      obtain ⟨stopped, same⟩ := send_error failed
      exact ⟨stopped, same⟩
  stopped announcer := by
    -- Stopping counts stops and never announcements.
    refine ⟨running_stop announcer, ?_⟩
    show announcer.stop.sent = announcer.sent
    unfold stop
    split <;> rfl
  ticked announcer elapsed := by
    -- Whether the announcer runs comes first, then whether the interval is over.
    show TickOutcome announcer elapsed (announcer.tick elapsed)
    cases running : announcer.running with
    | false =>
      rw [tick_idle running]
      exact .silent running running rfl
    | true =>
      rcases Nat.lt_or_ge (announcer.sinceLast + elapsed) beaconInterval with early | due
      · rw [tick_early running early]
        exact .waits running early running rfl rfl rfl
      · rw [tick_due running due]
        rcases outcome : ({ announcer with sinceLast := 0 } : AnnouncerDouble).send with
          ⟨error | _, later⟩
        · obtain ⟨stopped, same⟩ := send_error outcome
          exact .fails running due stopped same
        · cases send_ok outcome
          exact .sends running due running rfl rfl rfl

end AnnouncerDouble

end CompanionLink
