import CompanionLink.Proofs.Lifecycle.Happening

/-!
How a join ends. What each tick finds out about the access point that is joined is written down as
a view; the views decide when the wait is over and how it came out.
-/

namespace CompanionLink

/-- What a tick finds out about a join. -/
structure JoinView where
  /-- The state that the access point is listed with, none if it is not listed. -/
  state : Option AccessPointState
  /-- Whether the tick takes in that the manager rejected the join. -/
  refused : Bool
  /-- How much time passes with the tick, in milliseconds. -/
  elapsed : Nat
deriving DecidableEq, Repr

/-- How much time passes with the ticks of some views. -/
def JoinView.time (views : List JoinView) : Nat :=
  views.foldl (fun time view => time + view.elapsed) 0

/--
A join goes on after a tick with this view, which has seen the earlier ones.

The failure of a join that began as one does not count while nothing else was seen.
-/
structure JoinGoesOn (stale : Bool) (limit : Nat) (earlier : List JoinView) (now : JoinView) :
    Prop where
  /-- The access point is listed. -/
  listed : now.state ≠ none
  /-- Its link is not up. -/
  down : now.state ≠ some .ready ∧ now.state ≠ some .online
  /-- No rejection was told of. -/
  accepted : ∀ view ∈ earlier ++ [now], view.refused = false
  /-- The time is not over. -/
  early : JoinView.time (earlier ++ [now]) < limit
  /-- A failure has been there all along. -/
  old : now.state = some .failure → stale = true ∧ ∀ view ∈ earlier, view.state = some .failure

/-- Each of the conditions can be decided, so that all of them together can. -/
instance (stale : Bool) (limit : Nat) (earlier : List JoinView) (now : JoinView) :
    Decidable (JoinGoesOn stale limit earlier now) :=
  decidable_of_iff
    (now.state ≠ none ∧ (now.state ≠ some .ready ∧ now.state ≠ some .online) ∧
      (∀ view ∈ earlier ++ [now], view.refused = false) ∧
      JoinView.time (earlier ++ [now]) < limit ∧
      (now.state = some .failure → stale = true ∧ ∀ view ∈ earlier, view.state = some .failure))
    ⟨fun ⟨listed, down, accepted, early, old⟩ => ⟨listed, down, accepted, early, old⟩,
      fun goes => ⟨goes.listed, goes.down, goes.accepted, goes.early, goes.old⟩⟩

/-- An access point that is found with a state is connected if the state says so. -/
theorem JoinView.connected_iff {now : JoinView} {point : AccessPoint}
    (state : now.state = some point.state) :
    point.isConnected = true ↔ now.state = some .ready ∨ now.state = some .online := by
  -- Only two of the states mean that the link is up.
  rw [state, AccessPoint.isConnected]
  cases point.state <;> decide

/-- Whether a join goes on is decided by what the link keeps of the views. -/
theorem joinGoesOn_iff {stale : Bool} {limit : Nat} {earlier : List JoinView} {now : JoinView}
    {point : AccessPoint} (state : now.state = some point.state) :
    JoinGoesOn stale limit earlier now ↔
      point.isConnected = false ∧ (earlier ++ [now]).any JoinView.refused = false ∧
      (point.state = .failure →
        (stale && earlier.all fun view => view.state == some .failure) = true) ∧
      JoinView.time (earlier ++ [now]) < limit := by
  -- Each part of the condition is the negation of one reason to end the join.
  have unconnected : point.isConnected = false ↔
      now.state ≠ some .ready ∧ now.state ≠ some .online := by
    rw [← not_or, ← JoinView.connected_iff state, Bool.not_eq_true]
  have accepted : (earlier ++ [now]).any JoinView.refused = false ↔
      ∀ view ∈ earlier ++ [now], view.refused = false := by
    simp only [List.any_eq_false, Bool.not_eq_true]
  have covered : (stale && earlier.all fun view => view.state == some .failure) = true ↔
      stale = true ∧ ∀ view ∈ earlier, view.state = some .failure := by
    simp only [Bool.and_eq_true, List.all_eq_true, beq_iff_eq]
  have failed : point.state = .failure ↔ now.state = some .failure := by
    rw [state, Option.some.injEq]
  rw [unconnected, accepted, covered, failed]
  -- A listed access point is all that is missing, and the state is that of one.
  constructor
  · intro goes
    exact ⟨goes.down, goes.accepted, goes.old, goes.early⟩
  · rintro ⟨down, accepted, old, early⟩
    exact ⟨by simp [state], down, accepted, early, old⟩

/--
The target of a join as it was begun, after some views were judged and some rejections taken in.
-/
def JoinTarget.seen (id : String) (stale : Bool) (judged taken : List JoinView) : JoinTarget where
  id
  staleFailure := stale && judged.all fun view => view.state == some .failure
  rejected := taken.any JoinView.refused

namespace Link

variable {μ β χ : Type} [NetworkManager μ] [Announcer β] [PairingChannel χ]

/-- What the next tick finds out about the join of an access point. -/
def joinView (link : Link μ β χ) (id : String) (elapsed : Nat) : JoinView where
  state := ((link.untilStep elapsed).directory.find id).map fun point => point.state
  refused := link.delivered.any (·.rejectsJoin id)
  elapsed

/-- What the ticks of a run find out about the join of an access point. -/
def joinViews (link : Link μ β χ) (id : String) : List (Happening μ β χ) → List JoinView
  | [] => []
  | .tick elapsed :: later =>
    link.joinView id elapsed :: (link.tick elapsed).joinViews id later
  | happening :: later => (link.after happening).joinViews id later

/-- A tick finds something out, and the rest of a run goes on from it. -/
theorem joinViews_tick (link : Link μ β χ) (id : String) (passed : Nat)
    (later : List (Happening μ β χ)) :
    link.joinViews id (.tick passed :: later) =
      link.joinView id passed :: (link.tick passed).joinViews id later :=
  -- The view is what the tick itself finds.
  rfl

/-- A happening that is no tick finds nothing out. -/
theorem joinViews_still (link : Link μ β χ) (id : String) {happening : Happening μ β χ}
    (still : ∀ passed, happening ≠ .tick passed) (later : List (Happening μ β χ)) :
    link.joinViews id (happening :: later) = (link.after happening).joinViews id later := by
  -- Only a tick looks.
  cases happening with
  | tick passed => exact absurd rfl (still passed)
  | _ => rfl

/-- While a join is waited for, its target is what a step is about. -/
theorem step_of_joining {link : Link μ β χ} (at_ : link.stage = .joining) :
    link.step = link.stepJoining := by
  -- No link is up in this stage, so none can be lost.
  rw [step, stepStage, at_]
  rfl

/-- The ways on from a join are to give it up, to be joined, and to wait on. -/
theorem step_joining_cases {link : Link μ β χ} (at_ : link.stage = .joining) :
    (JoinFails link ∧ link.step = link.abandonJoin) ∨
    ∃ target point, link.joinTarget = some target ∧
      link.directory.find target.id = some point ∧
      ((point.isConnected = true ∧
        link.step =
          { link with linkId := some target.id, joinTarget := none, status := .ok }.enter
            .joined) ∨
      (point.isConnected = false ∧ target.rejected = false ∧
        (point.state = .failure → target.staleFailure = true) ∧
        link.elapsed < link.settings.joinTimeout ∧
        link.step =
          { link with
            joinTarget := some
              { target with
                staleFailure := target.staleFailure && point.state == .failure } })) := by
  -- Of all that a stage's work can do, only the work of a join begins in this stage.
  have works := works_stepJoining at_
  rw [← step_of_joining at_] at works
  generalize link.step = after at works
  cases works with
  | joinFailed _ why => exact .inl ⟨why, rfl⟩
  | joinSucceeded _ wanted found connected =>
    exact .inr ⟨_, _, wanted, found, .inl ⟨connected, rfl⟩⟩
  | joinPending _ wanted found down accepted stale early =>
    exact .inr ⟨_, _, wanted, found, .inr ⟨down, accepted, stale, early, rfl⟩⟩
  -- What remains begins in another stage, and is listed to be excluded.
  | rests why => cases why with
    | unused other | ended other | comingUp other | unasked other | settling other
    | listing other | unleased other | announcing other | serving other =>
      exact nomatch at_.symm.trans other
  | passes why => cases why with
    | silenced other =>
      rcases other with other | other | other <;> exact nomatch at_.symm.trans other
    | cameUp other | foundJoined other | foundAlone other | asked other | settled other
    | connectedMeanwhile other | askedAgain other | leased other | prepared other
    | graceOver other | shown other | clientGone other => exact nomatch at_.symm.trans other
  | powerTimedOut other | searchImpossible other | searchTaken other | searchRefused other
  | searchRejected other | beaconOpened other | beaconFailed other | channelOpened other
  | channelFailed other | clientTaken other | channelGone other | nobodyTaken other =>
    exact nomatch at_.symm.trans other

/-- A link waits for a target, for the time given out of a limit. -/
structure Joins (target : JoinTarget) (limit elapsed : Nat) (link : Link μ β χ) : Prop where
  at_ : link.stage = .joining
  wanted : link.joinTarget = some target
  patience : link.settings.joinTimeout = limit
  waited : link.elapsed = elapsed

/-- A link that joins an access point has judged some views of it, and waited for as long. -/
abbrev JoinsAfter (id : String) (stale : Bool) (limit : Nat) (views : List JoinView)
    (link : Link μ β χ) : Prop :=
  Joins (.seen id stale views views) limit (JoinView.time views) link

/-- What a tick makes of a join, given its view and the earlier ones. -/
inductive JoinTick (id : String) (stale : Bool) (limit : Nat) (earlier : List JoinView)
    (now : JoinView) (link : Link μ β χ) : Prop
  /-- The join goes on. -/
  | waits (goes : JoinGoesOn stale limit earlier now)
    (kept : JoinsAfter id stale limit (earlier ++ [now]) link)
  /-- The link came up. -/
  | succeeds (ends : ¬ JoinGoesOn stale limit earlier now)
    (up : now.state = some .ready ∨ now.state = some .online)
    (joined : link.stage = .joined ∧ link.status = .ok)
  /-- Something ended the join without a link. -/
  | fails (ends : ¬ JoinGoesOn stale limit earlier now)
    (down : ¬ (now.state = some .ready ∨ now.state = some .online))
    (given : link.stage = .listed ∧ link.status = .fail)

namespace Joins

variable {target : JoinTarget} {limit elapsed : Nat} {link : Link μ β χ}

/-- A tick that spares the join finds it as it was, with the rejections that came in. -/
theorem untilStep (joins : Joins target limit elapsed link)
    (kinds : link.technologies.KindsMatch) {passed : Nat}
    (spared : link.spares (.tick passed) = true) :
    Joins (target.marked link.delivered) limit (elapsed + passed) (link.untilStep passed) := by
  -- What is delivered does not depend on the time that passes.
  let handed : Link μ β χ :=
    { link with
      elapsed := link.elapsed + passed
      manager := (NetworkManager.takeNotifications (NetworkManager.dispatch link.manager).2).2 }
  have lit : handed.technologies.losesPower link.delivered = false := by
    simpa [spares] using spared
  have handed_kinds : handed.technologies.KindsMatch := kinds
  obtain ⟨technologies, directory, scanRejected, drained⟩ := foldl_note_spared handed_kinds lit
  -- The beacon's time passing is none of the join's.
  obtain ⟨announcer, status, ticked, _⟩ :=
    tickBeacon_eq { link with elapsed := link.elapsed + passed }.drain passed
  have shape : { link with elapsed := link.elapsed + passed }.drain = _ := drained
  rw [Link.untilStep, ticked, shape]
  exact ⟨joins.at_, congrArg (Option.map _) joins.wanted, joins.patience,
    congrArg (· + passed) joins.waited⟩

/-- Whatever else spares the join leaves it as it was, and the time that it has waited. -/
theorem after (joins : Joins target limit elapsed link) {happening : Happening μ β χ}
    (spared : link.spares happening = true) (still : ∀ passed, happening ≠ .tick passed) :
    Joins target limit elapsed (link.after happening) := by
  -- While the link waits, only the radio, another join and the end of the link concern it.
  obtain ⟨at_, wanted, patience, waited⟩ := joins
  cases happening with
  | tick passed => exact absurd rfl (still passed)
  | shutdown => cases spared
  | outside => exact ⟨at_, wanted, patience, waited⟩
  | setPower on =>
    -- A radio that is switched on, or not switched, leaves a link that is up where it is.
    have outcome := setPower_cases link on
    rw [spares] at spared
    rw [Link.after]
    revert outcome spared
    generalize link.setPower on = result
    rintro spared (_ | _ | ⟨off, _⟩ | _ | _)
    · exact ⟨at_, wanted, patience, waited⟩
    · exact ⟨at_, wanted, patience, waited⟩
    · exact nomatch at_.symm.trans off
    · exact ⟨at_, wanted, patience, waited⟩
    · cases spared
  | connect index =>
    -- Only a request that is taken begins another join.
    have outcome := connect_cases link index
    rw [spares] at spared
    rw [Link.after]
    revert outcome spared
    generalize link.connect index = result
    rintro spared (_ | _ | _ | _)
    · exact ⟨at_, wanted, patience, waited⟩
    · exact ⟨at_, wanted, patience, waited⟩
    · cases spared
    · cases spared
  | scan =>
    simp only [Link.after, scan, at_]
    exact ⟨at_, wanted, patience, waited⟩
  | forget | moveUp | moveDown => exact ⟨at_, wanted, patience, waited⟩
  | read buffer =>
    -- There is no client to read from or to write to before the link is up.
    have unpaired : link.stage ≠ .paired := by rw [at_]; decide
    rw [Link.after, Link.read, if_pos unpaired]
    exact ⟨at_, wanted, patience, waited⟩
  | write bytes =>
    have unpaired : link.stage ≠ .paired := by rw [at_]; decide
    rw [Link.after, Link.write, if_pos unpaired]
    exact ⟨at_, wanted, patience, waited⟩

/-- A step waits on as long as the join goes on, and otherwise ends it as it came out. -/
theorem step {id : String} {stale : Bool} {earlier : List JoinView} {now : JoinView}
    (joins : Joins (.seen id stale earlier (earlier ++ [now])) limit
      (JoinView.time (earlier ++ [now])) link)
    (state : now.state = (link.directory.find id).map fun point => point.state) :
    JoinTick id stale limit earlier now link.step := by
  -- The target that a step is about is the one that the views describe.
  obtain ⟨at_, wanted, patience, waited⟩ := joins
  rcases step_joining_cases at_ with ⟨why, given⟩ |
    ⟨target, point, same, found, ⟨connected, up⟩ | ⟨down, accepted, covered, early, pending⟩⟩
  · -- Whatever made the link give up is something that the view or those before it show.
    rw [given]
    cases why with
    | noTarget none_ => exact nomatch none_.symm.trans wanted
    -- The view shows no state, so no failure and no link either.
    | unlisted same absent =>
      cases wanted.symm.trans same
      have gone : now.state = none := by
        rw [state]
        exact congrArg _ absent
      exact .fails (fun goes => goes.listed gone) (by simp [gone]) ⟨rfl, rfl⟩
    | refused same found down fault =>
      cases wanted.symm.trans same
      have state := state.trans (congrArg _ found)
      refine .fails (fun goes => ?_) ?_ ⟨rfl, rfl⟩
      · obtain ⟨_, accepted, covered, early⟩ := (joinGoesOn_iff state).mp goes
        rcases fault with rejected | ⟨failed, fresh⟩ | late
        · exact nomatch accepted.symm.trans rejected
        · exact nomatch fresh.symm.trans (covered failed)
        · rw [patience, waited] at late
          exact absurd early (Nat.not_lt.mpr late)
      · rw [← JoinView.connected_iff state, down]
        exact Bool.false_ne_true
  · -- A connected access point ends the wait before anything else is looked at.
    cases wanted.symm.trans same
    have ready := (JoinView.connected_iff (state.trans (congrArg _ found))).mp connected
    rw [up]
    exact .succeeds (fun goes => ready.elim goes.down.1 goes.down.2) ready ⟨rfl, rfl⟩
  · -- Nothing ended the wait, so the view meets every condition of going on.
    cases wanted.symm.trans same
    have state := state.trans (congrArg _ found)
    rw [patience, waited] at early
    refine .waits ((joinGoesOn_iff state).mpr ⟨down, accepted, covered, early⟩) ?_
    -- A failure stays stale for the next tick if this view shows it as well.
    have judged : JoinTarget.seen id stale (earlier ++ [now]) (earlier ++ [now]) =
        { JoinTarget.seen id stale earlier (earlier ++ [now]) with
          staleFailure := (JoinTarget.seen id stale earlier (earlier ++ [now])).staleFailure &&
            point.state == .failure } := by
      simp [JoinTarget.seen, state, Bool.and_assoc]
    rw [pending, JoinsAfter, judged]
    exact ⟨at_, rfl, patience, waited⟩

/-- A tick that spares the join waits on as long as the join goes on, and otherwise ends it. -/
theorem tick {id : String} {stale : Bool} {earlier : List JoinView}
    (joins : JoinsAfter id stale limit earlier link)
    (kinds : link.technologies.KindsMatch) {passed : Nat}
    (spared : link.spares (.tick passed) = true) :
    JoinTick id stale limit earlier (link.joinView id passed) (link.tick passed) := by
  have open_ : link.stage ≠ .closed := by rw [joins.at_]; decide
  -- What the drain brings in is what the view shows, and the time is that of the tick as well.
  have found := joins.untilStep kinds spared
  have target : (JoinTarget.seen id stale earlier earlier).marked link.delivered =
      .seen id stale earlier (earlier ++ [link.joinView id passed]) := by
    simp [JoinTarget.marked, JoinTarget.seen, joinView]
  have time : JoinView.time earlier + passed =
      JoinView.time (earlier ++ [link.joinView id passed]) := by
    simp [JoinView.time, joinView]
  -- With these the step applies to what the drain left.
  rw [target, time] at found
  rw [tick_eq open_]
  exact found.step rfl

/-- A run that spares the join waits on as long as every tick lets the join go on. -/
theorem afterAll {id : String} {stale : Bool} {earlier : List JoinView}
    {happenings : List (Happening μ β χ)}
    (joins : JoinsAfter id stale limit earlier link)
    (reachable : Reachable link) (spared : link.sparesAll happenings = true)
    (goes : ∀ j (inside : j < (link.joinViews id happenings).length),
      JoinGoesOn stale limit (earlier ++ (link.joinViews id happenings).take j)
        (link.joinViews id happenings)[j]) :
    JoinsAfter id stale limit (earlier ++ link.joinViews id happenings)
      (link.afterAll happenings) := by
  -- The views behind a happening are those of the rest of the run, with one more seen by a tick.
  induction happenings generalizing link earlier with
  | nil => simpa [joinViews, Link.afterAll] using joins
  | cons happening later ih =>
    rw [sparesAll, Bool.and_eq_true] at spared
    have reached := reachable.follow (follows_after link happening)
    by_cases ticks : ∃ passed, happening = .tick passed
    · -- The first view is judged by the tick itself, and is one of those seen by the rest.
      obtain ⟨passed, rfl⟩ := ticks
      rw [joinViews_tick] at goes ⊢
      have first : JoinGoesOn stale limit earlier (link.joinView id passed) := by
        simpa using goes 0 (Nat.zero_lt_succ _)
      have kept : JoinsAfter id stale limit (earlier ++ [link.joinView id passed])
          (link.tick passed) := by
        cases joins.tick reachable.radioByStage.kinds spared.1 with
        | waits _ kept => exact kept
        | succeeds ends => exact absurd first ends
        | fails ends => exact absurd first ends
      have rest := ih kept reached spared.2 fun j inside => by
        simpa using goes (j + 1) (Nat.succ_lt_succ inside)
      rw [List.append_cons]
      exact rest
    -- Between the ticks nothing is seen.
    · have still : ∀ passed, happening ≠ .tick passed := fun passed same => ticks ⟨passed, same⟩
      rw [joinViews_still link id still] at goes ⊢
      exact ih (joins.after spared.1 still) reached spared.2 goes

end Joins

/-- A join that was taken over waits for a listed access point, and for no time so far. -/
theorem joins_connect {link : Link μ β χ} {index : Nat} (taken : (link.connect index).1 = .ok) :
    ∃ point, link.directory.entries[index]? = some point ∧
      JoinsAfter point.id (point.state == .failure) link.settings.joinTimeout []
        (link.connect index).2 := by
  -- A fresh target is one that has seen nothing.
  have fresh (point : AccessPoint) :
      freshTarget point = .seen point.id (point.state == .failure) [] [] := by
    simp [freshTarget, JoinTarget.seen]
  -- Of the four answers two are refusals; the others begin the join alike.
  have outcome := connect_cases link index
  revert outcome taken
  generalize link.connect index = result
  rintro taken (_ | _ | ⟨_, _, listed, _⟩ | ⟨_, _, listed, _⟩)
  · cases taken
  · cases taken
  · exact ⟨_, listed, rfl, congrArg some (fresh _), rfl, rfl⟩
  · exact ⟨_, listed, rfl, congrArg some (fresh _), rfl, rfl⟩

end Link

open Link in
/--
A join that the manager took over goes on as long as every tick finds its access point listed and
not connected, no rejection of the join, time left, and no failure but the one that it began with.

The first tick that finds anything else ends it: well if the access point is connected, whatever
else was found, and badly otherwise. Nothing that is reported about another one counts.
-/
theorem join_outcome {μ β χ : Type} [NetworkManager μ] [Announcer β] [PairingChannel χ]
    {link : Link μ β χ} (reachable : Reachable link) {index : Nat}
    (taken : (link.connect index).1 = .ok) :
    let begun := (link.connect index).2
    ∃ point, link.directory.entries[index]? = some point ∧
      let Goes := JoinGoesOn (point.state == .failure) link.settings.joinTimeout
      ∀ happenings, begun.sparesAll happenings = true →
        let views := begun.joinViews point.id happenings
        (∀ j (inside : j < views.length), Goes (views.take j) views[j]) →
          let waiting := begun.afterAll happenings
          waiting.stage = .joining ∧
          ∀ passed, waiting.spares (.tick passed) = true →
            let now := waiting.joinView point.id passed
            (Goes views now → (waiting.tick passed).stage = .joining) ∧
            (¬ Goes views now → now.state = some .ready ∨ now.state = some .online →
              (waiting.tick passed).stage = .joined ∧ (waiting.tick passed).status = .ok) ∧
            (¬ Goes views now → ¬ (now.state = some .ready ∨ now.state = some .online) →
              (waiting.tick passed).stage = .listed ∧ (waiting.tick passed).status = .fail) := by
  -- The join begins with nothing seen, and the run up to the last tick keeps it open.
  intro begun
  obtain ⟨point, listed, joins⟩ := joins_connect taken
  refine ⟨point, listed, ?_⟩
  intro Goes happenings spared views goes waiting
  have begun_reachable : Reachable begun := reachable.follow (.connect index)
  have joins : JoinsAfter point.id (point.state == .failure) link.settings.joinTimeout views
      waiting := by
    simpa using joins.afterAll begun_reachable spared (by simpa using goes)
  refine ⟨joins.at_, fun passed spares => ?_⟩
  -- One tick more is decided by its own view together with those before it.
  have kinds := (begun_reachable.afterAll happenings).radioByStage.kinds
  cases joins.tick kinds spares with
  | waits goes kept =>
    exact ⟨fun _ => kept.at_, fun ends => absurd goes ends, fun ends => absurd goes ends⟩
  | succeeds ends up joined =>
    exact ⟨fun goes => absurd goes ends, fun _ _ => joined, fun _ down => absurd up down⟩
  | fails ends down given =>
    exact ⟨fun goes => absurd goes ends, fun _ up => absurd up down, fun _ _ => given⟩

/-- A manager with a powered radio and two access points, the first one with a failed join. -/
def failedManager : ManagerDouble :=
  ((ManagerDouble.withTechnology {} .wifi true).withAccessPoint
    ⟨"home", [.state .failure]⟩).withAccessPoint ⟨"cafe", []⟩

/--
A run in which the failed join is tried again while the other access point comes up, until a tick
is to take the last notifications in.
-/
def retry (last : List Notification) :
    List (Happening ManagerDouble AnnouncerDouble ChannelDouble) :=
  [.outside
      { queue := some [.propertyChanged "cafe" (.state .online), .joinFailed "cafe" "busy"] } {} {},
    .tick 100, .connect 7,
    .outside { queue := some [.propertyChanged "home" (.state .association)] } {} {}, .tick 100,
    .outside { queue := some last } {} {}]

/-- The access point fails once more. -/
def failsAgain : List Notification := [.propertyChanged "home" (.state .failure)]

/-- The access point comes up although the join was rejected. -/
def comesUp : List Notification :=
  [.joinFailed "home" "late", .propertyChanged "home" (.state .ready)]

/-- The failure that a join began with is waited out; a new one ends it, a connection wins. -/
theorem join_outcome_retry :
    ∃ fresh bench,
      Link.start failedManager ({} : AnnouncerDouble) ({} : ChannelDouble) {} = .ok fresh ∧
      Bench.run fresh [.setPower true, .tick 100] = .ok bench ∧
      (bench.connect 0).1 = .ok ∧
      let waiting (last : List Notification) := (bench.connect 0).2.afterAll (retry last)
      ((waiting failsAgain).stage = .joining ∧
        ((waiting failsAgain).tick 100).stage = .listed ∧
        ((waiting failsAgain).tick 100).status = .fail) ∧
      (waiting comesUp).stage = .joining ∧
        ((waiting comesUp).tick 100).stage = .joined ∧
        ((waiting comesUp).tick 100).status = .ok := by
  -- Everything up to the last tick is the same in both endings.
  refine ⟨_, _, rfl, rfl, rfl, ?_⟩
  have reachable := @Bench.run_reachable failedManager {} {} {} [.setPower true, .tick 100] _ _ rfl
    rfl
  obtain ⟨point, listed, outcome⟩ :=
    join_outcome reachable (show (Link.connect _ 0).1 = .ok from rfl)
  cases listed
  constructor
  -- Left and failed anew, the failure counts.
  · obtain ⟨waits, ends⟩ := outcome (retry failsAgain) (by decide) (by decide)
    exact ⟨waits, (ends 100 (by decide)).2.2 (by decide) (by decide)⟩
  -- A link that comes up ends the join at once.
  · obtain ⟨waits, ends⟩ := outcome (retry comesUp) (by decide) (by decide)
    exact ⟨waits, (ends 100 (by decide)).2.1 (by decide) (by decide)⟩

end CompanionLink
