import CompanionLink.Proofs.Lifecycle.Course
import CompanionLink.Proofs.Lifecycle.Join

/-!
A join that is tried again on an access point which still shows an earlier failure. The next
failure ends it once some tick has found the access point in another state; what comes and goes
between two ticks is not noticed.
-/

namespace CompanionLink

/-- The state that an access point is listed with. -/
def Directory.stateOf (directory : Directory) (id : String) : Option AccessPointState :=
  (directory.find id).map fun point => point.state

/-- The states that an access point is listed with after each of some batches of notifications. -/
def Directory.shown (directory : Directory) (id : String) :
    List (List Notification) → List (Option AccessPointState)
  | [] => []
  | batch :: later =>
    (directory.told batch).stateOf id :: (directory.told batch).shown id later

/-- Time that has passed already counts as well. -/
theorem JoinView.time_append (first later : List JoinView) :
    JoinView.time (first ++ later) = JoinView.time first + JoinView.time later := by
  -- The later views are counted from wherever the first ones leave the clock.
  have from_ (start : Nat) : later.foldl (fun time view => time + view.elapsed) start =
      start + JoinView.time later := by
    induction later generalizing start with
    | nil => rfl
    | cons view later ih =>
      simp only [time, List.foldl_cons, Nat.zero_add]
      rw [ih (start + view.elapsed), ih view.elapsed, Nat.add_assoc]
  rw [time, List.foldl_append]
  exact from_ (JoinView.time first)

/-- A join that goes on in spite of a failure at the end has found nothing but failures. -/
theorem failures_of_goesOn {stale : Bool} {limit : Nat} {views : List JoinView}
    (goes : ∀ j (inside : j < views.length), JoinGoesOn stale limit (views.take j) views[j])
    (last : (views.map JoinView.state).getLast? = some (some .failure)) :
    ∀ view ∈ views, view.state = some .failure := by
  -- The last view failed and still let the join go on.
  rcases List.eq_nil_or_concat views with rfl | ⟨earlier, now, rfl⟩
  · cases last
  · rw [List.concat_eq_append] at goes last ⊢
    have failed : now.state = some .failure := by simpa using last
    -- The last view would have counted, had one of those before it been another.
    have old : now.state = some .failure →
        stale = true ∧ ∀ view ∈ earlier, view.state = some .failure := by
      simpa using (goes earlier.length (by simp)).old
    intro view seen
    rcases List.mem_append.mp seen with before | same
    · exact (old failed).2 view before
    · rw [List.mem_singleton.mp same, failed]

/-- A retry that finds nothing but failures goes on, unless it is rejected or out of time. -/
theorem goesOn_of_failures {limit : Nat} {views : List JoinView}
    (failures : ∀ view ∈ views, view.state = some .failure)
    (accepted : ∀ view ∈ views, view.refused = false) (early : JoinView.time views < limit)
    (j : Nat) (inside : j < views.length) :
    JoinGoesOn true limit (views.take j) views[j] := by
  -- A view that shows a failure fails nothing but the last condition, which the stale failure
  -- meets.
  have failed := failures views[j] (List.getElem_mem inside)
  have upTo : views.take j ++ [views[j]] = views.take (j + 1) := List.take_append_getElem inside
  refine ⟨by simp [failed], by simp [failed], ?_, ?_, fun _ => ⟨rfl, ?_⟩⟩
  · rw [upTo]
    exact fun view seen => accepted view (List.mem_of_mem_take seen)
  · -- No more time has passed by then than in the end.
    have split := JoinView.time_append (views.take (j + 1)) (views.drop (j + 1))
    rw [List.take_append_drop] at split
    rw [upTo]
    omega
  · exact fun view seen => failures view (List.mem_of_mem_take seen)

namespace Link

variable {μ β χ : Type} [NetworkManager μ] [Announcer β] [PairingChannel χ]

/-- What the ticks of a run take in, one batch for each. -/
def batches (link : Link μ β χ) : List (Happening μ β χ) → List (List Notification)
  | [] => []
  | .tick elapsed :: later => link.delivered :: (link.tick elapsed).batches later
  | happening :: later => (link.after happening).batches later

/-- A run gives a join up with some tick. -/
def LosesJoin (link : Link μ β χ) (run : List (Happening μ β χ)) : Prop :=
  ∃ before elapsed later, run = before ++ .tick elapsed :: later ∧
    (link.afterAll before).stage = .joining ∧
    ((link.afterAll before).tick elapsed).stage = .listed ∧
    ((link.afterAll before).tick elapsed).status = .fail

/-- A happening that is no tick takes nothing in. -/
theorem batches_still (link : Link μ β χ) {happening : Happening μ β χ}
    (still : ∀ elapsed, happening ≠ .tick elapsed) (later : List (Happening μ β χ)) :
    link.batches (happening :: later) = (link.after happening).batches later := by
  -- Only ticks take notifications in.
  cases happening with
  | tick elapsed => exact absurd rfl (still elapsed)
  | _ => rfl

/-- What a run finds out is what its parts find out. -/
theorem joinViews_append (link : Link μ β χ) (id : String) (first later : List (Happening μ β χ)) :
    link.joinViews id (first ++ later) =
      link.joinViews id first ++ (link.afterAll first).joinViews id later := by
  -- By induction on the first part, in which only ticks look.
  induction first generalizing link with
  | nil => rfl
  | cons happening first ih =>
    have rest := ih (link.after happening)
    rcases happening.tick_or_still with ⟨elapsed, rfl⟩ | still
    · rw [List.cons_append, joinViews_tick, joinViews_tick, List.cons_append]
      exact congrArg (List.cons _) rest
    · rw [List.cons_append, joinViews_still link id still, joinViews_still link id still]
      exact rest

/-- A happening that spares a join and is no tick leaves the listing, and the link open. -/
theorem spared_still {link : Link μ β χ} (open_ : link.stage ≠ .closed)
    {happening : Happening μ β χ} (spared : link.spares happening = true)
    (still : ∀ elapsed, happening ≠ .tick elapsed) :
    (link.after happening).directory = link.directory ∧
      (link.after happening).stage ≠ .closed := by
  -- The shutdown is what a run that spares the join leaves out.
  cases happening with
  | tick elapsed => exact absurd rfl (still elapsed)
  | shutdown => cases spared
  | outside => exact ⟨rfl, open_⟩
  | _ => exact ⟨(frames_command link rfl).listing, command_open open_ rfl⟩

/-- Each tick of a run finds the state that the batches up to its own lead to. -/
theorem joinViews_state {link : Link μ β χ} (reachable : Reachable link)
    (open_ : link.stage ≠ .closed) {run : List (Happening μ β χ)}
    (spared : link.sparesAll run = true) (id : String) :
    (link.joinViews id run).map JoinView.state = link.directory.shown id (link.batches run) := by
  -- By induction on the run; the listing is carried along with it.
  induction run generalizing link with
  | nil => rfl
  | cons happening later ih =>
    rw [sparesAll, Bool.and_eq_true] at spared
    have reached := reachable.follow (follows_after link happening)
    rcases happening.tick_or_still with ⟨elapsed, rfl⟩ | still
    · have rest := ih reached (tick_open reachable.radioByStage.kinds open_ elapsed) spared.2
      -- The tick itself and the rest of the run find the listing as the batch leaves it.
      rw [after, (tick_told open_ elapsed).1] at rest
      rw [joinViews_tick, List.map_cons, batches, Directory.shown, rest, joinView,
        (untilStep_told link elapsed).1]
      rfl
    · obtain ⟨listing, stays⟩ := spared_still open_ spared.1 still
      rw [joinViews_still link id still, batches_still link still, ← listing]
      exact ih reached stays spared.2

/-- Notifications that a tick takes in are in one of the batches. -/
theorem refused_mem_batches {link : Link μ β χ} {run : List (Happening μ β χ)} {id : String}
    (silent : ∀ notification ∈ (link.batches run).flatten, notification.rejectsJoin id = false) :
    ∀ view ∈ link.joinViews id run, view.refused = false := by
  -- By induction on the run, each tick taking in the batch that its view is about.
  induction run generalizing link with
  | nil => simp [joinViews]
  | cons happening later ih =>
    rcases happening.tick_or_still with ⟨elapsed, rfl⟩ | still
    · rw [batches, List.flatten_cons] at silent
      rw [joinViews_tick]
      intro view seen
      rcases List.mem_cons.mp seen with rfl | seen
      -- The first view's mark tells of the batch that its tick takes in.
      · have quiet : link.delivered.any (·.rejectsJoin id) = false := by
          rw [List.any_eq_false]
          intro notification told
          simpa using silent notification (List.mem_append_left _ told)
        exact quiet
      · exact ih (fun notification told =>
          silent notification (List.mem_append_right _ told)) view seen
    · rw [batches_still link still] at silent
      rw [joinViews_still link id still]
      exact ih silent

namespace Joins

variable {id : String} {stale : Bool} {limit : Nat} {link : Link μ β χ}

/-- A join goes on with every tick of a run that spares it, or some tick of the run ends it. -/
theorem goes_or_ends {earlier : List JoinView} {run : List (Happening μ β χ)}
    (joins : JoinsAfter id stale limit earlier link) (reachable : Reachable link)
    (spared : link.sparesAll run = true) :
    (∀ j (inside : j < (link.joinViews id run).length),
      JoinGoesOn stale limit (earlier ++ (link.joinViews id run).take j)
        (link.joinViews id run)[j]) ∨
    ∃ before elapsed later seen, run = before ++ .tick elapsed :: later ∧
      (link.afterAll before).stage = .joining ∧
      ¬ JoinGoesOn stale limit seen ((link.afterAll before).joinView id elapsed) ∧
      JoinTick id stale limit seen ((link.afterAll before).joinView id elapsed)
        ((link.afterAll before).tick elapsed) := by
  -- By induction on the run: the first tick that does not let the join go on ends it.
  induction run generalizing link earlier with
  | nil => exact .inl fun j inside => absurd inside (Nat.not_lt_zero j)
  | cons happening later ih =>
    rw [sparesAll, Bool.and_eq_true] at spared
    have reached := reachable.follow (follows_after link happening)
    rcases happening.tick_or_still with ⟨elapsed, rfl⟩ | still
    · have first := joins.tick reachable.radioByStage.kinds spared.1
      by_cases goes : JoinGoesOn stale limit earlier (link.joinView id elapsed)
      · have kept : JoinsAfter id stale limit (earlier ++ [link.joinView id elapsed])
            (link.tick elapsed) := by
          cases first with
          | waits _ kept => exact kept
          | succeeds ends => exact absurd goes ends
          | fails ends => exact absurd goes ends
        -- The tick is waited out, so the rest of the run decides.
        rcases ih kept reached spared.2 with all | ⟨before, passed, rest, seen, rfl, ends⟩
        · refine .inl fun j inside => ?_
          simp only [joinViews_tick] at inside ⊢
          cases j with
          | zero => simpa using goes
          | succ j => simpa using all j (Nat.lt_of_succ_lt_succ inside)
        · exact .inr ⟨.tick elapsed :: before, passed, rest, seen, rfl, ends⟩
      · exact .inr ⟨[], elapsed, later, earlier, rfl, joins.at_, goes, first⟩
    -- What is no tick changes nothing about the join.
    · rcases ih (joins.after spared.1 still) reached spared.2 with
        all | ⟨before, passed, rest, seen, rfl, ends⟩
      · rw [← joinViews_still link id still] at all
        exact .inl all
      · exact .inr ⟨happening :: before, passed, rest, seen, rfl, ends⟩

end Joins

end Link

open Link in
/--
A join is tried again on an access point that shows a failure, and every tick finds it down, at the
end with a failure. If some tick has found another state on the way, the join has ended badly by
then. If none has, the failure of the earlier attempt and any new one look alike: whatever was
told between two ticks, the join goes on until it is rejected or its time is over.
-/
theorem seen_failure_ends_retry {μ β χ : Type} [NetworkManager μ] [Announcer β] [PairingChannel χ]
    {link : Link μ β χ} (reachable : Reachable link) {index : Nat}
    (taken : (link.connect index).1 = .ok) :
    let begun := (link.connect index).2
    ∃ point, link.directory.entries[index]? = some point ∧ (point.state = .failure →
      ∀ run, begun.sparesAll run = true →
        let batches := begun.batches run
        let shown := begun.directory.shown point.id batches
        (∀ state ∈ shown, state ≠ some .ready ∧ state ≠ some .online) →
        shown.getLast? = some (some .failure) →
        ((∃ state ∈ shown, state ≠ some .failure) → begun.LosesJoin run) ∧
        ((∀ state ∈ shown, state = some .failure) →
          (∀ notification ∈ batches.flatten, notification.rejectsJoin point.id = false) →
          JoinView.time (begun.joinViews point.id run) < link.settings.joinTimeout →
          (begun.afterAll run).stage = .joining)) := by
  intro begun
  obtain ⟨point, listed, joins⟩ := joins_connect taken
  refine ⟨point, listed, fun failed run spared => ?_⟩
  intro batches shown down last
  have begun_reachable : Reachable begun := reachable.follow (.connect index)
  have open_ : begun.stage ≠ .closed := by
    rw [joins.at_]
    decide
  -- What the batches show is what the ticks find.
  have views : (begun.joinViews point.id run).map JoinView.state = shown :=
    joinViews_state begun_reachable open_ spared point.id
  have of_views {kept : Option AccessPointState → Prop} (all : ∀ state ∈ shown, kept state) :
      ∀ view ∈ begun.joinViews point.id run, kept view.state := fun view seen =>
    all view.state (views ▸ List.mem_map_of_mem seen)
  rw [failed] at joins
  constructor
  · rintro ⟨state, between, other⟩
    rcases joins.goes_or_ends begun_reachable spared with
      goes | ⟨before, elapsed, later, seen, rfl, at_, ends, tick⟩
    · -- A join that has gone on all the way has found nothing but failures.
      rw [← views] at last between
      obtain ⟨view, found, rfl⟩ := List.mem_map.mp between
      exact absurd (failures_of_goesOn (by simpa using goes) last view found) other
    · have found : (begun.afterAll before).joinView point.id elapsed ∈
          begun.joinViews point.id (before ++ .tick elapsed :: later) := by
        rw [joinViews_append, joinViews_tick]
        exact List.mem_append_right _ List.mem_cons_self
      have unconnected := of_views down _ found
      refine ⟨before, elapsed, later, rfl, at_, ?_⟩
      -- It cannot have succeeded, since no state shown is that of a link.
      cases tick with
      | waits goes => exact absurd goes ends
      | succeeds _ up => exact absurd up (not_or.mpr unconnected)
      | fails _ _ given => exact given
  -- Nothing but failures, none of them new: the conditions of going on are met by every tick.
  · intro failures silent early
    have goes := goesOn_of_failures (of_views failures) (refused_mem_batches silent) early
    exact (joins.afterAll begun_reachable spared (by simpa using goes)).at_

/-- The access point is left alone by the earlier failure: it is joined anew. -/
def leavesFailure : List Notification := [.propertyChanged "home" (.state .association)]

/-- A run whose ticks take in some batches. -/
def retold (batches : List (List Notification)) :
    List (Happening ManagerDouble AnnouncerDouble ChannelDouble) :=
  batches.flatMap fun batch => [.outside { queue := some batch } {} {}, .tick 100]

/-- A new failure ends a retry if a tick comes before it, and is not noticed otherwise. -/
theorem seen_failure_ends_retry_retold :
    ∃ fresh bench,
      Link.start failedManager ({} : AnnouncerDouble) ({} : ChannelDouble) {} = .ok fresh ∧
      Bench.run fresh [.setPower true, .tick 100] = .ok bench ∧ (bench.connect 0).1 = .ok ∧
      (bench.connect 0).2.LosesJoin (retold [leavesFailure, failsAgain]) ∧
      ((bench.connect 0).2.afterAll (retold [leavesFailure ++ failsAgain])).stage = .joining := by
  refine ⟨_, _, rfl, rfl, rfl, ?_⟩
  have reachable := @Bench.run_reachable failedManager {} {} {} [.setPower true, .tick 100] _ _ rfl
    rfl
  -- The same two notifications, in two batches and in one.
  obtain ⟨point, listed, retries⟩ :=
    seen_failure_ends_retry reachable (show (Link.connect _ 0).1 = .ok from rfl)
  cases listed
  constructor
  -- In two batches the state between them is shown.
  · exact (retries rfl (retold [leavesFailure, failsAgain]) rfl (by decide) rfl).1
      ⟨some .association, by decide, by decide⟩
  -- In one batch nothing but the failure is shown.
  · exact (retries rfl (retold [leavesFailure ++ failsAgain]) rfl (by decide) rfl).2
      (by decide) (by decide) (by decide)

/--
The same two notifications after the same join: a tick between them lets the second one end it,
while a tick that takes in both leaves it waiting until its time is over.
-/
theorem unseen_failure_keeps_retry :
    ∃ fresh begun apart together,
      Link.start failedManager ({} : AnnouncerDouble) ({} : ChannelDouble) {} = .ok fresh ∧
      Bench.run fresh [.setPower true, .tick 100, .connect 0] = .ok begun ∧
      begun.stage = .joining ∧ begun.status = .ok ∧
      begun.directory.stateOf "home" = some .failure ∧
      (begun.directory.told leavesFailure).stateOf "home" = some .association ∧
      (begun.directory.told (leavesFailure ++ failsAgain)).stateOf "home" = some .failure ∧
      Bench.run begun
        (leavesFailure.map .emit ++ [.tick 50] ++ failsAgain.map .emit ++ [.tick 50]) =
          .ok apart ∧
      (apart.stage = .listed ∧ apart.status = .fail) ∧
      Bench.run begun ((leavesFailure ++ failsAgain).map .emit ++ [.tick 100]) = .ok together ∧
      (together.stage = .joining ∧ together.status = .ok) ∧
      (together.tick 29800).stage = .joining ∧ (together.tick 29900).stage = .listed :=
  -- Evaluation of the runs.
  ⟨_, _, _, _, rfl, rfl, rfl, rfl, rfl, rfl, rfl, rfl, ⟨rfl, rfl⟩, rfl, ⟨rfl, rfl⟩, rfl, rfl⟩

end CompanionLink
