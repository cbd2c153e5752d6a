import CompanionLink.Proofs.Double.Balance
import CompanionLink.Proofs.Double.Subscription
import CompanionLink.Proofs.Lifecycle.Course
import CompanionLink.Proofs.Lifecycle.Resources

/-!
The whole life of a link over prepared parts, from the subscription to the last shutdown. Whatever
the link opens it closes once, on every way that its life can take.
-/

namespace CompanionLink

/-- What an operation has the link itself do, over whatever parts. -/
def Operation.happening? {μ β χ : Type} : Operation → Option (Happening μ β χ)
  | .tick elapsed => some (.tick elapsed)
  | .setPower on => some (.setPower on)
  | .connect index => some (.connect index)
  | .scan => some .scan
  | .forget index => some (.forget index)
  | .moveUp index => some (.moveUp index)
  | .moveDown index => some (.moveDown index)
  | .read buffer => some (.read buffer)
  | .write bytes => some (.write bytes)
  | .shutdown => some .shutdown
  | _ => none

/-- How many clients a link takes from its channel while something happens to it. -/
def Link.clientsTaken {μ β χ : Type} [NetworkManager μ] [Announcer β] [PairingChannel χ]
    (link : Link μ β χ) (happening : Happening μ β χ) : Nat :=
  ((link.mapChannel Tallied.begin).after (happening.mapChannel Tallied.begin)).channel.taken

/-- How many clients a link takes in a run. -/
def Bench.clientsTaken (bench : Bench) : List Operation → Nat
  | [] => 0
  | operation :: later =>
    match bench.perform operation with
    -- A run that stops there takes no more clients.
    | .error _ => 0
    | .ok (_, after) =>
      operation.happening?.elim 0 (Link.clientsTaken bench) + clientsTaken after later

namespace Link

/-- The clients that are taken meanwhile keep the accounts of the channel in order. -/
theorem channel_balanced {μ β : Type} [NetworkManager μ] [Announcer β]
    {link : Link μ β ChannelDouble} {taken : Nat} (balanced : link.channel.IsBalanced taken)
    {happening : Happening μ β ChannelDouble} (own : happening.isOwn = true) :
    (link.after happening).channel.IsBalanced (taken + link.clientsTaken happening) := by
  -- The accounts last over a channel with a tally, as they would over any other.
  have begun : (link.mapChannel Tallied.begin).channel.channel.IsBalanced (taken + 0) := balanced
  have owned : (happening.mapChannel Tallied.begin).isOwn = true := by
    cases happening <;> exact own
  have tallied := (Tallied.lasts_balanced taken).after owned begun
  -- Without the tally this is what happens to the link itself.
  have back : (happening.mapChannel Tallied.begin).mapChannel Tallied.channel = happening := by
    cases happening <;> rfl
  have same := mapChannel_after Tallied.faithful (link.mapChannel Tallied.begin)
    (happening.mapChannel Tallied.begin)
  rw [back] at same
  have channel : (link.after happening).channel = _ := congrArg Link.channel same
  rw [channel]
  exact tallied

end Link

namespace AnnouncerDouble.IsBalanced

open Link

variable {bench : Bench}

/-- A release stops the announcer at most, and the other changes leave it alone. -/
theorem opensNothing {announcer : AnnouncerDouble} {channel : ChannelDouble}
    (balanced : bench.announcer.IsBalanced) (nothing : OpensNothing bench announcer channel) :
    announcer.IsBalanced := by
  -- A release stops the announcer, and nothing else comes to it.
  cases nothing with
  | released => exact balanced.stop
  | _ => exact balanced

/-- The announcer that a tick's work finds is balanced, whatever its own time did to it. -/
theorem untilStep (balanced : bench.announcer.IsBalanced) (elapsed : Nat) :
    (bench.untilStep elapsed).announcer.IsBalanced := by
  -- Notifications open nothing, and the beacon's tick keeps the balance.
  exact @untilStep_keeps _ _ _ _ _ _ (fun bench : Bench => bench.announcer.IsBalanced) _ elapsed
    (fun _ _ _ _ before => before)
    (fun bench notification before => before.opensNothing (note_opensNothing bench notification))
    (fun _ before => before.tick elapsed) balanced

/-- A step starts the announcer only in the stage before anything is announced. -/
theorem step (balanced : bench.announcer.IsBalanced) (holds : HoldsByStage bench) :
    (Link.step bench).announcer.IsBalanced := by
  have started {outcome : Except BeaconError Unit} {announcer : AnnouncerDouble}
      (at_ : bench.stage = .opening)
      (answered : Announcer.start bench.announcer bench.beaconTarget = (outcome, announcer)) :
      announcer.IsBalanced := by
    have silent := holds.silent (by rw [at_]; decide)
    have next : (Announcer.start bench.announcer bench.beaconTarget).2.IsBalanced :=
      balanced.start silent bench.beaconTarget
    rwa [answered] at next
  -- A link that is given up stops its announcer before any work is done.
  rcases step_cases bench with ⟨_, _, lost⟩ | ⟨_, work⟩
  · rw [lost]
    exact balanced.stop
  · revert work
    generalize Link.step bench = after
    intro work
    cases work with
    | beaconOpened at_ opened => exact started at_ opened
    -- A start that failed half-way is stopped along with everything else.
    | beaconFailed at_ failed => exact (started at_ failed).stop
    | _ => exact balanced

/-- Whatever a link does itself keeps the announcer balanced. -/
theorem after (balanced : bench.announcer.IsBalanced) (holds : HoldsByStage bench)
    {happening : Happening ManagerDouble AnnouncerDouble ChannelDouble}
    (own : happening.isOwn = true) : (Link.after bench happening).announcer.IsBalanced := by
  -- Only a tick can start the announcer.
  rcases happening.tick_or_still with ⟨elapsed, rfl⟩ | still
  · rw [Link.after]
    by_cases closed : bench.stage = .closed
    · rw [tick_closed closed]
      exact balanced
    · rw [tick_eq closed]
      exact (balanced.untilStep elapsed).step (holds.untilStep elapsed)
  · exact balanced.opensNothing (after_opensNothing bench own still)

end AnnouncerDouble.IsBalanced

/-- The subscription of a link as its stage has it: begun once, and ended once with the link. -/
structure SubscribedOnce (before : ManagerDouble) (bench : Bench) : Prop where
  live : bench.manager.subscribed = (bench.stage != .closed)
  begun : bench.manager.written .subscribe = before.written .subscribe + 1
  ended : bench.manager.written .unsubscribe =
    before.written .unsubscribe + (!bench.manager.subscribed).toNat

namespace SubscribedOnce

open Link

variable {before : ManagerDouble} {bench : Bench}

/-- Requests of a link that is neither closed nor opened meanwhile leave its subscription alone. -/
theorem of_asked {after : Bench} {queue : Option (List Notification)}
    (once : SubscribedOnce before bench) (asked : Asked { bench.manager with queue } after.manager)
    (closes : after.stage = .closed ↔ bench.stage = .closed) : SubscribedOnce before after := by
  -- Whatever was asked for, it was written down as a request and not as one of these two.
  obtain ⟨calls, shape, counted⟩ := ManagerDouble.asked_eq asked
  have live : after.manager.subscribed = bench.manager.subscribed := by rw [shape]
  have begun : after.manager.written .subscribe = bench.manager.written .subscribe :=
    counted .subscribe (by simp)
  have ended : after.manager.written .unsubscribe = bench.manager.written .unsubscribe :=
    counted .unsubscribe (by simp)
  refine ⟨?_, begun.trans once.begun, ?_⟩
  · rw [live, once.live, Bool.eq_iff_iff, bne_iff_ne, bne_iff_ne, Ne, Ne, closes]
  · rw [live, ended, once.ended]

/-- The subscription is the manager's business, whatever happens to the other parts. -/
theorem outside (once : SubscribedOnce before bench) {manager : ManagerDouble}
    {announcer : AnnouncerDouble} {channel : ChannelDouble}
    (subscribed : manager.subscribed = bench.manager.subscribed)
    (calls : manager.calls = bench.manager.calls) :
    SubscribedOnce before { bench with manager, announcer, channel } where
  -- Flag and calls are all that is asked of a manager.
  live := subscribed.trans once.live
  begun := (congrArg (List.count _) calls).trans once.begun
  ended := by
    have ended := once.ended
    rw [← subscribed] at ended
    exact (congrArg (List.count _) calls).trans ended

/-- A tick neither subscribes nor unsubscribes. -/
theorem tick (once : SubscribedOnce before bench) (reachable : Reachable bench) (elapsed : Nat) :
    SubscribedOnce before (bench.tick elapsed) := by
  -- A closed link does not move.
  by_cases closed : bench.stage = .closed
  · rw [tick_closed closed]
    exact once
  · -- What is queued is taken, and a search may be requested.
    obtain ⟨queue, taken⟩ := bench.manager.takeNotifications_eq
    have asked : Asked bench.manager.takeNotifications.2 (bench.tick elapsed).manager :=
      (tick_told closed elapsed).2
    rw [taken] at asked
    exact once.of_asked asked
      (iff_of_false (tick_open reachable.radioByStage.kinds closed elapsed) closed)

/-- A command neither subscribes nor unsubscribes. -/
theorem command (once : SubscribedOnce before bench)
    {happening : Happening ManagerDouble AnnouncerDouble ChannelDouble}
    (command : happening.isCommand = true) :
    SubscribedOnce before (Link.after bench happening) := by
  have asked := (frames_command bench command).asked
  -- A command neither closes a link nor opens one that is closed.
  refine once.of_asked asked ⟨fun closed => ?_, fun closed => command_closed closed command⟩
  by_cases open_ : bench.stage = .closed
  · exact open_
  · exact absurd closed (command_open open_ command)

/-- The first shutdown ends the subscription, and every later one finds nothing to do. -/
theorem shutdown (once : SubscribedOnce before bench) : SubscribedOnce before bench.shutdown := by
  -- A closed link was shut down before, and its subscription ended then.
  by_cases closed : bench.stage = .closed
  · rw [Link.shutdown, if_pos closed]
    exact once
  · have live : bench.manager.subscribed = true := by rw [once.live]; simp [closed]
    have ended : bench.shutdown.manager =
        { bench.manager with subscribed := false }.record .unsubscribe := by
      rw [Link.shutdown, if_neg closed]
      exact ManagerDouble.unsubscribe_of_subscribed live
    -- It had not been ended before, so this is the one time.
    have unended := once.ended
    rw [live] at unended
    refine ⟨?_, ?_, ?_⟩
    · rw [ended, stage_shutdown]
      rfl
    · rw [ended, ManagerDouble.written_record, if_neg (by decide)]
      exact once.begun
    · rw [ended, ManagerDouble.written_record, if_pos rfl]
      exact congrArg (· + 1) unended

/-- Whatever a link does itself, it ends its subscription once, when it is shut down. -/
theorem after (once : SubscribedOnce before bench) (reachable : Reachable bench)
    {happening : Happening ManagerDouble AnnouncerDouble ChannelDouble}
    (own : happening.isOwn = true) : SubscribedOnce before (Link.after bench happening) := by
  -- A tick and a shutdown have their own laws, and the commands share one.
  cases happening with
  | outside => cases own
  | tick elapsed => exact once.tick reachable elapsed
  | shutdown => exact once.shutdown
  | _ => exact once.command rfl

end SubscribedOnce

/-- The accounts of a link over prepared parts, with the number of clients taken so far. -/
structure Balanced (before : ManagerDouble) (taken : Nat) (bench : Bench) : Prop where
  announcer : bench.announcer.IsBalanced
  channel : bench.channel.IsBalanced taken
  subscription : SubscribedOnce before bench

namespace Balanced

variable {before : ManagerDouble} {taken : Nat} {bench : Bench}

/-- All three accounts are kept, with the clients taken counted. -/
theorem after (balanced : Balanced before taken bench) (reachable : Link.Reachable bench)
    (holds : HoldsByStage bench)
    {happening : Happening ManagerDouble AnnouncerDouble ChannelDouble}
    (own : happening.isOwn = true) :
    Balanced before (taken + Link.clientsTaken bench happening) (Link.after bench happening) where
  -- Each part is balanced by itself.
  announcer := balanced.announcer.after holds own
  channel := Link.channel_balanced balanced.channel own
  subscription := balanced.subscription.after reachable own

/--
Whatever happens to a bench, its accounts are kept, also when beacon and channel are ended from
outside.
-/
theorem perform {operation : Operation} {answer : Answer} {later : Bench}
    (balanced : Balanced before taken bench) (reachable : Link.Reachable bench)
    (holds : HoldsByStage bench) (performed : bench.perform operation = .ok (answer, later)) :
    Balanced before (taken + operation.happening?.elim 0 (Link.clientsTaken bench)) later := by
  -- By cases on the operation, of which the outside ones concern one account each.
  obtain ⟨announcer, channel, subscription⟩ := balanced
  cases operation with
  | emit notification =>
    obtain ⟨_, handed, rfl⟩ := Bench.perform_emit performed
    obtain ⟨subscribed, calls⟩ := ManagerDouble.emit_keeps handed
    exact ⟨announcer, channel, subscription.outside subscribed calls⟩
  | failRequests | failDispatch | failStart | failNextSend =>
    cases performed
    exact ⟨announcer, channel, subscription.outside rfl rfl⟩
  | stopAnnouncer =>
    cases performed
    exact ⟨announcer.stop, channel, subscription.outside rfl rfl⟩
  | failListen | failAccept | queueClient | pushInbound | hangUp =>
    cases performed
    exact ⟨announcer, ⟨channel.bound, channel.served⟩, subscription.outside rfl rfl⟩
  | closeChannel =>
    cases performed
    exact ⟨announcer, channel.close, subscription.outside rfl rfl⟩
  | shutdownChannel =>
    cases performed
    exact ⟨announcer, channel.shutdown, subscription.outside rfl rfl⟩
  | _ =>
    -- What the link does itself is settled for every happening at once.
    cases performed
    exact after ⟨announcer, channel, subscription⟩ reachable holds rfl

/-- A run goes on from balanced accounts to balanced accounts. -/
theorem run {operations : List Operation} {after : Bench}
    (balanced : Balanced before taken bench) (reachable : Link.Reachable bench)
    (holds : HoldsByStage bench) (ran : bench.run operations = .ok after) :
    Balanced before (taken + bench.clientsTaken operations) after := by
  -- By induction on the operations, with the clients counted from the front.
  induction operations generalizing taken bench with
  | nil =>
    cases ran
    exact balanced
  | cons operation later ih =>
    obtain ⟨_, _, performed, ranOn⟩ := Bench.run_cons ran
    have first := balanced.perform reachable holds performed
    have counted := ih first (reachable.follow (Bench.perform_follows performed))
      (holds.perform performed) ranOn
    -- The clients of the later operations come on top of those of the first one.
    rw [Bench.clientsTaken, performed]
    rwa [Nat.add_assoc] at counted

/-- A shutdown takes nobody, so the clients taken before it are all there were. -/
theorem shutdown (balanced : Balanced before taken bench) :
    Balanced before taken bench.shutdown := by
  -- Either there is nothing to end, or each part is ended once.
  have subscription := balanced.subscription.shutdown
  revert subscription
  unfold Link.shutdown
  split
  · exact fun subscription => ⟨balanced.announcer, balanced.channel, subscription⟩
  · exact fun subscription =>
      ⟨balanced.announcer.stop, balanced.channel.shutdown, subscription⟩

/-- A link that was just started over unused parts holds its subscription and nothing else. -/
theorem start {settings : LinkSettings}
    (started : Link.start before {} {} settings = .ok bench) : Balanced before 0 bench := by
  obtain ⟨later, _, _, granted, _, _, rfl⟩ := Link.start_cases started
  obtain ⟨free, rfl⟩ := ManagerDouble.subscribe_ok granted
  -- Nothing was ever opened but the subscription.
  refine ⟨rfl, ⟨rfl, rfl⟩, rfl, ?_, ?_⟩
  · rw [ManagerDouble.written_record, if_pos rfl]
    rfl
  · rw [ManagerDouble.written_record, if_neg (by decide)]
    rfl

end Balanced

/-- The accounts of a life that is over: everything was closed as often as it was opened. -/
structure Settled (before : ManagerDouble) (taken : Nat) (bench : Bench) : Prop where
  /-- Each start that announced has its stop. -/
  announced : bench.announcer.targets.length = bench.announcer.stops
  /-- Each socket that was opened has its shutdown. -/
  bound : bench.channel.binds = bench.channel.shutdowns
  /-- Each client that was taken has its close. -/
  served : taken = bench.channel.closes
  /-- The subscription that was begun is the one that was ended. -/
  free : bench.manager.subscribed = false
  begun : bench.manager.written .subscribe = before.written .subscribe + 1
  ended : bench.manager.written .unsubscribe = before.written .unsubscribe + 1

/-- Balanced accounts of a closed link are settled, as there is nothing that it could still hold. -/
theorem Balanced.settled {before : ManagerDouble} {taken : Nat} {bench : Bench}
    (balanced : Balanced before taken bench) (holds : HoldsByStage bench)
    (closed : bench.stage = .closed) : Settled before taken bench := by
  -- A closed link holds nothing, by the stages in which each part may be held.
  have silent : bench.announcer.running = false := by
    cases running : bench.announcer.running with
    | false => rfl
    | true => exact absurd (closed ▸ (holds.announcing running).2) (by decide)
  have unheard : bench.channel.listening = false := by
    cases listening : bench.channel.listening with
    | false => rfl
    | true => exact absurd (closed ▸ (holds.listening listening).2) (by decide)
  have alone : bench.channel.client = none := holds.alone (by rw [closed]; decide)
  have free : bench.manager.subscribed = false := by rw [balanced.subscription.live, closed]; rfl
  -- With nothing held, opened and closed come out equal.
  have announced := balanced.announcer
  have bound := balanced.channel.bound
  have served := balanced.channel.served
  have ended := balanced.subscription.ended
  rw [AnnouncerDouble.IsBalanced, silent] at announced
  rw [unheard] at bound
  rw [alone] at served
  rw [free] at ended
  exact ⟨announced, bound, served, free, balanced.subscription.begun, ended⟩

/-- A link that could not be started leaves the subscription of the manager as it was. -/
theorem start_error_subscribed {β χ : Type} {manager : ManagerDouble} {announcer : β} {channel : χ}
    {settings : LinkSettings} {failure : StartFailure ManagerDouble}
    (failed : Link.start manager announcer channel settings = .error failure) :
    failure.manager.subscribed = manager.subscribed := by
  unfold Link.start at failed
  split at failed
  · -- A subscription that was not granted changes nothing, whoever holds it.
    cases failed
    rfl
  · rename_i later subscribed
    obtain ⟨free, _⟩ := ManagerDouble.subscribe_ok subscribed
    -- From here on there is a subscription, which is ended before the failure is told.
    split at failed
    · cases failed
      exact (ManagerDouble.subscribed_unsubscribe later).trans free.symm
    · split at failed
      · cases failed
        exact (ManagerDouble.subscribed_unsubscribe later).trans free.symm
      · cases failed

/--
A link that cannot be started leaves the manager subscribed or not as it was. One that is started
over an announcer and a channel that were never used keeps its accounts balanced in every run: each
start of the beacon, socket and client taken is matched by one end, unless it is held right now,
and so is the subscription. Once the link is shut down, however often, the accounts are settled.
-/
theorem life_in_balance {manager : ManagerDouble} {settings : LinkSettings} :
    (∀ {β χ : Type} {announcer : β} {channel : χ} {failure},
      Link.start manager announcer channel settings = .error failure →
      failure.manager.subscribed = manager.subscribed) ∧
    ∀ {fresh operations bench}, Link.start manager {} {} settings = .ok fresh →
      Bench.run fresh operations = .ok bench →
      Balanced manager (Bench.clientsTaken fresh operations) bench ∧
      (bench.stage = .closed → Settled manager (Bench.clientsTaken fresh operations) bench) ∧
      Settled manager (Bench.clientsTaken fresh operations) bench.shutdown ∧
      bench.shutdown.shutdown = bench.shutdown := by
  refine ⟨start_error_subscribed, fun {fresh operations bench} started ran => ?_⟩
  -- Which stage holds what is carried along the run, as a shutdown has to know it.
  have holds : HoldsByStage bench :=
    Bench.run_keeps (fun before performed => before.perform performed) (.start started) ran
  have balanced := (Balanced.start started).run (.start started) (.start started) ran
  rw [Nat.zero_add] at balanced
  have ended : bench.shutdown.stage = .closed := Link.stage_shutdown bench
  refine ⟨balanced, balanced.settled holds, balanced.shutdown.settled holds.shutdown ended, ?_⟩
  rw [Link.shutdown, if_pos ended]

/--
A run that pairs two clients, of which one is dropped and the other loses its channel from outside.
The beacon fails meanwhile and is opened once more.
-/
def restless : List Operation :=
  homecoming ++ [.closeChannel, .queueClient ⟨.ofOctets 10 0 0 8, 40001⟩, .tick 100, .tick 100,
    .shutdownChannel, .failNextSend, .tick 5000, .tick 100, .tick 100, .tick 100, .tick 2000]

/-- A manager that fails to list is left unsubscribed, and a restless life comes to rest. -/
theorem life_in_balance_restless :
    ∃ refused fresh bench,
      Link.start { homeManager with failsAccessPoints := true } ({} : AnnouncerDouble)
        ({} : ChannelDouble) {} = .error refused ∧
      refused.manager.subscribed = false ∧
      Link.start homeManager ({} : AnnouncerDouble) ({} : ChannelDouble) {} = .ok fresh ∧
      Bench.run fresh restless = .ok bench ∧
      bench.announcer.running = true ∧ Bench.clientsTaken fresh restless = 2 ∧
      Balanced homeManager 2 bench ∧ Settled homeManager 2 bench.shutdown := by
  -- Both runs are evaluated, and their accounts are what the theorem says of them.
  have refusal := (@life_in_balance { homeManager with failsAccessPoints := true } {}).1
    (show Link.start _ ({} : AnnouncerDouble) ({} : ChannelDouble) {} = .error _ from rfl)
  obtain ⟨balanced, _, settled, _⟩ := (@life_in_balance homeManager {}).2 rfl
    (show Bench.run _ restless = .ok _ from rfl)
  exact ⟨_, _, _, rfl, refusal, rfl, rfl, rfl, rfl, balanced, settled⟩

end CompanionLink
