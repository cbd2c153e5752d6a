import CompanionLink.Proofs.Double.Subscription
import CompanionLink.Proofs.Lifecycle.Course

/-!
The listing of a link over a prepared manager. Whatever else happens to the link, each tick leaves
the listing that the first one and all notifications handed in since then amount to.
-/

namespace CompanionLink

open Link

variable {β χ : Type} [Announcer β] [PairingChannel χ]

/--
A link over a prepared manager, as a history without a shutdown leaves it, with the notifications
handed in on the way, oldest first.
-/
inductive Hears (fresh : Link ManagerDouble β χ) :
    List Notification → Link ManagerDouble β χ → Prop
  | start : Hears fresh [] fresh
  | emit {emitted : List Notification} {link : Link ManagerDouble β χ} {manager : ManagerDouble}
    {notification : Notification} (before : Hears fresh emitted link)
    (handed : link.manager.emit notification = .ok manager) :
    Hears fresh (emitted ++ [notification]) { link with manager }
  | tick {emitted : List Notification} {link : Link ManagerDouble β χ}
    (before : Hears fresh emitted link) (elapsed : Nat) : Hears fresh emitted (link.tick elapsed)
  | command {emitted : List Notification} {link : Link ManagerDouble β χ}
    (before : Hears fresh emitted link) {happening : Happening ManagerDouble β χ}
    (command : happening.isCommand = true) : Hears fresh emitted (link.after happening)
  -- Requests and dispatching fail or not, and beacon and channel are anyone's.
  | outside {emitted : List Notification} {link : Link ManagerDouble β χ}
    (before : Hears fresh emitted link) (failing : List RequestKind) (failsDispatch : Bool)
    (announcer : β) (channel : χ) :
    Hears fresh emitted
      { link with manager := { link.manager with failing, failsDispatch }, announcer, channel }

/--
The listing shows what the first of the notifications told, and the others wait for the link.
-/
structure CatchesUp (initial : Directory) (emitted : List Notification)
    (link : Link ManagerDouble β χ) : Prop where
  open_ : link.stage ≠ .closed
  live : link.manager.subscribed = true
  /-- What was taken makes up the listing, and the rest is queued. -/
  split : ∃ taken waiting, emitted = taken ++ waiting ∧ link.manager.queue = some waiting ∧
    link.directory = initial.told taken

namespace CatchesUp

variable {initial : Directory} {emitted : List Notification} {link : Link ManagerDouble β χ}

omit [Announcer β] [PairingChannel χ] in
/-- What waits is what the next tick takes in, and nothing waits behind it. -/
theorem delivered_eq {waiting : List Notification} (queued : link.manager.queue = some waiting) :
    link.delivered = waiting ∧ link.drainedManager = { link.manager with queue := some [] } := by
  -- Dispatching may fail, but the queue is emptied all the same.
  have taken : link.manager.takeNotifications =
      (waiting, { link.manager with queue := some [] }) := by
    rw [ManagerDouble.takeNotifications, queued]
  exact ⟨congrArg Prod.fst taken, congrArg Prod.snd taken⟩

/-- Right after a tick the listing is up to date. -/
theorem listing_tick (catches : CatchesUp initial emitted link) (elapsed : Nat) :
    (link.tick elapsed).directory = initial.told emitted := by
  -- What was taken and what the tick delivers make up everything that was emitted.
  obtain ⟨taken, waiting, rfl, queued, shown⟩ := catches.split
  have delivered := (delivered_eq queued).1
  rw [(tick_told catches.open_ elapsed).1, delivered, shown, Directory.told_append]

/-- A tick takes in everything that waits, and leaves an empty queue. -/
theorem tick (catches : CatchesUp initial emitted link) (kinds : link.technologies.KindsMatch)
    (elapsed : Nat) : CatchesUp initial emitted (link.tick elapsed) := by
  obtain ⟨taken, waiting, split, queued, _⟩ := catches.split
  -- The tick takes everything and asks for a search at most, so nothing is left to wait.
  obtain ⟨calls, asked, _⟩ := ManagerDouble.asked_eq (tick_told catches.open_ elapsed).2
  rw [(delivered_eq queued).2] at asked
  refine ⟨tick_open kinds catches.open_ elapsed, ?_, emitted, [], by simp, ?_,
    catches.listing_tick elapsed⟩
  · rw [asked]
    exact catches.live
  · rw [asked]

/-- A command takes nothing in and hands nothing in. -/
theorem command (catches : CatchesUp initial emitted link)
    {happening : Happening ManagerDouble β χ} (command : happening.isCommand = true) :
    CatchesUp initial emitted (link.after happening) := by
  obtain ⟨taken, waiting, split, queued, shown⟩ := catches.split
  -- A command leaves the listing, and its request leaves the queue.
  have frames := frames_command link command
  obtain ⟨calls, asked, _⟩ := ManagerDouble.asked_eq frames.asked
  refine ⟨command_open catches.open_ command, ?_, taken, waiting, split, ?_, ?_⟩
  · rw [asked]
    exact catches.live
  · rw [asked]
    exact queued
  · rw [frames.listing, shown]

omit [Announcer β] [PairingChannel χ] in
/-- A notification that is handed in waits behind the others. -/
theorem emit (catches : CatchesUp initial emitted link) {notification : Notification}
    {manager : ManagerDouble} (handed : link.manager.emit notification = .ok manager) :
    CatchesUp initial (emitted ++ [notification]) { link with manager } := by
  obtain ⟨taken, waiting, split, queued, shown⟩ := catches.split
  rw [ManagerDouble.emit_ok catches.live queued] at handed
  cases handed
  -- The newest notification goes behind those that wait already.
  exact ⟨catches.open_, catches.live, taken, waiting ++ [notification], by simp [split], rfl, shown⟩

end CatchesUp

omit [Announcer β] [PairingChannel χ] in
/-- A started link shows what the manager listed, with nothing waiting. -/
theorem catchesUp_start {manager : ManagerDouble} {announcer : β} {channel : χ}
    {settings : LinkSettings} {fresh : Link ManagerDouble β χ}
    (started : Link.start manager announcer channel settings = .ok fresh) :
    CatchesUp fresh.directory [] fresh := by
  -- The subscription began with an empty queue, before the listing was asked for.
  obtain ⟨later, _, _, granted, _, _, rfl⟩ := start_cases started
  obtain ⟨_, rfl⟩ := ManagerDouble.subscribe_ok granted
  exact ⟨fun closed => (nomatch closed), rfl, [], [], rfl, rfl, rfl⟩

namespace Hears

variable {manager : ManagerDouble} {announcer : β} {channel : χ} {settings : LinkSettings}
variable {fresh link : Link ManagerDouble β χ} {emitted : List Notification}

/-- A history without a shutdown is a history. -/
theorem reachable (hears : Hears fresh emitted link)
    (started : Link.start manager announcer channel settings = .ok fresh) : Reachable link := by
  -- By induction on the history; handing in is a change of the manager from outside.
  induction hears with
  | start => exact .start started
  | @emit _ link manager _ _ _ before =>
    exact before.follow (.outside manager link.announcer link.channel)
  | tick _ elapsed before => exact before.follow (.tick elapsed)
  | command _ _ before => exact before.follow (follows_after _ _)
  | outside _ _ _ announcer channel before => exact before.follow (.outside _ announcer channel)

/-- Whatever happened, the listing and the queue make up what was handed in. -/
theorem catchesUp (hears : Hears fresh emitted link)
    (started : Link.start manager announcer channel settings = .ok fresh) :
    CatchesUp fresh.directory emitted link := by
  -- By induction on the history, one lemma for each way to go on.
  induction hears with
  | start => exact catchesUp_start started
  | emit _ handed catches => exact catches.emit handed
  | tick before elapsed catches =>
    exact catches.tick (before.reachable started).radioByStage.kinds elapsed
  | command _ command catches => exact catches.command command
  | outside _ _ _ _ _ catches => exact ⟨catches.open_, catches.live, catches.split⟩

end Hears

/--
A started link over a prepared manager shows what the manager listed. Whatever happens then short
of a shutdown, right after each tick the listing and its version are those that the first listing
and every notification handed in so far lead to, each taken in once and in order.

So it does not matter between which ticks they were handed in, nor what was asked of the link
meanwhile: no command changes the listing, and no notification is ever turned away.
-/
theorem listing_follows_notifications {manager : ManagerDouble} {announcer : β} {channel : χ}
    {settings : LinkSettings} {fresh : Link ManagerDouble β χ}
    (started : Link.start manager announcer channel settings = .ok fresh) :
    ∃ reports, manager.listAccessPoints = .ok reports ∧
      let listing (taken : List Notification) :=
        Directory.replay (.batch reports [] :: taken.filterMap Notification.update?)
      fresh.directory = listing [] ∧
      ∀ {emitted link}, Hears fresh emitted link →
        (∀ elapsed, (link.tick elapsed).directory = listing emitted) ∧
        (∃ taken waiting, emitted = taken ++ waiting ∧ link.manager.queue = some waiting ∧
          link.directory = listing taken) ∧
        (∀ happening : Happening ManagerDouble β χ, happening.isCommand = true →
          (link.after happening).directory = link.directory) ∧
        (∀ notification, ∃ later, link.manager.emit notification = .ok later) ∧
        ∀ {other}, Hears fresh emitted other →
          ∀ elapsed passed, (other.tick passed).directory = (link.tick elapsed).directory := by
  -- The listing that the manager gives under the subscription is the one it gave before.
  obtain ⟨later, _, reports, granted, _, listed, shape⟩ := start_cases started
  obtain ⟨_, rfl⟩ := ManagerDouble.subscribe_ok granted
  have initial : fresh.directory = (Directory.applyChanges {} reports []).2 := by rw [shape]
  refine ⟨reports, listed, ?_⟩
  intro listing
  have told (taken : List Notification) : fresh.directory.told taken = listing taken := by
    rw [initial]
    rfl
  refine ⟨(told []).symm ▸ rfl, fun {emitted link} hears => ?_⟩
  -- The invariant splits what was emitted into what was taken and what waits.
  have catches := hears.catchesUp started
  obtain ⟨taken, waiting, split, queued, shown⟩ := catches.split
  refine ⟨fun elapsed => ?_, ⟨taken, waiting, split, queued, shown.trans (told taken)⟩,
    fun happening command => (frames_command link command).listing,
    fun notification => ⟨_, ManagerDouble.emit_ok catches.live queued notification⟩,
    fun {other} heard elapsed passed => ?_⟩
  · rw [catches.listing_tick, told]
  · -- Both listings are the one that the notifications lead to.
    rw [(heard.catchesUp started).listing_tick, catches.listing_tick]

/-- What an operation hands in for the subscriber. -/
def Operation.emitted? : Operation → Option Notification
  | .emit notification => some notification
  | _ => none

/-- An operation other than the shutdown goes on with a history, and hands in what it emits. -/
theorem Hears.perform {fresh bench after : Bench} {emitted : List Notification}
    {operation : Operation} {answer : Answer} (hears : Hears fresh emitted bench)
    (goesOn : operation ≠ .shutdown)
    (performed : bench.perform operation = .ok (answer, after)) :
    Hears fresh (emitted ++ operation.emitted?.toList) after := by
  -- All but the notification itself hands nothing in.
  have silent {later : Bench} (heard : Hears fresh emitted later) :
      Hears fresh (emitted ++ []) later := by rwa [List.append_nil]
  have command (happening : Happening ManagerDouble AnnouncerDouble ChannelDouble)
      (command : happening.isCommand = true) :
      Hears fresh (emitted ++ []) (Link.after bench happening) := silent (hears.command command)
  have outside (announcer : AnnouncerDouble) (channel : ChannelDouble) :
      Hears fresh (emitted ++ []) { bench with announcer, channel } :=
    silent (hears.outside bench.manager.failing bench.manager.failsDispatch announcer channel)
  cases operation with
  | shutdown => exact absurd rfl goesOn
  -- A notification that was handed in is queued behind the others.
  | emit notification =>
    obtain ⟨_, handed, rfl⟩ := Bench.perform_emit performed
    exact hears.emit handed
  | tick elapsed => cases performed; exact silent (hears.tick elapsed)
  | setPower on => cases performed; exact command (.setPower on) rfl
  | connect index => cases performed; exact command (.connect index) rfl
  | scan => cases performed; exact command .scan rfl
  | forget index => cases performed; exact command (.forget index) rfl
  | moveUp index => cases performed; exact command (.moveUp index) rfl
  | moveDown index => cases performed; exact command (.moveDown index) rfl
  | read buffer => cases performed; exact command (.read buffer) rfl
  | write bytes => cases performed; exact command (.write bytes) rfl
  | failRequests | failDispatch =>
    cases performed
    exact silent (hears.outside _ _ bench.announcer bench.channel)
  | failStart | failNextSend | stopAnnouncer => cases performed; exact outside _ bench.channel
  | failListen | failAccept | queueClient | pushInbound | hangUp | closeChannel
  | shutdownChannel => cases performed; exact outside bench.announcer _

/-- A run without a shutdown is a history in which the notifications of the run are handed in. -/
theorem Hears.run {fresh bench after : Bench} {emitted : List Notification}
    {operations : List Operation} (hears : Hears fresh emitted bench)
    (goesOn : .shutdown ∉ operations) (ran : bench.run operations = .ok after) :
    Hears fresh (emitted ++ operations.filterMap Operation.emitted?) after := by
  -- By induction on the operations, none of which is a shutdown.
  induction operations generalizing emitted bench with
  | nil =>
    cases ran
    rwa [List.filterMap_nil, List.append_nil]
  | cons operation later ih =>
    have here : operation ≠ .shutdown := fun same => goesOn (same ▸ List.mem_cons_self)
    have rest : .shutdown ∉ later := fun again => goesOn (List.mem_cons_of_mem _ again)
    obtain ⟨_, _, performed, ranOn⟩ := Bench.run_cons ran
    -- What the first operation hands in comes before what the later ones do.
    have heard := ih (hears.perform here performed) rest ranOn
    have first : (operation :: later).filterMap Operation.emitted? =
        operation.emitted?.toList ++ later.filterMap Operation.emitted? := by
      cases same : operation.emitted? <;> simp [same]
    rwa [first, ← List.append_assoc]

/-- A run that comes up and is told of an outage in two parts, while dispatching fails. -/
def outage : List Operation :=
  [.setPower true, .tick 100, .tick 100, .failDispatch true,
    .emit (.propertyChanged "home" (.name "attic")), .connect 0,
    .emit (.powered (ManagerDouble.technologyPath .wifi) false),
    .emit (.accessPointsChanged [⟨"cafe", []⟩, ⟨"home", []⟩] [])]

/-- The listing takes in all of an outage, although it takes the link down half-way. -/
theorem listing_follows_notifications_outage :
    ∃ fresh bench,
      Link.start homeManager ({} : AnnouncerDouble) ({} : ChannelDouble) {} = .ok fresh ∧
      Bench.run fresh outage = .ok bench ∧ bench.stage = .joining ∧
      (bench.tick 100).stage = .off ∧
      (bench.tick 100).directory =
        ⟨[{ id := "cafe" },
          { id := "home", name := "attic", state := .online,
            lease := some { address := .ofOctets 10 0 0 5 } }], 3⟩ := by
  -- The theorem says what the listing is made of, and that is evaluated.
  refine ⟨_, _, rfl, rfl, rfl, rfl, ?_⟩
  obtain ⟨reports, listed, _, outcome⟩ := @listing_follows_notifications _ _ _ _ homeManager
    ({} : AnnouncerDouble) ({} : ChannelDouble) {} _ rfl
  cases listed
  have heard := outcome
    (Hears.start.run (by decide) (show Bench.run _ outage = .ok _ from rfl))
  exact (heard.1 100).trans (by decide)

end CompanionLink
