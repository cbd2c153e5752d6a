import CompanionLink.Proofs.Lifecycle.Life

/-!
A link that was shut down stays shut down. It has let go of everything, answers every command
alike, and neither opens, sends, closes nor asks for anything again.
-/

namespace CompanionLink

/-- What a link that was shut down is left with: nothing listed, known, subscribed to or open. -/
structure AtRest (bench : Bench) : Prop where
  /-- The link is shut down, and knows nothing any more. -/
  closed : bench.stage = .closed
  unlisted : bench.directory.entries = []
  unknown : bench.technologies = {}
  unsubscribed : bench.manager.subscribed = false
  /-- Nothing is announced, and nobody is listened to or served. -/
  silent : bench.announcer.running = false
  unheard : bench.channel.listening = false
  alone : bench.channel.client = none
  idle : bench.channel.reader = .idle

/--
A link that is as it was, apart from its last status and from what is prepared from outside: which
of its parts are to fail, and which clients and octets wait for a channel that takes none.
-/
structure Unmoved (before after : Bench) : Prop where
  /-- Of the link itself at most the status is written. -/
  link : after =
    { before with
      status := after.status, manager := after.manager, announcer := after.announcer
      channel := after.channel }
  /-- The manager at most learns what to refuse. -/
  manager : after.manager =
    { before.manager with
      failing := after.manager.failing, failsDispatch := after.manager.failsDispatch }
  /-- The announcer at most learns what to fail at. -/
  announcer : after.announcer =
    { before.announcer with
      failsStart := after.announcer.failsStart, failsNextSend := after.announcer.failsNextSend }
  /-- The channel at most gets what nobody takes. -/
  channel : after.channel =
    { before.channel with
      failsListen := after.channel.failsListen, failsAccept := after.channel.failsAccept
      waiting := after.channel.waiting, inbound := after.channel.inbound }

/-- Whether an operation is something that the link itself does. -/
def Operation.isOwn (operation : Operation) : Bool :=
  (operation.happening? : Option (Happening Unit Unit Unit)).isSome

/-- What a link that was shut down answers. -/
def Operation.closedAnswer : Operation → Answer
  | .setPower _ | .connect _ | .scan | .forget _ | .moveUp _ | .moveDown _ => .status .fail
  | .read buffer => .delivery ⟨0, buffer⟩
  | .write _ => .count 0
  | _ => .nothing

namespace Unmoved

variable {bench between after : Bench}

/-- A link is as it was before anything happened. -/
theorem refl (bench : Bench) : Unmoved bench bench := ⟨rfl, rfl, rfl, rfl⟩

/-- What stays as it was twice in a row has stayed as it was. -/
theorem trans (first : Unmoved bench between) (second : Unmoved between after) :
    Unmoved bench after where
  -- Each part is changed only in its prepared fields, which the second change sets anew.
  link := by rw [second.link, first.link]
  manager := by rw [second.manager, first.manager]
  announcer := by rw [second.announcer, first.announcer]
  channel := by rw [second.channel, first.channel]

end Unmoved

/-- A directory that was cleared lists nothing. -/
theorem Directory.entries_clear (directory : Directory) : directory.clear.entries = [] := by
  -- Clearing does nothing exactly where nothing is listed.
  unfold clear
  split
  · rename_i empty
    exact List.isEmpty_iff.mp empty
  · rfl

/-- A channel that was shut down reads no stream. -/
theorem ChannelDouble.reader_shutdown (channel : ChannelDouble) :
    channel.shutdown.reader = .idle := by
  -- The client is dropped first, and its reader with it.
  unfold shutdown
  dsimp only
  split <;> rfl

/-- An operation of the link itself is what happens to the link over any parts. -/
theorem Bench.perform_happening {bench after : Bench} {operation : Operation} {answer : Answer}
    {happening : Happening ManagerDouble AnnouncerDouble ChannelDouble}
    (does : operation.happening? = some happening)
    (performed : bench.perform operation = .ok (answer, after)) :
    after = Link.after bench happening ∧ happening.isOwn = true := by
  -- An operation of the link performs its happening, and the others are none.
  cases operation <;> cases does <;> cases performed <;> exact ⟨rfl, rfl⟩

namespace AtRest

open Link

variable {bench : Bench}

/--
Whatever a closed link is asked to do, it fails or does nothing, and at most notes that as its
status.
-/
theorem perform_own (rest : AtRest bench) {operation : Operation}
    (own : operation.isOwn = true) :
    ∃ status, bench.perform operation = .ok (operation.closedAnswer, { bench with status }) := by
  have closed := rest.closed
  -- No index is one of an empty listing.
  have nowhere (index : Nat) : bench.directory.entries[index]? = none := by
    rw [rest.unlisted]
    rfl
  cases operation with
  | tick elapsed =>
    -- A tick of a closed link does not even let its time pass.
    refine ⟨bench.status, ?_⟩
    rw [Bench.perform, tick_closed closed]
    rfl
  | setPower on =>
    refine ⟨bench.status, ?_⟩
    rw [Bench.perform, setPower, if_pos closed]
    rfl
  | connect index =>
    -- Unlike the switch, the refused join is noted as the status.
    refine ⟨.fail, ?_⟩
    rw [Bench.perform, connect, if_pos (.inr (.inr (.inr closed)))]
    rfl
  | scan =>
    refine ⟨bench.status, ?_⟩
    have refused : Link.scan bench = (.fail, bench) := by simp only [scan, closed]
    rw [Bench.perform, refused]
    rfl
  | forget index =>
    -- These three do not look at the stage: the empty listing refuses them.
    refine ⟨.fail, ?_⟩
    rw [Bench.perform, forget, Directory.forgetRequest, nowhere]
    rfl
  | moveUp index =>
    refine ⟨.fail, ?_⟩
    rw [Bench.perform, moveUp, Directory.moveUpRequest, nowhere]
    rfl
  | moveDown index =>
    refine ⟨.fail, ?_⟩
    rw [Bench.perform, moveDown, Directory.moveDownRequest, nowhere]
    rfl
  | read buffer =>
    -- Octets pass with a paired client only.
    refine ⟨bench.status, ?_⟩
    rw [Bench.perform, Link.read, if_pos (by rw [closed]; decide)]
    rfl
  | write bytes =>
    refine ⟨bench.status, ?_⟩
    rw [Bench.perform, write, if_pos (by rw [closed]; decide)]
    rfl
  | shutdown =>
    refine ⟨bench.status, ?_⟩
    rw [Bench.perform, shutdown, if_pos closed]
    rfl
  | _ => cases own

/-- A link that was shut down hears of nothing any more. -/
theorem perform_emit (rest : AtRest bench) (notification : Notification) :
    bench.perform (.emit notification) = .error .notSubscribed := by
  -- Without a subscription the manager refuses before it looks at its queue.
  rw [Bench.perform, ManagerDouble.emit, rest.unsubscribed]
  rfl

/-- A channel without a client has nothing to drop but what waits for nobody. -/
theorem close_unserved {channel : ChannelDouble} (alone : channel.client = none)
    (idle : channel.reader = .idle) : channel.close = { channel with inbound := {} } := by
  -- Nobody to close means nothing to count.
  simp [ChannelDouble.close, alone, idle]

/-- A channel that does not listen has nothing to end but its client. -/
theorem shutdown_unheard {channel : ChannelDouble} (unheard : channel.listening = false) :
    channel.shutdown = channel.close := by
  -- The second half of a shutdown is for channels that listen.
  simp [ChannelDouble.shutdown, ChannelDouble.close, unheard]

/-- Nothing that can happen to a link at rest moves it. -/
theorem perform (rest : AtRest bench) {operation : Operation} {answer : Answer} {after : Bench}
    (performed : bench.perform operation = .ok (answer, after)) : Unmoved bench after := by
  -- The link's own operations are settled before; the rest come from outside.
  by_cases own : operation.isOwn = true
  · obtain ⟨status, done⟩ := rest.perform_own own
    cases performed.symm.trans done
    exact ⟨rfl, rfl, rfl, rfl⟩
  · -- What happens from outside finds nothing to end, and prepares what nobody takes.
    cases operation with
    | emit notification => cases performed.symm.trans (rest.perform_emit notification)
    | failRequests | failDispatch | failStart | failNextSend | failListen | failAccept |
      queueClient | pushInbound | hangUp =>
      cases performed
      exact ⟨rfl, rfl, rfl, rfl⟩
    -- What is stopped from outside was stopped already.
    | stopAnnouncer =>
      have stopped : bench.announcer.stop = bench.announcer := by
        rw [AnnouncerDouble.stop, rest.silent]
        rfl
      cases performed
      exact ⟨rfl, rfl, by rw [stopped], rfl⟩
    | closeChannel =>
      cases performed
      exact ⟨rfl, rfl, rfl, by rw [close_unserved rest.alone rest.idle]⟩
    | shutdownChannel =>
      cases performed
      refine ⟨rfl, rfl, rfl, ?_⟩
      rw [shutdown_unheard rest.unheard, close_unserved rest.alone rest.idle]
    | _ => exact absurd rfl own

/-- A link that is as it was at rest is at rest. -/
theorem of_unmoved {after : Bench} (rest : AtRest bench) (unmoved : Unmoved bench after) :
    AtRest after where
  -- Everything that rest asks for is among what did not move.
  closed := by rw [unmoved.link]; exact rest.closed
  unlisted := by rw [unmoved.link]; exact rest.unlisted
  unknown := by rw [unmoved.link]; exact rest.unknown
  unsubscribed := by rw [unmoved.manager]; exact rest.unsubscribed
  silent := by rw [unmoved.announcer]; exact rest.silent
  unheard := by rw [unmoved.channel]; exact rest.unheard
  alone := by rw [unmoved.channel]; exact rest.alone
  idle := by rw [unmoved.channel]; exact rest.idle

/-- No run moves a link that was at rest when it began. -/
theorem run (rest : AtRest bench) {operations : List Operation} {after : Bench}
    (ran : bench.run operations = .ok after) : Unmoved bench after :=
  -- By induction on the run, with rest carried along by what did not move.
  Bench.run_keeps
    (fun before performed => before.trans ((rest.of_unmoved before).perform performed))
    (.refl bench) ran

/-- A link at rest can go on for ever, as long as nobody reports to it. -/
theorem run_ok (rest : AtRest bench) {operations : List Operation}
    (unreported : ∀ notification, .emit notification ∉ operations) :
    ∃ after, bench.run operations = .ok after := by
  -- By induction on the run: only a report to nobody could fail.
  induction operations generalizing bench with
  | nil => exact ⟨bench, rfl⟩
  | cons operation later ih =>
    obtain ⟨answer, next, performed⟩ : ∃ answer next,
        bench.perform operation = .ok (answer, next) := by
      cases operation with
      | emit notification => exact absurd (List.mem_cons_self ..) (unreported notification)
      | _ => exact ⟨_, _, rfl⟩
    -- What the first operation leaves is at rest as well.
    obtain ⟨after, ran⟩ := ih (rest.of_unmoved (rest.perform performed))
      fun notification listed => unreported notification (List.mem_cons_of_mem _ listed)
    refine ⟨after, ?_⟩
    rw [Bench.run, performed]
    exact ran

/-- A shutdown of a link that was open ends everything that it may have held. -/
theorem shutdown_open (open_ : bench.stage ≠ .closed) : AtRest bench.shutdown := by
  -- Each part of the link lets go of what it had, whatever that was.
  rw [Link.shutdown, if_neg open_]
  constructor
  · rfl
  · exact Directory.entries_clear bench.directory
  · rfl
  · exact ManagerDouble.subscribed_unsubscribe bench.manager
  · exact AnnouncerDouble.running_stop bench.announcer
  · exact ChannelDouble.listening_shutdown bench.channel
  · exact ChannelDouble.client_shutdown bench.channel
  · exact ChannelDouble.reader_shutdown bench.channel

/-- A link that is closed came to rest when it was closed. -/
theorem of_closed (reachable : Reachable bench) (settled : bench.stage = .closed → AtRest bench)
    {operation : Operation} {answer : Answer} {after : Bench}
    (performed : bench.perform operation = .ok (answer, after))
    (closed : after.stage = .closed) : AtRest after := by
  by_cases before : bench.stage = .closed
  · -- It was closed before, and nothing moved it since.
    exact (settled before).of_unmoved ((settled before).perform performed)
  · cases does : operation.happening? with
    | some happening =>
      obtain ⟨rfl, own⟩ := Bench.perform_happening does performed
      -- Of all that an open link does itself, only the shutdown closes it.
      cases happening with
      | outside => cases own
      | tick elapsed =>
        exact absurd closed (tick_open reachable.radioByStage.kinds before elapsed)
      | shutdown => exact shutdown_open before
      | _ => exact absurd closed (command_open before rfl)
    | none =>
      -- From outside nobody moves a link to another stage.
      refine absurd (Eq.trans ?_ closed) before
      cases operation with
      | emit notification =>
        obtain ⟨_, _, rfl⟩ := Bench.perform_emit performed
        rfl
      | failRequests | failDispatch | failStart | failNextSend | stopAnnouncer | failListen |
        failAccept | queueClient | pushInbound | hangUp | closeChannel | shutdownChannel =>
        cases performed
        rfl
      | _ => cases does

/-- Every link that a run shuts down comes to rest. -/
theorem of_run {manager : ManagerDouble} {announcer : AnnouncerDouble} {channel : ChannelDouble}
    {settings : LinkSettings} {fresh : Bench} {operations : List Operation}
    (started : Link.start manager announcer channel settings = .ok fresh)
    (ran : fresh.run operations = .ok bench) : AtRest bench.shutdown := by
  -- A started link is off, and each operation finds a link that is open or at rest.
  have open_ : fresh.stage = .closed → AtRest fresh := by
    obtain ⟨_, _, _, _, _, _, rfl⟩ := start_cases started
    nofun
  -- From the first shutdown on every operation finds the link at rest.
  have settled : Reachable bench ∧ (bench.stage = .closed → AtRest bench) :=
    Bench.run_keeps
      (fun {bench _ _ _} (before : Reachable bench ∧ (bench.stage = .closed → AtRest bench))
          performed =>
        ⟨before.1.follow (Bench.perform_follows performed),
          of_closed before.1 before.2 performed⟩)
      ⟨.start started, open_⟩ ran
  by_cases closed : bench.stage = .closed
  · -- A second shutdown finds nothing to do.
    rw [Link.shutdown, if_pos closed]
    exact settled.2 closed
  · exact shutdown_open closed

end AtRest

/--
A link that is shut down is at rest from then on, however it got there and whatever follows.

Nothing is listed, known, subscribed to or open, and nothing moves: the listing keeps its version,
the manager is not called, and beacon and channel open, send and close nothing. Every command is
answered with a failure, a read with nothing and a write with no octet taken. A run can go on for
ever, except that nobody can report to a link that does not listen.
-/
theorem closed_for_good {manager : ManagerDouble} {announcer : AnnouncerDouble}
    {channel : ChannelDouble} {settings : LinkSettings} {fresh bench : Bench}
    {operations : List Operation}
    (started : Link.start manager announcer channel settings = .ok fresh)
    (ran : fresh.run operations = .ok bench) :
    AtRest bench.shutdown ∧
    (∀ later after, Bench.run bench.shutdown later = .ok after →
      AtRest after ∧ Unmoved bench.shutdown after ∧
      (∀ operation, operation.isOwn = true → ∃ status,
        after.perform operation = .ok (operation.closedAnswer, { after with status })) ∧
      ∀ notification, after.perform (.emit notification) = .error .notSubscribed) ∧
    ∀ later, (∀ notification, Operation.emit notification ∉ later) →
      ∃ after, Bench.run bench.shutdown later = .ok after := by
  -- The run before the shutdown matters only in that it ends at rest.
  have rest : AtRest bench.shutdown := AtRest.of_run started ran
  refine ⟨rest, fun later after ranOn => ?_, fun later unreported => rest.run_ok unreported⟩
  have unmoved := rest.run ranOn
  have still := rest.of_unmoved unmoved
  exact ⟨still, unmoved, fun operation own => still.perform_own own, still.perform_emit⟩

/-- A link that was shut down with its client is asked for much, and its channel fails meanwhile. -/
def afterlife : List Operation :=
  [.tick 100, .setPower true, .failListen true, .connect 0, .scan, .forget 3, .stopAnnouncer,
    .queueClient ⟨.ofOctets 10 0 0 8, 40001⟩, .pushInbound [1, 0, 7], .tick 40000,
    .read [0, 0, 0], .write [1], .shutdown, .shutdownChannel, .moveUp 0]

/-- A link that had a paired client is at rest after its shutdown, whatever it is asked for then. -/
theorem closed_for_good_homecoming :
    ∃ fresh bench after,
      Link.start homeManager ({} : AnnouncerDouble) ({} : ChannelDouble) {} = .ok fresh ∧
      Bench.run fresh homecoming = .ok bench ∧ bench.stage = .paired ∧
      Bench.run bench.shutdown afterlife = .ok after ∧
      AtRest after ∧ Unmoved bench.shutdown after ∧
      ∃ status, after.perform (.connect 0) = .ok (.status .fail, { after with status }) := by
  -- The run up to the pairing is evaluated, and what follows is left to the theorem.
  obtain ⟨_, stays, goesOn⟩ := @closed_for_good homeManager {} {} {} _ _ homecoming rfl
    (show Bench.run _ homecoming = .ok _ from rfl)
  obtain ⟨after, ranOn⟩ := goesOn afterlife (by simp [afterlife])
  obtain ⟨rest, unmoved, answers, _⟩ := stays afterlife after ranOn
  exact ⟨_, _, after, rfl, rfl, rfl, ranOn, rest, unmoved, answers (.connect 0) rfl⟩

end CompanionLink
