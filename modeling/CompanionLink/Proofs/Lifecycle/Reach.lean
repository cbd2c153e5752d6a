import CompanionLink.Lifecycle.Run
import CompanionLink.Proofs.Lifecycle.Step
import CompanionLink.Proofs.Technologies

/-!
The links that some history leads to. Every command, every notification and every tick is opened
once into what it can do; laws of runs are proved one such change at a time.
-/

namespace CompanionLink

namespace Link

variable {μ β χ : Type} [NetworkManager μ] [Announcer β] [PairingChannel χ]

omit [NetworkManager μ] in
/--
A notification about technologies gives the link up when it lost a radio that was up, and is only
written down otherwise.
-/
theorem noteTechnology_cases (link : Link μ β χ) (notification : Notification) :
    ((link.technologies.apply notification).1 = .wifiPowerLost ∧ link.stage ≠ .off ∧
      link.stage ≠ .powering ∧
      link.noteTechnology notification =
        { link with technologies := (link.technologies.apply notification).2 }.powerDown) ∨
    (((link.technologies.apply notification).1 = .wifiPowerLost →
        link.stage = .off ∨ link.stage = .powering) ∧
      link.noteTechnology notification =
        { link with technologies := (link.technologies.apply notification).2 }) := by
  -- Only a lost radio is acted on, and only where it had come up before.
  unfold noteTechnology
  dsimp only
  split
  · rename_i lost
    exact .inl ⟨lost.1, lost.2.1, lost.2.2, rfl⟩
  · rename_i kept
    refine .inr ⟨fun lost => ?_, rfl⟩
    -- A loss that is not acted on comes before the radio was up.
    by_cases off : link.stage = .off
    · exact .inl off
    · by_cases powering : link.stage = .powering
      · exact .inr powering
      · exact absurd ⟨lost, off, powering⟩ kept

/-- What a drain keeps is what every single notification keeps. -/
theorem drain_keeps {kept : Link μ β χ → Prop}
    (manage : ∀ link manager, kept link → kept { link with manager })
    (note : ∀ link notification, kept link → kept (link.note notification))
    {link : Link μ β χ} (before : kept link) : kept link.drain := by
  unfold drain
  -- The notifications are taken in one after the other, oldest first.
  have taken : ∀ (delivered : List Notification) (link : Link μ β χ), kept link →
      kept (delivered.foldl Link.note link) := by
    intro delivered
    induction delivered with
    | nil => exact fun _ before => before
    | cons notification later ih =>
      exact fun link before => ih _ (note link notification before)
  exact taken _ _ (manage _ _ before)

/-- The link as the work of a tick finds it: time has passed and all that was reported is known. -/
def untilStep (link : Link μ β χ) (elapsed : Nat) : Link μ β χ :=
  ({ link with elapsed := link.elapsed + elapsed }.drain).tickBeacon elapsed

/-- A tick of a link that is not closed ends with the work of the stage it has come to. -/
theorem tick_eq {link : Link μ β χ} (open_ : link.stage ≠ .closed) (elapsed : Nat) :
    link.tick elapsed = (link.untilStep elapsed).step := by
  -- An open link gets past the guard.
  rw [tick, if_neg open_]
  rfl

/-- Time does not pass for a closed link. -/
theorem tick_closed {link : Link μ β χ} (closed : link.stage = .closed) (elapsed : Nat) :
    link.tick elapsed = link := by
  -- The guard of the tick.
  rw [tick, if_pos closed]

omit [NetworkManager μ] [PairingChannel χ] in
/-- The beacon's time passing changes the announcer and the status only. -/
theorem tickBeacon_eq (link : Link μ β χ) (elapsed : Nat) :
    ∃ announcer status, link.tickBeacon elapsed = { link with announcer, status } ∧
      (announcer = link.announcer ∨ announcer = (Announcer.tick link.announcer elapsed).2) := by
  -- A beacon that cannot go on shows in the status; nothing else looks at its time.
  unfold tickBeacon
  split
  · rcases ticked : Announcer.tick link.announcer elapsed with ⟨_ | _, announcer⟩
    · exact ⟨announcer, .fail, rfl, .inr rfl⟩
    · exact ⟨announcer, link.status, rfl, .inr rfl⟩
  · exact ⟨link.announcer, link.status, rfl, .inl rfl⟩

/--
What every notification and the beacon's time keep, and what does not depend on the manager, the
time or the status, holds when a tick comes to its work.
-/
theorem untilStep_keeps {kept : Link μ β χ → Prop} {link : Link μ β χ} (elapsed : Nat)
    (apart : ∀ link manager elapsed status, kept link → kept { link with manager, elapsed, status })
    (note : ∀ link notification, kept link → kept (link.note notification))
    (ticked : ∀ link, kept link →
      kept { link with announcer := (Announcer.tick link.announcer elapsed).2 })
    (before : kept link) : kept (link.untilStep elapsed) := by
  -- What was reported is taken in first, then the beacon gets its time.
  have drained : kept { link with elapsed := link.elapsed + elapsed }.drain :=
    drain_keeps (fun link manager => apart link manager link.elapsed link.status) note
      (apart link link.manager (link.elapsed + elapsed) link.status before)
  obtain ⟨announcer, status, passed, same | later⟩ :=
    tickBeacon_eq { link with elapsed := link.elapsed + elapsed }.drain elapsed
  · rw [untilStep, passed, same]
    exact apart _ _ _ status drained
  · rw [untilStep, passed, later]
    exact apart _ _ _ status (ticked _ drained)

/-- What switching the power does to a link, with the status it answers. -/
inductive PowerSwitch (link : Link μ β χ) : Bool → Status × Link μ β χ → Prop
  -- Refusals come first, whichever way the switch goes.
  | closed {on : Bool} (at_ : link.stage = .closed) : PowerSwitch link on (.fail, link)
  | refused {on : Bool} {error : PowerError} {manager : μ} (open_ : link.stage ≠ .closed)
    (refused : link.technologies.setWifiPower link.manager on =
      (.error error, link.technologies, manager)) :
    PowerSwitch link on (.fail, { link with manager, status := .fail })
  -- Switching on starts the way up only from the bottom.
  | begun {technologies : Technologies} {manager : μ} (at_ : link.stage = .off)
    (switched : link.technologies.setWifiPower link.manager true =
      (.ok (), technologies, manager)) :
    PowerSwitch link true
      (.ok, { { link with technologies, manager }.enter .powering with status := .ok })
  | kept {technologies : Technologies} {manager : μ} (open_ : link.stage ≠ .closed)
    (begun : link.stage ≠ .off)
    (switched : link.technologies.setWifiPower link.manager true =
      (.ok (), technologies, manager)) :
    PowerSwitch link true (.ok, { link with technologies, manager, status := .ok })
  -- Switching off takes the link down from wherever it is.
  | ended {technologies : Technologies} {manager : μ} (open_ : link.stage ≠ .closed)
    (switched : link.technologies.setWifiPower link.manager false =
      (.ok (), technologies, manager)) :
    PowerSwitch link false
      (.ok, { { link with technologies, manager }.powerDown with status := .ok })

/-- The list of what switching the power can do is complete. -/
theorem setPower_cases (link : Link μ β χ) (on : Bool) :
    PowerSwitch link on (link.setPower on) := by
  -- The request to the manager comes first; the stage changes only once it was taken.
  unfold setPower
  split
  · rename_i at_
    exact .closed at_
  · rename_i open_
    rcases switched : link.technologies.setWifiPower link.manager on with
      ⟨_ | _, technologies, manager⟩
    · -- A request that fails leaves the technologies alone.
      have same := Technologies.setWifiPower_error switched
      subst same
      exact .refused open_ switched
    -- Off gives the link up, on begins to power up only a link that was off.
    · cases on with
      | false => exact .ended open_ switched
      | true =>
        dsimp only
        by_cases at_ : link.stage = .off
        · rw [if_pos rfl, if_pos at_]
          exact .begun at_ switched
        · rw [if_pos rfl, if_neg at_]
          exact .kept open_ at_ switched

/-- The target of a join that begins now: a failure it shows is one of an earlier attempt. -/
def freshTarget (point : AccessPoint) : JoinTarget :=
  { id := point.id, staleFailure := point.state == .failure }

/-- What asking for a join does to a link, with the status it answers. -/
inductive JoinRequest (link : Link μ β χ) (index : Nat) : Status × Link μ β χ → Prop
  -- A join needs a radio and a link that has come up.
  | unpowered
    (dark : link.technologies.wifiPowered = false ∨ link.stage = .off ∨ link.stage = .powering ∨
      link.stage = .closed) :
    JoinRequest link index (.fail, { link with status := .fail })
  | refused {error : DirectoryError} {manager : μ}
    (lit : link.technologies.wifiPowered = true)
    (up : link.stage ≠ .off ∧ link.stage ≠ .powering ∧ link.stage ≠ .closed)
    (refused : Directory.submit link.manager (link.directory.joinRequest index) =
      (.error error, manager)) :
    JoinRequest link index (.fail, { link with manager, status := .fail })
  -- A join that is taken up leaves whatever the link was joined to.
  | taken {point : AccessPoint} {manager : μ} (lit : link.technologies.wifiPowered = true)
    (up : link.stage ≠ .off ∧ link.stage ≠ .powering ∧ link.stage ≠ .closed)
    (listed : link.directory.entries[index]? = some point)
    (taken : Directory.submit link.manager (link.directory.joinRequest index) = (.ok (), manager))
    (free : link.stage.hasLink = false) :
    JoinRequest link index
      (.ok, { { link with
        manager, linkId := none, joinTarget := some (freshTarget point) }.enter .joining with
          status := .ok })
  | switched {point : AccessPoint} {manager : μ} (lit : link.technologies.wifiPowered = true)
    (up : link.stage ≠ .off ∧ link.stage ≠ .powering ∧ link.stage ≠ .closed)
    (listed : link.directory.entries[index]? = some point)
    (taken : Directory.submit link.manager (link.directory.joinRequest index) = (.ok (), manager))
    (linked : link.stage.hasLink = true) :
    JoinRequest link index
      (.ok, { { { link with manager }.release with
        linkId := none, joinTarget := some (freshTarget point) }.enter .joining with
          status := .ok })

/-- The list of what asking for a join can do is complete. -/
theorem connect_cases (link : Link μ β χ) (index : Nat) :
    JoinRequest link index (link.connect index) := by
  -- Want of power is checked before the manager is asked at all.
  unfold connect
  split
  · rename_i dark
    exact .unpowered (by simpa using dark)
  · rename_i ready
    simp only [Bool.not_eq_true', not_or, Bool.not_eq_false] at ready
    obtain ⟨lit, off, powering, closed⟩ := ready
    rcases answered : Directory.submit link.manager (link.directory.joinRequest index) with
      ⟨_ | _, manager⟩
    · exact .refused lit ⟨off, powering, closed⟩ answered
    · -- The manager takes a join over only for an access point that is listed.
      cases listed : link.directory.entries[index]? with
      | none => simp [Directory.joinRequest, listed, Directory.submit] at answered
      | some point =>
        dsimp only
        -- Whether the link was up decides if it is released first.
        cases linked : link.stage.hasLink with
        | false =>
          rw [if_neg (by simp), listed]
          exact .taken lit ⟨off, powering, closed⟩ listed answered linked
        | true =>
          rw [if_pos rfl]
          simp only [release, listed]
          exact .switched lit ⟨off, powering, closed⟩ listed answered linked

/-- One thing that happens to a link: a tick, a command, or a change of what it works with. -/
inductive Follows (link : Link μ β χ) : Link μ β χ → Prop
  | tick (elapsed : Nat) : Follows link (link.tick elapsed)
  | setPower (on : Bool) : Follows link (link.setPower on).2
  | connect (index : Nat) : Follows link (link.connect index).2
  | scan : Follows link link.scan.2
  | forget (index : Nat) : Follows link (link.forget index).2
  | moveUp (index : Nat) : Follows link (link.moveUp index).2
  | moveDown (index : Nat) : Follows link (link.moveDown index).2
  | read (buffer : Bytes) : Follows link (link.read buffer).2
  | write (bytes : Bytes) : Follows link (link.write bytes).2
  | shutdown : Follows link link.shutdown
  -- Preparations of the doubles and deeds of the manager come in by this one way.
  /-- Whatever else happens to the manager, the announcer and the channel meanwhile. -/
  | outside (manager : μ) (announcer : β) (channel : χ) :
    Follows link { link with manager, announcer, channel }

/-- A link that some history leads to, over any manager, announcer and channel. -/
inductive Reachable : Link μ β χ → Prop
  /-- A link that was just started. -/
  | start {manager : μ} {announcer : β} {channel : χ} {settings : LinkSettings}
    {link : Link μ β χ} (started : Link.start manager announcer channel settings = .ok link) :
    Reachable link
  /-- A link that something happened to. -/
  | follow {link after : Link μ β χ} (before : Reachable link) (happened : Follows link after) :
    Reachable after

omit [Announcer β] [PairingChannel χ] in
/--
A started link holds a subscription and what the manager lists under it. It is off, with nothing
requested, joined or linked.
-/
theorem start_cases {manager : μ} {announcer : β} {channel : χ} {settings : LinkSettings}
    {link : Link μ β χ} (started : Link.start manager announcer channel settings = .ok link) :
    ∃ later technologies reports,
      NetworkManager.subscribe manager = .ok later ∧
      NetworkManager.technologies later = .ok technologies ∧
      NetworkManager.accessPoints later = .ok reports ∧
      link =
        { manager := later, announcer, channel, settings
          technologies := registerAll technologies
          directory := (Directory.applyChanges {} reports []).2 } := by
  -- Each of the three questions to the manager can fail, and then there is no link.
  unfold Link.start at started
  split at started
  · cases started
  · rename_i later subscribed
    split at started
    · cases started
    · rename_i technologies registered
      split at started
      · cases started
      · rename_i reports listed
        cases started
        exact ⟨later, technologies, reports, subscribed, registered, listed, rfl⟩

end Link

namespace Bench

/-- Handing a notification in changes the manager only. -/
theorem perform_emit {bench after : Bench} {notification : Notification} {answer : Answer}
    (performed : bench.perform (.emit notification) = .ok (answer, after)) :
    ∃ manager, bench.manager.emit notification = .ok manager ∧ after = { bench with manager } := by
  -- The manager may refuse the notification, and then nothing was performed.
  simp only [perform, Except.map] at performed
  split at performed
  · cases performed
  · rename_i manager handed
    cases performed
    exact ⟨manager, handed, rfl⟩

/-- A run performs its first operation and then runs the others on what that left. -/
theorem run_cons {bench after : Bench} {operation : Operation} {later : List Operation}
    (ran : bench.run (operation :: later) = .ok after) :
    ∃ answer next, bench.perform operation = .ok (answer, next) ∧ next.run later = .ok after := by
  -- A run is a bind, so that a first operation that fails fails the run.
  unfold run at ran
  cases performed : bench.perform operation with
  | error error => simp [performed, Bind.bind, Except.bind] at ran
  | ok outcome =>
    simp only [performed, Bind.bind, Except.bind] at ran
    exact ⟨outcome.1, outcome.2, rfl, ran⟩

/-- A run in two parts goes on from where its first part ends. -/
theorem run_append {bench after : Bench} {first later : List Operation} :
    bench.run (first ++ later) = .ok after ↔
      ∃ between, bench.run first = .ok between ∧ between.run later = .ok after := by
  induction first generalizing bench with
  | nil => simp [run]
  | cons operation rest ih =>
    -- The first operation ends both runs if it fails.
    rw [List.cons_append, run, run]
    cases bench.perform operation with
    | error error => simp [Bind.bind, Except.bind]
    | ok outcome => exact ih

/-- A run of one operation is what it performs. -/
theorem run_singleton {bench after : Bench} {operation : Operation} :
    bench.run [operation] = .ok after ↔
      ∃ answer, bench.perform operation = .ok (answer, after) := by
  -- Behind the one operation nothing is left to run.
  rw [run]
  cases bench.perform operation with
  | error error => simp [Bind.bind, Except.bind]
  | ok outcome => simp [Bind.bind, Except.bind, run, Prod.ext_iff]

/-- Whatever can happen to a bench is one of the things that can happen to any link. -/
theorem perform_follows {bench after : Bench} {operation : Operation} {answer : Answer}
    (performed : bench.perform operation = .ok (answer, after)) : Link.Follows bench after := by
  -- Commands are the commands of the link; the rest reaches it through what it works with.
  cases operation with
  | tick elapsed => cases performed; exact .tick elapsed
  | setPower on => cases performed; exact .setPower on
  | connect index => cases performed; exact .connect index
  | scan => cases performed; exact .scan
  | forget index => cases performed; exact .forget index
  | moveUp index => cases performed; exact .moveUp index
  | moveDown index => cases performed; exact .moveDown index
  | read buffer => cases performed; exact .read buffer
  | write bytes => cases performed; exact .write bytes
  | shutdown => cases performed; exact .shutdown
  -- What is prepared from outside changes one part of the link.
  | emit notification =>
    obtain ⟨manager, _, rfl⟩ := perform_emit performed
    exact .outside manager bench.announcer bench.channel
  | failRequests kind fails => cases performed; exact .outside _ bench.announcer bench.channel
  | failDispatch fails => cases performed; exact .outside _ bench.announcer bench.channel
  | failStart fails => cases performed; exact .outside bench.manager _ bench.channel
  | failNextSend => cases performed; exact .outside bench.manager _ bench.channel
  | stopAnnouncer => cases performed; exact .outside bench.manager _ bench.channel
  | failListen fails => cases performed; exact .outside bench.manager bench.announcer _
  | failAccept fails => cases performed; exact .outside bench.manager bench.announcer _
  | queueClient peer => cases performed; exact .outside bench.manager bench.announcer _
  | pushInbound bytes => cases performed; exact .outside bench.manager bench.announcer _
  | hangUp => cases performed; exact .outside bench.manager bench.announcer _
  | closeChannel => cases performed; exact .outside bench.manager bench.announcer _
  | shutdownChannel => cases performed; exact .outside bench.manager bench.announcer _

/-- What every operation keeps, a whole run keeps. -/
theorem run_keeps {kept : Bench → Prop}
    (keeps : ∀ {bench operation answer after}, kept bench →
      Bench.perform bench operation = .ok (answer, after) → kept after)
    {bench after : Bench} {operations : List Operation} (before : kept bench)
    (ran : bench.run operations = .ok after) : kept after := by
  -- By induction on the operations.
  induction operations generalizing bench with
  | nil =>
    cases ran
    exact before
  | cons operation later ih =>
    obtain ⟨_, _, performed, rest⟩ := run_cons ran
    exact ih (keeps before performed) rest

/-- A run of a started bench leads to a reachable one. -/
theorem run_reachable {manager : ManagerDouble} {announcer : AnnouncerDouble}
    {channel : ChannelDouble} {settings : LinkSettings} {operations : List Operation}
    {fresh bench : Bench} (started : Link.start manager announcer channel settings = .ok fresh)
    (ran : fresh.run operations = .ok bench) : Link.Reachable bench :=
  -- Reaching is kept by each operation, and a started bench has reached itself.
  run_keeps (fun before performed => before.follow (perform_follows performed)) (.start started) ran

end Bench

/-- A manager with a powered radio and one access point, which is online and leased an address. -/
def homeManager : ManagerDouble :=
  (ManagerDouble.withTechnology {} .wifi true).withAccessPoint
    ⟨"home", [.state .online, .lease (some { address := .ofOctets 10 0 0 5 })]⟩

/-- A run in which a link comes up on a network it knows and pairs the client that waits there. -/
def homecoming : List Operation :=
  [.setPower true, .tick 100, .tick 100, .tick 100, .tick 100, .tick 100, .tick 2000, .tick 100,
    .tick 100, .queueClient ⟨.ofOctets 10 0 0 9, 40000⟩, .tick 100]

end CompanionLink
