import CompanionLink.Lifecycle.Tick

/-!
What the work of one tick can do to a link. Each way on from a stage is listed once, with the
facts that decide it, and the laws of ticks and runs are read off the list.
-/

namespace CompanionLink

namespace Link

variable {μ β χ : Type} [NetworkManager μ] [Announcer β] [PairingChannel χ]

/-- Why a stage's work leaves a link as it is. -/
inductive Rests (link : Link μ β χ) : Prop
  -- Nothing happens to a link that is not used.
  | unused (at_ : link.stage = .off)
  | ended (at_ : link.stage = .closed)
  -- The others wait for the radio, for results, for an address, for the grace to end.
  | comingUp (at_ : link.stage = .powering) (dark : link.technologies.wifiPowered = false)
    (early : link.elapsed < link.settings.powerTimeout)
  | unasked (at_ : link.stage = .ready) (quiet : link.scanRequested = false)
    (manual : link.settings.autoScan = false)
  | settling (at_ : link.stage = .settling) (accepted : link.scanRejected = false)
    (early : link.elapsed < link.settings.searchSettle)
  | listing (at_ : link.stage = .listed) (alone : link.directory.connectedIndex = none)
    (quiet : link.scanRequested = false)
  | unleased (at_ : link.stage = .joined)
    (bare : (link.carrier.bind fun point => point.lease) = none)
  | announcing (at_ : link.stage = .announced)
    (early : link.elapsed < link.settings.announceGrace)
  | serving (at_ : link.stage = .paired) (client : PairingChannel.hasClient link.channel = true)

/-- Why a stage's work does nothing but enter another stage. -/
inductive Passes (link : Link μ β χ) : Stage → Prop
  -- On the way up to a connected access point.
  | cameUp (at_ : link.stage = .powering) (lit : link.technologies.wifiPowered = true) :
    Passes link .powered
  | foundJoined (at_ : link.stage = .powered)
    (connected : link.directory.connectedIndex.isSome = true) : Passes link .joined
  | foundAlone (at_ : link.stage = .powered) (alone : link.directory.connectedIndex = none) :
    Passes link .ready
  | asked (at_ : link.stage = .ready)
    (wanted : link.scanRequested = true ∨ link.settings.autoScan = true) : Passes link .searching
  | settled (at_ : link.stage = .settling) (accepted : link.scanRejected = false)
    (late : link.settings.searchSettle ≤ link.elapsed) : Passes link .listed
  | connectedMeanwhile (at_ : link.stage = .listed)
    (connected : link.directory.connectedIndex.isSome = true) : Passes link .joined
  | askedAgain (at_ : link.stage = .listed) (alone : link.directory.connectedIndex = none)
    (wanted : link.scanRequested = true) : Passes link .searching
  -- From an address to a beacon and a channel.
  | leased (at_ : link.stage = .joined)
    (lease : (link.carrier.bind fun point => point.lease).isSome = true) : Passes link .leased
  | prepared (at_ : link.stage = .leased) : Passes link .opening
  | graceOver (at_ : link.stage = .announced)
    (late : link.settings.announceGrace ≤ link.elapsed) : Passes link .visible
  | shown (at_ : link.stage = .visible) (running : Announcer.isRunning link.announcer = true) :
    Passes link .offering
  -- A beacon or a client that went takes the link back as far as it has to.
  | silenced (at_ : link.stage = .visible ∨ link.stage = .offering ∨ link.stage = .listening)
    (stopped : Announcer.isRunning link.announcer = false) : Passes link .leased
  | clientGone (at_ : link.stage = .paired)
    (gone : PairingChannel.hasClient link.channel = false) : Passes link .listening

/-- Why a join is given up. -/
inductive JoinFails (link : Link μ β χ) : Prop
  /-- There is nothing to join. -/
  | noTarget (none_ : link.joinTarget = none)
  /-- The access point is not listed any more. -/
  | unlisted {target : JoinTarget} (wanted : link.joinTarget = some target)
    (absent : link.directory.find target.id = none)
  /-- It is down, and a rejection, a fresh failure or the time ended the wait. -/
  | refused {target : JoinTarget} {point : AccessPoint} (wanted : link.joinTarget = some target)
    (found : link.directory.find target.id = some point) (down : point.isConnected = false)
    (fault : target.rejected = true ∨
      (point.state = .failure ∧ target.staleFailure = false) ∨
      link.settings.joinTimeout ≤ link.elapsed)

/-- What a stage's work can do while the link is not lost. -/
inductive Works (link : Link μ β χ) : Link μ β χ → Prop
  | rests (why : Rests link) : Works link link
  | passes {next : Stage} (why : Passes link next) : Works link (link.enter next)
  | powerTimedOut (at_ : link.stage = .powering) (dark : link.technologies.wifiPowered = false)
    (late : link.settings.powerTimeout ≤ link.elapsed) :
    Works link ({ link with status := .fail }.enter .off)
  -- A search ends in results to wait for, or in the listing that is there.
  | searchImpossible (at_ : link.stage = .searching) (dark : link.technologies.wifiPath = none) :
    Works link
      ({ link with scanRequested := false, scanRejected := false, status := .fail }.enter .listed)
  | searchTaken {path : String} {manager : μ} (at_ : link.stage = .searching)
    (radio : link.technologies.wifiPath = some path)
    (taken : NetworkManager.submit link.manager (.scan path) = (.ok (), manager)) :
    Works link
      ({ link with scanRequested := false, scanRejected := false, manager, status := .ok }.enter
        .settling)
  | searchRefused {path : String} {error : ManagerError} {manager : μ}
    (at_ : link.stage = .searching) (radio : link.technologies.wifiPath = some path)
    (refused : NetworkManager.submit link.manager (.scan path) = (.error error, manager)) :
    Works link
      ({ link with scanRequested := false, scanRejected := false, manager, status := .fail }.enter
        .listed)
  | searchRejected (at_ : link.stage = .settling) (rejected : link.scanRejected = true) :
    Works link ({ link with scanRejected := false, status := .fail }.enter .listed)
  -- A join ends well, ends badly, or is still open.
  | joinFailed (at_ : link.stage = .joining) (why : JoinFails link) : Works link link.abandonJoin
  | joinSucceeded {target : JoinTarget} {point : AccessPoint} (at_ : link.stage = .joining)
    (wanted : link.joinTarget = some target)
    (found : link.directory.find target.id = some point) (connected : point.isConnected = true) :
    Works link
      ({ link with linkId := some target.id, joinTarget := none, status := .ok }.enter .joined)
  | joinPending {target : JoinTarget} {point : AccessPoint} (at_ : link.stage = .joining)
    (wanted : link.joinTarget = some target)
    (found : link.directory.find target.id = some point) (down : point.isConnected = false)
    (accepted : target.rejected = false)
    (stale : point.state = .failure → target.staleFailure = true)
    (early : link.elapsed < link.settings.joinTimeout) :
    Works link
      { link with
        joinTarget := some
          { target with staleFailure := target.staleFailure && point.state == .failure } }
  -- What opens a beacon or a socket keeps what the attempt left behind, even if it failed.
  | beaconOpened {announcer : β} (at_ : link.stage = .opening)
    (started : Announcer.start link.announcer link.beaconTarget = (.ok (), announcer)) :
    Works link ({ link with announcer }.enter .announced)
  | beaconFailed {error : BeaconError} {announcer : β} (at_ : link.stage = .opening)
    (failed : Announcer.start link.announcer link.beaconTarget = (.error error, announcer)) :
    Works link { link with announcer, status := .fail }.powerDown
  | channelOpened {channel : χ} (at_ : link.stage = .offering)
    (running : Announcer.isRunning link.announcer = true)
    (opened : PairingChannel.listen link.channel link.settings.pairingPort = (.ok (), channel)) :
    Works link ({ link with channel }.enter .listening)
  | channelFailed {error : ChannelError} {channel : χ} (at_ : link.stage = .offering)
    (running : Announcer.isRunning link.announcer = true)
    (failed : PairingChannel.listen link.channel link.settings.pairingPort =
      (.error error, channel)) :
    Works link { link with channel, status := .fail }
  -- A client is taken, or the socket has gone, or nobody is there.
  | clientTaken {peer : SocketAddress} {channel : χ} (at_ : link.stage = .listening)
    (running : Announcer.isRunning link.announcer = true)
    (accepted : PairingChannel.accept link.channel = (.ok (.accepted peer), channel)) :
    Works link ({ link with channel }.enter .paired)
  | channelGone {channel : χ} (at_ : link.stage = .listening)
    (running : Announcer.isRunning link.announcer = true)
    (gone : PairingChannel.accept link.channel = (.error .notListening, channel)) :
    Works link ({ link with channel }.enter .offering)
  | nobodyTaken {outcome : Except ChannelError AcceptOutcome} {channel : χ}
    (at_ : link.stage = .listening) (running : Announcer.isRunning link.announcer = true)
    (answered : PairingChannel.accept link.channel = (outcome, channel))
    (nobody : ∀ peer, outcome ≠ .ok (.accepted peer)) (open_ : outcome ≠ .error .notListening) :
    Works link { link with channel }

/-- Waiting for the radio ends when it is up or when its time is over. -/
theorem works_stepPowering {link : Link μ β χ} (at_ : link.stage = .powering) :
    Works link link.stepPowering := by
  -- The radio is looked at first, so a radio that comes up at the last moment still counts.
  unfold stepPowering
  split
  · rename_i lit
    exact .passes (.cameUp at_ lit)
  · rename_i dark
    have dark : link.technologies.wifiPowered = false := by simpa using dark
    split
    · rename_i late
      exact .powerTimedOut at_ dark late
    -- The radio is dark and may still take its time.
    · rename_i early
      exact .rests (.comingUp at_ dark (by omega))

/-- A search is handed to the manager, or the old listing stands. -/
theorem works_stepSearching {link : Link μ β χ} (at_ : link.stage = .searching) :
    Works link link.stepSearching := by
  unfold stepSearching
  cases radio : link.technologies.wifiPath with
  | none => simpa only [radio] using .searchImpossible at_ radio
  | some path =>
    -- The manager's answer decides which listing the link goes on with.
    rcases answered : NetworkManager.submit link.manager (.scan path) with ⟨_ | _, manager⟩
    · simpa only [radio, answered] using .searchRefused at_ radio answered
    · simpa only [radio, answered] using .searchTaken at_ radio answered

/-- Results come in until the search turns out rejected or its time is over. -/
theorem works_stepSettling {link : Link μ β χ} (at_ : link.stage = .settling) :
    Works link link.stepSettling := by
  -- A rejection ends the wait whatever the time says.
  unfold stepSettling
  split
  · rename_i rejected
    exact .searchRejected at_ rejected
  · rename_i accepted
    have accepted : link.scanRejected = false := by simpa using accepted
    split
    -- The time is over.
    · rename_i late
      exact .passes (.settled at_ accepted late)
    · rename_i early
      exact .rests (.settling at_ accepted (by omega))

/-- A listing is left for a connected access point first, and for a search second. -/
theorem works_stepListed {link : Link μ β χ} (at_ : link.stage = .listed) :
    Works link link.stepListed := by
  -- A connection that came up on its own goes before the search that was asked for.
  unfold stepListed
  split
  · rename_i connected
    exact .passes (.connectedMeanwhile at_ connected)
  · rename_i alone
    have alone : link.directory.connectedIndex = none := by simpa using alone
    split
    · rename_i wanted
      exact .passes (.askedAgain at_ alone wanted)
    -- Nothing came up and nothing was asked for.
    · rename_i quiet
      exact .rests (.listing at_ alone (by simpa using quiet))

/-- A join succeeds, fails or goes on, as its access point, the manager and the time say. -/
theorem works_stepJoining {link : Link μ β χ} (at_ : link.stage = .joining) :
    Works link link.stepJoining := by
  -- The target has to be there, listed and then connected.
  unfold stepJoining
  cases wanted : link.joinTarget with
  | none => exact .joinFailed at_ (.noTarget wanted)
  | some target =>
    cases found : link.directory.find target.id with
    | none => simpa only [found] using .joinFailed at_ (.unlisted wanted found)
    | some point =>
      simp only [found]
      split
      · rename_i connected
        exact .joinSucceeded at_ wanted found connected
      · rename_i down
        have down : point.isConnected = false := by simpa using down
        split
        · rename_i fault
          refine .joinFailed at_ (.refused wanted found down ?_)
          -- A fresh failure is one that the stale mark does not cover.
          simp only [Bool.or_eq_true, Bool.and_eq_true, beq_iff_eq, Bool.not_eq_true',
            Bool.and_eq_false_iff, decide_eq_true_eq] at fault
          grind
        · rename_i fine
          simp only [Bool.or_eq_true, Bool.and_eq_true, beq_iff_eq, Bool.not_eq_true',
            Bool.and_eq_false_iff, decide_eq_true_eq, not_or] at fine
          obtain ⟨⟨accepted, stale⟩, early⟩ := fine
          -- Nothing speaks against the join, so only the stale mark is brought up to date.
          refine .joinPending at_ wanted found down (by simpa using accepted) ?_ (by omega)
          intro failed
          grind

/-- Opening the beacon announces the link or gives it up. -/
theorem works_stepOpening {link : Link μ β χ} (at_ : link.stage = .opening) :
    Works link link.stepOpening := by
  -- Both outcomes keep the announcer as starting left it.
  unfold stepOpening
  rcases started : Announcer.start link.announcer link.beaconTarget with ⟨_ | _, announcer⟩
  · exact .beaconFailed at_ started
  · exact .beaconOpened at_ started

/-- Opening the channel succeeds or is left for the next tick. -/
theorem works_stepOffering {link : Link μ β χ} (at_ : link.stage = .offering)
    (running : Announcer.isRunning link.announcer = true) : Works link link.stepOffering := by
  -- A channel that does not open keeps the stage, so the next tick tries again.
  unfold stepOffering
  rcases opened : PairingChannel.listen link.channel link.settings.pairingPort with
    ⟨_ | _, channel⟩
  · exact .channelFailed at_ running opened
  · exact .channelOpened at_ running opened

/-- A waiting client is taken, or the channel turns out closed, or nobody comes. -/
theorem works_stepListening {link : Link μ β χ} (at_ : link.stage = .listening)
    (running : Announcer.isRunning link.announcer = true) : Works link link.stepListening := by
  -- By what the channel answers.
  unfold stepListening
  rcases answered : PairingChannel.accept link.channel with ⟨outcome, channel⟩
  split
  · -- Whoever waits is taken at once.
    rename_i peer _ taken
    cases taken
    exact .clientTaken at_ running answered
  · -- The socket was closed from outside and has to be opened again.
    rename_i gone
    cases gone
    exact .channelGone at_ running answered
  · -- Every other answer means nobody for now, errors included.
    rename_i other closed kept
    cases kept
    refine .nobodyTaken at_ running answered ?_ ?_
    · rintro peer rfl
      exact other peer rfl
    · rintro rfl
      exact closed rfl

/-- In a stage that relies on the beacon, its work is done only while the beacon runs. -/
theorem works_whileAnnouncing {link : Link μ β χ} {work : Link μ β χ → Link μ β χ}
    (at_ : link.stage = .visible ∨ link.stage = .offering ∨ link.stage = .listening)
    (works : Announcer.isRunning link.announcer = true → Works link (work link)) :
    Works link (link.whileAnnouncing work) := by
  -- Only the beacon decides here; what the work does is settled by its own law.
  unfold whileAnnouncing
  split
  · rename_i running
    exact works running
  · rename_i stopped
    exact .passes (.silenced at_ (by simpa using stopped))

/-- The list of a stage's possible work is complete. -/
theorem works_stepStage (link : Link μ β χ) : Works link link.stepStage := by
  -- One case for each stage; the stages with an outcome to await have laws of their own above.
  unfold stepStage
  split
  case h_1 at_ => exact .rests (.unused at_)
  case h_2 at_ => exact .rests (.ended at_)
  case h_3 at_ => exact works_stepPowering at_
  -- A device that is connected already needs no search.
  case h_4 at_ =>
    split
    · rename_i connected
      exact .passes (.foundJoined at_ connected)
    · rename_i alone
      exact .passes (.foundAlone at_ (by simpa using alone))
  case h_5 at_ =>
    split
    · rename_i wanted
      exact .passes (.asked at_ (by simpa using wanted))
    · rename_i quiet
      have quiet : link.scanRequested = false ∧ link.settings.autoScan = false := by
        simpa using quiet
      exact .rests (.unasked at_ quiet.1 quiet.2)
  case h_6 at_ => exact works_stepSearching at_
  case h_7 at_ => exact works_stepSettling at_
  case h_8 at_ => exact works_stepListed at_
  case h_9 at_ => exact works_stepJoining at_
  -- The stage is left once the access point has given an address.
  case h_10 at_ =>
    split
    · rename_i lease
      exact .passes (.leased at_ lease)
    · rename_i bare
      exact .rests (.unleased at_ (by simpa using bare))
  case h_11 at_ => exact .passes (.prepared at_)
  case h_12 at_ => exact works_stepOpening at_
  case h_13 at_ =>
    split
    · rename_i late
      exact .passes (.graceOver at_ late)
    · rename_i early
      exact .rests (.announcing at_ (by omega))
  case h_14 at_ =>
    exact works_whileAnnouncing (.inl at_) fun running => .passes (.shown at_ running)
  case h_15 at_ =>
    exact works_whileAnnouncing (.inr (.inl at_)) fun running => works_stepOffering at_ running
  case h_16 at_ =>
    exact works_whileAnnouncing (.inr (.inr at_)) fun running => works_stepListening at_ running
  -- The channel tells whether the client is still there.
  case h_17 at_ =>
    split
    · rename_i client
      exact .rests (.serving at_ client)
    · rename_i gone
      exact .passes (.clientGone at_ (by simpa using gone))

/--
A step gives a lost link up, or does its stage's work; a link that is not lost has an access point
that carries it.
-/
theorem step_cases (link : Link μ β χ) :
    (link.stage.hasLink = true ∧ link.carrier = none ∧
      link.step = { link.release with linkId := none }.enter .listed) ∨
    ((link.stage.hasLink = true → link.carrier.isSome = true) ∧ Works link link.step) := by
  -- Losing the access point is checked before the stage gets to work.
  unfold step
  split
  · rename_i lost
    have lost : link.stage.hasLink = true ∧ link.carrier = none := by simpa using lost
    exact .inl ⟨lost.1, lost.2, rfl⟩
  · rename_i held
    refine .inr ⟨fun up => ?_, works_stepStage link⟩
    have held : link.stage.hasLink = true → link.carrier ≠ none := by simpa using held
    exact Option.isSome_iff_ne_none.mpr (held up)

end Link

end CompanionLink
