import CompanionLink.Lifecycle.Basic

/-!
One tick of the clock: the manager's notifications are taken in, the beacon's time passes, and at
most one stage's worth of work is done.
-/

namespace CompanionLink

namespace Link

variable {μ β χ : Type} [NetworkManager μ] [Announcer β] [PairingChannel χ]

/-- The manager rejected a join that it had taken over; it counts if that join is going on. -/
def noteJoinFailed (link : Link μ β χ) (id : String) : Link μ β χ :=
  { link with
    joinTarget := link.joinTarget.map fun target =>
      if target.id == id then { target with rejected := true } else target }

/-- A technology came, went or was switched. A lost radio takes the link down once it was up. -/
def noteTechnology (link : Link μ β χ) (notification : Notification) : Link μ β χ :=
  let (change, technologies) := link.technologies.apply notification
  let link := { link with technologies }
  -- Before the radio is up there is nothing to take down; the time it may take decides.
  if change = .wifiPowerLost ∧ link.stage ≠ .off ∧ link.stage ≠ .powering then link.powerDown
  else link

/-- Takes one notification in. -/
def note (link : Link μ β χ) (notification : Notification) : Link μ β χ :=
  match notification with
  | .accessPointsChanged changed removed =>
    { link with directory := (link.directory.applyChanges changed removed).2 }
  | .propertyChanged id property =>
    { link with directory := (link.directory.applyProperty id property).2 }
  -- Rejections are marked here and acted on by the stage that waits for the outcome.
  | .scanFailed _ _ => { link with scanRejected := true }
  | .joinFailed id _ => link.noteJoinFailed id
  | .technologyAdded _ | .technologyRemoved _ | .powered _ _ => link.noteTechnology notification

/-- Lets the manager deliver, and takes everything delivered in, also after a failed dispatch. -/
def drain (link : Link μ β χ) : Link μ β χ :=
  let (_, manager) := NetworkManager.dispatch link.manager
  let (delivered, manager) := NetworkManager.takeNotifications manager
  -- Each notification finds what those before it left.
  delivered.foldl note { link with manager }

/-- Lets the beacon's time pass, in the stages where announcements go out at intervals. -/
def tickBeacon (link : Link μ β χ) (elapsed : Nat) : Link μ β χ :=
  if link.stage.isVisible then
    match Announcer.tick link.announcer elapsed with
    | (.ok _, announcer) => { link with announcer }
    -- The beacon stopped itself, which the stage's work finds out.
    | (.error _, announcer) => { link with announcer, status := .fail }
  else link

/-- Waits for the radio to come up. -/
def stepPowering (link : Link μ β χ) : Link μ β χ :=
  if link.technologies.wifiPowered then link.enter .powered
  -- The radio had its time, counted from the request.
  else if link.settings.powerTimeout ≤ link.elapsed then { link with status := .fail }.enter .off
  else link

/-- Requests a search from the manager. -/
def stepSearching (link : Link μ β χ) : Link μ β χ :=
  -- Requests and rejections from before this search are spent.
  let link := { link with scanRequested := false, scanRejected := false }
  match link.technologies.wifiPath with
  -- There is no radio to search with, so the old listing stands.
  | none => { link with status := .fail }.enter .listed
  | some path =>
    match NetworkManager.submit link.manager (.scan path) with
    | (.ok (), manager) => { link with manager, status := .ok }.enter .settling
    | (.error _, manager) => { link with manager, status := .fail }.enter .listed

/-- Waits for the results of a search. -/
def stepSettling (link : Link μ β χ) : Link μ β χ :=
  -- A rejected search brings no results to wait for.
  if link.scanRejected then { link with scanRejected := false, status := .fail }.enter .listed
  else if link.settings.searchSettle ≤ link.elapsed then link.enter .listed
  else link

/-- Goes on to an access point that is connected already, or to a requested search. -/
def stepListed (link : Link μ β χ) : Link μ β χ :=
  -- A link that is up needs no search.
  if link.directory.connectedIndex.isSome then link.enter .joined
  else if link.scanRequested then link.enter .searching
  else link

/-- Gives a join up. -/
def abandonJoin (link : Link μ β χ) : Link μ β χ :=
  { link with joinTarget := none, status := .fail }.enter .listed

/-- Waits for a join to succeed or fail. -/
def stepJoining (link : Link μ β χ) : Link μ β χ :=
  match link.joinTarget with
  | none => link.abandonJoin
  | some target =>
    match link.directory.find target.id with
    -- The access point is no longer listed.
    | none => link.abandonJoin
    | some point =>
      -- A link that is up wins over every fault reported with it.
      if point.isConnected then
        { link with linkId := some target.id, joinTarget := none, status := .ok }.enter .joined
      else
        -- A failure counts as fresh once the access point was seen to have left the stale one.
        let staleFailure := target.staleFailure && point.state == .failure
        if target.rejected || (point.state == .failure && !staleFailure)
            || link.settings.joinTimeout ≤ link.elapsed then
          link.abandonJoin
        else { link with joinTarget := some { target with staleFailure } }

/-- Opens the beacon towards the subnet of the link. -/
def stepOpening (link : Link μ β χ) : Link μ β χ :=
  match Announcer.start link.announcer link.beaconTarget with
  | (.ok (), announcer) => { link with announcer }.enter .announced
  -- Without announcements nobody finds the device.
  | (.error _, announcer) => { link with announcer, status := .fail }.powerDown

/-- Opens the pairing channel; a failure is tried again on the next tick. -/
def stepOffering (link : Link μ β χ) : Link μ β χ :=
  match PairingChannel.listen link.channel link.settings.pairingPort with
  | (.ok (), channel) => { link with channel }.enter .listening
  | (.error _, channel) => { link with channel, status := .fail }

/-- Takes a waiting client. -/
def stepListening (link : Link μ β χ) : Link μ β χ :=
  match PairingChannel.accept link.channel with
  | (.ok (.accepted _), channel) => { link with channel }.enter .paired
  -- The channel was shut down from outside, so it is to be opened again.
  | (.error .notListening, channel) => { link with channel }.enter .offering
  -- Nobody waits, or the attempt failed: the next tick tries again.
  | (_, channel) => { link with channel }

/-- Does a stage's work in the stages that rely on a running beacon. -/
def whileAnnouncing (link : Link μ β χ) (work : Link μ β χ → Link μ β χ) : Link μ β χ :=
  if Announcer.isRunning link.announcer then work link else link.enter .leased

/-- The work of a stage, while the link is not lost. -/
def stepStage (link : Link μ β χ) : Link μ β χ :=
  match link.stage with
  | .off | .closed => link
  | .powering => link.stepPowering
  -- The radio may come up with a link that the manager made by itself.
  | .powered => link.enter (if link.directory.connectedIndex.isSome then .joined else .ready)
  | .ready =>
    if link.scanRequested || link.settings.autoScan then link.enter .searching else link
  | .searching => link.stepSearching
  | .settling => link.stepSettling
  | .listed => link.stepListed
  | .joining => link.stepJoining
  | .joined =>
    if (link.carrier.bind fun point => point.lease).isSome then link.enter .leased else link
  | .leased => link.enter .opening
  | .opening => link.stepOpening
  | .announced =>
    if link.settings.announceGrace ≤ link.elapsed then link.enter .visible else link
  | .visible => link.whileAnnouncing fun link => link.enter .offering
  | .offering => link.whileAnnouncing stepOffering
  | .listening => link.whileAnnouncing stepListening
  -- A client that is gone makes room for the next one.
  | .paired =>
    if PairingChannel.hasClient link.channel then link else link.enter .listening

/-- Goes back to the listing when no access point carries the link any more. -/
def step (link : Link μ β χ) : Link μ β χ :=
  -- The loss of the link goes before the work of every stage.
  if link.stage.hasLink && link.carrier.isNone then
    { link.release with linkId := none }.enter .listed
  else link.stepStage

/-- Lets milliseconds pass. -/
def tick (link : Link μ β χ) (elapsed : Nat) : Link μ β χ :=
  if link.stage = .closed then link
  -- The time counts first, then what has happened, and the work sees both.
  else (({ link with elapsed := link.elapsed + elapsed }.drain).tickBeacon elapsed).step

end Link

end CompanionLink
