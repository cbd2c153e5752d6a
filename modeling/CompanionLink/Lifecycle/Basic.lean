import CompanionLink.Beacon.Announcer
import CompanionLink.Directory
import CompanionLink.Lifecycle.Stage
import CompanionLink.Pairing.Channel
import CompanionLink.Technologies

/-!
The link of the device: its manager, announcer and channel, what is known of the networks, and the
stage it is in. This module starts and shuts down a link and moves it between stages.
-/

namespace CompanionLink

/-- The access point that is being joined. -/
structure JoinTarget where
  id : String
  /-- Whether the failure it shows is one of an earlier attempt. -/
  staleFailure : Bool
  /-- Whether the manager rejected the join after taking it over. -/
  rejected : Bool := false
deriving DecidableEq, Repr, Inhabited

/-- A link over a manager, an announcer and a channel. -/
structure Link (μ β χ : Type) where
  manager : μ
  announcer : β
  channel : χ
  settings : LinkSettings
  technologies : Technologies := {}
  directory : Directory := {}
  /-- How the last operation or background step came out. -/
  status : Status := .ok
  stage : Stage := .off
  /-- The time since the stage was entered, in milliseconds. -/
  elapsed : Nat := 0
  /-- Whether a search was requested that has not begun. -/
  scanRequested : Bool := false
  /-- Whether the manager rejected the search after taking it over. -/
  scanRejected : Bool := false
  joinTarget : Option JoinTarget := none
  /-- The access point that the link was joined on. -/
  linkId : Option String := none
deriving DecidableEq, Repr

/-- Why a link could not be started, and the manager as it was left. -/
structure StartFailure (μ : Type) where
  error : ManagerError
  manager : μ
deriving DecidableEq, Repr

/-- The text of a start failure. -/
def StartFailure.message {μ : Type} (failure : StartFailure μ) : String :=
  "network manager unavailable at startup: " ++ failure.error.message

namespace Link

variable {μ β χ : Type} [NetworkManager μ] [Announcer β] [PairingChannel χ]

/-- The technologies after several were registered one after the other. -/
def registerAll (technologies : List Technology) : Technologies :=
  -- A later technology of the same kind takes the place of an earlier one.
  technologies.foldl (fun registered technology => (registered.added technology).2) {}

/--
Subscribes to the manager and takes over what it lists. No subscription stays behind when a
listing fails.
-/
def start (manager : μ) (announcer : β) (channel : χ) (settings : LinkSettings) :
    Except (StartFailure μ) (Link μ β χ) :=
  -- The subscription comes first, so nothing that changes during the listings is missed.
  match NetworkManager.subscribe manager with
  | .error error => .error ⟨error, manager⟩
  | .ok manager =>
    match NetworkManager.technologies manager with
    | .error error => .error ⟨error, NetworkManager.unsubscribe manager⟩
    | .ok technologies =>
      match NetworkManager.accessPoints manager with
      | .error error => .error ⟨error, NetworkManager.unsubscribe manager⟩
      | .ok reports =>
        .ok
          { manager, announcer, channel, settings
            technologies := registerAll technologies
            directory := (Directory.applyChanges {} reports []).2 }

/-- Enters a stage, where the time starts anew. -/
def enter (link : Link μ β χ) (stage : Stage) : Link μ β χ := { link with stage, elapsed := 0 }

/-- Stops announcing, and drops the client and the listening socket. -/
def release (link : Link μ β χ) : Link μ β χ :=
  { link with
    announcer := Announcer.stop link.announcer
    channel := PairingChannel.shutdown link.channel }

/-- Gives up the link, everything requested and everything joined, because the radio is off. -/
def powerDown (link : Link μ β χ) : Link μ β χ :=
  -- A link that comes up again begins with nothing from before.
  { link.release with
    scanRequested := false, scanRejected := false, joinTarget := none, linkId := none }.enter .off

/--
The access point that carries the link: the joined one while it stays connected, otherwise the
first connected one.
-/
def carrier (link : Link μ β χ) : Option AccessPoint :=
  -- A joined access point that lost its link does not carry it, though it is still listed.
  ((link.linkId.bind link.directory.find).filter AccessPoint.isConnected).or
    link.directory.firstConnected

/-- Where announcements of this link belong. -/
def beaconTarget (link : Link μ β χ) : Ipv4Address :=
  ((link.carrier.bind fun point => point.lease).bind Lease.broadcast).getD
    link.settings.fallbackTarget

/-- Ends an operation with a status, which it also reports. -/
def finish (link : Link μ β χ) (status : Status) : Status × Link μ β χ :=
  (status, { link with status })

/-- Releases everything that the link holds, for good. -/
def shutdown (link : Link μ β χ) : Link μ β χ :=
  if link.stage = .closed then link
  else
    { link.release with
      manager := NetworkManager.unsubscribe link.manager
      directory := link.directory.clear
      -- A closed link knows nothing any more and takes no further work.
      technologies := {}
      scanRequested := false, joinTarget := none, linkId := none }.enter .closed

end Link

end CompanionLink
