import CompanionLink.Manager

/-! The registered technologies, at most one of each kind, and the power of the wifi radio. -/

namespace CompanionLink

/-- Why the power of the wifi radio was not changed. -/
inductive PowerError where
  | noWifi
  /-- The radio is off already. -/
  | alreadyOff
  | manager (error : ManagerError)
deriving DecidableEq, Repr, Inhabited

/-- The text of a power error. -/
def PowerError.message : PowerError → String
  | .noWifi => "no wifi technology registered"
  | .alreadyOff => "wifi is already powered off"
  | .manager error => error.message

/-- What a notification meant for the technologies. -/
inductive TechnologyChange where
  /-- It was about none of them, or told nothing new. -/
  | unchanged
  /-- Something changed, but the wifi radio did not lose power. -/
  | updated
  /-- The wifi radio was powered and is not any more. -/
  | wifiPowerLost
deriving DecidableEq, Repr, Inhabited

/-- The registered technologies. -/
structure Technologies where
  wifi : Option Technology := none
  ethernet : Option Technology := none
deriving DecidableEq, Repr, Inhabited

namespace Technologies

/-- Whether any technology is registered. -/
def present (technologies : Technologies) : Bool :=
  technologies.wifi.isSome || technologies.ethernet.isSome

/-- Whether a wifi technology is registered and powered. -/
def wifiPowered (technologies : Technologies) : Bool :=
  technologies.wifi.any fun wifi => wifi.powered

/-- The manager's name for the wifi technology. -/
def wifiPath (technologies : Technologies) : Option String :=
  technologies.wifi.map fun wifi => wifi.path

/-- Whether a technology is the one that a path names. -/
def named (path : String) (slot : Option Technology) : Bool :=
  -- An empty slot has no path.
  slot.any fun technology => technology.path == path

/-- Whether a path names a registered technology. -/
def owns (technologies : Technologies) (path : String) : Bool :=
  named path technologies.wifi || named path technologies.ethernet

/-- A technology was registered; it takes the place of one of the same kind. -/
def added (technologies : Technologies) (technology : Technology) :
    TechnologyChange × Technologies :=
  match technology.kind with
  | .wifi =>
    -- A dark radio in place of a powered one is a loss, though nothing was switched.
    (if technologies.wifiPowered && !technology.powered then .wifiPowerLost else .updated,
      { technologies with wifi := some technology })
  | .ethernet => (.updated, { technologies with ethernet := some technology })

/-- The technology that a path names was withdrawn. -/
def removed (technologies : Technologies) (path : String) : TechnologyChange × Technologies :=
  if named path technologies.wifi then
    -- Only what was powered can be lost.
    (if technologies.wifiPowered then .wifiPowerLost else .updated,
      { technologies with wifi := none })
  else if named path technologies.ethernet then
    (.updated, { technologies with ethernet := none })
  else (.unchanged, technologies)

/-- Powers a registered technology on or off and tells what that means. -/
def switchSlot (slot : Option Technology) (on : Bool) : TechnologyChange × Option Technology :=
  match slot with
  | none => (.unchanged, none)
  | some technology =>
    -- Only a wifi radio that goes dark takes links with it.
    (if technology.powered == on then .unchanged
      else if technology.kind == .wifi && !on then .wifiPowerLost
      else .updated,
      some { technology with powered := on })

/-- The technology that a path names was powered on or off; wifi goes first if both have it. -/
def switched (technologies : Technologies) (path : String) (on : Bool) :
    TechnologyChange × Technologies :=
  if named path technologies.wifi then
    let (change, wifi) := switchSlot technologies.wifi on
    (change, { technologies with wifi })
  else if named path technologies.ethernet then
    let (change, ethernet) := switchSlot technologies.ethernet on
    (change, { technologies with ethernet })
  else (.unchanged, technologies)

/-- Takes a notification; one about access points changes nothing. -/
def apply (technologies : Technologies) : Notification → TechnologyChange × Technologies
  | .technologyAdded technology => technologies.added technology
  | .technologyRemoved path => technologies.removed path
  | .powered path on => technologies.switched path on
  -- Everything else that the manager reports is about access points.
  | _ => (.unchanged, technologies)

variable {μ : Type} [NetworkManager μ]

/--
Asks the manager to power the wifi radio on or off. Powering on a radio that is on succeeds
without a request, powering off one that is off is an error. The radio counts as switched as soon
as the manager took the request.
-/
def setWifiPower (technologies : Technologies) (manager : μ) (on : Bool) :
    Except PowerError Unit × Technologies × μ :=
  match technologies.wifi with
  | none => (.error .noWifi, technologies, manager)
  | some wifi =>
    if wifi.powered == on then
      -- Nothing is asked of the manager when the radio is as wanted already.
      (if on then .ok () else .error .alreadyOff, technologies, manager)
    else
      match NetworkManager.submit manager (.setPowered wifi.path on) with
      | (.error error, manager) => (.error (.manager error), technologies, manager)
      | (.ok (), manager) =>
        (.ok (), { technologies with wifi := some { wifi with powered := on } }, manager)

end Technologies

end CompanionLink
