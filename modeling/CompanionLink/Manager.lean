import CompanionLink.AccessPoint

/-!
What is asked of the service that manages the device's networks, and what that service reports.
Requests are only handed over; their late failures and all changes arrive as notifications.
-/

namespace CompanionLink

/-- A class of network interface that is tracked. -/
inductive TechnologyKind where
  | wifi
  | ethernet
deriving DecidableEq, Repr, Inhabited

/-- Reads the manager's word for a kind of interface; other kinds are not tracked. -/
def TechnologyKind.ofText? : String → Option TechnologyKind
  | "wifi" => some .wifi
  | "ethernet" => some .ethernet
  | _ => none

/-- A network technology that the manager has registered. -/
structure Technology where
  /-- The manager's name for it. -/
  path : String
  kind : TechnologyKind
  powered : Bool
deriving DecidableEq, Repr, Inhabited

/-- A request to the network manager. -/
inductive Request where
  | setPowered (path : String) (on : Bool)
  | scan (path : String)
  | join (id : String)
  | forget (id : String)
  | moveBefore (id anchor : String)
  | moveAfter (id anchor : String)
deriving DecidableEq, Repr, Inhabited

/-- A kind of request. -/
inductive RequestKind where
  | setPowered
  | scan
  | join
  | forget
  | moveBefore
  | moveAfter
deriving DecidableEq, Repr, Inhabited

namespace RequestKind

/-- The name of a kind of request in error texts. -/
def name : RequestKind → String
  | .setPowered => "set_technology_powered"
  | .scan => "scan_technology"
  | .join => "connect_service"
  | .forget => "remove_service"
  | .moveBefore => "move_service_before"
  | .moveAfter => "move_service_after"

/-- The kind of request that has a name. -/
def ofName? (name : String) : Option RequestKind :=
  [.setPowered, .scan, .join, .forget, .moveBefore, .moveAfter].find? fun kind => kind.name == name

end RequestKind

namespace Request

/-- The kind of a request. -/
def kind : Request → RequestKind
  | .setPowered .. => .setPowered
  | .scan _ => .scan
  | .join _ => .join
  | .forget _ => .forget
  | .moveBefore .. => .moveBefore
  | .moveAfter .. => .moveAfter

/-- The technology or access point that a request is about. -/
def object : Request → String
  | .setPowered path _ | .scan path => path
  | .join id | .forget id | .moveBefore id _ | .moveAfter id _ => id

end Request

/-- Why the manager refused to answer or to take a request. -/
inductive ManagerError where
  /-- The manager cannot be reached. -/
  | unavailable (reason : String)
  /-- The manager rejected a request. -/
  | rejected (kind : RequestKind) (object reason : String)
  /-- There is a subscription already. -/
  | alreadySubscribed
deriving DecidableEq, Repr, Inhabited

/-- The text of a manager error. -/
def ManagerError.message : ManagerError → String
  | .unavailable reason => "network manager unavailable: " ++ reason
  | .rejected kind object reason => kind.name ++ " on " ++ object ++ " failed: " ++ reason
  | .alreadySubscribed => "already subscribed to manager notifications"

/-- What the network manager reports to its subscriber. -/
inductive Notification where
  | technologyAdded (technology : Technology)
  | technologyRemoved (path : String)
  /-- A technology was powered on or off. -/
  | powered (path : String) (on : Bool)
  /-- A batch of changes: the access points in the manager's order, and those gone. -/
  | accessPointsChanged (changed : List Report) (removed : List String)
  | propertyChanged (id : String) (property : Property)
  /-- A scan that had been taken over was rejected. -/
  | scanFailed (path reason : String)
  /-- A join that had been taken over was rejected. -/
  | joinFailed (id reason : String)
deriving DecidableEq, Repr, Inhabited

/-- A network manager as the device uses it. -/
class NetworkManager (μ : Type) where
  /-- The registered technologies. -/
  technologies : μ → Except ManagerError (List Technology)
  /-- The access points in the manager's order, with all their properties. -/
  accessPoints : μ → Except ManagerError (List Report)
  /-- Starts the delivery of notifications; only one subscription lives at a time. -/
  subscribe : μ → Except ManagerError μ
  /-- Ends the delivery of notifications. -/
  unsubscribe : μ → μ
  /-- Lets the manager deliver what it has to report. -/
  dispatch : μ → Except ManagerError Unit × μ
  /-- Takes the delivered notifications, oldest first. -/
  takeNotifications : μ → List Notification × μ
  /-- Hands a request over. -/
  submit : μ → Request → Except ManagerError Unit × μ

end CompanionLink
