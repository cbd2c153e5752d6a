import CompanionLink.Manager

/-!
A network manager that holds prepared lists, writes down every call and can be told to fail. Its
notifications are handed in from outside and wait for the subscriber.
-/

namespace CompanionLink

/-- A call written down. -/
inductive ManagerCall where
  | subscribe
  | unsubscribe
  | request (request : Request)
deriving DecidableEq, Repr, Inhabited

/-- Why a notification could not be handed in. -/
inductive EmitError where
  /-- Nobody has subscribed. -/
  | notSubscribed
  /-- The subscriber has thrown its queue away. -/
  | queueDropped
deriving DecidableEq, Repr, Inhabited

/-- The text of an emit error. -/
def EmitError.message : EmitError → String
  | .notSubscribed => "RecordingManager::emit called without a live subscription"
  | .queueDropped => "subscriber dropped its receiver: SendError \x7b .. \x7d"

/-- The state of the prepared manager. -/
structure ManagerDouble where
  technologies : List Technology := []
  accessPoints : List Report := []
  /-- Every call, oldest first. -/
  calls : List ManagerCall := []
  /-- The kinds of request that are rejected. -/
  failing : List RequestKind := []
  /-- Whether listing and subscribing fail. -/
  unavailable : Bool := false
  /-- Whether listing the technologies fails. -/
  failsTechnologies : Bool := false
  /-- Whether listing the access points fails. -/
  failsAccessPoints : Bool := false
  /-- Whether dispatching fails. -/
  failsDispatch : Bool := false
  /-- Whether there is a live subscription. -/
  subscribed : Bool := false
  /-- The subscriber's queue, none before the first subscription or when it was thrown away. -/
  queue : Option (List Notification) := none
deriving DecidableEq, Repr, Inhabited

namespace ManagerDouble

/-- The manager's name for a prepared technology. -/
def technologyPath : TechnologyKind → String
  | .wifi => "/net/connman/technology/wifi"
  | .ethernet => "/net/connman/technology/ethernet"

/-- Prepares one more technology. -/
def withTechnology (manager : ManagerDouble) (kind : TechnologyKind) (powered : Bool) :
    ManagerDouble :=
  { manager with
    technologies := manager.technologies ++ [{ path := technologyPath kind, kind, powered }] }

/-- Prepares one more access point. -/
def withAccessPoint (manager : ManagerDouble) (report : Report) : ManagerDouble :=
  { manager with accessPoints := manager.accessPoints ++ [report] }

/-- Lets every later request of a kind fail, or not any more. -/
def setFailing (manager : ManagerDouble) (kind : RequestKind) (fails : Bool) : ManagerDouble :=
  -- A kind is never listed twice.
  let others := manager.failing.filter fun other => other != kind
  { manager with failing := if fails then kind :: others else others }

/-- Writes a call down. -/
def record (manager : ManagerDouble) (call : ManagerCall) : ManagerDouble :=
  { manager with calls := manager.calls ++ [call] }

/-- Forgets the calls written down. -/
def clearCalls (manager : ManagerDouble) : ManagerDouble := { manager with calls := [] }

/-- The error of listing or subscribing while the manager is unavailable. -/
def marked : ManagerError := .unavailable "mock marked unavailable"

/-- The prepared technologies. -/
def listTechnologies (manager : ManagerDouble) : Except ManagerError (List Technology) :=
  -- A failure prepared for this listing goes before the one for all.
  if manager.failsTechnologies then .error (.unavailable "injected technologies failure")
  else if manager.unavailable then .error marked
  else .ok manager.technologies

/-- The prepared access points. -/
def listAccessPoints (manager : ManagerDouble) : Except ManagerError (List Report) :=
  if manager.failsAccessPoints then .error (.unavailable "injected services failure")
  else if manager.unavailable then .error marked
  else .ok manager.accessPoints

/-- Starts a subscription with an empty queue. -/
def subscribe (manager : ManagerDouble) : Except ManagerError ManagerDouble :=
  if manager.unavailable then .error marked
  else if manager.subscribed then .error .alreadySubscribed
  -- Nothing of an earlier subscription's queue is kept.
  else .ok ({ manager with subscribed := true, queue := some [] }.record .subscribe)

/-- Ends the subscription, if there is one; what is queued can still be taken. -/
def unsubscribe (manager : ManagerDouble) : ManagerDouble :=
  if manager.subscribed then { manager with subscribed := false }.record .unsubscribe else manager

/-- Throws the subscriber's queue away. -/
def dropQueue (manager : ManagerDouble) : ManagerDouble := { manager with queue := none }

/-- Hands a notification in for the subscriber. -/
def emit (manager : ManagerDouble) (notification : Notification) :
    Except EmitError ManagerDouble :=
  if !manager.subscribed then .error .notSubscribed
  else
    match manager.queue with
    -- A subscriber that threw its queue away is not told anything.
    | none => .error .queueDropped
    | some queue => .ok { manager with queue := some (queue ++ [notification]) }

/-- Takes everything queued. -/
def takeNotifications (manager : ManagerDouble) : List Notification × ManagerDouble :=
  match manager.queue with
  | none => ([], manager)
  | some queue => (queue, { manager with queue := some [] })

/-- Dispatching does nothing, since notifications are queued when they are handed in. -/
def dispatch (manager : ManagerDouble) : Except ManagerError Unit × ManagerDouble :=
  (if manager.failsDispatch then .error (.unavailable "injected dispatch failure") else .ok (),
    manager)

/-- Writes a request down and rejects it if its kind is to fail. -/
def submit (manager : ManagerDouble) (request : Request) :
    Except ManagerError Unit × ManagerDouble :=
  (if manager.failing.contains request.kind then
      .error (.rejected request.kind request.object "injected failure")
    else .ok (),
    -- Rejected or not, the request was made.
    manager.record (.request request))

/-- The prepared manager stands for a real one. -/
instance : NetworkManager ManagerDouble where
  technologies := listTechnologies
  accessPoints := listAccessPoints
  subscribe := subscribe
  unsubscribe := unsubscribe
  dispatch := dispatch
  takeNotifications := takeNotifications
  submit := submit

end ManagerDouble

end CompanionLink
