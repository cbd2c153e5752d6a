import CompanionLink.Net.Address

/-! An access point as the network manager reports it, property by property. -/

namespace CompanionLink

/-- How far the link to an access point has come. -/
inductive AccessPointState where
  | idle
  | failure
  | association
  | configuration
  | ready
  | disconnect
  | online
deriving DecidableEq, Repr, Inhabited

namespace AccessPointState

/-- Reads the manager's word for a state; an unknown word means idle. -/
def ofText (word : String) : AccessPointState :=
  match word with
  | "failure" => .failure
  | "association" => .association
  | "configuration" => .configuration
  | "ready" => .ready
  | "disconnect" => .disconnect
  | "online" => .online
  -- A newer manager may have words for states that are not known here.
  | _ => .idle

/-- Whether the link is up. -/
def isConnected : AccessPointState → Bool
  -- A lease comes with `ready`, a way out to the internet with `online`; either is a link.
  | .ready | .online => true
  | _ => false

end AccessPointState

/-- The address that an access point has leased to the device. -/
structure Lease where
  address : Ipv4Address
  netmask : Option Ipv4Address := none
deriving DecidableEq, Repr, Inhabited

/-- The broadcast address of the leased subnet, where its netmask is known. -/
def Lease.broadcast (lease : Lease) : Option Ipv4Address :=
  lease.netmask.map lease.address.directedBroadcast

/-- One reported property of an access point. -/
inductive Property where
  | name (name : String)
  | security (modes : List String)
  | favorite (favorite : Bool)
  | state (state : AccessPointState)
  | lease (lease : Option Lease)
  | mac (mac : String)
deriving DecidableEq, Repr, Inhabited

/-- An access point of a report, with the properties that it gives. -/
structure Report where
  id : String
  properties : List Property := []
deriving DecidableEq, Repr, Inhabited

/-- What a listing shows beside an access point, one bit for each mark. -/
structure Flags where
  bits : UInt8 := 0
deriving DecidableEq, Repr, Inhabited

namespace Flags

/-- The mark of every listed access point. -/
def visible : UInt8 := 1

/-- The mark of an access point whose link is up. -/
def connected : UInt8 := 2

/-- The mark of an access point with WPA2 security. -/
def wpa2 : UInt8 := 4

/-- The mark of an access point whose credentials are stored. -/
def known : UInt8 := 8

/-- Whether every bit of `mark` is set. -/
def contains (flags : Flags) (mark : UInt8) : Bool := flags.bits &&& mark == mark

/-- The flags with `mark` set as well, where `on` holds. -/
def addIf (flags : Flags) (on : Bool) (mark : UInt8) : Flags :=
  -- Setting a bit that is set already leaves the flags as they are.
  if on then ⟨flags.bits ||| mark⟩ else flags

end Flags

/-- One access point. -/
structure AccessPoint where
  /-- The manager's name for it. -/
  id : String
  /-- The network's name, empty for a hidden one. -/
  name : String := ""
  security : List String := []
  /-- Whether the manager holds credentials for it. -/
  favorite : Bool := false
  state : AccessPointState := .idle
  lease : Option Lease := none
  /-- The hardware address of the interface that carries it. -/
  mac : Option String := none
deriving DecidableEq, Repr, Inhabited

namespace AccessPoint

/-- Whether the link to the access point is up. -/
def isConnected (point : AccessPoint) : Bool := point.state.isConnected

/-- The access point with one property as reported. -/
def set (point : AccessPoint) : Property → AccessPoint
  | .name name => { point with name }
  | .security security => { point with security }
  | .favorite favorite => { point with favorite }
  | .state state => { point with state }
  | .lease lease => { point with lease }
  | .mac mac => { point with mac := some mac }

/-- Whether a reported property differs from the one held. -/
def differsIn (point : AccessPoint) : Property → Bool
  | .name name => point.name != name
  | .security security => point.security != security
  | .favorite favorite => point.favorite != favorite
  | .state state => point.state != state
  | .lease lease => point.lease != lease
  | .mac mac => point.mac != some mac

/-- Takes one reported property and tells whether it changed anything. -/
def apply (point : AccessPoint) (property : Property) : Bool × AccessPoint :=
  (point.differsIn property, point.set property)

/-- Takes reported properties in order and tells whether any of them changed anything. -/
def applyAll (point : AccessPoint) : List Property → Bool × AccessPoint
  | [] => (false, point)
  | property :: later =>
    let (changed, point) := point.apply property
    -- A later property may undo an earlier one, and both count as changes.
    let (changedLater, point) := point.applyAll later
    (changed || changedLater, point)

/-- Whether the access point asks for a pre-shared key or for 802.1X. -/
def isWpa2 (point : AccessPoint) : Bool :=
  point.security.any fun mode => mode == "psk" || mode == "ieee8021x"

/-- What a listing shows beside the access point. -/
def flags (point : AccessPoint) : Flags :=
  ((Flags.mk Flags.visible |>.addIf point.isConnected Flags.connected)
    |>.addIf point.isWpa2 Flags.wpa2)
    |>.addIf point.favorite Flags.known

/-- A report counts as a change exactly when it changes the access point. -/
theorem differsIn_iff (point : AccessPoint) (property : Property) :
    point.differsIn property = true ↔ point.set property ≠ point := by
  -- Only the reported field can differ, so comparing it compares the whole.
  cases point
  cases property <;> simp only [differsIn, set, bne_iff_ne, ne_eq, mk.injEq, true_and, and_true] <;>
    exact not_congr eq_comm

/-- Taking a property keeps the access point's identity. -/
@[simp] theorem set_id (point : AccessPoint) (property : Property) :
    (point.set property).id = point.id := by
  -- No property is about the identity.
  cases property <;> rfl

/-- Taking properties in order is one setting after another. -/
theorem applyAll_snd (point : AccessPoint) (properties : List Property) :
    (point.applyAll properties).2 = properties.foldl set point := by
  -- The first property is set before the others are taken.
  induction properties generalizing point with
  | nil => rfl
  | cons property later ih => simp [applyAll, apply, ih]

/-- Taking properties keeps the access point's identity. -/
@[simp] theorem applyAll_id (point : AccessPoint) (properties : List Property) :
    (point.applyAll properties).2.id = point.id := by
  -- Each step keeps it.
  induction properties generalizing point with
  | nil => rfl
  | cons property later ih => simp [applyAll, apply, ih]

end AccessPoint

end CompanionLink
