import CompanionLink.Lifecycle.Basic

/-! The commands that menus and programs give to a link, and what they can ask it. -/

namespace CompanionLink

namespace Link

variable {μ β χ : Type} [NetworkManager μ] [Announcer β] [PairingChannel χ]

/-- Powers the radio on or off. Powering off gives the link up. -/
def setPower (link : Link μ β χ) (on : Bool) : Status × Link μ β χ :=
  if link.stage = .closed then (.fail, link)
  else
    match link.technologies.setWifiPower link.manager on with
    -- The radio stays as it was, and so does the link.
    | (.error _, technologies, manager) => { link with technologies, manager }.finish .fail
    | (.ok (), technologies, manager) =>
      let link := { link with technologies, manager }
      -- A link that is on its way up, or there, goes on as it is.
      if on then (if link.stage = .off then link.enter .powering else link).finish .ok
      else link.powerDown.finish .ok

/--
Starts to join the access point at an index, in place of what the link was joined on. Success
means that the manager took the request over.
-/
def connect (link : Link μ β χ) (index : Nat) : Status × Link μ β χ :=
  -- Without power, and before the link is up, there is nothing to ask of the manager.
  if !link.technologies.wifiPowered ∨ link.stage = .off ∨ link.stage = .powering
      ∨ link.stage = .closed then
    link.finish .fail
  else
    match Directory.submit link.manager (link.directory.joinRequest index) with
    -- A join that the manager refuses leaves the link that there is.
    | (.error _, manager) => { link with manager }.finish .fail
    | (.ok (), manager) =>
      let link := { link with manager }
      -- What was open towards the old network is closed.
      let link := if link.stage.hasLink then link.release else link
      -- A failure shown now belongs to an earlier attempt.
      let target := link.directory.entries[index]?.map fun point =>
        { id := point.id, staleFailure := point.state == .failure }
      ({ link with linkId := none, joinTarget := target }.enter .joining).finish .ok

/-- Requests a search, which the listing stages take and which waits for no other search. -/
def scan (link : Link μ β χ) : Status × Link μ β χ :=
  match link.stage with
  | .ready | .listed => (.ok, { link with scanRequested := true })
  -- One search is under way.
  | .searching | .settling => (.busy, link)
  | _ => (.fail, link)

/-- Hands a request about a listed access point to the manager. -/
def request (link : Link μ β χ) (wanted : Except DirectoryError (Option Request)) :
    Status × Link μ β χ :=
  let (outcome, manager) := Directory.submit link.manager wanted
  { link with manager }.finish (.ofExcept outcome)

/-- Forgets the credentials of the access point at an index. -/
def forget (link : Link μ β χ) (index : Nat) : Status × Link μ β χ :=
  link.request (link.directory.forgetRequest index)

/-- Asks for the access point at an index to be listed one place earlier. -/
def moveUp (link : Link μ β χ) (index : Nat) : Status × Link μ β χ :=
  link.request (link.directory.moveUpRequest index)

/-- Asks for the access point at an index to be listed one place later. -/
def moveDown (link : Link μ β χ) (index : Nat) : Status × Link μ β χ :=
  link.request (link.directory.moveDownRequest index)

/-- Reads from the paired client. A buffer without room for a length is refused. -/
def read (link : Link μ β χ) (buffer : Bytes) : Delivery × Link μ β χ :=
  if link.stage ≠ .paired then (⟨0, buffer⟩, link)
  else if buffer.length < lengthPrefixSize then (⟨0, buffer⟩, { link with status := .fail })
  else
    -- A client that turns out gone is noticed by the next tick.
    let (delivery, channel) := PairingChannel.read link.channel buffer
    (delivery, { link with channel })

/-- Writes to the paired client and tells how many octets were taken. -/
def write (link : Link μ β χ) (bytes : Bytes) : Nat × Link μ β χ :=
  if link.stage ≠ .paired then (0, link)
  else
    -- What is not taken is for the caller to offer again.
    let (count, channel) := PairingChannel.write link.channel bytes
    (count, { link with channel })

/-- Whether the wifi radio is powered. -/
def isPowered (link : Link μ β χ) : Bool := link.technologies.wifiPowered

/-- The address that a connected access point has leased. -/
def ipAddress (link : Link μ β χ) : Option Ipv4Address :=
  link.directory.connectedLease.map fun lease => lease.address

/-- The hardware address on the first connected access point, or the first one on any. -/
def macAddress (link : Link μ β χ) : Option String :=
  -- Without a connected access point any listed interface will do.
  (link.directory.firstConnected.bind fun point => point.mac).or
    (link.directory.entries.findSome? fun point => point.mac)

end Link

end CompanionLink
