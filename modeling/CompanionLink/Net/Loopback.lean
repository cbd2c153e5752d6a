import CompanionLink.Beacon.Transmitter
import CompanionLink.Pairing.Tcp

/-!
A host that talks to itself: clients dial its listening socket and exchange octets with the
connection it serves, and datagrams to its own address are kept. Octets and closes arrive at once.
-/

namespace CompanionLink

/-- Why the host's network does not deliver. -/
inductive NetworkFault where
  /-- No route leads to the address. -/
  | unreachable
  /-- Nobody listens there. -/
  | refused
deriving DecidableEq, Repr, Inhabited

/-- The system's text for a network fault. -/
def NetworkFault.message : NetworkFault → String
  | .unreachable => "Network is unreachable"
  | .refused => "Connection refused"

/-- A client's connection. -/
structure Connection where
  /-- What the client sent and the host has not received. -/
  inbound : Bytes := []
  /-- What the host sent and the client has not received. -/
  outbound : Bytes := []
  /-- Whether the client closed its end. -/
  clientClosed : Bool := false
  /-- Whether the client answered with a reset, since it took no more octets. -/
  clientReset : Bool := false
  /-- Whether the host reset the connection. -/
  hostReset : Bool := false
deriving DecidableEq, Repr, Inhabited

/-- What a client gets that waits for octets. -/
inductive ClientReceipt where
  | bytes (bytes : Bytes)
  /-- The connection ended before the octets came. -/
  | gone
  /-- The octets do not come. -/
  | nothing
deriving DecidableEq, Repr, Inhabited

/-- The state of the host. -/
structure Loopback where
  /-- Whether a route leads from the host to itself. -/
  routed : Bool := true
  /-- The port that is listened on. -/
  port : Option UInt16 := none
  /-- The ports that others hold. -/
  busy : List UInt16 := []
  /-- The connections, in the order of dialling. -/
  connections : List Connection := []
  /-- The connections that wait to be taken. -/
  waiting : List Nat := []
  /-- The connection being served. -/
  served : Option Nat := none
  /-- The datagrams delivered, oldest first. -/
  datagrams : List Bytes := []
deriving DecidableEq, Repr, Inhabited

namespace Loopback

/-- The port that is given where any free one is asked for. -/
def freePort : UInt16 := 49152

/-- The first port of a client. -/
def firstClientPort : Nat := 32768

/-- The longest datagram. -/
def datagramLimit : Nat := 65507

/-- The address of a client. -/
def peer (client : Nat) : SocketAddress :=
  ⟨.ofOctets 127 0 0 1, (firstClientPort + client).toUInt16⟩

/-- The client with an address. -/
def clientOf (peer : SocketAddress) : Nat := peer.port.toNat - firstClientPort

/-- The host after something happened to a client's connection. -/
def onConnection (host : Loopback) (client : Nat) (change : Connection → Connection) : Loopback :=
  { host with connections := host.connections.modify client change }

/-- A new client dials the listening socket. -/
def dial (host : Loopback) : Except NetworkFault Loopback :=
  if !host.routed then .error .unreachable
  else if host.port.isNone then .error .refused
  else
    .ok
      -- The connection is there before the host takes it, so octets may be sent already.
      { host with
        connections := host.connections ++ [{}]
        waiting := host.waiting ++ [host.connections.length] }

/-- A client sends octets. -/
def sendFrom (host : Loopback) (client : Nat) (bytes : Bytes) : Loopback :=
  host.onConnection client fun connection =>
    if connection.hostReset then connection
    else { connection with inbound := connection.inbound ++ bytes }

/-- A client closes its end; octets that it did not take reset the connection. -/
def hangUp (host : Loopback) (client : Nat) : Loopback :=
  host.onConnection client fun connection =>
    -- What the client had not taken when it closed is lost, which it answers with a reset.
    { connection with clientClosed := true, clientReset := !connection.outbound.isEmpty }

/-- A client waits for exactly so many octets. -/
def receiveAt (host : Loopback) (client count : Nat) : ClientReceipt × Loopback :=
  match host.connections[client]? with
  | none => (.gone, host)
  | some connection =>
    -- The octets are there, and the client is there to take them.
    if count ≤ connection.outbound.length && !connection.clientClosed then
      (.bytes (connection.outbound.take count),
        host.onConnection client fun connection =>
          { connection with outbound := connection.outbound.drop count })
    else if connection.hostReset || connection.clientClosed then (.gone, host)
    else (.nothing, host)

/-- Listens on a port that nobody holds, on any free one for port zero. -/
def listen (host : Loopback) (port : UInt16) : Except ChannelError Unit × Loopback :=
  -- A port that another holds is refused as the system refuses it.
  if host.busy.contains port then (.error (.bind port "Address already in use"), host)
  else (.ok (), { host with port := some (if port = 0 then freePort else port) })

/-- Serves the connection that waits longest. -/
def accept (host : Loopback) : ConnectionOutcome × Loopback :=
  match host.waiting with
  | [] => (.nonePending, host)
  | client :: later =>
    (.connected (peer client), { host with waiting := later, served := some client })

/-- Receives octets that the served client sent. -/
def receive (host : Loopback) (wanted : Nat) : Receipt × Loopback :=
  match host.served.bind fun client => (host.connections[client]?.map (client, ·)) with
  | none => (.closed, host)
  | some (client, connection) =>
    -- What arrived is received even after the client has closed.
    if !connection.inbound.isEmpty then
      (.data (connection.inbound.take wanted),
        host.onConnection client fun connection =>
          { connection with inbound := connection.inbound.drop wanted })
    else if connection.clientReset then (.closed, host)
    else if connection.clientClosed then (.data [], host)
    else (.pending, host)

/-- Sends octets to the served client; one that is gone answers the first of them with a reset. -/
def send (host : Loopback) (bytes : Bytes) : SendOutcome × Loopback :=
  match host.served.bind fun client => (host.connections[client]?.map (client, ·)) with
  | none => (.failed "Broken pipe", host)
  | some (client, connection) =>
    if connection.clientReset then (.failed "Broken pipe", host)
    -- The octets are taken over before the reset comes back.
    else if connection.clientClosed then
      (.sent bytes.length,
        host.onConnection client fun connection => { connection with clientReset := true })
    else
      (.sent bytes.length,
        host.onConnection client fun connection =>
          { connection with outbound := connection.outbound ++ bytes })

/-- Resets connections. -/
def resetAll (host : Loopback) (clients : List Nat) : Loopback :=
  clients.foldl (fun host client =>
    host.onConnection client fun connection => { connection with hostReset := true }) host

/-- Resets the served connection. -/
def reset (host : Loopback) : Loopback :=
  { host.resetAll host.served.toList with served := none }

/-- Closes the listening socket, which resets the connections that wait. -/
def unlisten (host : Loopback) : Loopback :=
  -- The served connection is no part of the listening socket.
  { host.resetAll host.waiting with waiting := [], port := none }

/-- The host's streams lead to the clients that dialled it. -/
instance : StreamHost Loopback where
  receive := receive
  listen := listen
  accept := accept
  send := send
  reset := reset
  unlisten := unlisten
  localPort host := host.port

/-- Sends a datagram, which has to have a route, a port and no more than the greatest length. -/
def sendDatagram (host : Loopback) (target : SocketAddress) (bytes : Bytes) :
    SendOutcome × Loopback :=
  -- The first of these faults is the one that is told.
  if !host.routed then (.failed NetworkFault.unreachable.message, host)
  else if target.port = 0 then (.failed "Invalid argument", host)
  else if datagramLimit < bytes.length then (.failed "Message too long", host)
  else (.sent bytes.length, { host with datagrams := host.datagrams ++ [bytes] })

/-- Opening a socket for datagrams never fails. -/
instance : DatagramHost Loopback where
  openSocket host := .ok host
  send := sendDatagram

end Loopback

end CompanionLink
