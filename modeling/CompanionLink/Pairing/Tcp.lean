import CompanionLink.Net.SendOutcome
import CompanionLink.Pairing.Channel

/-!
The pairing channel over a host's stream sockets. A new client owes its preamble and is then owed
the reply, which goes out before anything else is written.
-/

namespace CompanionLink

/-- What an attempt to take a waiting connection came to. -/
inductive ConnectionOutcome where
  | connected (peer : SocketAddress)
  | nonePending
  | failed (reason : String)
deriving DecidableEq, Repr, Inhabited

/-- A host with one listening socket and one connection. -/
class StreamHost (ν : Type) extends Receiver ν where
  /-- Binds a port and listens on it. -/
  listen : ν → UInt16 → Except ChannelError Unit × ν
  /-- Takes a waiting connection. -/
  accept : ν → ConnectionOutcome × ν
  /-- Hands octets to the connection. -/
  send : ν → Bytes → SendOutcome × ν
  /-- Resets the connection. -/
  reset : ν → ν
  /-- Closes the listening socket. -/
  unlisten : ν → ν
  /-- The port that is listened on. -/
  localPort : ν → Option UInt16

/-- The pairing channel over a host. -/
structure TcpChannel (ν : Type) where
  host : ν
  listening : Bool := false
  /-- Whether a client is being served. -/
  connected : Bool := false
  peer : Option SocketAddress := none
  reader : FrameReader := .idle
  /-- How many octets of the reply have gone out, while a reply is owed. -/
  replySent : Option Nat := none
deriving Repr

namespace TcpChannel

variable {ν : Type} [StreamHost ν]

/-- Whether part of the reply is still owed. -/
def replyPending (channel : TcpChannel ν) : Bool := channel.replySent.isSome

/-- The port that the channel listens on. -/
def localPort (channel : TcpChannel ν) : Option UInt16 :=
  if channel.listening then StreamHost.localPort channel.host else none

/-- Starts to listen, unless the channel does already. -/
def listen (channel : TcpChannel ν) (port : UInt16) : Except ChannelError Unit × TcpChannel ν :=
  if channel.listening then (.ok (), channel)
  else
    match StreamHost.listen channel.host port with
    | (.ok (), host) => (.ok (), { channel with host, listening := true })
    -- A failed attempt leaves the channel not listening, so the next one may succeed.
    | (.error error, host) => (.error error, { channel with host })

/-- Takes a waiting client; it owes its preamble and is owed nothing yet. -/
def accept (channel : TcpChannel ν) : Except ChannelError AcceptOutcome × TcpChannel ν :=
  if !channel.listening then (.error .notListening, channel)
  -- The second client waits until the first one is gone.
  else if channel.connected then (.ok .nonePending, channel)
  else
    match StreamHost.accept channel.host with
    | (.connected peer, host) =>
      (.ok (.accepted peer),
        { channel with
          host, connected := true, peer := some peer, reader := .accepted, replySent := none })
    | (.nonePending, host) => (.ok .nonePending, { channel with host })
    | (.failed reason, host) => (.error (.accept reason), { channel with host })

/-- Drops the client. -/
def close (channel : TcpChannel ν) : TcpChannel ν :=
  { channel with
    -- Without a client there is no connection to reset.
    host := if channel.connected then StreamHost.reset channel.host else channel.host
    connected := false, peer := none, reader := .idle, replySent := none }

/-- Drops the client and stops listening. -/
def shutdown (channel : TcpChannel ν) : TcpChannel ν :=
  let channel := channel.close
  if channel.listening then
    { channel with host := StreamHost.unlisten channel.host, listening := false }
  else channel

/--
Sends the reply from its octet `sent` on, until it is out or the host takes no more. The first
answer is how far that came, or nothing if the send failed.

An answer of no octets at all ends the flush, as a full host does. Asking such a host again at once
comes to the states that this comes to over the host which leaves those answers out, and asking one
that goes on like that never ends; so a law of every host covers both.
-/
def sendReply (host : ν) (sent : Nat) : Option Nat × ν :=
  if sent < handshakeReply.length then
    match StreamHost.send host (handshakeReply.drop sent) with
    -- The host is full, so the rest has to wait.
    | (.sent 0, host) | (.wouldBlock, host) => (some sent, host)
    | (.sent (more + 1), host) => sendReply host (sent + (more + 1))
    | (.failed _, host) => (none, host)
  else (some sent, host)
termination_by handshakeReply.length - sent

/-- Sends what the client is owed of the reply; a client that cannot be sent to is dropped. -/
def flushReply (channel : TcpChannel ν) : TcpChannel ν :=
  match channel.replySent with
  | none => channel
  | some sent =>
    if channel.connected then
      -- What is left of the reply stays owed until the host takes it.
      match sendReply channel.host sent with
      | (none, host) => { channel with host }.close
      | (some sent, host) =>
        { channel with
          host, replySent := if sent = handshakeReply.length then none else some sent }
    else channel

/-- Reads once from the client, first sending what it is owed of the reply. -/
def read (channel : TcpChannel ν) (buffer : Bytes) : Delivery × TcpChannel ν :=
  let channel := channel.flushReply
  -- There may be no client, or the reply could not be sent to it.
  if !channel.connected then (⟨0, buffer⟩, channel)
  else
    let result := channel.reader.read channel.host buffer
    let channel := { channel with host := result.source, reader := result.reader }
    match result.event with
    | .pending => (⟨0, result.buffer⟩, channel)
    | .produced count => (⟨count, result.buffer⟩, channel)
    | .handshakeAccepted => (⟨0, result.buffer⟩, { channel with replySent := some 0 }.flushReply)
    | .handshakeRejected | .disconnected => (⟨0, result.buffer⟩, channel.close)

/-- Writes to the client, which takes nothing before it has the whole reply. -/
def write (channel : TcpChannel ν) (bytes : Bytes) : Nat × TcpChannel ν :=
  -- Nothing goes out in front of the reply.
  if channel.replyPending || channel.reader.awaitsHandshake || !channel.connected then (0, channel)
  else
    match StreamHost.send channel.host bytes with
    | (.sent count, host) => (count, { channel with host })
    | (.wouldBlock, host) => (0, { channel with host })
    -- A client that cannot be written to is gone.
    | (.failed _, host) => (0, { channel with host }.close)

/-- A channel over any host's sockets serves the link. -/
instance : PairingChannel (TcpChannel ν) where
  listen := listen
  isListening channel := channel.listening
  accept := accept
  hasClient channel := channel.connected
  reader channel := channel.reader
  read := read
  write := write
  close := close
  shutdown := shutdown

end TcpChannel

end CompanionLink
