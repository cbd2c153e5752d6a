import CompanionLink.Pairing.Channel

/-!
A pairing channel whose clients and inbound segments are handed in from outside. Its clients need
no preamble, and what is written to them is kept.
-/

namespace CompanionLink

/-- The state of the prepared channel. -/
structure ChannelDouble where
  listening : Bool := false
  /-- How often it began to listen. -/
  binds : Nat := 0
  /-- Whether beginning to listen fails. -/
  failsListen : Bool := false
  /-- Whether taking a client fails. -/
  failsAccept : Bool := false
  /-- The clients that wait, longest waiting first. -/
  waiting : List SocketAddress := []
  client : Option SocketAddress := none
  inbound : SegmentQueue := {}
  reader : FrameReader := .idle
  /-- Everything written to clients. -/
  written : Bytes := []
  /-- How many clients were dropped. -/
  closes : Nat := 0
  /-- How often it stopped listening. -/
  shutdowns : Nat := 0
deriving DecidableEq, Repr, Inhabited

namespace ChannelDouble

/-- Lets a client wait. -/
def queueClient (channel : ChannelDouble) (peer : SocketAddress) : ChannelDouble :=
  { channel with waiting := channel.waiting ++ [peer] }

/-- Hands in one inbound segment. -/
def pushInbound (channel : ChannelDouble) (bytes : Bytes) : ChannelDouble :=
  { channel with inbound := channel.inbound.push bytes }

/-- Lets the stream end behind the segments handed in. -/
def hangUp (channel : ChannelDouble) : ChannelDouble :=
  { channel with inbound := { channel.inbound with closesWhenDrained := true } }

/-- Begins to listen, unless the channel does already. -/
def listen (channel : ChannelDouble) (port : UInt16) : Except ChannelError Unit × ChannelDouble :=
  if channel.listening then (.ok (), channel)
  else if channel.failsListen then (.error (.bind port "injected bind failure"), channel)
  else (.ok (), { channel with listening := true, binds := channel.binds + 1 })

/-- Takes the client that waits longest; it needs no preamble. -/
def accept (channel : ChannelDouble) : Except ChannelError AcceptOutcome × ChannelDouble :=
  -- A prepared failure goes before everything else.
  if channel.failsAccept then (.error (.accept "injected accept failure"), channel)
  else if !channel.listening then (.error .notListening, channel)
  else if channel.client.isSome then (.ok .nonePending, channel)
  else
    match channel.waiting with
    | [] => (.ok .nonePending, channel)
    | peer :: later =>
      (.ok (.accepted peer),
        { channel with waiting := later, client := some peer, reader := .framing })

/-- Drops the client, and with it everything inbound. -/
def close (channel : ChannelDouble) : ChannelDouble :=
  { channel with
    -- Closing without a client counts for nothing.
    closes := if channel.client.isSome then channel.closes + 1 else channel.closes
    client := none, reader := .idle, inbound := {} }

/-- Drops the client and stops listening. -/
def shutdown (channel : ChannelDouble) : ChannelDouble :=
  -- The client goes first, whether or not the channel listens.
  let channel := channel.close
  if channel.listening then
    { channel with listening := false, shutdowns := channel.shutdowns + 1 }
  else channel

/-- Reads once from the inbound segments. -/
def read (channel : ChannelDouble) (buffer : Bytes) : Delivery × ChannelDouble :=
  if channel.client.isNone then (⟨0, buffer⟩, channel)
  else
    -- There is a client, so its reader goes on from where it stands.
    let result := channel.reader.read channel.inbound buffer
    let channel := { channel with inbound := result.source, reader := result.reader }
    match result.event with
    | .produced count => (⟨count, result.buffer⟩, channel)
    -- The reader has already given the client up.
    | .disconnected | .handshakeRejected => (⟨0, result.buffer⟩, channel.close)
    | .pending | .handshakeAccepted => (⟨0, result.buffer⟩, channel)

/-- Keeps what is written to a client, in full. -/
def write (channel : ChannelDouble) (bytes : Bytes) : Nat × ChannelDouble :=
  if channel.client.isNone then (0, channel)
  else (bytes.length, { channel with written := channel.written ++ bytes })

/-- The prepared channel stands for a real one. -/
instance : PairingChannel ChannelDouble where
  listen := listen
  isListening channel := channel.listening
  accept := accept
  hasClient channel := channel.client.isSome
  reader channel := channel.reader
  read := read
  write := write
  close := close
  shutdown := shutdown

end ChannelDouble

end CompanionLink
