import CompanionLink.Proofs.Double.Hold
import CompanionLink.Proofs.Lifecycle.Parts
import CompanionLink.Proofs.Lifecycle.View

/-!
The accounts of the prepared announcer and channel: whatever was opened and not closed is held. The
channel does not count the clients it takes, so a tally is kept beside it.
-/

namespace CompanionLink

namespace AnnouncerDouble

/-- Every start is matched by a stop, but for the one that still runs. -/
def IsBalanced (announcer : AnnouncerDouble) : Prop :=
  announcer.targets.length = announcer.stops + announcer.running.toNat

namespace IsBalanced

variable {announcer : AnnouncerDouble}

/-- Stopping an announcer keeps its starts and stops in balance, whether it ran or not. -/
theorem stop (balanced : announcer.IsBalanced) : announcer.stop.IsBalanced := by
  -- A stop counts only while the announcer runs.
  unfold AnnouncerDouble.stop
  split
  · -- The start that was open is closed by this stop.
    rename_i running
    simpa [IsBalanced, running] using balanced
  · exact balanced

/-- An announcement that cannot be sent stops the announcer, and that counts as a stop. -/
theorem send (balanced : announcer.IsBalanced) (running : announcer.running = true) :
    announcer.send.2.IsBalanced := by
  -- Failing turns the announcer off and counts a stop, which is one change on either side.
  unfold AnnouncerDouble.send
  split
  · simpa [IsBalanced, running] using balanced
  · exact balanced

/-- However long a tick lasts, and whatever comes of its announcement, the balance is kept. -/
theorem tick (balanced : announcer.IsBalanced) (elapsed : Nat) :
    (announcer.tick elapsed).2.IsBalanced := by
  -- Only an announcement that is due can fail, and only a running announcer comes to one.
  unfold AnnouncerDouble.tick
  split
  · exact balanced
  · rename_i running
    split
    · exact balanced
    · have before : ({ announcer with sinceLast := 0 } : AnnouncerDouble).IsBalanced := balanced
      exact before.send (by simpa using running)

/-- A start counts once; one that only got as far as the socket is followed by its stop. -/
theorem start (balanced : announcer.IsBalanced) (silent : announcer.running = false)
    (target : Ipv4Address) : (announcer.start target).2.IsBalanced := by
  unfold AnnouncerDouble.start
  split
  · exact balanced
  · refine send ?_ rfl
    -- Nothing ran before, so the new start is the only one that is open.
    simpa [IsBalanced, silent] using balanced

end IsBalanced

end AnnouncerDouble

/-- A channel with the number of clients that were taken from it. -/
structure Tallied (χ : Type) where
  channel : χ
  taken : Nat := 0

namespace Tallied

variable {χ : Type} [PairingChannel χ]

/-- A channel from which no client has been taken so far. -/
def begin (channel : χ) : Tallied χ := { channel }

/-- Takes a waiting client, and counts it. -/
def accept (tallied : Tallied χ) : Except ChannelError AcceptOutcome × Tallied χ :=
  -- Either somebody was taken, and both sides grow by one, or the channel is the same.
  match PairingChannel.accept tallied.channel with
  | (.ok (.accepted peer), channel) => (.ok (.accepted peer), ⟨channel, tallied.taken + 1⟩)
  | (outcome, channel) => (outcome, ⟨channel, tallied.taken⟩)

/-- A channel with a tally is used as the channel is, and only taking a client is counted. -/
instance : PairingChannel (Tallied χ) where
  listen tallied port :=
    let (outcome, channel) := PairingChannel.listen tallied.channel port
    (outcome, { tallied with channel })
  isListening tallied := PairingChannel.isListening tallied.channel
  accept := accept
  hasClient tallied := PairingChannel.hasClient tallied.channel
  reader tallied := PairingChannel.reader tallied.channel
  read tallied buffer :=
    let (delivery, channel) := PairingChannel.read tallied.channel buffer
    (delivery, { tallied with channel })
  write tallied bytes :=
    let (count, channel) := PairingChannel.write tallied.channel bytes
    (count, { tallied with channel })
  close tallied := { tallied with channel := PairingChannel.close tallied.channel }
  shutdown tallied := { tallied with channel := PairingChannel.shutdown tallied.channel }

/-- The tally shows in nothing that the channel answers. -/
theorem faithful : Faithful (channel : Tallied χ → χ) where
  -- Each part holds by definition, but for taking a client, where every answer has its branch.
  listen _ _ := rfl
  accept tallied := by
    show _ = ((accept tallied).1, (accept tallied).2.channel)
    unfold accept
    rcases PairingChannel.accept tallied.channel with ⟨(_ | _ | _ | _) | _ | _, channel⟩ <;> rfl
  hasClient _ := rfl
  read _ _ := rfl
  write _ _ := rfl
  shutdown _ := rfl

end Tallied

/--
A channel whose sockets and clients are accounted for: every socket bound was shut down unless it
still listens, and every client taken was dropped unless it is still there.
-/
structure ChannelDouble.IsBalanced (channel : ChannelDouble) (taken : Nat) : Prop where
  bound : channel.binds = channel.shutdowns + channel.listening.toNat
  served : taken = channel.closes + channel.client.isSome.toNat

/-- Taking a client changes nothing but who waits, who is served and where the reader stands. -/
theorem ChannelDouble.accept_taken {channel later : ChannelDouble} {peer : SocketAddress}
    (accepted : channel.accept = (.ok (.accepted peer), later)) :
    ∃ waiting, later = { channel with waiting, client := some peer, reader := .framing } := by
  -- Only the last of the five ways out takes somebody, and it says what it changes.
  unfold ChannelDouble.accept at accepted
  split at accepted
  -- A prepared failure, a channel that does not listen, a client, nobody who waits: none takes one.
  · cases accepted
  · split at accepted
    · cases accepted
    · split at accepted
      · cases accepted
      · split at accepted
        · cases accepted
        · cases accepted
          exact ⟨_, rfl⟩

namespace ChannelDouble.IsBalanced

variable {channel : ChannelDouble} {taken : Nat}

/-- Beginning to listen opens at most one socket, and only where none was open. -/
theorem listen (balanced : channel.IsBalanced taken) (port : UInt16) :
    (channel.listen port).2.IsBalanced taken := by
  -- The socket is open already, cannot be opened, or is opened now.
  obtain ⟨bound, served⟩ := balanced
  unfold ChannelDouble.listen
  split
  · exact ⟨bound, served⟩
  · rename_i silent
    split
    · exact ⟨bound, served⟩
    · -- The socket is new, since none was open before.
      refine ⟨?_, served⟩
      simp only [Bool.not_eq_true] at silent
      simp [bound, silent]

/-- Closing counts exactly the client it drops. -/
theorem close (balanced : channel.IsBalanced taken) : channel.close.IsBalanced taken := by
  obtain ⟨bound, served⟩ := balanced
  refine ⟨bound, ?_⟩
  -- A channel without a client is closed all the same, but that does not count.
  cases client : channel.client with
  | none => simpa [ChannelDouble.close, client] using served
  | some peer => simpa [ChannelDouble.close, client] using served

/-- Shutting down drops the client and closes the socket, each counted if there was one. -/
theorem shutdown (balanced : channel.IsBalanced taken) : channel.shutdown.IsBalanced taken := by
  -- The client goes first, and the socket after it.
  obtain ⟨bound, served⟩ := balanced.close
  unfold ChannelDouble.shutdown
  dsimp only
  split
  · rename_i listening
    exact ⟨by simpa [listening] using bound, served⟩
  · exact ⟨bound, served⟩

/-- Reading keeps the accounts, also when it finds that the client left. -/
theorem read (balanced : channel.IsBalanced taken) (buffer : Bytes) :
    (channel.read buffer).2.IsBalanced taken := by
  -- Without a client nothing is read.
  unfold ChannelDouble.read
  split
  · exact balanced
  · -- What was read leaves the accounts alone; a client that is gone is dropped.
    have drained (inbound : SegmentQueue) (reader : FrameReader) :
        ({ channel with inbound, reader } : ChannelDouble).IsBalanced taken :=
      ⟨balanced.bound, balanced.served⟩
    dsimp only
    split
    · exact drained _ _
    · exact (drained _ _).close
    · exact (drained _ _).close
    · exact drained _ _
    · exact drained _ _

/-- Writing is not in the accounts. -/
theorem write (balanced : channel.IsBalanced taken) (bytes : Bytes) :
    (channel.write bytes).2.IsBalanced taken := by
  -- Writing neither takes nor drops a client.
  unfold ChannelDouble.write
  split
  · exact balanced
  · exact ⟨balanced.bound, balanced.served⟩

/-- A client that is taken is counted, and held from then on. -/
theorem accept {tallied : Tallied ChannelDouble} {earlier : Nat}
    (balanced : tallied.channel.IsBalanced (earlier + tallied.taken)) :
    tallied.accept.2.channel.IsBalanced (earlier + tallied.accept.2.taken) := by
  unfold Tallied.accept
  split
  · rename_i peer later accepted
    have free : tallied.channel.client = none := (ChannelDouble.accept_accepted accepted).2.1
    obtain ⟨waiting, rfl⟩ := ChannelDouble.accept_taken accepted
    refine ⟨balanced.bound, ?_⟩
    -- Nobody was there before, so the one client more is the one that is held.
    have served := balanced.served
    rw [free] at served
    dsimp only [Option.isSome_none, Option.isSome_some, Bool.toNat_false, Bool.toNat_true]
      at served ⊢
    omega
  · rename_i outcome later nobody answered
    have same : later = tallied.channel := ChannelDouble.accept_nobody answered nobody
    rw [same]
    exact balanced

end ChannelDouble.IsBalanced

/-- Beside its tally, a channel keeps its accounts whatever a link does with it. -/
theorem Tallied.lasts_balanced (earlier : Nat) :
    Lasts fun tallied : Tallied ChannelDouble =>
      tallied.channel.IsBalanced (earlier + tallied.taken) where
  -- Every use of the channel has its own lemma above.
  listen before port := before.listen port
  accept before := before.accept
  read before buffer := before.read buffer
  write before bytes := before.write bytes
  shutdown before := before.shutdown

end CompanionLink
