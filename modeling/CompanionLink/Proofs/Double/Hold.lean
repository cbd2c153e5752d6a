import CompanionLink.Double.Announcer
import CompanionLink.Double.Channel

/-!
What the prepared announcer and channel hold on to after each of their operations: a running beacon,
a listening socket, a client.
-/

namespace CompanionLink

namespace AnnouncerDouble

/-- A stopped announcer does not run. -/
@[simp] theorem running_stop (announcer : AnnouncerDouble) : announcer.stop.running = false := by
  -- Where stopping does nothing, the announcer did not run in the first place.
  unfold stop
  split
  · rfl
  · rename_i stopped
    simpa using stopped

/-- Sending starts nothing. -/
theorem running_of_send {announcer : AnnouncerDouble}
    (running : announcer.send.2.running = true) : announcer.running = true := by
  -- A send that fails stops the announcer; one that succeeds leaves it running.
  unfold send at running
  split at running
  · cases running
  · exact running

/-- Time passing starts nothing. -/
theorem running_of_tick {announcer : AnnouncerDouble} {elapsed : Nat}
    (running : (announcer.tick elapsed).2.running = true) : announcer.running = true := by
  -- Between two announcements only the clock changes; an announcement is a send.
  unfold tick at running
  split at running
  · exact running
  · split at running
    · exact running
    · have sent : ({ announcer with sinceLast := 0 } : AnnouncerDouble).send.2.running = true :=
        running
      have before := running_of_send sent
      exact before

end AnnouncerDouble

namespace ChannelDouble

/-- A closed channel has no client. -/
@[simp] theorem client_close (channel : ChannelDouble) : channel.close.client = none := rfl

/-- A channel that is shut down has no client. -/
@[simp] theorem client_shutdown (channel : ChannelDouble) : channel.shutdown.client = none := by
  -- Whether a socket is closed or not, the client has been dropped before.
  unfold shutdown
  dsimp only
  split <;> rfl

/-- A channel that is shut down does not listen. -/
@[simp] theorem listening_shutdown (channel : ChannelDouble) :
    channel.shutdown.listening = false := by
  -- Where no socket is closed, none was open.
  unfold shutdown
  dsimp only
  split
  · rfl
  · rename_i silent
    simpa using silent

/-- A channel that begins to listen has the client it had. -/
theorem client_listen (channel : ChannelDouble) (port : UInt16) :
    (channel.listen port).2.client = channel.client := by
  -- All three ways out keep the client: already open, failed and opened.
  unfold listen
  split
  · rfl
  · split <;> rfl

/-- A channel that fails to listen is left as it was. -/
theorem listen_error {channel later : ChannelDouble} {port : UInt16} {error : ChannelError}
    (failed : channel.listen port = (.error error, later)) : later = channel := by
  -- The socket is opened only in the last of the three ways out.
  unfold listen at failed
  split at failed
  · cases failed
  · split at failed
    · cases failed
      rfl
    · cases failed

/-- Taking a client is possible only while listening, and leaves the channel with that client. -/
theorem accept_accepted {channel later : ChannelDouble} {peer : SocketAddress}
    (accepted : channel.accept = (.ok (.accepted peer), later)) :
    channel.listening = true ∧ channel.client = none ∧ later.client = some peer ∧
      later.listening = true := by
  -- A client is taken only past every reason to take nobody.
  unfold accept at accepted
  split at accepted
  · cases accepted
  · split at accepted
    · cases accepted
    · rename_i open_
      have open_ : channel.listening = true := by simpa using open_
      split at accepted
      · cases accepted
      · rename_i free
        have free : channel.client = none := by simpa using free
        split at accepted
        · cases accepted
        · cases accepted
          -- The last way out keeps the socket and sets the client.
          exact ⟨open_, free, rfl, open_⟩

/-- An attempt that takes nobody leaves the channel as it was. -/
theorem accept_nobody {channel later : ChannelDouble}
    {outcome : Except ChannelError AcceptOutcome} (answered : channel.accept = (outcome, later))
    (nobody : ∀ peer, outcome ≠ .ok (.accepted peer)) : later = channel := by
  -- Every way out but the last one hands the channel back.
  unfold accept at answered
  split at answered
  · cases answered
    rfl
  · split at answered
    · cases answered
      rfl
    · split at answered
      · cases answered
        rfl
      · split at answered
        · cases answered
          rfl
        · cases answered
          -- The last way out accepts somebody, which was excluded.
          exact absurd rfl (nobody _)

/-- Reading keeps the listening socket. -/
theorem listening_read (channel : ChannelDouble) (buffer : Bytes) :
    (channel.read buffer).2.listening = channel.listening := by
  -- Neither the octets nor the loss of a client concern the socket.
  unfold read
  split
  · rfl
  · dsimp only
    split <;> rfl

/-- Reading brings no client. -/
theorem client_of_read {channel : ChannelDouble} {buffer : Bytes}
    (client : (channel.read buffer).2.client.isSome = true) : channel.client.isSome = true := by
  -- The reader can only tell that the client has gone.
  unfold read at client
  split at client
  · exact client
  · dsimp only at client
    split at client
    · exact client
    · cases client
    · cases client
    · exact client
    · exact client

/-- Writing keeps the listening socket and the client. -/
theorem write_holds (channel : ChannelDouble) (bytes : Bytes) :
    (channel.write bytes).2.listening = channel.listening ∧
      (channel.write bytes).2.client = channel.client := by
  -- Without a client nothing is written, and with one only what was written grows.
  unfold write
  split
  · exact ⟨rfl, rfl⟩
  · exact ⟨rfl, rfl⟩

end ChannelDouble

end CompanionLink
