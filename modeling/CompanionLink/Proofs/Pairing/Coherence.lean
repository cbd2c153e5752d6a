import CompanionLink.Proofs.Double.Supply
import CompanionLink.Proofs.Pairing.Reply

/-!
What a channel holds of its client comes and goes together. On every way by which a client is lost
the reader turns idle, and with it goes all that is known of the client and owed to it.
-/

namespace CompanionLink

open FrameReader

/-- A channel whose reader tells whether there is a client, and that serves no second one. -/
structure ServesOne {χ : Type} [PairingChannel χ] (channel : χ) : Prop where
  client : PairingChannel.hasClient channel = true ↔ PairingChannel.reader channel ≠ .idle
  /-- A client that is served is not replaced. -/
  accept (served : PairingChannel.hasClient channel = true) :
    (PairingChannel.accept channel).2 = channel ∧
      ∀ peer, (PairingChannel.accept channel).1 ≠ .ok (.accepted peer)
  /-- From nobody nothing is read. -/
  read (alone : PairingChannel.hasClient channel = false) (buffer : Bytes) :
    PairingChannel.read channel buffer = (⟨0, buffer⟩, channel)
  /-- To nobody nothing is written. -/
  write (alone : PairingChannel.hasClient channel = false) (bytes : Bytes) :
    PairingChannel.write channel bytes = (0, channel)

section Reads

variable {σ : Type} [Receiver σ]

/-- What a read of a client comes to: the client is lost, greeted or kept. -/
inductive ClientRead (reader : FrameReader) (result : ReadResult σ) : Prop
  /-- The client is to be dropped. -/
  | lost (event : result.event = .handshakeRejected ∨ result.event = .disconnected) :
    ClientRead reader result
  /-- Its preamble was accepted, and frames follow. -/
  | greeted (event : result.event = .handshakeAccepted) (framed : result.reader.isFramed = true) :
    ClientRead reader result
  /-- Otherwise it goes on as a client, and past its preamble if it was. -/
  | kept (event : result.event = .pending ∨ ∃ count, result.event = .produced count)
    (client : result.reader ≠ .idle)
    (framed : reader.isFramed = true → result.reader.isFramed = true) : ClientRead reader result

/-- A framed reader has a client. -/
theorem ne_idle_of_isFramed {reader : FrameReader} (framed : reader.isFramed = true) :
    reader ≠ .idle := by
  -- By definition the idle reader is not framed.
  rintro rfl
  cases framed

/-- A read of a client does nothing else. -/
theorem clientRead_read {reader : FrameReader} (client : reader ≠ .idle) (source : σ)
    (buffer : Bytes) : ClientRead reader (reader.read source buffer) := by
  -- Behind the preamble the list of what a read can do applies.
  cases framed : reader.isFramed with
  | true =>
    obtain gone | stays := stays_read framed source buffer
    · exact .lost (.inr gone)
    · exact .kept stays.event (ne_idle_of_isFramed stays.isFramed) fun _ => stays.isFramed
  | false =>
    -- The reader that is neither idle nor framed searches the preamble.
    obtain ⟨preamble, rfl⟩ : ∃ preamble, reader = .awaitHandshake preamble := by
      cases reader with
      | idle => exact absurd rfl client
      | awaitHandshake preamble => exact ⟨preamble, rfl⟩
      | awaitLength | assembling | opening | collecting => cases framed
    simp only [FrameReader.read, readPreamble]
    rcases Receiver.receive source preamble.room with ⟨⟨_ | ⟨first, more⟩⟩ | _ | _, later⟩
    · exact .lost (.inr rfl)
    · dsimp only
      -- The verdict on what came decides.
      rcases preamble.feed (first :: more) with ⟨_ | _ | _, next⟩
      · exact .greeted rfl rfl
      · exact .kept (.inl rfl) (by simp) (fun other => absurd (framed.symm.trans other) (by decide))
      · exact .lost (.inl rfl)
    · exact .kept (.inl rfl) client fun other => absurd (framed.symm.trans other) (by decide)
    · exact .lost (.inr rfl)

end Reads

namespace TcpChannel

variable {ν : Type} [StreamHost ν]

/-- A host whose connection takes no more octets than a send hands to it. -/
def SendsWithin (ν : Type) [StreamHost ν] : Prop :=
  ∀ (host : ν) (bytes : Bytes) (count : Nat),
    (StreamHost.send host bytes).1 = .sent count → count ≤ bytes.length

/-- The client, its reader, its peer and its reply are held together. -/
structure Coherent (channel : TcpChannel ν) : Prop where
  /-- There is a client exactly if its reader is not idle. -/
  client : channel.connected = true ↔ channel.reader ≠ .idle
  /-- The client's address is known. -/
  peer : channel.peer.isSome = channel.connected
  /-- A reply is owed to a client past its preamble only. -/
  reply {sent : Nat} (owed : channel.replySent = some sent) :
    channel.connected = true ∧ channel.reader.isFramed = true
  /-- Of a reply that is owed something is still to go out. -/
  short (within : SendsWithin ν) {sent : Nat} (owed : channel.replySent = some sent) :
    sent < handshakeReply.length

/-- A reply is not overrun, however the connection takes it. -/
theorem sendReply_le (within : SendsWithin ν) (host : ν) {sent out : Nat}
    (bound : sent ≤ handshakeReply.length) (stops : (sendReply host sent).1 = some out) :
    out ≤ handshakeReply.length := by
  -- By induction along the sends, each of which takes at most what was still owed.
  fun_induction sendReply host sent with
  | case1 | case2 =>
    cases stops
    exact bound
  -- What the host took is part of the reply that was left.
  | case3 host sent owed more later part ih =>
    have fits := within host _ _ (congrArg Prod.fst part)
    rw [List.length_drop] at fits
    exact ih (by omega) stops
  | case4 => cases stops
  | case5 =>
    cases stops
    exact bound

namespace Coherent

variable {channel : TcpChannel ν}

/-- What happens to the host or to the listening socket leaves the client alone. -/
theorem aside (coherent : Coherent channel) (host : ν) (listening : Bool) :
    Coherent { channel with host, listening } :=
  -- None of the four conditions speaks of the host or of the listening socket.
  ⟨coherent.client, coherent.peer, coherent.reply, coherent.short⟩

/-- A client that is dropped takes everything with it. -/
theorem close (channel : TcpChannel ν) : Coherent channel.close :=
  -- Without a client the conditions speak of nothing.
  ⟨iff_of_false nofun fun client => client rfl, rfl, nofun, nofun⟩

/-- A client that is owed the reply from some octet on is sent it, or dropped. -/
theorem flush_owed {sent : Nat} (served : channel.connected = true)
    (peer : channel.peer.isSome = channel.connected) (framed : channel.reader.isFramed = true)
    (owed : channel.replySent = some sent) (bound : SendsWithin ν → sent ≤ handshakeReply.length) :
    Coherent channel.flushReply := by
  unfold TcpChannel.flushReply
  simp only [owed, served, if_true]
  -- The reply goes out as far as the host takes it, or the client is lost over it.
  rcases stops : sendReply channel.host sent with ⟨_ | out, later⟩
  · exact close _
  · refine ⟨iff_of_true rfl (ne_idle_of_isFramed framed), peer.trans served, ?_, ?_⟩
    · exact fun _ => ⟨rfl, framed⟩
    · intro within part owed
      -- What is out and yet not the whole reply is less than it.
      have le := sendReply_le within channel.host (bound within) (congrArg Prod.fst stops)
      dsimp only at owed
      split at owed
      · cases owed
      · next part =>
        cases owed
        exact Nat.lt_of_le_of_ne le part

/-- Sending on what is owed of the reply keeps a channel coherent. -/
theorem flushReply (coherent : Coherent channel) : Coherent channel.flushReply := by
  -- Where nothing is owed nothing is sent.
  cases owed : channel.replySent with
  | none =>
    unfold TcpChannel.flushReply
    rw [owed]
    exact coherent
  | some sent =>
    obtain ⟨served, framed⟩ := coherent.reply owed
    exact flush_owed served coherent.peer framed owed fun within =>
      Nat.le_of_lt (coherent.short within owed)

/-- A listening socket that is opened leaves the client alone. -/
theorem listen (coherent : Coherent channel) (port : UInt16) :
    Coherent (channel.listen port).2 := by
  -- By whether a socket was open, and whether one could be opened.
  unfold TcpChannel.listen
  split
  · exact coherent
  · rcases StreamHost.listen channel.host port with ⟨_ | _, later⟩
    · exact coherent.aside later channel.listening
    · exact coherent.aside later true

/-- A new client begins with its preamble, its peer and nothing owed. -/
theorem accept (coherent : Coherent channel) : Coherent channel.accept.2 := by
  -- By whether a client is served, and what the host answers.
  unfold TcpChannel.accept
  split
  · exact coherent
  · split
    · exact coherent
    · rcases StreamHost.accept channel.host with ⟨_ | _ | _, later⟩
      · exact ⟨iff_of_true rfl nofun, rfl, nofun, nofun⟩
      · exact coherent.aside later channel.listening
      · exact coherent.aside later channel.listening

/-- What a read of a client comes to keeps its channel coherent. -/
theorem onResult (coherent : Coherent channel) (served : channel.connected = true)
    (buffer : Bytes) :
    Coherent (channel.onResult (channel.reader.read channel.host buffer)) := by
  -- By what the read of a client comes to.
  unfold TcpChannel.onResult
  cases clientRead_read (coherent.client.mp served) channel.host buffer with
  | lost event => obtain event | event := event <;> rw [event] <;> exact close _
  | greeted event framed =>
    rw [event]
    exact flush_owed served coherent.peer framed rfl fun _ => Nat.zero_le _
  | kept event client framed =>
    -- Nothing but the source and the place in the frame moves.
    have kept : Coherent { channel with
        host := (channel.reader.read channel.host buffer).source
        reader := (channel.reader.read channel.host buffer).reader } :=
      ⟨iff_of_true served client, coherent.peer,
        fun owed => ⟨served, framed (coherent.reply owed).2⟩, coherent.short⟩
    obtain event | ⟨count, event⟩ := event <;> rw [event] <;> exact kept

/-- A read keeps a channel coherent. -/
theorem read (coherent : Coherent channel) (buffer : Bytes) :
    Coherent (channel.read buffer).2 := by
  -- What is owed of the reply goes first, and may already cost the client.
  rw [TcpChannel.read_channel]
  split
  · next served => exact coherent.flushReply.onResult served buffer
  · exact coherent.flushReply

/-- A write leaves the client, or drops it. -/
theorem write (coherent : Coherent channel) (bytes : Bytes) :
    Coherent (channel.write bytes).2 := by
  -- A write that is refused changes nothing, and one that fails drops the client.
  cases refused : channel.refuses with
  | true => rwa [channel.write_refused refused]
  | false =>
    -- The host's answer decides whether the client stays.
    rcases sent : StreamHost.send channel.host bytes with ⟨outcome, later⟩
    cases outcome with
    | sent | wouldBlock =>
      rw [channel.write_taken refused sent (fun _ => nofun)]
      exact coherent.aside later channel.listening
    | failed =>
      rw [channel.write_failed refused sent]
      exact close _

/-- A channel that is shut down drops its client first. -/
theorem shutdown (channel : TcpChannel ν) : Coherent channel.shutdown := by
  -- The socket is closed behind the client.
  unfold TcpChannel.shutdown
  dsimp only
  split
  · exact (close channel).aside (StreamHost.unlisten channel.close.host) false
  · exact close channel

/-- Every use of a channel keeps it coherent. -/
theorem use (coherent : Coherent channel) (use : ChannelUse ν) : Coherent (channel.use use) := by
  -- Every use has its own lemma.
  cases use with
  -- Listening changes neither the client nor its reader.
  | listen port => exact coherent.listen port
  | accept => exact coherent.accept
  | read buffer => exact coherent.read buffer
  | write bytes => exact coherent.write bytes
  | close => exact close channel
  | shutdown => exact shutdown channel
  | meanwhile change => exact coherent.aside (change channel.host) channel.listening

/-- Whatever is done with a new channel, it stays coherent. -/
theorem uses (host : ν) (uses : List (ChannelUse ν)) :
    Coherent (uses.foldl TcpChannel.use { host }) := by
  -- By induction on the uses from the end.
  induction uses using List.reverseRecOn with
  | nil => exact ⟨iff_of_false nofun fun client => client rfl, rfl, nofun, nofun⟩
  | append_singleton uses use ih =>
    rw [List.foldl_append]
    exact ih.use use

/-- A coherent channel serves one client. -/
theorem servesOne (coherent : Coherent channel) : ServesOne channel where
  -- Each part looks at a guard, which the served client or its absence decides.
  client := coherent.client
  accept served := by
    have served : channel.connected = true := served
    show channel.accept.2 = channel ∧ ∀ peer, channel.accept.1 ≠ .ok (.accepted peer)
    unfold TcpChannel.accept
    rw [served]
    cases channel.listening <;> exact ⟨rfl, nofun⟩
  -- Without a client a read hands back what it was given.
  read alone buffer := by
    have alone : channel.connected = false := alone
    -- Nobody is owed a reply.
    have unowed : channel.replySent = none := by
      cases owed : channel.replySent with
      | none => rfl
      | some sent => exact nomatch alone.symm.trans (coherent.reply owed).1
    show channel.read buffer = (⟨0, buffer⟩, channel)
    simp only [TcpChannel.read, TcpChannel.flushReply, unowed, alone, Bool.not_false, if_true]
  write alone bytes := by
    have alone : channel.connected = false := alone
    have refused : channel.refuses = true := by simp [TcpChannel.refuses, alone]
    exact channel.write_refused refused bytes

end Coherent

end TcpChannel

namespace ChannelDouble

/-- One use of a prepared channel, or a deed of others. -/
inductive Use where
  | listen (port : UInt16)
  | accept
  | read (buffer : Bytes)
  | write (bytes : Bytes)
  | deed (deed : Deed)
deriving DecidableEq, Repr, Inhabited

/-- The prepared channel after one use. -/
def use (channel : ChannelDouble) : Use → ChannelDouble
  | .listen port => (channel.listen port).2
  | .accept => channel.accept.2
  | .read buffer => (channel.read buffer).2
  | .write bytes => (channel.write bytes).2
  | .deed deed => channel.afterDeed deed

/-- The reader tells whether there is a client. -/
def Coherent (channel : ChannelDouble) : Prop :=
  channel.client.isSome = true ↔ channel.reader ≠ .idle

namespace Coherent

variable {channel : ChannelDouble}

/-- A client that is dropped takes its reader with it. -/
theorem close (channel : ChannelDouble) : channel.close.Coherent :=
  -- The client and its reader go at once.
  iff_of_false nofun fun client => client rfl

/-- A channel that is shut down drops its client first. -/
theorem shutdown (channel : ChannelDouble) : channel.shutdown.Coherent := by
  -- The socket is closed behind the client.
  unfold ChannelDouble.shutdown
  dsimp only
  split
  · exact close channel
  · exact close channel

/-- A client that is taken is read from at once. -/
theorem accept (coherent : channel.Coherent) : channel.accept.2.Coherent := by
  -- Only the last way out takes a client, and the others hand the channel back.
  unfold ChannelDouble.accept
  split
  · exact coherent
  · split
    · exact coherent
    · split
      · exact coherent
      · split
        · exact coherent
        · exact iff_of_true rfl nofun

/-- A read leaves the client with a reader, or drops both. -/
theorem read (coherent : channel.Coherent) (buffer : Bytes) :
    (channel.read buffer).2.Coherent := by
  -- By what the read of a client comes to.
  unfold ChannelDouble.read
  split
  · exact coherent
  · next served =>
    have served : channel.client.isSome = true := by
      simpa [Option.isSome_iff_ne_none] using served
    dsimp only
    cases clientRead_read (coherent.mp served) channel.inbound buffer with
    | lost event => obtain event | event := event <;> rw [event] <;> exact close _
    | greeted event framed =>
      rw [event]
      exact iff_of_true served (ne_idle_of_isFramed framed)
    | kept event client =>
      obtain event | ⟨count, event⟩ := event <;> rw [event] <;> exact iff_of_true served client

/-- Every use of a prepared channel keeps it coherent. -/
theorem use (coherent : channel.Coherent) (use : Use) : (channel.use use).Coherent := by
  -- What others do to the channel closes it, or leaves client and reader alone.
  cases use with
  | listen port =>
    obtain ⟨listening, binds, same⟩ := channel.listen_eq port
    show (channel.listen port).2.Coherent
    rw [same]
    exact coherent
  | accept => exact coherent.accept
  | read buffer => exact coherent.read buffer
  | write bytes =>
    show (channel.write bytes).2.Coherent
    unfold ChannelDouble.write
    split <;> exact coherent
  | deed deed =>
    cases deed with
    | close => exact close channel
    | shutdown => exact shutdown channel
    | nothing | failListen | failAccept | queueClient | pushInbound | hangUp => exact coherent

/-- Whatever is done with a new prepared channel, it stays coherent. -/
theorem uses (uses : List Use) : (uses.foldl ChannelDouble.use {}).Coherent := by
  -- By induction on the uses from the end.
  induction uses using List.reverseRecOn with
  | nil => exact iff_of_false nofun fun client => client rfl
  | append_singleton uses use ih =>
    rw [List.foldl_append]
    exact ih.use use

/-- A coherent channel serves one client. -/
theorem servesOne (coherent : channel.Coherent) : ServesOne channel where
  -- Each part looks at a guard, which the served client or its absence decides.
  client := coherent
  accept served := by
    have served : channel.client.isSome = true := served
    show channel.accept.2 = channel ∧ ∀ peer, channel.accept.1 ≠ .ok (.accepted peer)
    unfold ChannelDouble.accept
    rw [served]
    cases channel.failsAccept <;> cases channel.listening <;> exact ⟨rfl, nofun⟩
  read alone buffer := by
    have alone : channel.client.isNone = true := Option.isSome_eq_false_iff.mp alone
    exact if_pos alone
  write alone bytes := by
    have alone : channel.client.isNone = true := Option.isSome_eq_false_iff.mp alone
    exact if_pos alone

end Coherent

end ChannelDouble

/--
Whatever is done with a channel and however its host answers, the reader tells whether there is a
client. A client that is served is not replaced, and without one nothing is read, written or
changed. The peer is known while there is a client, and a reply is owed only to a client past its
preamble, with less than the whole of it out.
-/
theorem client_reader_peer_reply_agree :
    (∀ uses : List ChannelDouble.Use,
      ServesOne (uses.foldl ChannelDouble.use ({} : ChannelDouble))) ∧
    ∀ (ν : Type) [StreamHost ν] (host : ν) (uses : List (ChannelUse ν)),
      let channel : TcpChannel ν := uses.foldl TcpChannel.use { host }
      ServesOne channel ∧
        (channel.peer.isSome = true ↔ channel.connected = true) ∧
        ∀ sent, channel.replySent = some sent →
          channel.connected = true ∧ channel.reader.isFramed = true ∧
            (TcpChannel.SendsWithin ν → sent < 16) := by
  -- Either channel is coherent after any uses, and coherence says the rest.
  refine ⟨fun uses => (ChannelDouble.Coherent.uses uses).servesOne, ?_⟩
  intro ν _ host uses channel
  have coherent : channel.Coherent := TcpChannel.Coherent.uses host uses
  refine ⟨coherent.servesOne, by rw [coherent.peer], fun sent owed => ?_⟩
  obtain ⟨served, framed⟩ := coherent.reply owed
  exact ⟨served, framed, fun within => coherent.short within owed⟩

/-- A prepared host takes what its room and the octets allow. -/
theorem CuedHost.sendsWithin : TcpChannel.SendsWithin CuedHost := by
  -- Of its three answers only one takes octets, and no more than it was given.
  intro host bytes count sent
  simp only [StreamHost.send, CuedHost.send] at sent
  split at sent
  · cases sent
  · cases sent
  · cases sent
    exact Nat.min_le_right ..

/-- A prepared channel that has taken one of two clients; the other one waits. -/
def ChannelDouble.visited : List ChannelDouble.Use :=
  [.deed (.queueClient ⟨.ofOctets 10 0 0 9, 40000⟩),
    .deed (.queueClient ⟨.ofOctets 10 0 0 8, 40001⟩), .listen 5555, .accept]

/--
A client that is owed part of the reply is not replaced, and nobody is read from behind it. Nor does
a prepared channel replace its client, although another one waits.
-/
theorem client_reader_peer_reply_agree_owed :
    let host : CuedHost := ⟨⟨[.segment (71 :: handshakeMarker)]⟩, [7]⟩
    let channel : TcpChannel CuedHost :=
      [ChannelUse.listen 5555, .accept, .read [0, 0]].foldl TcpChannel.use { host }
    channel.replySent = some 7 ∧ 7 < 16 ∧ channel.peer.isSome = true ∧
      (PairingChannel.accept channel).2 = channel ∧
      PairingChannel.read channel.close [1] = (⟨0, [1]⟩, channel.close) ∧
    let prepared := ChannelDouble.visited.foldl ChannelDouble.use ({} : ChannelDouble)
    prepared.client = some ⟨.ofOctets 10 0 0 9, 40000⟩ ∧ prepared.waiting ≠ [] ∧
      (PairingChannel.accept prepared).2 = prepared ∧ PairingChannel.reader prepared ≠ .idle := by
  intro host channel
  have owed : channel.replySent = some 7 := by decide +kernel
  obtain ⟨serves, peer, reply⟩ := client_reader_peer_reply_agree.2 CuedHost host
    [ChannelUse.listen 5555, .accept, .read [0, 0]]
  obtain ⟨served, -, short⟩ := reply 7 owed
  -- Closing is one more use of the channel.
  obtain ⟨closed, -⟩ := client_reader_peer_reply_agree.2 CuedHost host
    [ChannelUse.listen 5555, .accept, .read [0, 0], .close]
  -- A prepared channel that holds a client with another one waiting takes nobody.
  have prepared := client_reader_peer_reply_agree.1 ChannelDouble.visited
  exact ⟨owed, short CuedHost.sendsWithin, peer.mpr served, (serves.accept served).1,
    closed.read rfl [1], rfl, nofun, (prepared.accept rfl).1, prepared.client.mp rfl⟩

end CompanionLink
