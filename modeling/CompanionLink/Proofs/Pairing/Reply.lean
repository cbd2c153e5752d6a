import CompanionLink.Proofs.Pairing.Greeting
import CompanionLink.Proofs.Pairing.Tapped

/-!
A client whose preamble was accepted is sent the reply once and before anything else. However the
connection takes what it is handed, and whenever the channel is read from, written to or closed,
what it took is the reply so far, and behind a whole reply the octets that were written.
-/

namespace CompanionLink

open FrameReader

/-- One use of a channel, or something that happens to its host meanwhile. -/
inductive ChannelUse (ν : Type) where
  | listen (port : UInt16)
  | accept
  | read (buffer : Bytes)
  | write (bytes : Bytes)
  | close
  | shutdown
  /-- The host changes in any way, as it does when the client sends something. -/
  | meanwhile (change : ν → ν)

/-- The same use of a channel over the host with a tap, which the change does not touch. -/
def ChannelUse.tapped {ν : Type} : ChannelUse ν → ChannelUse (Tapped ν)
  | .listen port => .listen port
  | .accept => .accept
  | .read buffer => .read buffer
  | .write bytes => .write bytes
  | .close => .close
  | .shutdown => .shutdown
  | .meanwhile change => .meanwhile fun tapped => { tapped with host := change tapped.host }

variable {ν : Type} [StreamHost ν]

/-- The channel after one use. -/
def TcpChannel.use (channel : TcpChannel ν) : ChannelUse ν → TcpChannel ν
  | .listen port => (channel.listen port).2
  | .accept => channel.accept.2
  | .read buffer => (channel.read buffer).2
  | .write bytes => (channel.write bytes).2
  | .close => channel.close
  | .shutdown => channel.shutdown
  | .meanwhile change => { channel with host := change channel.host }

/-- The tap on the host makes no difference to the use of a channel. -/
theorem TcpChannel.use_untapped (channel : TcpChannel (Tapped ν)) (use : ChannelUse ν) :
    channel.untapped.use use = (channel.use use.tapped).untapped := by
  -- Each use has its own lemma.
  cases use with
  | listen port => exact congrArg Prod.snd (channel.listen_untapped port)
  | accept => exact congrArg Prod.snd channel.accept_untapped
  | read buffer => exact congrArg Prod.snd (channel.read_untapped buffer)
  | write bytes => exact congrArg Prod.snd (channel.write_untapped bytes)
  | close => exact channel.close_untapped
  | shutdown => exact channel.shutdown_untapped
  | meanwhile => rfl

/-- The channel with a client after its reader came to a result. -/
def TcpChannel.onResult (channel : TcpChannel ν) (result : ReadResult ν) : TcpChannel ν :=
  let channel := { channel with host := result.source, reader := result.reader }
  match result.event with
  | .pending | .produced _ => channel
  -- The reply is owed from its first octet, and sent as far as the host takes it.
  | .handshakeAccepted => { channel with replySent := some 0 }.flushReply
  | .handshakeRejected | .disconnected => channel.close

/-- A read sends on what is owed of the reply, and then reads from the client that is left. -/
theorem TcpChannel.read_channel (channel : TcpChannel ν) (buffer : Bytes) :
    (channel.read buffer).2 =
      if channel.flushReply.connected then
        channel.flushReply.onResult
          (channel.flushReply.reader.read channel.flushReply.host buffer)
      else channel.flushReply := by
  -- By whether the client is left, and what the read came to.
  unfold read
  rcases channel.flushReply with ⟨host, listening, _ | _, peer, reader, replySent⟩
  · rfl
  · simp only [onResult]
    rcases reader.read host buffer with ⟨_ | _ | _ | _ | _, next, later, filled⟩ <;> rfl

/-- A write counts no more octets than it is given. -/
theorem TcpChannel.count_write_le [LawfulSender ν] (channel : TcpChannel ν) {bytes : Bytes}
    (some : bytes ≠ []) : (channel.write bytes).1 ≤ bytes.length := by
  -- What is not taken is counted as nothing.
  cases refused : channel.refuses with
  | true =>
    rw [channel.write_refused refused]
    exact Nat.zero_le _
  | false =>
    -- Otherwise the host was asked once, and its count is the answer.
    rcases sent : StreamHost.send channel.host bytes with ⟨outcome, later⟩
    cases outcome with
    | sent count =>
      rw [channel.write_taken refused sent (fun _ => nofun)]
      exact (LawfulSender.count_sent channel.host some (congrArg Prod.fst sent)).2
    | wouldBlock =>
      rw [channel.write_taken refused sent (fun _ => nofun)]
      exact Nat.zero_le _
    | failed =>
      rw [channel.write_failed refused sent]
      exact Nat.zero_le _

/-- A channel with what its client was written to since it was accepted. -/
structure Exchange (ν : Type) where
  channel : TcpChannel (Tapped ν)
  /-- Of every write, as many octets as it counted, one write behind the other. -/
  written : Bytes := []

namespace Exchange

/-- The octets that were received from the client. -/
def heard (exchange : Exchange ν) : Bytes := exchange.channel.host.heard

/-- The octets that the client's connection took. -/
def took (exchange : Exchange ν) : Bytes := exchange.channel.host.took

/-- The exchange after one use of the channel. -/
def use (exchange : Exchange ν) (use : ChannelUse ν) : Exchange ν where
  channel := exchange.channel.use use.tapped
  written :=
    match use with
    | .write bytes => exchange.written ++ bytes.take (exchange.channel.untapped.write bytes).1
    -- A new client begins with nothing written.
    | .accept =>
      match exchange.channel.untapped.accept.1 with
      | .ok (.accepted _) => []
      | _ => exchange.written
    | _ => exchange.written

/-- The exchange of a new channel over a host, after uses in order. -/
def after (host : ν) (uses : List (ChannelUse ν)) : Exchange ν :=
  uses.foldl use { channel := { host := { host } } }

end Exchange

/--
What a connection took is part of the reply, and behind the whole reply what was written. It took
nothing before the marker was heard.
-/
structure InOrder (heard took written : Bytes) : Prop where
  exact : ∃ out, took = handshakeReply.take out ++ written ∧
    (written ≠ [] → handshakeReply.length ≤ out)
  marked : took ≠ [] → Deserves heard .matched

/-- How far a client has come with a channel. -/
inductive Stands (channel : TcpChannel (Tapped ν)) (written : Bytes) : Prop
  /-- There is no client any more; the last one may have gone in the middle of its reply. -/
  | gone (left : channel.connected = false) (idle : channel.reader = .idle)
    (paid : channel.replySent = none)
    (order : InOrder channel.host.heard channel.host.took written)
  /-- The client's preamble is searched, and the connection has taken nothing. -/
  | greeting (served : channel.connected = true)
    (searching : channel.reader = .awaitHandshake ⟨channel.host.heard.take preambleLimit⟩)
    (paid : channel.replySent = none) (silent : channel.host.took = []) (unwritten : written = [])
  /-- Part of the reply is out and the rest is owed. -/
  | replying (out : Nat) (served : channel.connected = true)
    (framed : channel.reader.isFramed = true) (marked : Deserves channel.host.heard .matched)
    (owed : channel.replySent = some out) (short : out < handshakeReply.length)
    (exact : channel.host.took = handshakeReply.take out) (unwritten : written = [])
  /-- The reply is out, and the client may be written to. -/
  | serving (served : channel.connected = true) (framed : channel.reader.isFramed = true)
    (marked : Deserves channel.host.heard .matched) (paid : channel.replySent = none)
    (exact : channel.host.took = handshakeReply ++ written)

namespace InOrder

variable {heard took written : Bytes}

/-- Behind nothing but part of the reply nothing was written. -/
theorem of_reply (out : Nat) (exact : took = handshakeReply.take out) (unwritten : written = [])
    (marked : took ≠ [] → Deserves heard .matched) : InOrder heard took written := by
  -- The octets out so far are the reply's, and no others.
  subst unwritten
  exact ⟨⟨out, by rw [exact, List.append_nil], fun some => absurd rfl some⟩, marked⟩

/-- Behind the whole reply anything may have been written. -/
theorem of_whole (exact : took = handshakeReply ++ written) (marked : Deserves heard .matched) :
    InOrder heard took written :=
  -- All of the reply is out.
  ⟨⟨handshakeReply.length, by rw [exact, List.take_length], fun _ => Nat.le_refl _⟩,
    fun _ => marked⟩

/-- What was written stands behind the whole reply, or nothing was written. -/
theorem cases (order : InOrder heard took written) :
    took = handshakeReply ++ written ∨
      ∃ out, took = handshakeReply.take out ∧ written = [] := by
  -- Something that was written tells that the whole reply is out.
  obtain ⟨out, exact, whole⟩ := order.exact
  by_cases some : written = []
  · exact .inr ⟨out, by rw [exact, some, List.append_nil], some⟩
  · exact .inl (by rw [exact, List.take_of_length_le (whole some)])

/-- What was taken begins the reply and what was written behind it. -/
theorem isPrefix (order : InOrder heard took written) : took <+: handshakeReply ++ written := by
  -- Either all of it was taken, or a part of the reply alone.
  obtain exact | ⟨out, exact, unwritten⟩ := order.cases
  · exact exact ▸ List.prefix_refl _
  · rw [exact, unwritten, List.append_nil]
    exact List.take_prefix ..

/-- Behind the octets of the reply stands what was written, and nothing else. -/
theorem drop_reply (order : InOrder heard took written) :
    took.drop handshakeReply.length = written := by
  -- Either the reply is dropped as a whole, or there was not more than a part of it.
  obtain exact | ⟨out, exact, unwritten⟩ := order.cases
  · rw [exact, List.drop_left]
  · rw [exact, unwritten, List.drop_eq_nil_iff]
    exact List.length_take_le' ..

/-- Octets that are heard later leave the marker where it was heard. -/
theorem later {more : Bytes} (order : InOrder heard took written) (longer : heard <+: more) :
    InOrder more took written :=
  -- The part taken is the same, and a verdict on the first octets stands.
  ⟨order.exact, fun some => (order.marked some).longer longer nofun⟩

end InOrder

namespace Stands

variable {channel : TcpChannel (Tapped ν)} {written : Bytes}

section Host

omit [StreamHost ν]

/-- Wherever a client stands, what its connection took is in order. -/
theorem order (stands : Stands channel written) :
    InOrder channel.host.heard channel.host.took written := by
  -- By how far the client has come.
  cases stands with
  | gone _ _ _ order => exact order
  | greeting _ _ _ silent unwritten =>
    exact .of_reply 0 silent unwritten fun some => absurd silent some
  | replying out _ _ marked _ _ exact unwritten =>
    exact .of_reply out exact unwritten fun _ => marked
  | serving _ _ marked _ exact => exact .of_whole exact marked

/-- What happens to the host or to the listening socket does not move a client. -/
theorem aside (stands : Stands channel written) (host : ν) (listening : Bool) :
    Stands { channel with host := { channel.host with host }, listening } written := by
  -- No place of a client speaks of the host behind the tap or of the listening socket.
  cases stands with
  | gone left idle paid order => exact .gone left idle paid order
  | greeting served searching paid silent unwritten =>
    exact .greeting served searching paid silent unwritten
  | replying out served framed marked owed short exact unwritten =>
    exact .replying out served framed marked owed short exact unwritten
  | serving served framed marked paid exact => exact .serving served framed marked paid exact

end Host

/-- A channel that drops its client keeps what the connection took in order. -/
theorem close (order : InOrder channel.host.heard channel.host.took written) :
    Stands channel.close written := by
  -- A client that is dropped leaves the notes as they are.
  refine .gone rfl rfl rfl ?_
  unfold TcpChannel.close
  cases channel.connected <;> exact order

/-- A listening socket that is opened does not move a client. -/
theorem listen (stands : Stands channel written) (port : UInt16) :
    Stands (channel.listen port).2 written := by
  -- By whether a socket was open, and what the host answers.
  unfold TcpChannel.listen
  split
  · exact stands
  · simp only [StreamHost.listen]
    rcases StreamHost.listen channel.host.host port with ⟨_ | _, later⟩
    · exact stands.aside later channel.listening
    · exact stands.aside later true

/-- A channel that is shut down drops its client first. -/
theorem shutdown (stands : Stands channel written) : Stands channel.shutdown written := by
  -- The socket is closed behind the client.
  have closed := close stands.order
  unfold TcpChannel.shutdown
  dsimp only
  split
  · exact closed.aside (StreamHost.unlisten channel.close.host.host) false
  · exact closed

/-- A new client is owed nothing, and its connection has taken nothing. -/
theorem accept (stands : Stands channel written) :
    Stands channel.accept.2
      (match channel.accept.1 with
        | .ok (.accepted _) => []
        | _ => written) := by
  -- Only a channel that listens and has no client asks its host for one.
  unfold TcpChannel.accept
  split
  · exact stands
  · split
    · exact stands
    · rw [show StreamHost.accept channel.host = channel.host.accept from rfl]
      unfold Tapped.accept
      rcases StreamHost.accept channel.host.host with ⟨_ | _ | _, later⟩
      -- A new client owes its preamble, and nothing of the last one's is left.
      · exact .greeting rfl rfl rfl rfl rfl
      · exact stands.aside later channel.listening
      · exact stands.aside later channel.listening

/--
However the connection takes the reply, it goes on from the octet where it stopped. The first answer
is where it stops this time, unless the send failed.
-/
theorem sendReply_goesOn [LawfulSender ν] {tapped : Tapped ν} {sent : Nat}
    (bound : sent ≤ handshakeReply.length) (before : tapped.took = handshakeReply.take sent) :
    ∃ out answer later, TcpChannel.sendReply tapped sent = (answer, later) ∧
      (answer = none ∨ answer = some out) ∧ out ≤ handshakeReply.length ∧
      later.took = handshakeReply.take out ∧ later.heard = tapped.heard := by
  -- The induction follows the sends; what went out so far is what the next one begins behind.
  fun_induction TcpChannel.sendReply tapped sent with
  | case1 tapped sent owed later full | case2 tapped sent owed later full =>
    -- The connection takes nothing now.
    obtain ⟨heard, took⟩ := Tapped.note_send_none full rfl
    exact ⟨sent, some sent, later, rfl, .inr rfl, bound, took.trans before, heard⟩
  | case3 tapped sent owed more later part ih =>
    obtain ⟨heard, took⟩ := Tapped.note_send part
    -- The law bounds the octets that went out, so the reply is not overrun.
    have rest : handshakeReply.drop sent ≠ [] := by
      rw [ne_eq, List.drop_eq_nil_iff]
      omega
    obtain ⟨-, fits⟩ := LawfulSender.count_sent tapped rest (congrArg Prod.fst part)
    rw [List.length_drop] at fits
    rw [SendOutcome.count, before, ← List.take_add] at took
    rw [← heard]
    exact ih (by omega) took
  | case4 tapped sent owed reason later failed =>
    obtain ⟨heard, took⟩ := Tapped.note_send_none failed rfl
    exact ⟨sent, none, later, rfl, .inl rfl, bound, took.trans before, heard⟩
  | case5 tapped sent done => exact ⟨sent, some sent, tapped, rfl, .inr rfl, bound, before, rfl⟩

/-- Sending a client what it is owed of the reply moves it on, or drops it. -/
theorem flush_owed [LawfulSender ν] {out : Nat} (served : channel.connected = true)
    (framed : channel.reader.isFramed = true) (marked : Deserves channel.host.heard .matched)
    (owed : channel.replySent = some out) (bound : out ≤ handshakeReply.length)
    (before : channel.host.took = handshakeReply.take out) (unwritten : written = []) :
    Stands channel.flushReply written := by
  -- The reply goes on from where it stood, and stops at its end or before it.
  obtain ⟨stop, answer, later, sent, answers, within, took, heard⟩ :=
    sendReply_goesOn bound before
  rw [← heard] at marked
  unfold TcpChannel.flushReply
  simp only [owed, served, if_true, sent]
  obtain rfl | rfl := answers
  · -- The send failed, and the client goes with part of its reply.
    exact close (.of_reply stop took unwritten fun _ => marked)
  · dsimp only
    split
    -- The whole reply is out, so the client is served from now on.
    · next whole =>
      refine .serving rfl framed marked rfl ?_
      rw [took, whole, List.take_length, unwritten, List.append_nil]
    -- Part of it is still owed.
    · next part =>
      exact .replying stop rfl framed marked rfl (Nat.lt_of_le_of_ne within part) took unwritten

/-- Sending on what is owed of the reply leaves every other client where it stands. -/
theorem flushReply [LawfulSender ν] (stands : Stands channel written) :
    Stands channel.flushReply written := by
  cases found : stands with
  | replying out served framed marked owed short exact unwritten =>
    exact flush_owed served framed marked owed (Nat.le_of_lt short) exact unwritten
  | gone _ _ paid _ | greeting _ _ paid _ _ | serving _ _ _ paid _ =>
    -- Nothing is owed.
    have still : channel.flushReply = channel := by
      unfold TcpChannel.flushReply
      rw [paid]
    rw [still]
    exact stands

/-- A read of a client's preamble, with all that was heard of the client up to then. -/
inductive Hears (result : ReadResult (Tapped ν)) : Prop
  /-- The search goes on with the first octets of all that was heard. -/
  | searching (event : result.event = .pending)
    (reader : result.reader = .awaitHandshake ⟨result.source.heard.take preambleLimit⟩) :
    Hears result
  /-- The marker was among them. -/
  | accepted (event : result.event = .handshakeAccepted) (framed : result.reader.isFramed = true)
    (marked : Deserves result.source.heard .matched) : Hears result
  /-- The client is to be dropped. -/
  | dropped (event : result.event = .handshakeRejected ∨ result.event = .disconnected) :
    Hears result

/-- A client is accepted by what was heard of it, whatever a receive brings. -/
theorem hears_readPreamble (tapped : Tapped ν) (buffer : Bytes) :
    Hears (FrameReader.readPreamble ⟨tapped.heard.take preambleLimit⟩ tapped buffer) := by
  -- By what the receive brings.
  unfold FrameReader.readPreamble
  rcases received : Receiver.receive tapped (Preamble.room ⟨tapped.heard.take preambleLimit⟩) with
    ⟨⟨_ | ⟨first, more⟩⟩ | _ | _, later⟩
  · exact .dropped (.inr rfl)
  · -- What was searched and what came are the first octets of all that was heard.
    have heard : later.heard = tapped.heard ++ first :: more := (Tapped.note_receive received).1
    have deserves := Preamble.verdict_take later.heard
    simp only [Preamble.feed, Preamble.extend_take, ← heard]
    cases said : (Preamble.mk (later.heard.take preambleLimit)).verdict with
    | matched => exact .accepted rfl rfl (by rwa [said] at deserves)
    | pending => exact .searching rfl rfl
    | rejected => exact .dropped (.inl rfl)
  -- Nothing came, so nothing more was heard.
  · have heard : later.heard = tapped.heard ++ [] := (Tapped.note_receive received).1
    exact .searching rfl (by rw [heard, List.append_nil])
  · exact .dropped (.inr rfl)

/-- What a read hears of the client, wherever the reader stands; it takes nothing. -/
theorem note_read (reader : FrameReader) (tapped : Tapped ν) (buffer : Bytes) :
    tapped.heard <+: (reader.read tapped buffer).source.heard ∧
      (reader.read tapped buffer).source.took = tapped.took := by
  -- A read only receives, wherever the reader stands.
  obtain ⟨draws, drawn⟩ := exists_draws_read reader tapped buffer
  obtain ⟨heard, took⟩ := Tapped.note_draws drawn
  exact ⟨⟨_, heard.symm⟩, took⟩

section Result

variable {result : ReadResult (Tapped ν)}

/-- A client that is turned away or gone leaves what its connection took in order. -/
theorem onResult_dropped (order : InOrder result.source.heard result.source.took written)
    (event : result.event = .handshakeRejected ∨ result.event = .disconnected) :
    Stands (channel.onResult result) written := by
  -- Both events close the channel.
  unfold TcpChannel.onResult
  obtain event | event := event <;> rw [event] <;> exact close order

/-- A read that leaves the client leaves what its reader came to. -/
theorem onResult_stays (event : result.event = .pending ∨ ∃ count, result.event = .produced count) :
    channel.onResult result = { channel with host := result.source, reader := result.reader } := by
  -- Neither of the two events does anything with the channel.
  unfold TcpChannel.onResult
  obtain event | ⟨count, event⟩ := event <;> rw [event]

/-- A client that is accepted is sent the reply from its first octet on. -/
theorem onResult_accepted [LawfulSender ν] (served : channel.connected = true)
    (event : result.event = .handshakeAccepted) (framed : result.reader.isFramed = true)
    (marked : Deserves result.source.heard .matched) (silent : result.source.took = [])
    (unwritten : written = []) : Stands (channel.onResult result) written := by
  -- Nothing of the reply is out yet.
  unfold TcpChannel.onResult
  rw [event]
  exact flush_owed served framed marked rfl (Nat.zero_le _) silent unwritten

end Result

/-- A read of a client leaves it further on, or drops it. -/
theorem onResult [LawfulSender ν] (stands : Stands channel written)
    (served : channel.connected = true) (buffer : Bytes) :
    Stands (channel.onResult (channel.reader.read channel.host buffer)) written := by
  -- Where the client stands decides which read it was.
  obtain ⟨heard, took⟩ := note_read channel.reader channel.host buffer
  -- Whatever the read comes to, it took nothing and heard no less than before.
  have order := stands.order.later heard
  rw [← took] at order
  have still (marked : Deserves channel.host.heard .matched) := marked.longer heard (by decide)
  cases stands with
  | gone left => exact absurd (left.symm.trans served) Bool.false_ne_true
  | greeting _ searching paid silent unwritten =>
    have hears := hears_readPreamble channel.host buffer
    have same : channel.reader.read channel.host buffer =
        FrameReader.readPreamble ⟨channel.host.heard.take preambleLimit⟩ channel.host buffer := by
      rw [searching, FrameReader.read]
    rw [← same] at hears
    have silent := took.trans silent
    cases hears with
    | searching event reader =>
      rw [onResult_stays (.inl event)]
      exact .greeting served reader paid silent unwritten
    | accepted event framed marked =>
      exact onResult_accepted served event framed marked silent unwritten
    | dropped event => exact onResult_dropped order event
  -- A client past its preamble is read from frame by frame, and its reply is untouched.
  | replying out _ framed marked owed short exact unwritten =>
    obtain gone | stays := stays_read framed channel.host buffer
    · exact onResult_dropped order (.inr gone)
    · rw [onResult_stays stays.event]
      exact .replying out served stays.isFramed (still marked) owed short
        (took.trans exact) unwritten
  | serving _ framed marked paid exact =>
    obtain gone | stays := stays_read framed channel.host buffer
    · exact onResult_dropped order (.inr gone)
    · rw [onResult_stays stays.event]
      exact .serving served stays.isFramed (still marked) paid (took.trans exact)

/-- A read leaves a client further on, or drops it. -/
theorem read [LawfulSender ν] (stands : Stands channel written) (buffer : Bytes) :
    Stands (channel.read buffer).2 written := by
  -- What is owed of the reply goes first, and may already cost the client.
  rw [TcpChannel.read_channel]
  split
  · next served => exact stands.flushReply.onResult served buffer
  · exact stands.flushReply

/-- A client that is accepted is owed nothing, and its connection has heard and taken nothing. -/
theorem accept_fresh {peer : SocketAddress}
    (accepted : channel.accept.1 = .ok (.accepted peer)) :
    channel.accept.2.replySent = none ∧ channel.accept.2.host.heard = [] ∧
      channel.accept.2.host.took = [] := by
  -- Of all the ways out only one takes a client, and it clears what was noted.
  revert accepted
  unfold TcpChannel.accept
  split
  · exact nofun
  · split
    · exact nofun
    -- The tap starts anew with the connection.
    · rw [show StreamHost.accept channel.host = channel.host.accept from rfl]
      unfold Tapped.accept
      rcases StreamHost.accept channel.host.host with ⟨_ | _ | _, later⟩
      · exact fun _ => ⟨rfl, rfl, rfl⟩
      · exact nofun
      · exact nofun

/-- What a write counts the connection takes, and only behind the whole reply. -/
theorem write (stands : Stands channel written) (bytes : Bytes) :
    Stands (channel.write bytes).2 (written ++ bytes.take (channel.write bytes).1) := by
  -- The channel refuses, the host fails, or the host takes some of it.
  cases refused : channel.refuses with
  | true =>
    rw [channel.write_refused refused, List.take_zero, List.append_nil]
    exact stands
  | false =>
    rcases sent : StreamHost.send channel.host bytes with ⟨outcome, later⟩
    -- A channel that does not refuse has a client with its whole reply.
    cases found : stands with
    | gone left => simp [TcpChannel.refuses, left] at refused
    | greeting _ searching => simp [TcpChannel.refuses, searching, awaitsHandshake] at refused
    | replying _ _ _ _ owed => simp [TcpChannel.refuses, TcpChannel.replyPending, owed] at refused
    | serving served framed marked paid exact =>
      cases outcome with
      | failed reason =>
        obtain ⟨heard, took⟩ := Tapped.note_send_none sent rfl
        have order := stands.order
        rw [← heard, ← took] at order
        rw [channel.write_failed refused sent, List.take_zero, List.append_nil]
        exact close order
      | sent | wouldBlock =>
        obtain ⟨heard, took⟩ := Tapped.note_send sent
        rw [channel.write_taken refused sent (fun _ => nofun)]
        refine .serving served framed (heard ▸ marked) paid ?_
        rw [← List.append_assoc, ← exact]
        exact took

omit [StreamHost ν] in
/-- A client past its preamble has the whole reply or is owed the rest of it. -/
theorem reply_owed (stands : Stands channel written) (served : channel.connected = true)
    (framed : channel.reader.isFramed = true) :
    match channel.replySent with
    | none => channel.host.took = handshakeReply ++ written
    | some out => out < handshakeReply.length ∧ channel.host.took = handshakeReply.take out ∧
        written = [] := by
  -- Two of the four places are those of a client past its preamble.
  cases stands with
  | gone left => exact absurd (left.symm.trans served) Bool.false_ne_true
  | greeting _ searching =>
    rw [searching] at framed
    cases framed
  -- In the other two the reply is under way, or out.
  | replying out _ _ _ owed short exact unwritten =>
    rw [owed]
    exact ⟨short, exact, unwritten⟩
  | serving _ _ _ paid exact =>
    rw [paid]
    exact exact

end Stands

namespace Exchange

/-- Every use of the channel leaves its client somewhere. -/
theorem stands_use [LawfulSender ν] {exchange : Exchange ν}
    (stands : Stands exchange.channel exchange.written) (use : ChannelUse ν) :
    Stands (exchange.use use).channel (exchange.use use).written := by
  -- By the use; the tap's count of a write is the channel's own.
  cases use with
  | listen port => exact stands.listen port
  | accept =>
    simp only [Exchange.use, TcpChannel.accept_untapped]
    exact stands.accept
  | read buffer => exact stands.read buffer
  | write bytes =>
    simp only [Exchange.use, TcpChannel.write_untapped]
    exact stands.write bytes
  | close => exact .close stands.order
  | shutdown => exact stands.shutdown
  -- What the host does by itself changes no octet that was noted.
  | meanwhile change =>
    exact stands.aside (change exchange.channel.host.host) exchange.channel.listening

/-- Wherever the uses of a new channel lead, its client stands somewhere. -/
theorem stands_after [LawfulSender ν] (host : ν) (uses : List (ChannelUse ν)) :
    Stands (after host uses).channel (after host uses).written := by
  -- The last use finds the client where the earlier ones left it.
  induction uses using List.reverseRecOn with
  | nil => exact .gone rfl rfl rfl (.of_reply 0 rfl rfl fun some => absurd rfl some)
  | append_singleton uses use ih =>
    rw [after, List.foldl_append]
    exact stands_use ih use

/-- Without the tap the exchange is what the channel does over the host itself. -/
theorem untapped_after (host : ν) (uses : List (ChannelUse ν)) :
    (after host uses).channel.untapped = uses.foldl TcpChannel.use { host } := by
  -- By induction on the uses from the end.
  induction uses using List.reverseRecOn with
  | nil => rfl
  | append_singleton uses use ih =>
    rw [after, List.foldl_append, List.foldl_append, ← ih]
    exact (TcpChannel.use_untapped _ use).symm

/--
Whatever is done with a channel and however its host answers, a client's connection takes the reply
once and first. What it took is a part of the reply, and behind the whole reply the octets that
writes counted, in order; it took nothing before the marker was heard. A client past its preamble
has the whole reply or is owed the rest of it, and a new one has taken nothing and is owed nothing.
-/
theorem reply_once_and_first [LawfulSender ν] (host : ν) (uses : List (ChannelUse ν)) :
    let channel : TcpChannel ν := uses.foldl TcpChannel.use { host }
    let exchange := after host uses
    exchange.channel.untapped = channel ∧
    exchange.took <+: handshakeReply ++ exchange.written ∧
    exchange.took.drop handshakeReply.length = exchange.written ∧
    (exchange.took ≠ [] → handshakeMarker <:+: exchange.heard.take preambleLimit) ∧
    (channel.connected = true → channel.reader.isFramed = true →
      match channel.replySent with
      | none => exchange.took = handshakeReply ++ exchange.written
      | some out => out < handshakeReply.length ∧ exchange.took = handshakeReply.take out ∧
          exchange.written = []) ∧
    (∀ bytes ≠ [], (channel.write bytes).1 ≤ bytes.length) ∧
    (∀ peer, channel.accept.1 = .ok (.accepted peer) →
      let fresh := exchange.use .accept
      channel.accept.2.replySent = none ∧
        fresh.heard = [] ∧ fresh.took = [] ∧ fresh.written = []) := by
  intro channel exchange
  have stands : Stands exchange.channel exchange.written := stands_after host uses
  have order := stands.order
  -- The tap only watches, so what it tells of the exchange holds of the channel over its host.
  have same : exchange.channel.untapped = channel := untapped_after host uses
  refine ⟨same, order.isPrefix, order.drop_reply, fun some => ?_, ?_, ?_, ?_⟩
  · cases order.marked some with
    | matched marked => exact marked
  -- What is owed is read off where the client stands.
  · rw [← same]
    exact stands.reply_owed
  · exact fun bytes some => channel.count_write_le some
  -- Accepting begins a new exchange.
  · intro peer accepted
    rw [← same, TcpChannel.accept_untapped] at accepted ⊢
    obtain ⟨paid, heard, took⟩ := Stands.accept_fresh accepted
    refine ⟨paid, heard, took, ?_⟩
    simp only [use, TcpChannel.accept_untapped, accepted]

end Exchange

/-- A host that is prepared with what its receives bring and how much its sends may take. -/
structure CuedHost where
  receiver : CuedReceiver
  /-- How many octets each send takes at most; at none the sender has to wait. -/
  room : List Nat
deriving DecidableEq, Repr

namespace CuedHost

/-- Uses the room of one send. -/
def send (host : CuedHost) (bytes : Bytes) : SendOutcome × CuedHost :=
  match host.room with
  | [] => (.wouldBlock, host)
  | 0 :: later => (.wouldBlock, { host with room := later })
  | room :: later => (.sent (min room bytes.length), { host with room := later })

/-- A host whose receives and sends go as prepared, and which always has a client to connect. -/
instance : StreamHost CuedHost where
  receive host wanted :=
    let (receipt, receiver) := host.receiver.receive wanted
    (receipt, { host with receiver })
  listen host _ := (.ok (), host)
  accept host := (.connected ⟨.ofOctets 127 0 0 1, 32768⟩, host)
  send := send
  reset host := host
  unlisten host := host
  localPort _ := none

/-- A send takes what its room allows, and room for nothing is not a send. -/
instance : LawfulSender CuedHost where
  count_sent host bytes some count sent := by
    have length := List.length_pos_iff.mpr some
    simp only [StreamHost.send, send] at sent
    split at sent
    · cases sent
    · cases sent
    · next room later more cued =>
      have positive : room ≠ 0 := more
      cases sent
      omega

end CuedHost

namespace Exchange

/-- The reply goes out in three parts, and a write that comes before the last of them is refused. -/
theorem reply_once_and_first_parts :
    let host : CuedHost := ⟨⟨[.segment (71 :: handshakeMarker)]⟩, [7, 0, 4, 20, 2]⟩
    let uses : List (ChannelUse CuedHost) :=
      [.listen 5555, .accept, .read [0, 0], .write [1, 2, 3], .read [0, 0], .write [1, 2, 3],
        .read [0, 0], .write [1, 2, 3]]
    (after host uses).took.drop handshakeReply.length = [1, 2] ∧
      handshakeMarker <:+: (after host uses).heard.take preambleLimit := by
  intro host uses
  -- What the writes counted and what was heard is evaluated.
  obtain ⟨-, -, wrote, marked, -⟩ := reply_once_and_first host uses
  exact ⟨wrote.trans (by decide +kernel), marked (by decide +kernel)⟩

end Exchange

end CompanionLink
