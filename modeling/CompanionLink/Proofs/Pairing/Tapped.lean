import CompanionLink.Pairing.Tcp
import CompanionLink.Proofs.Pairing.Watch

/-!
A host with a tap on its connection: what was heard from the client and what the connection took is
written down, and a channel over the host is none the wiser.
-/

namespace CompanionLink

/-- A host with the octets of the connection that it took last. -/
structure Tapped (ν : Type) where
  host : ν
  /-- The octets that were received from the client. -/
  heard : Bytes := []
  /-- The octets that the connection took. -/
  took : Bytes := []
deriving DecidableEq, Repr

/-- How many octets a send took. -/
def SendOutcome.count : SendOutcome → Nat
  | .sent count => count
  | _ => 0

/-- A host whose connection takes at least one of the octets that a send counts, and at most all. -/
class LawfulSender (ν : Type) [StreamHost ν] : Prop where
  count_sent (host : ν) {bytes : Bytes} (some : bytes ≠ []) {count : Nat}
    (sent : (StreamHost.send host bytes).1 = .sent count) : 0 < count ∧ count ≤ bytes.length

namespace Tapped

variable {ν : Type} [StreamHost ν]

/-- One receive, which is heard. -/
def receive (tapped : Tapped ν) (wanted : Nat) : Receipt × Tapped ν :=
  let (receipt, host) := Receiver.receive tapped.host wanted
  (receipt, { tapped with host, heard := tapped.heard ++ receipt.bytes })

/-- Takes a waiting connection; a new one has heard nothing and taken nothing. -/
def accept (tapped : Tapped ν) : ConnectionOutcome × Tapped ν :=
  match StreamHost.accept tapped.host with
  | (.connected peer, host) => (.connected peer, { host })
  | (.nonePending, host) => (.nonePending, { tapped with host })
  | (.failed reason, host) => (.failed reason, { tapped with host })

/-- One send, with the octets that it took. -/
def send (tapped : Tapped ν) (bytes : Bytes) : SendOutcome × Tapped ν :=
  let (outcome, host) := StreamHost.send tapped.host bytes
  (outcome, { tapped with host, took := tapped.took ++ bytes.take outcome.count })

/-- A tapped host answers as the host does, with receives and sends noted beside it. -/
instance : StreamHost (Tapped ν) where
  receive := receive
  listen tapped port :=
    let (outcome, host) := StreamHost.listen tapped.host port
    (outcome, { tapped with host })
  accept := accept
  send := send
  reset tapped := { tapped with host := StreamHost.reset tapped.host }
  unlisten tapped := { tapped with host := StreamHost.unlisten tapped.host }
  localPort tapped := StreamHost.localPort tapped.host

/-- A tap on a lawful sender sends as lawfully. -/
instance [LawfulSender ν] : LawfulSender (Tapped ν) where
  count_sent tapped _ some _ sent := LawfulSender.count_sent tapped.host some sent

variable {tapped later : Tapped ν}

/-- A receive is heard, and takes nothing. -/
theorem note_receive {wanted : Nat} {receipt : Receipt}
    (received : Receiver.receive tapped wanted = (receipt, later)) :
    later.heard = tapped.heard ++ receipt.bytes ∧ later.took = tapped.took := by
  -- The note is what the receipt brought.
  obtain ⟨rfl, rfl⟩ := Prod.mk.inj received
  exact ⟨rfl, rfl⟩

/-- A send takes what it counts, and nothing is heard. -/
theorem note_send {bytes : Bytes} {outcome : SendOutcome}
    (sent : StreamHost.send tapped bytes = (outcome, later)) :
    later.heard = tapped.heard ∧ later.took = tapped.took ++ bytes.take outcome.count := by
  -- The note is what the outcome counts of the octets.
  obtain ⟨rfl, rfl⟩ := Prod.mk.inj sent
  exact ⟨rfl, rfl⟩

/-- A send that counts nothing takes nothing. -/
theorem note_send_none {bytes : Bytes} {outcome : SendOutcome}
    (sent : StreamHost.send tapped bytes = (outcome, later)) (none : outcome.count = 0) :
    later.heard = tapped.heard ∧ later.took = tapped.took := by
  -- No octets are a note without octets.
  have noted := note_send sent
  rwa [none, List.take_zero, List.append_nil] at noted

/-- Receives are heard one behind the other. -/
theorem note_draws {draws : List Draw} (drawn : Draws tapped draws later) :
    later.heard = tapped.heard ++ taken draws ∧ later.took = tapped.took := by
  -- By induction on the receives.
  induction drawn with
  | done => exact ⟨(List.append_nil _).symm, rfl⟩
  | more received _ ih =>
    obtain ⟨heard, took⟩ := note_receive received
    rw [ih.1, ih.2, heard, took, taken_cons, List.append_assoc]
    exact ⟨rfl, rfl⟩

/-- A connection is taken exactly when the host takes one. -/
theorem accept_untapped (tapped : Tapped ν) :
    StreamHost.accept tapped.host = (tapped.accept.1, tapped.accept.2.host) := by
  -- A new connection clears the notes, and the host answers for itself.
  unfold accept
  rcases StreamHost.accept tapped.host with ⟨_ | _ | _, _⟩ <;> rfl

end Tapped

namespace TcpChannel

variable {ν : Type} [StreamHost ν]

/-- Whether a channel writes nothing, having no client that is through with its reply. -/
def refuses (channel : TcpChannel ν) : Bool :=
  channel.replyPending || channel.reader.awaitsHandshake || !channel.connected

/-- A write that is refused leaves the channel alone. -/
theorem write_refused (channel : TcpChannel ν) (refused : channel.refuses = true)
    (bytes : Bytes) : channel.write bytes = (0, channel) := if_pos refused

/-- A write whose send fails drops the client. -/
theorem write_failed (channel : TcpChannel ν) (isOpen : channel.refuses = false) {bytes : Bytes}
    {reason : String} {host : ν}
    (sent : StreamHost.send channel.host bytes = (.failed reason, host)) :
    channel.write bytes = (0, { channel with host }.close) := by
  -- Past the guard, the outcome of the send decides.
  refine (if_neg (Bool.eq_false_iff.mp isOpen)).trans ?_
  rw [sent]

/-- Any other write counts what its send took. -/
theorem write_taken (channel : TcpChannel ν) (isOpen : channel.refuses = false) {bytes : Bytes}
    {outcome : SendOutcome} {host : ν}
    (sent : StreamHost.send channel.host bytes = (outcome, host))
    (stays : ∀ reason, outcome ≠ .failed reason) :
    channel.write bytes = (outcome.count, { channel with host }) := by
  -- Past the guard, both outcomes that keep the client write back the host.
  refine (if_neg (Bool.eq_false_iff.mp isOpen)).trans ?_
  rw [sent]
  cases outcome with
  | sent | wouldBlock => rfl
  | failed reason => exact absurd rfl (stays reason)

/-- The channel without the tap on its host. -/
def untapped (channel : TcpChannel (Tapped ν)) : TcpChannel ν :=
  { channel with host := channel.host.host }

/-- The reply goes out as it does without the tap. -/
theorem sendReply_untapped (tapped : Tapped ν) (sent : Nat) :
    sendReply tapped.host sent =
      ((sendReply tapped sent).1, (sendReply tapped sent).2.host) := by
  -- Every send has the same outcome on the host and on its tap.
  have same (tapped : Tapped ν) (bytes : Bytes) :
      StreamHost.send tapped.host bytes =
        ((StreamHost.send tapped bytes).1, (StreamHost.send tapped bytes).2.host) := rfl
  -- The two go through the same sends, one after the other.
  fun_induction sendReply tapped sent with
  | case1 tapped sent owed later full | case2 tapped sent owed later full =>
    rw [sendReply, if_pos owed, same, full]
  | case3 tapped sent owed more later out ih =>
    rw [sendReply, if_pos owed, same, out]
    exact ih
  | case4 tapped sent owed reason later failed => rw [sendReply, if_pos owed, same, failed]
  | case5 tapped sent done => rw [sendReply, if_neg done]

/-- The client is dropped as it is without the tap. -/
theorem close_untapped (channel : TcpChannel (Tapped ν)) :
    channel.untapped.close = channel.close.untapped := by
  -- By whether there is a client.
  unfold close untapped
  cases channel.connected <;> rfl

/-- What is owed of the reply is sent on as it is without the tap. -/
theorem flushReply_untapped (channel : TcpChannel (Tapped ν)) :
    channel.untapped.flushReply = channel.flushReply.untapped := by
  -- Only a client that is owed something is sent to.
  rcases channel with ⟨tapped, listening, connected, peer, reader, _ | sent⟩
  · rfl
  · cases connected with
    | false => rfl
    | true =>
      simp only [flushReply, untapped, sendReply_untapped]
      rcases sendReply tapped sent with ⟨_ | out, later⟩
      · rfl
      · rfl

/-- Listening has the same outcome with the tap and without. -/
theorem listen_untapped (channel : TcpChannel (Tapped ν)) (port : UInt16) :
    channel.untapped.listen port =
      ((channel.listen port).1, (channel.listen port).2.untapped) := by
  -- By whether a socket is open, and what the host answers.
  rcases channel with ⟨tapped, _ | _, connected, peer, reader, replySent⟩
  · simp only [listen, untapped, StreamHost.listen]
    rcases StreamHost.listen tapped.host port with ⟨_ | _, _⟩ <;> rfl
  · rfl

/-- A client is taken with the tap exactly when it is taken without. -/
theorem accept_untapped (channel : TcpChannel (Tapped ν)) :
    channel.untapped.accept = (channel.accept.1, channel.accept.2.untapped) := by
  -- The host is asked only by a channel that listens and has no client.
  rcases channel with ⟨tapped, _ | _, _ | _, peer, reader, replySent⟩
  case true.false =>
    have taken := tapped.accept_untapped
    simp only [accept, untapped, taken]
    rw [show StreamHost.accept tapped = tapped.accept from rfl]
    rcases tapped.accept with ⟨_ | _ | _, _⟩ <;> rfl
  all_goals rfl

/-- A read delivers the same with the tap and without. -/
theorem read_untapped (channel : TcpChannel (Tapped ν)) (buffer : Bytes) :
    channel.untapped.read buffer =
      ((channel.read buffer).1, (channel.read buffer).2.untapped) := by
  -- Both send on what is owed first, and a client that is lost over it is not read from.
  unfold read
  rw [flushReply_untapped]
  rcases channel.flushReply with ⟨tapped, listening, _ | _, peer, reader, replySent⟩
  · rfl
  · -- The reader depends on its source only through what it answers.
    have same := reader.read_view Tapped.host (fun _ _ => rfl) tapped buffer
    simp only [untapped, same, ReadResult.mapSource]
    rcases reader.read tapped buffer with ⟨event, next, later, filled⟩
    -- What follows an event is the same on both sides, and accepting flushes the reply.
    cases event with
    | handshakeAccepted =>
      exact Prod.ext rfl (flushReply_untapped ⟨later, listening, true, peer, next, some 0⟩)
    | pending | produced | handshakeRejected | disconnected => rfl

/-- A write counts the same with the tap and without. -/
theorem write_untapped (channel : TcpChannel (Tapped ν)) (bytes : Bytes) :
    channel.untapped.write bytes =
      ((channel.write bytes).1, (channel.write bytes).2.untapped) := by
  -- By the same cases that a write makes.
  cases refused : channel.refuses with
  | true => rw [channel.write_refused refused, channel.untapped.write_refused refused]
  | false =>
    rcases sent : StreamHost.send channel.host bytes with ⟨outcome, later⟩
    -- The tap notes the send and passes its outcome on.
    have untappedSent : StreamHost.send channel.untapped.host bytes = (outcome, later.host) := by
      cases sent
      rfl
    cases outcome with
    | sent | wouldBlock =>
      rw [channel.write_taken refused sent (fun _ => nofun),
        channel.untapped.write_taken refused untappedSent (fun _ => nofun)]
      rfl
    | failed =>
      rw [channel.write_failed refused sent,
        channel.untapped.write_failed refused untappedSent]
      exact Prod.ext rfl (close_untapped { channel with host := later })

/-- The channel is shut down as it is without the tap. -/
theorem shutdown_untapped (channel : TcpChannel (Tapped ν)) :
    channel.untapped.shutdown = channel.shutdown.untapped := by
  -- The client goes on both sides, and the socket behind it.
  unfold shutdown
  rw [close_untapped]
  rcases channel.close with ⟨tapped, _ | _, connected, peer, reader, replySent⟩ <;> rfl

end TcpChannel

end CompanionLink
