import CompanionLink.Proofs.Double.Balance
import CompanionLink.Proofs.Pairing.Conserve

/-!
What the prepared channel owes its client. The channel does not remember what was handed in to it,
so the octets handed in since it last dropped everything are kept beside it.
-/

namespace CompanionLink

open FrameReader

/-- A channel with the octets that were handed in since it last dropped everything. -/
structure Supplied (χ : Type) where
  channel : χ
  octets : Bytes := []

namespace Supplied

variable {χ : Type} [PairingChannel χ]

/-- The channel later on, which has dropped everything if it has lost its client. -/
def next (supplied : Supplied χ) (channel : χ) : Supplied χ where
  channel
  octets :=
    if PairingChannel.hasClient supplied.channel && !PairingChannel.hasClient channel then []
    else supplied.octets

/--
A channel with its supply is used as the channel is, and the octets follow what becomes of it.
-/
instance : PairingChannel (Supplied χ) where
  listen supplied port :=
    let (outcome, channel) := PairingChannel.listen supplied.channel port
    (outcome, supplied.next channel)
  isListening supplied := PairingChannel.isListening supplied.channel
  accept supplied :=
    let (outcome, channel) := PairingChannel.accept supplied.channel
    (outcome, supplied.next channel)
  hasClient supplied := PairingChannel.hasClient supplied.channel
  reader supplied := PairingChannel.reader supplied.channel
  read supplied buffer :=
    let (delivery, channel) := PairingChannel.read supplied.channel buffer
    (delivery, supplied.next channel)
  write supplied bytes :=
    let (count, channel) := PairingChannel.write supplied.channel bytes
    (count, supplied.next channel)
  -- Whoever closes the channel drops what waits in it, with a client or without.
  close supplied := { channel := PairingChannel.close supplied.channel }
  shutdown supplied := { channel := PairingChannel.shutdown supplied.channel }

/-- What was handed in shows in nothing that the channel answers. -/
theorem faithful : Faithful (channel : Supplied χ → χ) where
  -- The octets stand beside the channel, and no answer looks at them.
  listen _ _ := rfl
  accept _ := rfl
  hasClient _ := rfl
  read _ _ := rfl
  write _ _ := rfl
  shutdown _ := rfl

end Supplied

namespace ChannelDouble

/-- What others do to a prepared channel. -/
inductive Deed where
  | nothing
  | failListen (fails : Bool)
  | failAccept (fails : Bool)
  | queueClient (peer : SocketAddress)
  | pushInbound (bytes : Bytes)
  | hangUp
  | close
  | shutdown
deriving DecidableEq, Repr, Inhabited

/-- The octets that are handed in with a deed. -/
def Deed.pushed : Deed → Bytes
  | .pushInbound bytes => bytes
  | _ => []

/-- The channel after a deed of others. -/
def afterDeed (channel : ChannelDouble) : Deed → ChannelDouble
  | .nothing => channel
  | .failListen fails => { channel with failsListen := fails }
  | .failAccept fails => { channel with failsAccept := fails }
  | .queueClient peer => channel.queueClient peer
  | .pushInbound bytes => channel.pushInbound bytes
  | .hangUp => channel.hangUp
  | .close => channel.close
  | .shutdown => channel.shutdown

/-- Beginning to listen concerns the socket only. -/
theorem listen_eq (channel : ChannelDouble) (port : UInt16) :
    ∃ listening binds, (channel.listen port).2 = { channel with listening, binds } := by
  -- The channel is left alone unless a new socket opens, which counts one more.
  unfold listen
  split
  · exact ⟨channel.listening, channel.binds, rfl⟩
  · split <;> exact ⟨_, _, rfl⟩

/-- A channel that is shut down holds nothing that was handed in. -/
theorem inbound_shutdown (channel : ChannelDouble) : channel.shutdown.inbound = {} := by
  -- The client's octets go with the client, before the socket is looked at.
  unfold shutdown
  dsimp only
  split <;> rfl

/-- A read that loses the client drops what waits with it, and delivers nothing. -/
theorem read_lost {channel : ChannelDouble} {buffer : Bytes}
    (served : channel.client.isSome = true) (lost : (channel.read buffer).2.client = none) :
    (channel.read buffer).2.inbound = {} ∧ (channel.read buffer).1.count = 0 := by
  -- Wherever the client is kept, that it was lost contradicts that it was served.
  have kept {later : ChannelDouble} {goal : Prop} (client : later.client = channel.client)
      (lost : later.client = none) : goal := by
    rw [client.symm.trans lost] at served
    cases served
  -- The branches of the read are told apart by their event.
  revert lost
  unfold read
  split
  · exact kept rfl
  · -- Two events drop the client, and the others keep it.
    dsimp only
    split
    · exact kept rfl
    · exact fun _ => ⟨rfl, rfl⟩
    · exact fun _ => ⟨rfl, rfl⟩
    · exact kept rfl
    · exact kept rfl

/-- With a client, writing appends all of the octets to what was written before. -/
theorem write_served {channel : ChannelDouble} (served : channel.client.isSome = true)
    (bytes : Bytes) :
    channel.write bytes = (bytes.length, { channel with written := channel.written ++ bytes }) := by
  -- The guard asks whether there is nobody to write to, and there is somebody.
  rw [write, if_neg]
  rw [Bool.not_eq_true, Option.isNone_eq_false_iff]
  exact served

/-- A read that loses and repeats nothing of what the reader holds and what waits. -/
structure ReadsOn (channel : ChannelDouble) (buffer : Bytes) (delivery : Delivery)
    (later : ChannelDouble) : Prop where
  length : delivery.buffer.length = buffer.length
  /-- The frame in progress still fits the buffer. -/
  fits : Fits buffer.length later.reader
  /-- What was held or waited is delivered, held or waits. -/
  octets : delivery.bytes ++ (held later.reader delivery.buffer ++ later.inbound.queued) =
    held channel.reader buffer ++ channel.inbound.queued
  written : later.written = channel.written

/-- A read into a buffer with room for a length reads on, unless it finds that the client left. -/
theorem readsOn {channel later : ChannelDouble} {buffer : Bytes} {delivery : Delivery}
    (fits : Fits buffer.length channel.reader) (room : lengthPrefixSize ≤ buffer.length)
    (read : channel.read buffer = (delivery, later)) (served : later.client.isSome = true) :
    ReadsOn channel buffer delivery later := by
  -- A client that remains after the read was there before it, which leaves the framed read.
  unfold ChannelDouble.read at read
  split at read
  · rename_i alone
    cases read
    rw [Option.isNone_iff_eq_none.mp alone] at served
    cases served
  -- A fitting reader is past its preamble, so this is a plain framed read.
  · have framed : channel.reader.isFramed = true := by
      revert fits
      cases channel.reader <;> simp [Fits, isFramed]
    obtain ⟨draws, reads⟩ := frameRead_read framed channel.inbound buffer
    generalize channel.reader.read channel.inbound buffer = result at read reads
    dsimp only at read
    have goesOn : result.event ≠ .disconnected := by
      intro ended
      rw [ended] at read
      cases read
      cases served
    -- The source did not end, for then the client would have been dropped.
    have conserves := reads.conserves fits room (reads.endless goesOn)
    have octets : result.delivered ++ (held result.reader result.buffer ++ result.source.queued) =
        held channel.reader buffer ++ channel.inbound.queued := by
      rw [SegmentQueue.queued_draws reads.drawn, ← List.append_assoc, conserves.bytes,
        List.append_assoc]
    -- What remains is a read that waits and a read that delivers, both kept as they are.
    rcases conserves.event with pending | ⟨count, _, produced⟩
    · rw [pending] at read
      cases read
      rw [ReadResult.delivered, pending] at octets
      exact ⟨conserves.length, conserves.ready.fits, octets, rfl⟩
    · rw [produced] at read
      cases read
      rw [ReadResult.delivered, produced] at octets
      exact ⟨conserves.length, conserves.ready.fits, octets, rfl⟩

end ChannelDouble

namespace Supplied

open ChannelDouble

/-- The channel after a deed of others, with what they handed in or made it drop. -/
def afterDeed (supplied : Supplied ChannelDouble) (deed : Deed) : Supplied ChannelDouble where
  channel := supplied.channel.afterDeed deed
  octets :=
    match deed with
    | .pushInbound bytes => supplied.octets ++ bytes
    | .close | .shutdown => []
    | _ => supplied.octets

/-- Others leave the client what it has and hand in more, or close the channel. -/
inductive Alters (channel : ChannelDouble) (octets : Bytes) (deed : Deed) :
    ChannelDouble → Bytes → Prop
  /-- The client stays, and octets may come in behind the others. -/
  | keeps {later : ChannelDouble} {counted : Bytes} (client : later.client = channel.client)
    (reader : later.reader = channel.reader) (written : later.written = channel.written)
    (queued : later.inbound.queued = channel.inbound.queued ++ deed.pushed)
    (counts : counted = octets ++ deed.pushed) : Alters channel octets deed later counted
  /-- The client is gone, and its octets with it. -/
  | closes {later : ChannelDouble} {counted : Bytes} (client : later.client = none)
    (drained : later.inbound.queued = []) (spent : counted = []) :
    Alters channel octets deed later counted

/-- Each deed from outside changes the waiting octets as it changes the ones counted beside them. -/
theorem alters (channel : ChannelDouble) (octets : Bytes) (deed : Deed) :
    Alters channel octets deed (channel.afterDeed deed)
      (Supplied.afterDeed ⟨channel, octets⟩ deed).octets := by
  -- Handing in adds at the end of both, closing empties both, and the others touch neither.
  have untouched (octets : Bytes) : octets = octets ++ [] := (List.append_nil octets).symm
  cases deed with
  | nothing | failListen | failAccept | queueClient | hangUp =>
    exact .keeps rfl rfl rfl (untouched _) (untouched _)
  | pushInbound bytes => exact .keeps rfl rfl rfl (channel.inbound.queued_push bytes) rfl
  | close => exact .closes rfl rfl rfl
  | shutdown =>
    exact .closes channel.client_shutdown
      (congrArg SegmentQueue.queued channel.inbound_shutdown) rfl

/-- What an operation on the channel does to the client, to what waits and to what counts. -/
inductive Moves (supplied : Supplied ChannelDouble) : Supplied ChannelDouble → Prop
  /-- A client is served with what there was. -/
  | serves {later : Supplied ChannelDouble} (client : later.channel.client.isSome = true)
    (octets : later.octets = supplied.octets) : Moves supplied later
  /-- The client and the octets are left alone. -/
  | same {later : Supplied ChannelDouble}
    (client : later.channel.client = supplied.channel.client)
    (inbound : later.channel.inbound = supplied.channel.inbound)
    (octets : later.octets = supplied.octets) : Moves supplied later
  /-- Everything inbound is dropped. -/
  | drops {later : Supplied ChannelDouble} (inbound : later.channel.inbound = {})
    (spent : later.octets = []) : Moves supplied later

variable {supplied : Supplied ChannelDouble} {channel : ChannelDouble}

/-- With a client to serve, or without one that could be lost, what was handed in still counts. -/
theorem octets_next
    (kept : supplied.channel.client.isSome = true → channel.client.isSome = true) :
    (supplied.next channel).octets = supplied.octets := by
  -- The octets are dropped only where a client was there and is not any more.
  have kept : PairingChannel.hasClient supplied.channel = true →
      PairingChannel.hasClient channel = true := kept
  rw [next, if_neg]
  simpa using kept

/-- Taking a client is one of the moves: someone is served from then on, or nothing changed. -/
theorem moves_accept (supplied : Supplied ChannelDouble) :
    Moves supplied (PairingChannel.accept supplied).2 := by
  show Moves supplied (supplied.next supplied.channel.accept.2)
  rcases answered : supplied.channel.accept with ⟨outcome, later⟩
  -- Whoever is taken is served from then on, and whoever is not leaves no trace.
  by_cases taken : ∃ peer, outcome = .ok (.accepted peer)
  · obtain ⟨peer, rfl⟩ := taken
    have held := (ChannelDouble.accept_accepted answered).2.2.1
    have served : later.client.isSome = true := Option.isSome_iff_exists.mpr ⟨peer, held⟩
    exact .serves served (octets_next fun _ => served)
  · have same := ChannelDouble.accept_nobody answered fun peer here => taken ⟨peer, here⟩
    rw [same]
    exact .same rfl rfl (octets_next id)

/-- Reading is one of the moves, and which one depends on the client before and after it. -/
theorem moves_read (supplied : Supplied ChannelDouble) (buffer : Bytes) :
    Moves supplied (PairingChannel.read supplied buffer).2 := by
  show Moves supplied (supplied.next (supplied.channel.read buffer).2)
  cases served : supplied.channel.client with
  | none =>
    -- Without a client, a read does not touch the channel.
    have same : (supplied.channel.read buffer).2 = supplied.channel := by
      rw [ChannelDouble.read, served]
      rfl
    rw [same]
    exact .same rfl rfl (octets_next id)
  | some peer =>
    cases after : (supplied.channel.read buffer).2.client with
    | some other =>
      have here : (supplied.channel.read buffer).2.client.isSome = true := by rw [after]; rfl
      exact .serves here (octets_next fun _ => here)
    | none =>
      -- The client is lost, and all that was handed in to it.
      refine .drops (ChannelDouble.read_lost (by rw [served]; rfl) after).1 ?_
      simp [next, PairingChannel.hasClient, served, after]

/-- A property that the moves of the channel keep lasts whatever a link does with it. -/
theorem lasts_of_moves {kept : Supplied ChannelDouble → Prop}
    (keeps : ∀ {supplied later}, Moves supplied later → kept supplied → kept later) :
    Lasts kept where
  -- Every use of the channel is one of the moves; listening and writing leave client and octets.
  listen {supplied} before port := by
    obtain ⟨listening, binds, next⟩ := supplied.channel.listen_eq port
    refine keeps ?_ before
    show Moves supplied (supplied.next (supplied.channel.listen port).2)
    rw [next]
    exact .same rfl rfl (octets_next id)
  accept before := keeps (moves_accept _) before
  read before buffer := keeps (moves_read _ buffer) before
  -- What is written does not count among the inbound octets.
  write {supplied} before bytes := by
    refine @keeps supplied _ ?_ before
    show Moves supplied (supplied.next (supplied.channel.write bytes).2)
    unfold ChannelDouble.write
    split <;> exact .same rfl rfl (octets_next id)
  shutdown {supplied} before :=
    keeps (.drops supplied.channel.inbound_shutdown rfl) before

/-- Octets count as long as all others that were handed in with them. -/
theorem lasts_counting (octets : Bytes) : Lasts fun supplied : Supplied ChannelDouble =>
    supplied.octets = octets ∨ supplied.octets = [] := by
  -- Octets are kept or dropped as a whole by every move.
  refine lasts_of_moves fun moves before => ?_
  cases moves with
  | serves _ same | same _ _ same => rwa [same]
  | drops _ spent => exact .inr spent

/-- Without a client, what waits is what was handed in. -/
theorem lasts_waiting : Lasts fun supplied : Supplied ChannelDouble =>
    supplied.channel.client = none → supplied.channel.inbound.queued = supplied.octets := by
  -- A move that serves leaves a client, and the others keep the two equal or empty both.
  refine lasts_of_moves fun moves before alone => ?_
  cases moves with
  | serves client =>
    rw [alone] at client
    cases client
  | same client inbound octets => rw [inbound, octets, before (client ▸ alone)]
  | drops inbound spent =>
    rw [inbound, spent]
    rfl

/-- Once a client is lost, nothing that was handed in before counts any more. -/
theorem lasts_spent : Lasts fun supplied : Supplied ChannelDouble =>
    supplied.channel.client = none → supplied.octets = [] := by
  -- A link's own moves never hand in octets, so the empty list stays empty.
  refine lasts_of_moves fun moves before alone => ?_
  cases moves with
  | serves client =>
    rw [alone] at client
    cases client
  | same client _ octets => rw [octets, before (client ▸ alone)]
  | drops _ spent => exact spent

end Supplied

end CompanionLink
