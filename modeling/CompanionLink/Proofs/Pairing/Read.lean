import CompanionLink.Pairing.Frame
import CompanionLink.Proofs.Pairing.Receive

/-! Everything that one read of a framed stream can do, receive by receive. -/

namespace CompanionLink

namespace FrameReader

/-- The frame in progress asks for octets: how many, and where in the buffer they go. -/
inductive Asks (buffer : Bytes) : FrameReader → Nat → Nat → Prop
  /-- All that the frame lacks, behind what was assembled. -/
  | assembling {cursor remaining : Nat} (fits : cursor + remaining ≤ buffer.length) :
      Asks buffer (.assembling cursor remaining) cursor remaining
  /-- As much as fits behind the length, if anything does. -/
  | opening {remaining wanted : Nat} (room : lengthPrefixSize ≤ buffer.length)
      (some : 0 < wanted)
      (limit : wanted = min (buffer.length - lengthPrefixSize) remaining) :
      Asks buffer (.opening remaining) lengthPrefixSize wanted
  /-- As much as fits into the buffer, if anything does. -/
  | collecting {remaining wanted : Nat} (some : 0 < wanted)
      (limit : wanted = min remaining buffer.length) :
      Asks buffer (.collecting remaining) 0 wanted

/-- The event and the next reader once payload octets arrived. -/
def arrival : FrameReader → Nat → ReadEvent × FrameReader
  | .assembling cursor remaining, count =>
    -- A frame that is assembled goes out when nothing is missing.
    if remaining - count = 0 then (.produced (cursor + remaining), framing)
    else (.pending, .assembling (cursor + count) (remaining - count))
  | .opening remaining, count =>
    (.produced (lengthPrefixSize + count), afterDelivery (remaining - count))
  | .collecting remaining, count => (.produced count, afterDelivery (remaining - count))
  | reader, _ => (.pending, reader)

/-- The buffer leaves the frame in progress no room to go on. -/
inductive Stalls (buffer : Bytes) : FrameReader → Prop
  | opening {remaining : Nat} (tight : buffer.length < lengthPrefixSize) :
      Stalls buffer (.opening remaining)
  | collecting {remaining : Nat} (none : min remaining buffer.length = 0) :
      Stalls buffer (.collecting remaining)

/-- The frame in progress gives out what the buffer holds without a receive. -/
inductive GivesOut (buffer : Bytes) : FrameReader → Nat → Nat → Prop
  /-- The buffer became too small for the frame that is assembled in it. -/
  | shrunk {cursor remaining : Nat} (short : buffer.length < cursor + remaining) :
      GivesOut buffer (.assembling cursor remaining) (min cursor buffer.length) remaining
  /-- The buffer holds a length and nothing else. -/
  | lengthOnly {remaining : Nat} (room : lengthPrefixSize ≤ buffer.length)
      (none : min (buffer.length - lengthPrefixSize) remaining = 0) :
      GivesOut buffer (.opening remaining) lengthPrefixSize remaining

/-- Whether a reader is inside a frame's payload. -/
def inPayload : FrameReader → Bool
  | .assembling .. | .opening _ | .collecting _ => true
  | _ => false

variable {σ : Type} [Receiver σ]

/-- What a read inside a frame's payload can do. -/
inductive PayloadRead (reader : FrameReader) (source : σ) (buffer : Bytes) :
    List Draw → ReadResult σ → Prop
  -- Without room or without anything missing, the source is not asked.
  | stalls (stalled : Stalls buffer reader) :
      PayloadRead reader source buffer [] ⟨.pending, reader, source, buffer⟩
  | givesOut {count remaining : Nat} (given : GivesOut buffer reader count remaining) :
      PayloadRead reader source buffer []
        ⟨.produced count, .collecting remaining, source, buffer⟩
  | waits {offset wanted : Nat} {later : σ} (asks : Asks buffer reader offset wanted)
      (received : Receiver.receive source wanted = (.pending, later)) :
      PayloadRead reader source buffer [⟨wanted, .pending⟩]
        ⟨.pending, reader, later, buffer⟩
  | ends {offset wanted : Nat} {receipt : Receipt} {later : σ}
      (asks : Asks buffer reader offset wanted)
      (received : Receiver.receive source wanted = (receipt, later))
      (ended : receipt.ends = true) :
      PayloadRead reader source buffer [⟨wanted, receipt⟩] ⟨.disconnected, .idle, later, buffer⟩
  -- What an arrival leads to is said apart, as it depends on the place in the payload.
  | arrives {offset wanted : Nat} {bytes : Bytes} {later : σ}
      (asks : Asks buffer reader offset wanted)
      (received : Receiver.receive source wanted = (.data bytes, later)) (some : bytes ≠ []) :
      PayloadRead reader source buffer [⟨wanted, .data bytes⟩]
        ⟨(arrival reader bytes.length).1, (arrival reader bytes.length).2, later,
          Bytes.overwrite buffer offset bytes⟩

/-- A receive into the buffer is one of the three things that a receive can come to. -/
theorem payloadRead_receiveInto {reader : FrameReader} {buffer : Bytes} {offset wanted : Nat}
    (source : σ) (asks : Asks buffer reader offset wanted) :
    ∃ draws, PayloadRead reader source buffer draws
      (receiveInto reader source buffer offset wanted (arrival reader)) := by
  -- An end of the stream is reported as one or as no octets; both end the session.
  unfold receiveInto
  cases received : Receiver.receive source wanted with
  | mk receipt later =>
    cases receipt with
    | pending => exact ⟨_, .waits asks received⟩
    | closed => exact ⟨_, .ends asks received rfl⟩
    | data bytes =>
      cases bytes with
      | nil => exact ⟨_, .ends asks received rfl⟩
      | cons first more => exact ⟨_, .arrives asks received (List.cons_ne_nil first more)⟩

/-- A read inside a payload stalls, gives out the buffer, or makes a single receive. -/
theorem payloadRead_readPayload {reader : FrameReader} (inside : reader.inPayload = true)
    (source : σ) (buffer : Bytes) :
    ∃ draws, PayloadRead reader source buffer draws (readPayload reader source buffer) := by
  -- The tests on the buffer come before the receive, so each way out has its own cause.
  cases reader with
  | idle | awaitHandshake _ | awaitLength _ => cases inside
  | assembling cursor remaining =>
    simp only [readPayload]
    split
    · next short => exact ⟨_, .givesOut (.shrunk short)⟩
    · next fits =>
      exact payloadRead_receiveInto source (.assembling (Nat.le_of_not_lt fits))
  -- The length has to fit first, and then some of the payload behind it.
  | opening remaining =>
    simp only [readPayload]
    split
    · next tight => exact ⟨_, .stalls (.opening tight)⟩
    · next room =>
      split
      · next none => exact ⟨_, .givesOut (.lengthOnly (Nat.le_of_not_lt room) none)⟩
      · next some =>
        exact payloadRead_receiveInto source
          (.opening (Nat.le_of_not_lt room) (Nat.pos_of_ne_zero some) rfl)
  -- Whether anything can be asked for depends on the room in the buffer.
  | collecting remaining =>
    simp only [readPayload]
    split
    · next none => exact ⟨_, .stalls (.collecting none)⟩
    · next some =>
      exact payloadRead_receiveInto source (.collecting (Nat.pos_of_ne_zero some) rfl)

/-- The reader that a complete length leads to where the payload is not empty. -/
def opened (capacity size : Nat) : FrameReader :=
  if size + lengthPrefixSize ≤ capacity then .assembling lengthPrefixSize size
  else .opening size

/-- A length leads into the payload of its frame. -/
theorem inPayload_opened (capacity size : Nat) : (opened capacity size).inPayload = true := by
  -- By whether the frame fits the buffer.
  unfold opened
  split <;> rfl

/-- What a read can do while a frame's length is being collected. -/
inductive LengthRead (collected : Bytes) (source : σ) (buffer : Bytes) :
    List Draw → ReadResult σ → Prop
  | stalls (tight : buffer.length < lengthPrefixSize) :
      LengthRead collected source buffer [] ⟨.pending, .awaitLength collected, source, buffer⟩
  | waits {later : σ} (room : lengthPrefixSize ≤ buffer.length)
      (received :
        Receiver.receive source (lengthPrefixSize - collected.length) = (.pending, later)) :
      LengthRead collected source buffer [⟨lengthPrefixSize - collected.length, .pending⟩]
        ⟨.pending, .awaitLength collected, later, buffer⟩
  | ends {receipt : Receipt} {later : σ} (room : lengthPrefixSize ≤ buffer.length)
      (received : Receiver.receive source (lengthPrefixSize - collected.length) = (receipt, later))
      (ended : receipt.ends = true) :
      LengthRead collected source buffer [⟨lengthPrefixSize - collected.length, receipt⟩]
        ⟨.disconnected, .idle, later, buffer⟩
  | collects {bytes : Bytes} {later : σ} (room : lengthPrefixSize ≤ buffer.length)
      (received :
        Receiver.receive source (lengthPrefixSize - collected.length) = (.data bytes, later))
      (some : bytes ≠ []) (short : (collected ++ bytes).length < lengthPrefixSize) :
      LengthRead collected source buffer [⟨lengthPrefixSize - collected.length, .data bytes⟩]
        ⟨.pending, .awaitLength (collected ++ bytes), later, buffer⟩
  | empty {bytes beyond : Bytes} {low high : UInt8} {later : σ}
      (room : lengthPrefixSize ≤ buffer.length)
      (received :
        Receiver.receive source (lengthPrefixSize - collected.length) = (.data bytes, later))
      (some : bytes ≠ []) (complete : collected ++ bytes = low :: high :: beyond)
      (none : announcedLength low high = 0) :
      LengthRead collected source buffer [⟨lengthPrefixSize - collected.length, .data bytes⟩]
        ⟨.produced lengthPrefixSize, framing, later, Bytes.overwrite buffer 0 [low, high]⟩
  -- A complete length is followed by a read inside its payload, without waiting for the next call.
  | opens {bytes beyond : Bytes} {low high : UInt8} {later : σ} {draws : List Draw}
      {result : ReadResult σ} (room : lengthPrefixSize ≤ buffer.length)
      (received :
        Receiver.receive source (lengthPrefixSize - collected.length) = (.data bytes, later))
      (some : bytes ≠ []) (complete : collected ++ bytes = low :: high :: beyond)
      (positive : 0 < announcedLength low high)
      (payload : PayloadRead (opened buffer.length (announcedLength low high)) later
        (Bytes.overwrite buffer 0 [low, high]) draws result) :
      LengthRead collected source buffer
        (⟨lengthPrefixSize - collected.length, .data bytes⟩ :: draws) result

/-- Putting a length into a buffer with room for it keeps the buffer's capacity. -/
theorem length_overwrite_pair {buffer : Bytes} (room : lengthPrefixSize ≤ buffer.length)
    (low high : UInt8) : (Bytes.overwrite buffer 0 [low, high]).length = buffer.length :=
  -- The two octets fit.
  Bytes.length_overwrite (by simpa [lengthPrefixSize] using room)

/-- A read for a frame's length makes one receive, and at most one more for the payload. -/
theorem lengthRead_readLength (collected : Bytes) (source : σ) (buffer : Bytes) :
    ∃ draws, LengthRead collected source buffer draws (readLength collected source buffer) := by
  -- The receipt decides, and behind it how many octets of the length are there.
  unfold readLength
  split
  · next tight => exact ⟨_, .stalls tight⟩
  next tight =>
  have room : lengthPrefixSize ≤ buffer.length := Nat.le_of_not_lt tight
  cases received : Receiver.receive source (lengthPrefixSize - collected.length) with
  | mk receipt later =>
  cases receipt with
  | pending => exact ⟨_, .waits room received⟩
  | closed => exact ⟨_, .ends room received rfl⟩
  | data bytes =>
  cases bytes with
  | nil => exact ⟨_, .ends room received rfl⟩
  | cons first more =>
  have some : first :: more ≠ [] := List.cons_ne_nil first more
  -- How many octets are there now decides whether the length is complete.
  match whole : collected ++ first :: more with
  | [] => simp at whole
  | [only] =>
    simp only [whole]
    rw [← whole]
    exact ⟨_, .collects room received some (by simp [whole, lengthPrefixSize])⟩
  | low :: high :: beyond =>
    simp only [whole, openFrame, length_overwrite_pair room]
    split
    · next none => exact ⟨_, .empty room received some whole none⟩
    · next positive =>
      -- The payload is read at once, assembled or in pieces as the capacity decides.
      obtain ⟨draws, payload⟩ := payloadRead_readPayload
        (inPayload_opened buffer.length (announcedLength low high)) later
        (Bytes.overwrite buffer 0 [low, high])
      have opens := LengthRead.opens room received some whole (Nat.pos_of_ne_zero positive) payload
      unfold opened at opens
      split at opens
      · next fits => exact ⟨_, by simpa [fits] using opens⟩
      · next long => exact ⟨_, by simpa [long] using opens⟩

/-- What a read of a framed stream can do, wherever the reader stands in it. -/
inductive FrameRead (source : σ) (buffer : Bytes) :
    FrameReader → List Draw → ReadResult σ → Prop
  /-- A read that collects a frame's length, and may go on to its payload. -/
  | length {collected : Bytes} {draws : List Draw} {result : ReadResult σ}
      (read : LengthRead collected source buffer draws result) :
      FrameRead source buffer (.awaitLength collected) draws result
  /-- A read inside a frame's payload. -/
  | payload {reader : FrameReader} {draws : List Draw} {result : ReadResult σ}
      (inside : reader.inPayload = true) (read : PayloadRead reader source buffer draws result) :
      FrameRead source buffer reader draws result

/-- Whether a reader is past the preamble of a client that is still there. -/
def isFramed : FrameReader → Bool
  | .idle | .awaitHandshake _ => false
  | _ => true

/-- A framed reader collects a length or is inside a payload. -/
theorem framed_cases {reader : FrameReader} (framed : reader.isFramed = true) :
    (∃ collected, reader = .awaitLength collected) ∨ reader.inPayload = true := by
  -- By the place of the reader.
  cases reader with
  | idle | awaitHandshake _ => cases framed
  | awaitLength collected => exact .inl ⟨collected, rfl⟩
  | assembling _ _ | opening _ | collecting _ => exact .inr rfl

/-- Inside a payload, reading is reading on in it. -/
theorem read_eq_readPayload {reader : FrameReader} (inside : reader.inPayload = true) (source : σ)
    (buffer : Bytes) : reader.read source buffer = readPayload reader source buffer := by
  -- By the place of the reader.
  cases reader with
  | idle | awaitHandshake _ | awaitLength _ => cases inside
  | assembling _ _ | opening _ | collecting _ => rfl

/-- Every read of a framed stream is one of these. -/
theorem frameRead_read {reader : FrameReader} (framed : reader.isFramed = true) (source : σ)
    (buffer : Bytes) :
    ∃ draws, FrameRead source buffer reader draws (reader.read source buffer) := by
  -- The place in the stream picks the kind of read.
  rcases framed_cases framed with ⟨collected, waits⟩ | inside
  · subst waits
    obtain ⟨draws, read⟩ := lengthRead_readLength collected source buffer
    exact ⟨draws, .length read⟩
  · obtain ⟨draws, read⟩ := payloadRead_readPayload inside source buffer
    rw [← read_eq_readPayload inside] at read
    exact ⟨draws, .payload inside read⟩

variable {reader : FrameReader} {source : σ} {buffer : Bytes} {draws : List Draw}
  {result : ReadResult σ}

/-- The receives of a read inside a payload lead to the source that it leaves. -/
theorem PayloadRead.drawn (read : PayloadRead reader source buffer draws result) :
    Draws source draws result.source := by
  -- Of the ways out some make one receive, and the others none.
  cases read with
  | stalls | givesOut => exact .done
  | waits _ received | ends _ received | arrives _ received => exact .one received

/-- The receives of a read lead to the source that it leaves. -/
theorem FrameRead.drawn (read : FrameRead source buffer reader draws result) :
    Draws source draws result.source := by
  -- Only opening a frame goes on to a second receive.
  cases read with
  | payload _ read => exact read.drawn
  | length read =>
    cases read with
    | stalls => exact .done
    | waits _ received | ends _ received | collects _ received | empty _ received =>
      exact .one received
    | opens _ received _ _ _ payload => exact .more received payload.drawn

/-- A read inside a payload that does not end the session found no end of the stream. -/
theorem PayloadRead.endless (read : PayloadRead reader source buffer draws result)
    (goesOn : result.event ≠ .disconnected) : ∀ draw ∈ draws, draw.receipt.ends = false := by
  -- The one way out that finds the end of the stream disconnects.
  cases read with
  | stalls | givesOut => exact nofun
  | waits => exact List.forall_mem_singleton.mpr rfl
  | ends => exact absurd rfl goesOn
  | arrives _ _ some => exact List.forall_mem_singleton.mpr (by simpa [Receipt.ends] using some)

/-- A read that does not end the session found no end of the stream. -/
theorem FrameRead.endless (read : FrameRead source buffer reader draws result)
    (goesOn : result.event ≠ .disconnected) : ∀ draw ∈ draws, draw.receipt.ends = false := by
  -- The ways out that find the end of the stream disconnect.
  cases read with
  | payload _ read => exact read.endless goesOn
  | length read =>
    cases read with
    | stalls => exact nofun
    | waits => exact List.forall_mem_singleton.mpr rfl
    | ends => exact absurd rfl goesOn
    | collects _ _ some | empty _ _ some =>
      exact List.forall_mem_singleton.mpr (by simpa [Receipt.ends] using some)
    -- The receive for the length brought octets, and those for the payload are told by their own
    -- law.
    | opens _ _ some _ _ payload =>
      exact List.forall_mem_cons.mpr ⟨by simpa [Receipt.ends] using some, payload.endless goesOn⟩

/-- What a read of a framed stream leaves if the session goes on. -/
structure Stays (result : ReadResult σ) : Prop where
  isFramed : result.reader.isFramed = true
  event : result.event = .pending ∨ ∃ count, result.event = .produced count

/-- A reader inside a payload is past the preamble. -/
theorem isFramed_of_inPayload {reader : FrameReader} (inside : reader.inPayload = true) :
    reader.isFramed = true := by
  -- By the place of the reader.
  cases reader with
  | idle | awaitHandshake _ | awaitLength _ => cases inside
  | assembling _ _ | opening _ | collecting _ => rfl

omit [Receiver σ] in
/-- Octets of a payload leave a reader in the stream. -/
theorem stays_arrival {reader : FrameReader} (inside : reader.inPayload = true) (count : Nat)
    (source : σ) (buffer : Bytes) :
    Stays ⟨(arrival reader count).1, (arrival reader count).2, source, buffer⟩ := by
  -- By the place of the reader, and whether the frame is complete.
  cases reader with
  | idle | awaitHandshake _ | awaitLength _ => cases inside
  | assembling cursor remaining =>
    simp only [arrival]
    by_cases done : remaining - count = 0
    · rw [if_pos done]
      exact ⟨rfl, .inr ⟨_, rfl⟩⟩
    · rw [if_neg done]
      exact ⟨rfl, .inl rfl⟩
  -- Pieces are delivered as they come.
  | opening remaining | collecting remaining =>
    refine ⟨?_, .inr ⟨_, rfl⟩⟩
    simp only [arrival, afterDelivery]
    split <;> rfl

/-- A read inside a payload ends the session or stays in the stream. -/
theorem PayloadRead.stays (read : PayloadRead reader source buffer draws result)
    (inside : reader.inPayload = true) : result.event = .disconnected ∨ Stays result := by
  -- By what the read came to.
  cases read with
  | stalls | waits => exact .inr ⟨isFramed_of_inPayload inside, .inl rfl⟩
  | givesOut => exact .inr ⟨rfl, .inr ⟨_, rfl⟩⟩
  | ends => exact .inl rfl
  | arrives => exact .inr (stays_arrival inside ..)

/-- A read of a framed stream ends the session or stays in the stream. -/
theorem FrameRead.stays (read : FrameRead source buffer reader draws result) :
    result.event = .disconnected ∨ Stays result := by
  -- By what the read came to.
  cases read with
  | payload inside read => exact read.stays inside
  | length read =>
    cases read with
    | stalls | waits | collects => exact .inr ⟨rfl, .inl rfl⟩
    | empty => exact .inr ⟨rfl, .inr ⟨_, rfl⟩⟩
    | ends => exact .inl rfl
    | opens _ _ _ _ _ payload => exact payload.stays (inPayload_opened ..)

/-- Wherever a reader stands in a framed stream, a read ends the session or stays in the stream. -/
theorem stays_read {reader : FrameReader} (framed : reader.isFramed = true) (source : σ)
    (buffer : Bytes) :
    (reader.read source buffer).event = .disconnected ∨ Stays (reader.read source buffer) := by
  -- Such a read is one of those that are listed.
  obtain ⟨_, read⟩ := frameRead_read framed source buffer
  exact read.stays

end FrameReader

end CompanionLink
