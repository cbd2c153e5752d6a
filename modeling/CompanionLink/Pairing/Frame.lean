import CompanionLink.Pairing.Preamble
import CompanionLink.Pairing.Receiver

/-!
The reader of one client's stream: a preamble, then frames of a little-endian length and payload.
A read takes what its source has at once and resumes at any octet. A frame that fits the caller's
buffer is assembled there and delivered whole; a longer one is delivered in pieces.
-/

namespace CompanionLink

/-- How many octets give a frame's length. -/
def lengthPrefixSize : Nat := 2

/-- The payload length that a frame's first two octets announce. -/
def announcedLength (low high : UInt8) : Nat := low.toNat + 256 * high.toNat

/-- Where the reader stands in one client's stream. -/
inductive FrameReader where
  /-- There is no client. -/
  | idle
  /-- The preamble is being searched. -/
  | awaitHandshake (preamble : Preamble)
  /-- A frame's length is being collected. -/
  | awaitLength (collected : Bytes)
  /-- The first `cursor` octets of a frame are in the buffer, `remaining` octets are missing. -/
  | assembling (cursor remaining : Nat)
  /-- The length of a frame longer than the buffer is in the buffer, no payload is yet. -/
  | opening (remaining : Nat)
  /-- Part of a frame has been delivered, `remaining` octets of it are still to come. -/
  | collecting (remaining : Nat)
deriving DecidableEq, Repr, Inhabited

/-- What one read came to. -/
inductive ReadEvent where
  | pending
  /-- The marker was seen, so the client is owed the reply. -/
  | handshakeAccepted
  /-- The limit passed without the marker, so the client has to go. -/
  | handshakeRejected
  /-- So many octets at the start of the buffer are delivered. -/
  | produced (count : Nat)
  /-- The client is gone. -/
  | disconnected
deriving DecidableEq, Repr, Inhabited

/-- The event of a read and everything the read may have changed. -/
structure ReadResult (σ : Type) where
  event : ReadEvent
  reader : FrameReader
  source : σ
  buffer : Bytes
deriving DecidableEq, Repr

namespace FrameReader

/-- The reader of a client that was just accepted. -/
def accepted : FrameReader := .awaitHandshake {}

/-- The reader of a client that needs no preamble. -/
def framing : FrameReader := .awaitLength []

/-- Whether the client's preamble is still being searched. -/
def awaitsHandshake : FrameReader → Bool
  | .awaitHandshake _ => true
  | _ => false

/-- How many payload octets of the frame in progress have not been received. -/
def remaining : FrameReader → Nat
  | .assembling _ remaining | .opening remaining | .collecting remaining => remaining
  | _ => 0

/-- The reader after a delivery that left so many octets of its frame to come. -/
def afterDelivery (remaining : Nat) : FrameReader :=
  -- With the last octet of a frame the next length begins.
  if remaining = 0 then framing else .collecting remaining

variable {σ : Type} [Receiver σ]

/--
One receive into the `size` octets of the buffer from `offset` on; `arrived` gives the event and
the next reader for the number of octets that came.
-/
def receiveInto (reader : FrameReader) (source : σ) (buffer : Bytes) (offset size : Nat)
    (arrived : Nat → ReadEvent × FrameReader) : ReadResult σ :=
  match Receiver.receive source size with
  | (.pending, source) => ⟨.pending, reader, source, buffer⟩
  -- Octets came, and nothing of the buffer outside them changes.
  | (.data (first :: more), source) =>
    let (event, next) := arrived (more.length + 1)
    ⟨event, next, source, Bytes.overwrite buffer offset (first :: more)⟩
  -- The end of the stream ends the session wherever the reader stands.
  | (.data [], source) | (.closed, source) => ⟨.disconnected, .idle, source, buffer⟩

/-- Reads payload octets of the frame in progress. -/
def readPayload (reader : FrameReader) (source : σ) (buffer : Bytes) : ReadResult σ :=
  match reader with
  | .assembling cursor remaining =>
    if buffer.length < cursor + remaining then
      -- The buffer shrank in mid-frame: deliver what it holds, the rest comes in pieces.
      ⟨.produced (min cursor buffer.length), .collecting remaining, source, buffer⟩
    else
      -- Exactly the missing octets are asked for, so the next frame stays in the source.
      receiveInto reader source buffer cursor remaining fun count =>
        if remaining - count = 0 then (.produced (cursor + remaining), framing)
        else (.pending, .assembling (cursor + count) (remaining - count))
  | .opening remaining =>
    if buffer.length < lengthPrefixSize then ⟨.pending, reader, source, buffer⟩
    else
      let wanted := min (buffer.length - lengthPrefixSize) remaining
      -- A buffer with room for the length only delivers it alone.
      if wanted = 0 then ⟨.produced lengthPrefixSize, .collecting remaining, source, buffer⟩
      else
        receiveInto reader source buffer lengthPrefixSize wanted fun count =>
          (.produced (lengthPrefixSize + count), afterDelivery (remaining - count))
  | .collecting remaining =>
    let wanted := min remaining buffer.length
    if wanted = 0 then ⟨.pending, reader, source, buffer⟩
    else
      receiveInto reader source buffer 0 wanted fun count =>
        (.produced count, afterDelivery (remaining - count))
  | _ => ⟨.pending, reader, source, buffer⟩

/-- Searches the client's preamble. Octets received behind the marker are dropped. -/
def readPreamble (preamble : Preamble) (source : σ) (buffer : Bytes) : ReadResult σ :=
  -- No more is asked for than the searched part still takes.
  match Receiver.receive source preamble.room with
  | (.pending, source) => ⟨.pending, .awaitHandshake preamble, source, buffer⟩
  | (.data (first :: more), source) =>
    match preamble.feed (first :: more) with
    -- The marker may end anywhere in the segment, and frames begin with the next receive.
    | (.matched, _) => ⟨.handshakeAccepted, framing, source, buffer⟩
    | (.pending, preamble) => ⟨.pending, .awaitHandshake preamble, source, buffer⟩
    | (.rejected, _) => ⟨.handshakeRejected, .idle, source, buffer⟩
  | (.data [], source) | (.closed, source) => ⟨.disconnected, .idle, source, buffer⟩

/-- Puts a complete length into the buffer and goes on with the payload at once. -/
def openFrame (low high : UInt8) (source : σ) (buffer : Bytes) : ReadResult σ :=
  let buffer := Bytes.overwrite buffer 0 [low, high]
  let size := announcedLength low high
  -- A frame without a payload is its length alone.
  if size = 0 then ⟨.produced lengthPrefixSize, framing, source, buffer⟩
  -- The frame is assembled whole if the buffer holds it together with its length.
  else if size + lengthPrefixSize ≤ buffer.length then
    readPayload (.assembling lengthPrefixSize size) source buffer
  else readPayload (.opening size) source buffer

/-- Collects a frame's length. A buffer without room for it is left alone. -/
def readLength (collected : Bytes) (source : σ) (buffer : Bytes) : ReadResult σ :=
  if buffer.length < lengthPrefixSize then ⟨.pending, .awaitLength collected, source, buffer⟩
  else
    -- One octet of the length may have come before.
    match Receiver.receive source (lengthPrefixSize - collected.length) with
    | (.pending, source) => ⟨.pending, .awaitLength collected, source, buffer⟩
    | (.data (first :: more), source) =>
      match collected ++ first :: more with
      -- The length is complete.
      | low :: high :: _ => openFrame low high source buffer
      | collected => ⟨.pending, .awaitLength collected, source, buffer⟩
    | (.data [], source) | (.closed, source) => ⟨.disconnected, .idle, source, buffer⟩

/-- Takes what the source has and goes on from where the reader stands. -/
def read (reader : FrameReader) (source : σ) (buffer : Bytes) : ReadResult σ :=
  match reader with
  | .idle => ⟨.pending, .idle, source, buffer⟩
  | .awaitHandshake preamble => readPreamble preamble source buffer
  | .awaitLength collected => readLength collected source buffer
  | .assembling .. | .opening _ | .collecting _ => readPayload reader source buffer

end FrameReader

end CompanionLink
