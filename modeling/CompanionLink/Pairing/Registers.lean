import CompanionLink.Pairing.Frame

/-!
The reader as a device keeps it: one set of registers for all its phases. Beginning anew clears the
counts, but the octets of an earlier length stay in their cells until others are put over them.
-/

namespace CompanionLink

/-- What the registers of a reader are used for at the moment. -/
inductive ReaderPhase where
  | idle
  | awaitHandshake
  | awaitLength
  | assembling
  | opening
  | collecting
deriving DecidableEq, Repr, Inhabited

/-- The registers of a reader. Each phase uses some of them and leaves the others as they are. -/
structure ReaderRegisters where
  phase : ReaderPhase := .idle
  preamble : Preamble := {}
  /-- The two cells for a frame's length. -/
  low : UInt8 := 0
  high : UInt8 := 0
  /-- How many of the cells hold octets of the length in progress. -/
  filled : Nat := 0
  /-- How many payload octets of the frame in progress have not been received. -/
  remaining : Nat := 0
  /-- How many octets the frame in progress has, its length among them. -/
  total : Nat := 0
  /-- Where in the buffer the next octet goes of a frame that is assembled there. -/
  cursor : Nat := 0
deriving DecidableEq, Repr, Inhabited

/-- The event of a read with registers, and everything the read may have changed. -/
structure RegisterRead (σ : Type) where
  event : ReadEvent
  registers : ReaderRegisters
  source : σ
  buffer : Bytes
deriving DecidableEq, Repr

namespace ReaderRegisters

/-- Gives a client up. The cells of the length are not cleared. -/
def reset (registers : ReaderRegisters) : ReaderRegisters :=
  { registers with
    phase := .idle, preamble := {}, filled := 0, remaining := 0, total := 0, cursor := 0 }

/-- Begins with a client that was just accepted. -/
def accept (registers : ReaderRegisters) : ReaderRegisters :=
  { registers.reset with phase := .awaitHandshake }

/-- Begins with a client that needs no preamble. -/
def beginFraming (registers : ReaderRegisters) : ReaderRegisters :=
  { registers.reset with phase := .awaitLength }

/-- The octets that were collected of the length in progress. -/
def collected (registers : ReaderRegisters) : Bytes :=
  [registers.low, registers.high].take registers.filled

/-- Puts octets of a length into the cells behind those that are filled. -/
def collect (registers : ReaderRegisters) (bytes : Bytes) : ReaderRegisters :=
  let filled := registers.filled + bytes.length
  match registers.filled, bytes with
  | _, [] => registers
  | 0, [low] => { registers with low, filled }
  | 0, low :: high :: _ => { registers with low, high, filled }
  -- With one cell filled, only the other one is left to fill.
  | _ + 1, high :: _ => { registers with high, filled }

/-- Counts payload octets that were delivered in pieces. -/
def delivered (registers : ReaderRegisters) (count : Nat) : ReaderRegisters :=
  -- The frame is through when nothing of it is missing.
  let remaining := registers.remaining - count
  { registers with remaining, phase := if remaining = 0 then .awaitLength else .collecting }

variable {σ : Type} [Receiver σ]

/-- One receive; `arrived` goes on with the octets that came and the source behind them. -/
def receive (registers : ReaderRegisters) (source : σ) (buffer : Bytes) (wanted : Nat)
    (arrived : Bytes → σ → RegisterRead σ) : RegisterRead σ :=
  match Receiver.receive source wanted with
  | (.pending, source) => ⟨.pending, registers, source, buffer⟩
  | (.data (first :: more), source) => arrived (first :: more) source
  -- The end of the stream ends the session in every phase.
  | (.data [], source) | (.closed, source) => ⟨.disconnected, registers.reset, source, buffer⟩

/-- Searches the client's preamble, which stays in its register once the marker was seen. -/
def readPreamble (registers : ReaderRegisters) (source : σ) (buffer : Bytes) : RegisterRead σ :=
  registers.receive source buffer registers.preamble.room fun bytes source =>
    let (verdict, preamble) := registers.preamble.feed bytes
    -- The octets seen stay in the register under every verdict.
    let registers := { registers with preamble }
    match verdict with
    | .matched =>
      ⟨.handshakeAccepted, { registers with phase := .awaitLength, filled := 0 }, source, buffer⟩
    | .pending => ⟨.pending, registers, source, buffer⟩
    | .rejected => ⟨.handshakeRejected, registers.reset, source, buffer⟩

/-- Reads payload octets of a frame that is assembled in the buffer. -/
def readAssembling (registers : ReaderRegisters) (source : σ) (buffer : Bytes) : RegisterRead σ :=
  if buffer.length < registers.total then
    -- The buffer shrank in mid-frame, so the rest comes in pieces.
    ⟨.produced (min registers.cursor buffer.length), { registers with phase := .collecting },
      source, buffer⟩
  else
    -- Only what the frame still lacks is asked for.
    registers.receive source buffer (registers.total - registers.cursor) fun bytes source =>
      let buffer := Bytes.overwrite buffer registers.cursor bytes
      let registers :=
        { registers with
          cursor := registers.cursor + bytes.length
          remaining := registers.remaining - bytes.length }
      if registers.remaining = 0 then
        ⟨.produced registers.total, { registers with phase := .awaitLength }, source, buffer⟩
      else ⟨.pending, registers, source, buffer⟩

/-- Reads the first payload octets of a frame that is longer than the buffer. -/
def readOpening (registers : ReaderRegisters) (source : σ) (buffer : Bytes) : RegisterRead σ :=
  if buffer.length < lengthPrefixSize then ⟨.pending, registers, source, buffer⟩
  else
    let wanted := min (buffer.length - lengthPrefixSize) registers.remaining
    -- The buffer has room for the length only, which goes alone.
    if wanted = 0 then
      ⟨.produced lengthPrefixSize, { registers with phase := .collecting }, source, buffer⟩
    else
      registers.receive source buffer wanted fun bytes source =>
        ⟨.produced (lengthPrefixSize + bytes.length), registers.delivered bytes.length, source,
          Bytes.overwrite buffer lengthPrefixSize bytes⟩

/-- Reads further payload octets of a frame that is delivered in pieces. -/
def readCollecting (registers : ReaderRegisters) (source : σ) (buffer : Bytes) : RegisterRead σ :=
  let wanted := min registers.remaining buffer.length
  if wanted = 0 then ⟨.pending, registers, source, buffer⟩
  else
    registers.receive source buffer wanted fun bytes source =>
      ⟨.produced bytes.length, registers.delivered bytes.length, source,
        Bytes.overwrite buffer 0 bytes⟩

/-- Puts a complete length into the buffer and goes on with the payload at once. -/
def openFrame (registers : ReaderRegisters) (source : σ) (buffer : Bytes) : RegisterRead σ :=
  let size := announcedLength registers.low registers.high
  let buffer := Bytes.overwrite buffer 0 [registers.low, registers.high]
  let registers :=
    { registers with filled := 0, remaining := size, total := size + lengthPrefixSize }
  -- The frame is its length alone, so the next length begins.
  if size = 0 then ⟨.produced lengthPrefixSize, registers, source, buffer⟩
  else if registers.total ≤ buffer.length then
    { registers with phase := .assembling, cursor := lengthPrefixSize }.readAssembling source buffer
  else { registers with phase := .opening }.readOpening source buffer

/-- Collects a frame's length. -/
def readLength (registers : ReaderRegisters) (source : σ) (buffer : Bytes) : RegisterRead σ :=
  if buffer.length < lengthPrefixSize then ⟨.pending, registers, source, buffer⟩
  else
    registers.receive source buffer (lengthPrefixSize - registers.filled) fun bytes source =>
      let registers := registers.collect bytes
      -- One octet is not enough, whichever it is.
      if registers.filled < lengthPrefixSize then ⟨.pending, registers, source, buffer⟩
      else registers.openFrame source buffer

/-- Takes what the source has and goes on in the phase that the registers are in. -/
def read (registers : ReaderRegisters) (source : σ) (buffer : Bytes) : RegisterRead σ :=
  match registers.phase with
  | .idle => ⟨.pending, registers, source, buffer⟩
  | .awaitHandshake => registers.readPreamble source buffer
  | .awaitLength => registers.readLength source buffer
  | .assembling => registers.readAssembling source buffer
  | .opening => registers.readOpening source buffer
  | .collecting => registers.readCollecting source buffer

/-- The reader that the registers stand for: what their phase uses of them, and nothing else. -/
def reader (registers : ReaderRegisters) : FrameReader :=
  match registers.phase with
  | .idle => .idle
  | .awaitHandshake => .awaitHandshake registers.preamble
  | .awaitLength => .awaitLength registers.collected
  | .assembling => .assembling registers.cursor registers.remaining
  | .opening => .opening registers.remaining
  | .collecting => .collecting registers.remaining

end ReaderRegisters

end CompanionLink
