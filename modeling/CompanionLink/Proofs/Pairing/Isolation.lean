import CompanionLink.Pairing.Registers
import CompanionLink.Proofs.Pairing.Watch

/-!
Nothing of an earlier client is left in a reader that was begun anew. Its registers may differ from
fresh ones, but every read comes to what it does for the reader that the registers stand for, and
that reader is the same whatever they held before.
-/

namespace CompanionLink

open FrameReader

namespace ReaderRegisters

/-- The counts of the registers fit together, as far as their phase uses them. -/
structure Coherent (registers : ReaderRegisters) : Prop where
  /-- While a length is collected there is room for more of it. -/
  short : registers.phase = .awaitLength → registers.filled < lengthPrefixSize
  /-- Behind a length its cells count as empty again. -/
  empty : registers.reader.inPayload = true → registers.filled = 0
  /-- A frame in the buffer is what was received of it and what is missing. -/
  whole : registers.phase = .assembling →
    registers.total = registers.cursor + registers.remaining

end ReaderRegisters

/-- A read with registers comes to what a reader's read comes to, and its counts fit together. -/
structure RegisterRead.Agrees {σ : Type} (read : RegisterRead σ) (result : ReadResult σ) :
    Prop where
  same : result = ⟨read.event, read.registers.reader, read.source, read.buffer⟩
  coherent : read.registers.Coherent

namespace ReaderRegisters

/-- Registers that gave their client up are coherent. -/
theorem coherent_reset (registers : ReaderRegisters) : registers.reset.Coherent where
  -- No phase is left that anything is asked of.
  short phase := nomatch phase
  empty inside := nomatch inside
  whole phase := nomatch phase

variable {registers : ReaderRegisters}

section Ends

variable {σ : Type} {event : ReadEvent} {source : σ} {buffer : Bytes}

/-- Where a new length begins, nothing of the registers counts but their phase. -/
theorem agrees_begin (phase : registers.phase = .awaitLength) (empty : registers.filled = 0) :
    RegisterRead.Agrees ⟨event, registers, source, buffer⟩ ⟨event, framing, source, buffer⟩ := by
  -- With no cell filled, the reader that the registers stand for is the one that begins.
  have reader : registers.reader = framing := by
    rw [reader, phase]
    simp [collected, empty, framing]
  refine ⟨by rw [reader], ?_⟩
  constructor <;> simp [phase, empty, lengthPrefixSize]

/-- In a frame that is delivered in pieces, only what is missing of it counts. -/
theorem agrees_collecting (phase : registers.phase = .collecting) (empty : registers.filled = 0) :
    RegisterRead.Agrees ⟨event, registers, source, buffer⟩
      ⟨event, .collecting registers.remaining, source, buffer⟩ := by
  -- Only the missing octets are read in this phase.
  refine ⟨by rw [reader, phase], ?_⟩
  constructor <;> simp [phase, empty]

/-- A delivery in pieces goes on with the rest of the frame, or with the next one. -/
theorem agrees_delivered (empty : registers.filled = 0) (count : Nat) :
    RegisterRead.Agrees ⟨event, registers.delivered count, source, buffer⟩
      ⟨event, afterDelivery (registers.remaining - count), source, buffer⟩ := by
  -- Both go by whether anything is left.
  unfold delivered afterDelivery
  dsimp only
  split
  · exact agrees_begin rfl empty
  · exact agrees_collecting rfl empty

end Ends

variable {σ : Type} [Receiver σ] (source : σ) (buffer : Bytes)

/-- A receive into the buffer comes to the same if the arrival of octets does. -/
theorem receive_agrees {reader : FrameReader} (stands : registers.reader = reader)
    (coherent : registers.Coherent) {offset wanted : Nat}
    {arrived : Bytes → σ → RegisterRead σ} {arrival : Nat → ReadEvent × FrameReader}
    (came : ∀ bytes later, (arrived bytes later).Agrees
      ⟨(arrival bytes.length).1, (arrival bytes.length).2, later,
        Bytes.overwrite buffer offset bytes⟩) :
    (registers.receive source buffer wanted arrived).Agrees
      (receiveInto reader source buffer offset wanted arrival) := by
  -- By what the receive brings.
  unfold receive receiveInto
  rcases Receiver.receive source wanted with ⟨⟨_ | ⟨first, more⟩⟩ | _ | _, later⟩
  · exact ⟨rfl, registers.coherent_reset⟩
  · exact came (first :: more) later
  · exact ⟨by rw [stands], coherent⟩
  · exact ⟨rfl, registers.coherent_reset⟩

/-- A frame that is assembled is read on alike by the registers and the reader. -/
theorem readAssembling_agrees (phase : registers.phase = .assembling)
    (coherent : registers.Coherent) :
    (registers.readAssembling source buffer).Agrees
      (readPayload (.assembling registers.cursor registers.remaining) source buffer) := by
  -- What is asked for is the total less the cursor on one side, and what is missing on the other.
  have stands : registers.reader = .assembling registers.cursor registers.remaining := by
    rw [reader, phase]
  have whole := coherent.whole phase
  have empty := coherent.empty (by rw [stands]; rfl)
  have missing : registers.total - registers.cursor = registers.remaining := by omega
  simp only [readAssembling, readPayload]
  -- With these the two tests and the two receives are the same.
  rw [missing, whole]
  split
  · exact agrees_collecting rfl empty
  · refine receive_agrees source buffer stands coherent fun bytes later => ?_
    split
    -- The frame is through, and both wait for the next length.
    · exact agrees_begin rfl empty
    · rename_i more
      have more : registers.remaining - bytes.length ≠ 0 := more
      refine ⟨by rw [reader, phase], ?_⟩
      constructor
      · simp [phase]
      · simp [empty]
      · -- What came moved from the missing octets to the received ones.
        intro _
        show registers.cursor + registers.remaining =
          registers.cursor + bytes.length + (registers.remaining - bytes.length)
        omega

/-- The first piece of a long frame is read alike by the registers and the reader. -/
theorem readOpening_agrees (phase : registers.phase = .opening) (coherent : registers.Coherent) :
    (registers.readOpening source buffer).Agrees
      (readPayload (.opening registers.remaining) source buffer) := by
  -- Both look at the room behind the length before anything else.
  have stands : registers.reader = .opening registers.remaining := by rw [reader, phase]
  have empty := coherent.empty (by rw [stands]; rfl)
  simp only [readOpening, readPayload]
  split
  · exact ⟨by rw [stands], coherent⟩
  · split
    · exact agrees_collecting rfl empty
    · exact receive_agrees source buffer stands coherent fun bytes _ =>
        agrees_delivered empty bytes.length

/-- A further piece of a long frame is read alike by the registers and the reader. -/
theorem readCollecting_agrees (phase : registers.phase = .collecting)
    (coherent : registers.Coherent) :
    (registers.readCollecting source buffer).Agrees
      (readPayload (.collecting registers.remaining) source buffer) := by
  -- Both ask for as much as the buffer holds and the frame is missing.
  have stands : registers.reader = .collecting registers.remaining := by rw [reader, phase]
  have empty := coherent.empty (by rw [stands]; rfl)
  simp only [readCollecting, readPayload]
  split
  · exact ⟨by rw [stands], coherent⟩
  · exact receive_agrees source buffer stands coherent fun bytes _ =>
      agrees_delivered empty bytes.length

/-- A complete length in the cells opens its frame, whatever the other registers hold. -/
theorem openFrame_agrees (phase : registers.phase = .awaitLength) :
    (registers.openFrame source buffer).Agrees
      (FrameReader.openFrame registers.low registers.high source buffer) := by
  -- Both go by the announced length, and write the same octets into the buffer.
  unfold openFrame FrameReader.openFrame
  dsimp only
  split
  · exact agrees_begin phase rfl
  · split
    · refine readAssembling_agrees source _ rfl ⟨nofun, fun _ => rfl, fun _ => ?_⟩
      exact Nat.add_comm ..
    · exact readOpening_agrees source _ rfl ⟨nofun, fun _ => rfl, nofun⟩

/--
Octets that come for a length either complete it in the two cells, or leave it collected there with
room for more.
-/
inductive Collects (registers : ReaderRegisters) (bytes : Bytes) : ReaderRegisters → Prop
  /-- One octet of the length is there now. -/
  | more {next : ReaderRegisters} (first : UInt8) (phase : next.phase = registers.phase)
    (short : next.filled < lengthPrefixSize)
    (only : registers.collected ++ bytes = [first]) (held : next.collected = [first]) :
    Collects registers bytes next
  /-- Both are there, and perhaps more was handed in. -/
  | complete {next : ReaderRegisters} (beyond : Bytes) (phase : next.phase = registers.phase)
    (full : ¬ next.filled < lengthPrefixSize)
    (pair : registers.collected ++ bytes = next.low :: next.high :: beyond) :
    Collects registers bytes next

/-- Octets that arrive for a length fill one cell or complete it. -/
theorem collects (short : registers.filled < lengthPrefixSize) {bytes : Bytes}
    (some : bytes ≠ []) : Collects registers bytes (registers.collect bytes) := by
  -- There is room for both octets or for the second one only.
  obtain none_ | one : registers.filled = 0 ∨ registers.filled = 1 := by
    unfold lengthPrefixSize at short
    omega
  · rcases bytes with _ | ⟨first, _ | ⟨second, more⟩⟩
    · exact absurd rfl some
    · refine .more first ?_ ?_ ?_ ?_ <;>
        simp [collect, collected, none_, lengthPrefixSize]
    · refine .complete more ?_ ?_ ?_ <;>
        simp [collect, collected, none_, lengthPrefixSize]
  -- With one cell filled the next octet completes the length.
  · rcases bytes with _ | ⟨second, more⟩
    · exact absurd rfl some
    · refine .complete more ?_ ?_ ?_
      · simp [collect, one]
      · simp only [collect, one, List.length_cons, lengthPrefixSize]
        omega
      · simp [collect, collected, one]

/-- A length is collected alike by the registers and the reader. -/
theorem readLength_agrees (phase : registers.phase = .awaitLength)
    (coherent : registers.Coherent) :
    (registers.readLength source buffer).Agrees
      (FrameReader.readLength registers.collected source buffer) := by
  -- The cells that are filled are as many octets as the reader has collected.
  have stands : registers.reader = .awaitLength registers.collected := by rw [reader, phase]
  have short := coherent.short phase
  have held : registers.collected.length = registers.filled := by
    unfold lengthPrefixSize at short
    simp [collected]
    omega
  unfold readLength FrameReader.readLength receive
  rw [held]
  -- A tight buffer is left alone by both, and so is what they hold.
  split
  · exact ⟨by rw [stands], coherent⟩
  · rcases Receiver.receive source (lengthPrefixSize - registers.filled) with
      ⟨⟨_ | ⟨first, more⟩⟩ | _ | _, later⟩
    · exact ⟨rfl, registers.coherent_reset⟩
    · dsimp only
      have came := collects short (List.cons_ne_nil first more)
      revert came
      generalize registers.collect (first :: more) = next
      rintro (⟨_, same, room, only, cells⟩ | ⟨_, same, full, pair⟩)
      · -- One octet of the length is there, and the other one is waited for.
        have waits : next.phase = .awaitLength := same.trans phase
        rw [if_pos room, only]
        refine ⟨by rw [reader, waits, cells], ?_⟩
        constructor <;> simp [reader, waits, room, inPayload]
      · rw [if_neg full, pair]
        exact openFrame_agrees later buffer (same.trans phase)
    · exact ⟨by rw [stands], coherent⟩
    · exact ⟨rfl, registers.coherent_reset⟩

/-- While the preamble is searched, nothing else of the registers counts. -/
theorem coherent_searching (phase : registers.phase = .awaitHandshake) : registers.Coherent := by
  -- The conditions are about other phases.
  constructor <;> simp [reader, phase, inPayload]

/-- The preamble is searched alike by the registers and the reader. -/
theorem readPreamble_agrees (phase : registers.phase = .awaitHandshake) :
    (registers.readPreamble source buffer).Agrees
      (FrameReader.readPreamble registers.preamble source buffer) := by
  -- Both hand the same octets to the same search.
  have stands : registers.reader = .awaitHandshake registers.preamble := by rw [reader, phase]
  unfold readPreamble FrameReader.readPreamble receive
  rcases Receiver.receive source registers.preamble.room with
    ⟨⟨_ | ⟨first, more⟩⟩ | _ | _, later⟩
  · exact ⟨rfl, registers.coherent_reset⟩
  · dsimp only
    -- The verdict is the same, and only an undecided client keeps its preamble.
    rcases registers.preamble.feed (first :: more) with ⟨_ | _ | _, preamble⟩
    · exact agrees_begin rfl rfl
    · exact ⟨by rw [reader, phase], coherent_searching phase⟩
    · exact ⟨rfl, coherent_reset _⟩
  · exact ⟨by rw [stands], coherent_searching phase⟩
  · exact ⟨rfl, registers.coherent_reset⟩

/-- A read with registers comes to what the read of the reader does that they stand for. -/
theorem read_agrees (coherent : registers.Coherent) :
    (registers.read source buffer).Agrees (registers.reader.read source buffer) := by
  -- By the phase.
  unfold read reader
  cases phase : registers.phase with
  | idle => exact ⟨by rw [reader, phase]; rfl, coherent⟩
  | awaitHandshake => exact readPreamble_agrees source buffer phase
  | awaitLength => exact readLength_agrees source buffer phase coherent
  | assembling => exact readAssembling_agrees source buffer phase coherent
  | opening => exact readOpening_agrees source buffer phase coherent
  | collecting => exact readCollecting_agrees source buffer phase coherent

end ReaderRegisters

/-- The ways to begin a reader anew. -/
inductive Renewal where
  /-- A client was accepted. -/
  | accept
  /-- A client was accepted that needs no preamble. -/
  | beginFraming
  /-- The client was given up. -/
  | reset
deriving DecidableEq, Repr, Inhabited

/-- Registers that were begun anew. -/
def Renewal.registers (renewal : Renewal) (registers : ReaderRegisters) : ReaderRegisters :=
  match renewal with
  | .accept => registers.accept
  | .beginFraming => registers.beginFraming
  | .reset => registers.reset

/-- The reader that begins. -/
def Renewal.reader : Renewal → FrameReader
  | .accept => .accepted
  | .beginFraming => framing
  | .reset => .idle

/--
One use of a reader: it is begun anew, or it reads. Before a read the source may be changed or
replaced in any way, and so may the buffer.
-/
inductive ReaderUse (σ : Type) where
  | renew (renewal : Renewal)
  | read (supply : σ → σ) (lend : Bytes → Bytes)

/--
All that can be seen of one use of a reader: the event of a read, the phase that it leaves, the
source with every receive from it so far, and the whole buffer.
-/
structure Sighting (σ : Type) where
  event : Option ReadEvent
  phase : ReaderPhase
  watched : Watched σ
  buffer : Bytes

/-- The phase of a reader. -/
def FrameReader.phase : FrameReader → ReaderPhase
  | .idle => .idle
  | .awaitHandshake _ => .awaitHandshake
  | .awaitLength _ => .awaitLength
  | .assembling .. => .assembling
  | .opening _ => .opening
  | .collecting _ => .collecting

variable {σ : Type} [Receiver σ]

/-- What is seen of registers in one use after the other. -/
def ReaderRegisters.sightings (registers : ReaderRegisters) (watched : Watched σ) (buffer : Bytes) :
    List (ReaderUse σ) → List (Sighting σ)
  | [] => []
  | .renew renewal :: later =>
    -- Beginning anew reads nothing, so only the phase is seen.
    let renewed := renewal.registers registers
    ⟨none, renewed.phase, watched, buffer⟩ :: renewed.sightings watched buffer later
  | .read supply lend :: later =>
    let result := registers.read { watched with source := supply watched.source } (lend buffer)
    ⟨some result.event, result.registers.phase, result.source, result.buffer⟩ ::
      result.registers.sightings result.source result.buffer later

/-- What is seen of a reader in one use after the other. -/
def FrameReader.sightings (reader : FrameReader) (watched : Watched σ) (buffer : Bytes) :
    List (ReaderUse σ) → List (Sighting σ)
  | [] => []
  | .renew renewal :: later =>
    ⟨none, renewal.reader.phase, watched, buffer⟩ :: renewal.reader.sightings watched buffer later
  | .read supply lend :: later =>
    let result := reader.read { watched with source := supply watched.source } (lend buffer)
    ⟨some result.event, result.reader.phase, result.source, result.buffer⟩ ::
      result.reader.sightings result.source result.buffer later

namespace ReaderRegisters

/-- The reader that registers stand for is in their phase. -/
theorem phase_reader (registers : ReaderRegisters) : registers.reader.phase = registers.phase := by
  -- Each phase stands for the reader of the same name.
  unfold reader
  cases registers.phase <;> rfl

/-- Registers that were begun anew stand for the reader that begins, whatever they held before. -/
theorem reader_renewed (renewal : Renewal) (registers : ReaderRegisters) :
    (renewal.registers registers).reader = renewal.reader ∧
      (renewal.registers registers).Coherent := by
  -- Each way to begin writes what its phase reads.
  cases renewal with
  | accept => exact ⟨rfl, coherent_searching rfl⟩
  | beginFraming => exact ⟨rfl, fun _ => Nat.zero_lt_two, fun _ => rfl, nofun⟩
  | reset => exact ⟨rfl, registers.coherent_reset⟩

/-- Of registers that fit together nothing can be seen but the reader that they stand for. -/
theorem sightings_reader {registers : ReaderRegisters} (coherent : registers.Coherent)
    (watched : Watched σ) (buffer : Bytes) (uses : List (ReaderUse σ)) :
    registers.sightings watched buffer uses = registers.reader.sightings watched buffer uses := by
  -- Each use leaves the two in agreement, and the next one begins there.
  induction uses generalizing registers watched buffer with
  | nil => rfl
  | cons use later ih =>
    cases use with
    -- Beginning anew brings the registers in line, whatever they held.
    | renew renewal =>
      obtain ⟨stands, fits⟩ := reader_renewed renewal registers
      rw [sightings, FrameReader.sightings, ih fits, ← phase_reader, stands]
    | read supply lend =>
      have agrees := read_agrees { watched with source := supply watched.source } (lend buffer)
        coherent
      simp only [sightings, FrameReader.sightings]
      rw [agrees.same, ih agrees.coherent, phase_reader]

/--
A reader that was begun anew shows nothing of what its registers held before. Whatever uses follow,
with any sources and buffers, every event, phase, buffer and receive is the one that fresh registers
would show, and the one that a reader without registers shows.
-/
theorem renewed_like_fresh (registers : ReaderRegisters) (renewal : Renewal) (watched : Watched σ)
    (buffer : Bytes) (later : List (ReaderUse σ)) :
    registers.sightings watched buffer (.renew renewal :: later) =
      ({} : ReaderRegisters).sightings watched buffer (.renew renewal :: later) ∧
    ∀ reader : FrameReader,
      registers.sightings watched buffer (.renew renewal :: later) =
        reader.sightings watched buffer (.renew renewal :: later) := by
  -- Both sets of registers stand for the one reader that the renewal begins.
  have shows (held : ReaderRegisters) :
      held.sightings watched buffer (.renew renewal :: later) =
        ⟨none, renewal.reader.phase, watched, buffer⟩ ::
          renewal.reader.sightings watched buffer later := by
    obtain ⟨stands, fits⟩ := reader_renewed renewal held
    rw [sightings, sightings_reader fits, ← phase_reader, stands]
  exact ⟨(shows registers).trans (shows {}).symm, fun _ => shows registers⟩

/-- An octet that an earlier client left in a cell is still there for the next one. -/
example :
    (ReaderRegisters.accept { phase := .awaitLength, low := 5, filled := 1 }) ≠
      ReaderRegisters.accept {} := by decide

end ReaderRegisters

end CompanionLink
