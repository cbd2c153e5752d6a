import CompanionLink.Proofs.Bytes
import CompanionLink.Proofs.Pairing.Isolation
import CompanionLink.Proofs.Pairing.Wire

/-!
A reader stays within its buffer and its counts. Its reads are written once more so that every cut,
every subtraction and every receive is checked; in no use of a reader does a check fail, and the
checked read comes to what the read comes to.
-/

namespace CompanionLink

open FrameReader

/-- What a checked step can fail with. -/
inductive Fault where
  /-- A cut does not lie within the octets that it is made in. -/
  | outOfRange
  /-- More is subtracted than there is. -/
  | underflow
  /-- A source is asked for no octets at all. -/
  | emptyReceive
deriving DecidableEq, Repr

/-- What goes on from a step that succeeded. -/
@[simp] theorem Fault.ok_bind {α β : Type} (value : α) (next : α → Except Fault β) :
    (Except.ok value >>= next) = next value := rfl

/-- The octets from `start` up to `stop`, if they lie within the bytes. -/
def Bytes.checkedCut (bytes : Bytes) (start stop : Nat) : Except Fault Bytes :=
  if start ≤ stop ∧ stop ≤ bytes.length then .ok ((bytes.take stop).drop start)
  else .error .outOfRange

/-- The difference of two counts, if there is one. -/
def checkedSub (count less : Nat) : Except Fault Nat :=
  if less ≤ count then .ok (count - less) else .error .underflow

/-- Octets that are there can be cut out. -/
theorem Bytes.checkedCut_eq {bytes : Bytes} {start stop : Nat} (ordered : start ≤ stop)
    (inside : stop ≤ bytes.length) :
    bytes.checkedCut start stop = .ok ((bytes.take stop).drop start) :=
  -- Both checks pass.
  if_pos ⟨ordered, inside⟩

/-- Octets that were laid at the start are the ones that are cut out there. -/
theorem Bytes.checkedCut_overwrite {buffer written : Bytes}
    (fits : written.length ≤ buffer.length) :
    (overwrite buffer 0 written).checkedCut 0 written.length = .ok written := by
  -- The cut ends where the writing did.
  rw [checkedCut_eq (Nat.zero_le _) (by rwa [length_overwrite (by omega)]), List.drop_zero,
    take_overwrite (Nat.zero_le _) (Nat.zero_add _).symm, List.take_zero, List.nil_append]

/-- What is there can be subtracted. -/
theorem checkedSub_eq {count less : Nat} (enough : less ≤ count) :
    checkedSub count less = .ok (count - less) :=
  -- The check passes.
  if_pos enough

namespace Preamble

/-- `feed` with its steps checked. -/
def checkedFeed (preamble : Preamble) (bytes : Bytes) :
    Except Fault (PreambleVerdict × Preamble) := do
  -- A preamble beyond the limit would have less than no room.
  let room ← checkedSub preambleLimit preamble.seen.length
  let kept ← bytes.checkedCut 0 (min bytes.length room)
  let preamble : Preamble := ⟨preamble.seen ++ kept⟩
  return (preamble.verdict, preamble)

/-- A preamble that has not outgrown its limit is fed without a fault. -/
theorem checkedFeed_eq {preamble : Preamble} (bounded : preamble.seen.length ≤ preambleLimit)
    (bytes : Bytes) : preamble.checkedFeed bytes = .ok (preamble.feed bytes) := by
  -- The two checks are on what room there is and on how much of it is used.
  rw [checkedFeed, checkedSub_eq bounded, Fault.ok_bind,
    Bytes.checkedCut_eq (Nat.zero_le _) (Nat.min_le_left ..), Fault.ok_bind, List.drop_zero,
    feed, extend, room, Nat.min_comm, ← List.take_eq_take_min]
  rfl

/-- A preamble that leaves its client undecided has room for more. -/
theorem room_of_undecided {preamble next : Preamble} {bytes : Bytes}
    (undecided : preamble.feed bytes = (.pending, next)) : next.seen.length < preambleLimit := by
  -- A full preamble is either matched or rejected.
  obtain ⟨open_, rfl⟩ := Prod.mk.inj undecided
  unfold verdict at open_
  split at open_
  · cases open_
  · split at open_
    · cases open_
    · next room => exact Nat.lt_of_not_le room

end Preamble

namespace ReaderRegisters

section Checked

variable {σ : Type} [Receiver σ]

/--
One receive into the octets of `place` from `start` up to `stop`. There has to be one of them at
least; `arrived` goes on with the octets that came.
-/
def checkedReceive (registers : ReaderRegisters) (source : σ) (buffer place : Bytes)
    (start stop : Nat) (arrived : Bytes → σ → Except Fault (RegisterRead σ)) :
    Except Fault (RegisterRead σ) := do
  let part ← place.checkedCut start stop
  -- A receive into nothing could not be told from the end of the stream.
  if part.isEmpty then .error .emptyReceive
  else
    match Receiver.receive source part.length with
    | (.pending, source) => return ⟨.pending, registers, source, buffer⟩
    | (.data (first :: more), source) => arrived (first :: more) source
    | (.data [], source) | (.closed, source) =>
      return ⟨.disconnected, registers.reset, source, buffer⟩

/-- `readPreamble` with its steps checked. The octets come by way of a chunk of their own. -/
def checkedPreamble (registers : ReaderRegisters) (source : σ) (buffer : Bytes) :
    Except Fault (RegisterRead σ) := do
  let chunk : Bytes := List.replicate preambleLimit 0
  -- A preamble that has outgrown its limit would leave no room to subtract from.
  let wanted ← checkedSub preambleLimit registers.preamble.seen.length
  registers.checkedReceive source buffer chunk 0 wanted fun bytes source => do
    -- The source says how much it brought, and that much is cut out of the chunk.
    let arrived ← (Bytes.overwrite chunk 0 bytes).checkedCut 0 bytes.length
    let (verdict, preamble) ← registers.preamble.checkedFeed arrived
    let registers := { registers with preamble }
    match verdict with
    | .matched =>
      return ⟨.handshakeAccepted, { registers with phase := .awaitLength, filled := 0 }, source,
        buffer⟩
    | .pending => return ⟨.pending, registers, source, buffer⟩
    | .rejected => return ⟨.handshakeRejected, registers.reset, source, buffer⟩

/-- `delivered` with its subtraction checked. -/
def checkedDelivered (registers : ReaderRegisters) (count : Nat) :
    Except Fault ReaderRegisters := do
  let remaining ← checkedSub registers.remaining count
  return { registers with
    remaining, phase := if remaining = 0 then .awaitLength else .collecting }

/-- `readAssembling` with its steps checked. -/
def checkedAssembling (registers : ReaderRegisters) (source : σ) (buffer : Bytes) :
    Except Fault (RegisterRead σ) :=
  if buffer.length < registers.total then
    return ⟨.produced (min registers.cursor buffer.length),
      { registers with phase := .collecting }, source, buffer⟩
  else
    registers.checkedReceive source buffer buffer registers.cursor registers.total
      fun bytes source => do
        -- More octets than were missing would be a fault here.
        let remaining ← checkedSub registers.remaining bytes.length
        let buffer := Bytes.overwrite buffer registers.cursor bytes
        let registers :=
          { registers with cursor := registers.cursor + bytes.length, remaining }
        if registers.remaining = 0 then
          return ⟨.produced registers.total, { registers with phase := .awaitLength }, source,
            buffer⟩
        else return ⟨.pending, registers, source, buffer⟩

/-- `readOpening` with its steps checked. -/
def checkedOpening (registers : ReaderRegisters) (source : σ) (buffer : Bytes) :
    Except Fault (RegisterRead σ) :=
  if buffer.length < lengthPrefixSize then return ⟨.pending, registers, source, buffer⟩
  else do
    let room ← checkedSub buffer.length lengthPrefixSize
    let wanted := min room registers.remaining
    if wanted = 0 then
      return ⟨.produced lengthPrefixSize, { registers with phase := .collecting }, source, buffer⟩
    else
      -- The part asked for lies behind the length, within what the buffer has.
      registers.checkedReceive source buffer buffer lengthPrefixSize (lengthPrefixSize + wanted)
        fun bytes source => do
          let registers ← registers.checkedDelivered bytes.length
          return ⟨.produced (lengthPrefixSize + bytes.length), registers, source,
            Bytes.overwrite buffer lengthPrefixSize bytes⟩

/-- `readCollecting` with its steps checked. -/
def checkedCollecting (registers : ReaderRegisters) (source : σ) (buffer : Bytes) :
    Except Fault (RegisterRead σ) :=
  let wanted := min registers.remaining buffer.length
  if wanted = 0 then return ⟨.pending, registers, source, buffer⟩
  else
    registers.checkedReceive source buffer buffer 0 wanted fun bytes source => do
      -- No more can be delivered than was missing.
      let registers ← registers.checkedDelivered bytes.length
      return ⟨.produced bytes.length, registers, source, Bytes.overwrite buffer 0 bytes⟩

/-- `openFrame` with its steps checked; the length needs its place in the buffer. -/
def checkedOpen (registers : ReaderRegisters) (source : σ) (buffer : Bytes) :
    Except Fault (RegisterRead σ) := do
  let size := announcedLength registers.low registers.high
  -- The length is put into the first two places of the buffer.
  let _ ← buffer.checkedCut 0 lengthPrefixSize
  let buffer := Bytes.overwrite buffer 0 [registers.low, registers.high]
  let registers :=
    { registers with filled := 0, remaining := size, total := size + lengthPrefixSize }
  if size = 0 then return ⟨.produced lengthPrefixSize, registers, source, buffer⟩
  else if registers.total ≤ buffer.length then
    checkedAssembling { registers with phase := .assembling, cursor := lengthPrefixSize } source
      buffer
  else checkedOpening { registers with phase := .opening } source buffer

/-- `readLength` with its steps checked. -/
def checkedLength (registers : ReaderRegisters) (source : σ) (buffer : Bytes) :
    Except Fault (RegisterRead σ) :=
  if buffer.length < lengthPrefixSize then return ⟨.pending, registers, source, buffer⟩
  else
    -- The cells that are not filled are the part that is received into.
    registers.checkedReceive source buffer [registers.low, registers.high] registers.filled
      lengthPrefixSize fun bytes source =>
        let registers := registers.collect bytes
        if registers.filled < lengthPrefixSize then return ⟨.pending, registers, source, buffer⟩
        else registers.checkedOpen source buffer

/-- `read` with every cut, subtraction and receive checked. -/
def checkedRead (registers : ReaderRegisters) (source : σ) (buffer : Bytes) :
    Except Fault (RegisterRead σ) :=
  match registers.phase with
  | .idle => return ⟨.pending, registers, source, buffer⟩
  | .awaitHandshake => registers.checkedPreamble source buffer
  | .awaitLength => registers.checkedLength source buffer
  | .assembling => registers.checkedAssembling source buffer
  | .opening => registers.checkedOpening source buffer
  | .collecting => registers.checkedCollecting source buffer

end Checked

/-- The counts of the registers lie where their phase may use them. -/
structure InRange (registers : ReaderRegisters) : Prop where
  /-- One cell of the length at least is not filled. -/
  short : registers.filled < lengthPrefixSize
  /-- A preamble that is searched has room for more. -/
  searching : registers.phase = .awaitHandshake → registers.preamble.seen.length < preambleLimit
  /-- Inside a payload some of it is missing, and no more than a length can announce. -/
  missing : registers.reader.inPayload = true →
    0 < registers.remaining ∧ registers.remaining < 65536
  /-- A frame in the buffer has its length there, and is what came of it and what is missing. -/
  whole : registers.phase = .assembling →
    lengthPrefixSize ≤ registers.cursor ∧
      registers.total = registers.cursor + registers.remaining

/-- A client was given up: the registers are fresh ones but for the cells of the length. -/
def Cleared (registers : ReaderRegisters) : Prop := ∃ low high, registers = { low, high }

end ReaderRegisters

/-- What a read into a buffer of a capacity keeps to, whatever it comes to. -/
structure RegisterRead.Keeps {σ : Type} [Receiver σ] (read : RegisterRead σ) (source : σ)
    (capacity : Nat) : Prop where
  inRange : read.registers.InRange
  length : read.buffer.length = capacity
  produced : ∀ count, read.event = .produced count → count ≤ capacity
  /-- Every receive asks for something, and an end of the stream that is found is reported. -/
  drawn : ∃ draws, Draws source draws read.source ∧ (∀ draw ∈ draws, 0 < draw.wanted) ∧
    ((∃ draw ∈ draws, draw.receipt.ends = true) ↔ read.event = .disconnected)
  cleared : read.event = .disconnected ∨ read.event = .handshakeRejected → read.registers.Cleared

/-- A read that its checked form comes to without a fault. -/
structure RegisterRead.Safe {σ : Type} [Receiver σ] (read : RegisterRead σ) (source : σ)
    (capacity : Nat) (checked : Except Fault (RegisterRead σ)) : Prop where
  same : checked = .ok read
  keeps : read.Keeps source capacity

namespace ReaderRegisters

/-- Giving a client up clears everything but the cells. -/
theorem cleared_reset (registers : ReaderRegisters) : registers.reset.Cleared :=
  -- The cells are the only registers that giving up does not write.
  ⟨registers.low, registers.high, rfl⟩

/-- Without a client there are no counts that could be out of range. -/
theorem Cleared.inRange {registers : ReaderRegisters} (cleared : registers.Cleared) :
    registers.InRange := by
  -- All counts are zero, and no phase asks for more.
  obtain ⟨low, high, rfl⟩ := cleared
  exact ⟨Nat.zero_lt_two, nofun, nofun, nofun⟩

variable {σ : Type} [Receiver σ] {registers : ReaderRegisters} {source : σ} {buffer : Bytes}
  {capacity : Nat}

/-- The end of a read behind its receives, if the client stays. -/
theorem keeps_of_stays {event : ReadEvent} (inRange : registers.InRange)
    (length : buffer.length = capacity)
    (stays : event = .pending ∨ event = .handshakeAccepted ∨
      ∃ count ≤ capacity, event = .produced count) :
    (RegisterRead.mk event registers source buffer).Keeps source capacity where
  -- Nothing is received behind the last receive, and the client is not given up.
  inRange := inRange
  length := length
  produced count same := by
    obtain rfl | rfl | ⟨given, fits, rfl⟩ := stays
    · cases same
    · cases same
    · cases same
      exact fits
  drawn := by
    refine ⟨[], .done, nofun, nofun, fun ended => ?_⟩
    obtain rfl | rfl | ⟨_, _, rfl⟩ := stays <;> cases ended
  -- The client stays under each of these events, so there is nothing to clear.
  cleared ended := by
    obtain rfl | rfl | ⟨_, _, rfl⟩ := stays <;> cases ended <;> contradiction

/-- The end of a read behind its receives, if the client is turned away. -/
theorem keeps_rejected (length : buffer.length = capacity) :
    (RegisterRead.mk .handshakeRejected registers.reset source buffer).Keeps source capacity where
  -- A client is turned away without the stream having ended.
  inRange := registers.cleared_reset.inRange
  length := length
  produced count same := by cases same
  drawn := by
    refine ⟨[], .done, by simp, ?_⟩
    simp
  cleared _ := registers.cleared_reset

/-- What a read does behind a receive that brought octets, it does from the start. -/
theorem keeps_behind {read : RegisterRead σ} {later : σ} {wanted : Nat} {bytes : Bytes}
    (asked : 0 < wanted) (some : bytes ≠ [])
    (received : Receiver.receive source wanted = (.data bytes, later))
    (keeps : read.Keeps later capacity) : read.Keeps source capacity := by
  -- The receive comes before the others, and did not end the stream.
  obtain ⟨draws, drawn, wants, ended⟩ := keeps.drawn
  have goesOn : (Receipt.data bytes).ends = false := by simpa [Receipt.ends] using some
  refine { keeps with drawn := ⟨_, .more received drawn, ?_, ?_⟩ }
  · exact List.forall_mem_cons.mpr ⟨asked, wants⟩
  · rw [← ended]
    simp [goesOn]

/-- A checked receive into a part that is there goes as far as what it does with the octets. -/
theorem checkedReceive_safe [LawfulReceiver σ] (inRange : registers.InRange) {place : Bytes}
    {start stop wanted : Nat} (asked : 0 < wanted) (upTo : stop = start + wanted)
    (inside : stop ≤ place.length) (length : buffer.length = capacity)
    {checked : Bytes → σ → Except Fault (RegisterRead σ)} {arrived : Bytes → σ → RegisterRead σ}
    (came : ∀ bytes later, bytes ≠ [] → bytes.length ≤ wanted →
      (arrived bytes later).Safe later capacity (checked bytes later)) :
    (registers.receive source buffer wanted arrived).Safe source capacity
      (registers.checkedReceive source buffer place start stop checked) := by
  -- The part that is cut out holds as much as is asked for, which is something.
  have cut : ((place.take stop).drop start).length = wanted := by
    rw [List.length_drop, List.length_take]
    omega
  have some : ((place.take stop).drop start).isEmpty = false := by
    rw [List.isEmpty_eq_false_iff, ← List.length_pos_iff, cut]
    exact asked
  unfold checkedReceive receive
  rw [Bytes.checkedCut_eq (by omega) inside, Fault.ok_bind, some, cut]
  -- The end of the stream is the only receipt that gives the client up.
  have ends {receipt : Receipt} {later : σ} (ended : receipt.ends = true)
      (received : Receiver.receive source wanted = (receipt, later)) :
      (RegisterRead.mk .disconnected registers.reset later buffer).Keeps source capacity :=
    { inRange := registers.cleared_reset.inRange
      length := length
      produced := nofun
      drawn := ⟨_, .one received, List.forall_mem_singleton.mpr asked, fun _ => rfl,
        fun _ => ⟨_, List.mem_singleton_self _, ended⟩⟩
      cleared := fun _ => registers.cleared_reset }
  -- The receipt decides, and only octets go on to what comes behind.
  rcases received : Receiver.receive source wanted with ⟨⟨_ | ⟨first, more⟩⟩ | _ | _, later⟩
  · exact ⟨rfl, ends rfl received⟩
  · -- A lawful source brings no more than the part holds.
    have fits := LawfulReceiver.length_le source wanted _ (congrArg Prod.fst received)
    have safe := came (first :: more) later (List.cons_ne_nil first more) fits
    exact ⟨safe.same, keeps_behind asked (List.cons_ne_nil first more) received safe.keeps⟩
  · refine ⟨rfl, inRange, length, nofun, ⟨_, .one received, ?_, ?_⟩, ?_⟩
    · exact List.forall_mem_singleton.mpr asked
    · simp [Receipt.ends]
    · simp
  · exact ⟨rfl, ends rfl received⟩

/-- While a length is collected, only its cells count. -/
theorem inRange_awaitLength (phase : registers.phase = .awaitLength)
    (short : registers.filled < lengthPrefixSize) : registers.InRange := by
  -- The other conditions are about other phases.
  constructor <;> simp [reader, phase, inPayload, short]

/-- In a frame that is delivered in pieces, only what is missing of it counts. -/
theorem inRange_collecting (phase : registers.phase = .collecting)
    (short : registers.filled < lengthPrefixSize) (some : 0 < registers.remaining)
    (most : registers.remaining < 65536) : registers.InRange := by
  -- The other conditions are about other phases.
  constructor <;> simp [phase, short, some, most]

/-- No more is delivered than was missing. -/
theorem checkedDelivered_eq {count : Nat} (enough : count ≤ registers.remaining) :
    registers.checkedDelivered count = .ok (registers.delivered count) := by
  -- What was missing is enough to subtract from.
  rw [checkedDelivered, checkedSub_eq enough]
  rfl

/-- What is left of a frame after a delivery is in range, and so is the next length. -/
theorem InRange.delivered (inRange : registers.InRange) (most : registers.remaining < 65536)
    (count : Nat) : (registers.delivered count).InRange := by
  unfold ReaderRegisters.delivered
  dsimp only
  -- Either the frame is complete, or what is left of it is less than before.
  split
  · exact inRange_awaitLength rfl inRange.short
  · next left =>
    exact inRange_collecting rfl inRange.short (Nat.pos_of_ne_zero left) (by dsimp only; omega)

variable [LawfulReceiver σ] (source : σ)

/-- While the preamble is searched there is room for one more octet of it. -/
theorem checkedPreamble_safe (phase : registers.phase = .awaitHandshake)
    (inRange : registers.InRange) (length : buffer.length = capacity) :
    (registers.readPreamble source buffer).Safe source capacity
      (registers.checkedPreamble source buffer) := by
  -- The chunk has room for all that is searched, and so the cut before the receive is inside.
  have room := inRange.searching phase
  unfold readPreamble checkedPreamble
  rw [checkedSub_eq (Nat.le_of_lt room)]
  dsimp only [Fault.ok_bind]
  refine checkedReceive_safe inRange (Nat.sub_pos_of_lt room) (Nat.zero_add _).symm ?_ length
    fun bytes later some fits => ?_
  · rw [List.length_replicate]
    exact Nat.sub_le ..
  · -- No more came than the chunk holds, and the preamble keeps no more than it has room for.
    have held : bytes.length ≤ (List.replicate preambleLimit (0 : UInt8)).length := by
      rw [List.length_replicate]
      exact Nat.le_trans fits (Nat.sub_le ..)
    rw [Bytes.checkedCut_overwrite held, Fault.ok_bind,
      Preamble.checkedFeed_eq (Nat.le_of_lt room), Fault.ok_bind]
    -- Each verdict leaves registers in range or gives the client up.
    rcases fed : registers.preamble.feed bytes with ⟨_ | _ | _, preamble⟩
    · refine ⟨rfl, keeps_of_stays ?_ length (.inr (.inl rfl))⟩
      exact inRange_awaitLength rfl Nat.zero_lt_two
    · refine ⟨rfl, keeps_of_stays ?_ length (.inl rfl)⟩
      refine ⟨inRange.short, fun _ => Preamble.room_of_undecided fed, ?_, ?_⟩
      · simp [reader, phase, inPayload]
      · simp [phase]
    · exact ⟨rfl, keeps_rejected length⟩

/-- A frame that is assembled lies within a buffer that can hold the whole of it. -/
theorem checkedAssembling_safe (phase : registers.phase = .assembling)
    (inRange : registers.InRange) (length : buffer.length = capacity) :
    (registers.readAssembling source buffer).Safe source capacity
      (registers.checkedAssembling source buffer) := by
  -- The total is what was received and what is missing.
  obtain ⟨some, most⟩ := inRange.missing (by rw [reader, phase]; rfl)
  obtain ⟨behind, whole⟩ := inRange.whole phase
  unfold readAssembling checkedAssembling
  split
  · -- The buffer shrank, so there is no receive, and only what it still holds is given out.
    refine ⟨rfl, keeps_of_stays ?_ length (.inr (.inr ⟨_, ?_, rfl⟩))⟩
    · exact inRange_collecting rfl inRange.short some most
    · rw [← length]
      exact Nat.min_le_right ..
  · next fits =>
    -- The part behind the cursor holds exactly what is missing, which is something.
    refine checkedReceive_safe inRange (by omega) (by omega) (by omega) length
      fun bytes later _ came => ?_
    have enough : bytes.length ≤ registers.remaining := by omega
    have kept : (Bytes.overwrite buffer registers.cursor bytes).length = capacity := by
      rw [Bytes.length_overwrite (by omega), length]
    rw [checkedSub_eq enough, Fault.ok_bind]
    dsimp only
    split
    · refine ⟨rfl, keeps_of_stays ?_ kept (.inr (.inr ⟨_, by omega, rfl⟩))⟩
      exact inRange_awaitLength rfl inRange.short
    -- The cursor moved on by as much as is less missing.
    · next more =>
      refine ⟨rfl, keeps_of_stays ?_ kept (.inl rfl)⟩
      have more : registers.remaining - bytes.length ≠ 0 := more
      refine ⟨inRange.short, ?_, fun _ => ?_, fun _ => ?_⟩
      · simp [phase]
      · dsimp only
        omega
      · dsimp only
        omega

/-- The first piece of a long frame goes behind its length, where the buffer has room for it. -/
theorem checkedOpening_safe (phase : registers.phase = .opening)
    (inRange : registers.InRange) (length : buffer.length = capacity) :
    (registers.readOpening source buffer).Safe source capacity
      (registers.checkedOpening source buffer) := by
  -- A buffer without room for the length is left alone.
  obtain ⟨some, most⟩ := inRange.missing (by rw [reader, phase]; rfl)
  unfold readOpening checkedOpening
  split
  · exact ⟨rfl, keeps_of_stays inRange length (.inl rfl)⟩
  · next room =>
    rw [checkedSub_eq (Nat.le_of_not_lt room)]
    dsimp only [Fault.ok_bind]
    split
    -- The length goes out alone, and the payload is still missing.
    · refine ⟨rfl, keeps_of_stays ?_ length (.inr (.inr ⟨_, by omega, rfl⟩))⟩
      exact inRange_collecting rfl inRange.short some most
    · next wanted =>
      -- What is asked for fits behind the length and is part of what is missing.
      refine checkedReceive_safe inRange (Nat.pos_of_ne_zero wanted) rfl (by omega) length
        fun bytes later _ came => ?_
      rw [checkedDelivered_eq (by omega)]
      refine ⟨rfl, keeps_of_stays (inRange.delivered most _) ?_ (.inr (.inr ⟨_, by omega, rfl⟩))⟩
      rw [Bytes.length_overwrite (by omega), length]

/-- Further pieces of a long frame go to the start of the buffer, as much as it holds. -/
theorem checkedCollecting_safe (phase : registers.phase = .collecting)
    (inRange : registers.InRange) (length : buffer.length = capacity) :
    (registers.readCollecting source buffer).Safe source capacity
      (registers.checkedCollecting source buffer) := by
  -- What is asked for is a part of the buffer and of what is missing.
  obtain ⟨_, most⟩ := inRange.missing (by rw [reader, phase]; rfl)
  unfold readCollecting checkedCollecting
  dsimp only
  split
  · exact ⟨rfl, keeps_of_stays inRange length (.inl rfl)⟩
  · next wanted =>
    refine checkedReceive_safe inRange (Nat.pos_of_ne_zero wanted) (Nat.zero_add _).symm (by omega)
      length fun bytes later _ came => ?_
    -- What came is counted off what was missing, and stands at the front of the buffer.
    rw [checkedDelivered_eq (by omega)]
    refine ⟨rfl, keeps_of_stays (inRange.delivered most _) ?_ (.inr (.inr ⟨_, by omega, rfl⟩))⟩
    rw [Bytes.length_overwrite (by omega), length]

/-- A length finds its place in the buffer, and its frame begins in range. -/
theorem checkedOpen_safe (phase : registers.phase = .awaitLength)
    (room : lengthPrefixSize ≤ buffer.length) (length : buffer.length = capacity) :
    (registers.openFrame source buffer).Safe source capacity
      (registers.checkedOpen source buffer) := by
  -- The length is put into the buffer first, which has room for it.
  have kept : (Bytes.overwrite buffer 0 [registers.low, registers.high]).length = capacity := by
    rw [length_overwrite_pair room, length]
  have most := announcedLength_lt registers.low registers.high
  unfold openFrame checkedOpen
  rw [Bytes.checkedCut_eq (Nat.zero_le _) room]
  dsimp only [Fault.ok_bind]
  split
  · refine ⟨rfl, keeps_of_stays ?_ kept (.inr (.inr ⟨_, by omega, rfl⟩))⟩
    exact inRange_awaitLength phase Nat.zero_lt_two
  · next size =>
    -- What is missing at first is what the length announces.
    have some := Nat.pos_of_ne_zero size
    split
    -- Both ways on begin with registers in range.
    · refine checkedAssembling_safe source rfl ⟨Nat.zero_lt_two, nofun, fun _ => ⟨some, most⟩, ?_⟩
        kept
      exact fun _ => ⟨Nat.le_refl _, Nat.add_comm ..⟩
    · exact checkedOpening_safe source rfl
        ⟨Nat.zero_lt_two, nofun, fun _ => ⟨some, most⟩, nofun⟩ kept

/-- A length is collected in the cells that are not filled. -/
theorem checkedLength_safe (phase : registers.phase = .awaitLength)
    (inRange : registers.InRange) (length : buffer.length = capacity) :
    (registers.readLength source buffer).Safe source capacity
      (registers.checkedLength source buffer) := by
  -- Without room nothing is asked for, and with room only the cells are written.
  have short := inRange.short
  unfold readLength checkedLength
  split
  · exact ⟨rfl, keeps_of_stays inRange length (.inl rfl)⟩
  · next room =>
    refine checkedReceive_safe inRange (Nat.sub_pos_of_lt short)
      (Nat.add_sub_of_le (Nat.le_of_lt short)).symm (Nat.le_refl _) length
      fun bytes later some came => ?_
    -- The octets of a length change the cells and their count, and not the phase.
    have same : (registers.collect bytes).phase = .awaitLength := by
      cases collects short some with
      | more _ same | complete _ same => exact same.trans phase
    dsimp only
    split
    · next waits =>
      exact ⟨rfl, keeps_of_stays (inRange_awaitLength same waits) length (.inl rfl)⟩
    · exact checkedOpen_safe later same (Nat.le_of_not_lt room) length

/-- A read of registers in range succeeds in its checked form, and leaves them in range. -/
theorem checkedRead_safe (inRange : registers.InRange) (buffer : Bytes) :
    (registers.read source buffer).Safe source buffer.length
      (registers.checkedRead source buffer) := by
  -- By the phase.
  unfold read checkedRead
  cases phase : registers.phase with
  | idle => exact ⟨rfl, keeps_of_stays inRange rfl (.inl rfl)⟩
  | awaitHandshake => exact checkedPreamble_safe source phase inRange rfl
  | awaitLength => exact checkedLength_safe source phase inRange rfl
  | assembling => exact checkedAssembling_safe source phase inRange rfl
  | opening => exact checkedOpening_safe source phase inRange rfl
  | collecting => exact checkedCollecting_safe source phase inRange rfl

/--
The registers of a reader after any calls: fresh ones, begun anew in any way, or left by a read. The
source and the buffer of a read have nothing to do with those of the reads before.
-/
inductive Used : ReaderRegisters → Prop
  /-- Nothing has been read. -/
  | fresh : Used {}
  /-- The reader may begin anew at any time. -/
  | renewed {registers : ReaderRegisters} (used : Used registers) (renewal : Renewal) :
      Used (renewal.registers registers)
  /-- Each read may have another source and another buffer. -/
  | read {registers : ReaderRegisters} (used : Used registers) {σ : Type} [Receiver σ]
      [LawfulReceiver σ] (source : σ) (buffer : Bytes) :
      Used (registers.read source buffer).registers

/-- A reader that was begun anew has nothing in its registers that could be out of range. -/
theorem inRange_renewed (renewal : Renewal) (registers : ReaderRegisters) :
    (renewal.registers registers).InRange := by
  -- Each of the three ways clears the counts that its phase asks about.
  cases renewal with
  | accept => exact ⟨Nat.zero_lt_two, fun _ => Nat.zero_lt_succ 99, nofun, nofun⟩
  | beginFraming => exact inRange_awaitLength rfl Nat.zero_lt_two
  | reset => exact registers.cleared_reset.inRange

/-- Whatever calls a reader has seen, its registers are in range. -/
theorem Used.inRange (used : registers.Used) : registers.InRange := by
  -- Whatever source and buffer a read had, it left the registers in range.
  induction used with
  | fresh => exact Cleared.inRange ⟨0, 0, rfl⟩
  | renewed _ renewal => exact inRange_renewed renewal _
  | read _ source buffer ih => exact (checkedRead_safe source ih buffer).keeps.inRange

/--
After any calls of a reader, a read steps nowhere outside its buffer or its counts: every cut lies
within its octets, no subtraction goes below zero, and no source is asked for nothing. What it
delivers lies in the buffer, every end of the stream that a receive finds is reported, and a client
that is given up leaves fresh registers but for the cells of the length.
-/
theorem read_in_range (used : registers.Used) (buffer : Bytes) (earlier : List Draw) :
    registers.InRange ∧
    registers.checkedRead source buffer = .ok (registers.read source buffer) ∧
    (∀ count, (registers.read source buffer).event = .produced count → count ≤ buffer.length) ∧
    ((registers.read source buffer).event = .disconnected ∨
        (registers.read source buffer).event = .handshakeRejected →
      (registers.read source buffer).registers.Cleared) ∧
    (let read := registers.read (⟨source, earlier⟩ : Watched σ) buffer
      ∃ draws, read.source.draws = earlier ++ draws ∧ (∀ draw ∈ draws, 0 < draw.wanted) ∧
        ((∃ draw ∈ draws, draw.receipt.ends = true) ↔ read.event = .disconnected)) := by
  have inRange := used.inRange
  have safe := checkedRead_safe source inRange buffer
  refine ⟨inRange, safe.same, safe.keeps.produced, safe.keeps.cleared, ?_⟩
  -- A watched source is a source like any other, and it has written down every receive.
  have watched := checkedRead_safe (⟨source, earlier⟩ : Watched σ) inRange buffer
  obtain ⟨draws, drawn, wants, ended⟩ := watched.keeps.drawn
  exact ⟨draws, drawn.watched, wants, ended⟩

/-- The buffer shrinks to one octet in the middle of a frame, and then the client leaves. -/
theorem read_in_range_shrunk :
    let begun := (beginFraming {}).read (SegmentQueue.mk [[6, 0], [1, 2]] false)
      (List.replicate 8 0)
    let shrunk := begun.registers.read begun.source [9]
    let cued : CuedReceiver := ⟨[.endOfStream]⟩
    begun.registers.phase = .assembling ∧ shrunk.event = .produced 1 ∧
      shrunk.registers.checkedRead cued [0, 0] =
        .ok ⟨.disconnected, { low := 6 }, ⟨[]⟩, [0, 0]⟩ ∧
      (shrunk.registers.read (⟨cued, []⟩ : Watched CuedReceiver) [0, 0]).source.draws =
        [⟨2, .data []⟩] := by
  -- The two reads before are evaluated, and the checked read follows from the theorem.
  intro begun shrunk cued
  have used : shrunk.registers.Used := ((Used.fresh.renewed .beginFraming).read _ _).read _ _
  obtain ⟨_, same, _⟩ := read_in_range cued used [0, 0] []
  exact ⟨by decide, by decide, same.trans (congrArg Except.ok (by decide)), by decide⟩

end ReaderRegisters

end CompanionLink
