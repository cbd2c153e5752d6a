import CompanionLink.Proofs.Pairing.Conserve
import CompanionLink.Proofs.Pairing.Watch

/-!
How the capacity of the buffer decides the way in which a frame is delivered. The reads of a stream
fall into one group for each frame, in order: a frame that fits the buffer is delivered whole by the
last read of its group, and a longer one in pieces of which no other frame has a part.
-/

namespace CompanionLink

/-- Whether the reader waits for the length of a frame. -/
def FrameReader.awaitsLength : FrameReader → Bool
  | .awaitLength _ => true
  | _ => false

/-- One read, as its source and its caller see it. -/
structure Outcome where
  /-- Its receives from the source. -/
  draws : List Draw
  event : ReadEvent
  /-- The octets at the start of the buffer that it delivered. -/
  delivered : Bytes
  /-- The reader that it left. -/
  reader : FrameReader
deriving DecidableEq, Repr

namespace Outcome

/-- The octets that a read took from its source. -/
def taken (read : Outcome) : Bytes := CompanionLink.taken read.draws

/-- A read that delivered one octet at least, and a buffer of them at most. -/
structure IsChunk (capacity : Nat) (read : Outcome) : Prop where
  event : read.event = .produced read.delivered.length
  some : 0 < read.delivered.length
  room : read.delivered.length ≤ capacity

/-- What the caller sees of a result. -/
structure Tells {σ : Type} (read : Outcome) (result : ReadResult σ) : Prop where
  event : read.event = result.event
  delivered : read.delivered = result.delivered

end Outcome

/-- Reads that delivered nothing. -/
def Quiet (reads : List Outcome) : Prop := ∀ read ∈ reads, read.event = .pending

/-- No delivery among the reads led back to waiting for a length. -/
def Underway (reads : List Outcome) : Prop :=
  ∀ read ∈ reads, read.event ≠ .pending → read.reader.awaitsLength = false

/-- Nothing was delivered before the last read, which delivered the octets at once. -/
inductive Whole (octets : Bytes) : List Outcome → Prop
  | intro {waits : List Outcome} {last : Outcome} (quiet : Quiet waits)
      (event : last.event = .produced octets.length) (all : last.delivered = octets) :
      Whole octets (waits ++ [last])

/--
The octets were delivered piece by piece: the length and the first of the payload, as many as there
was room for at most, and then chunks of the rest.
-/
inductive Pieces (capacity : Nat) (octets : Bytes) : List Outcome → Prop
  | intro {waits later : List Outcome} {first : Outcome} {count : Nat} (quiet : Quiet waits)
      (event : first.event = .produced (lengthPrefixSize + count))
      (room : lengthPrefixSize + count ≤ capacity)
      (some : lengthPrefixSize < capacity → 0 < count)
      (inside : lengthPrefixSize + count ≤ octets.length)
      (start : first.delivered = octets.take (lengthPrefixSize + count))
      (chunks : ∀ read ∈ later, read.event = .pending ∨ read.IsChunk capacity)
      (rest : later.flatMap Outcome.delivered = octets.drop (lengthPrefixSize + count)) :
      Pieces capacity octets (waits ++ first :: later)

/-- The reads of a frame that was taken and delivered, the last of them its last delivery. -/
structure Delivers (capacity : Nat) (frame : WireFrame) (reads : List Outcome) : Prop where
  /-- The reads took the frame's octets and no others. -/
  taken : reads.flatMap Outcome.taken = frame.bytes
  /-- A frame that fits goes out in one delivery. -/
  whole : frame.bytes.length ≤ capacity → Whole frame.bytes reads
  /-- A longer one goes out in pieces. -/
  pieces : capacity < frame.bytes.length → Pieces capacity frame.bytes reads
  /-- The last read, and no other, ends between two frames. -/
  ends : ∃ earlier last, reads = earlier ++ [last] ∧ Underway earlier ∧
    last.event ≠ .pending ∧ last.reader = .awaitLength []

/-- The reads of a frame of which so far only a part was taken. -/
structure Begins (capacity : Nat) (part : Bytes) (reads : List Outcome) : Prop where
  /-- The reads took what there is of the frame. -/
  taken : reads.flatMap Outcome.taken = part
  /-- None of them ended between two frames. -/
  underway : Underway reads
  /-- Short of its length nothing is delivered. -/
  length : part.length < lengthPrefixSize → Quiet reads
  /-- A frame that fits is not delivered before it is whole. -/
  whole : ∀ {low high payload}, part = low :: high :: payload →
    announcedLength low high + lengthPrefixSize ≤ capacity → Quiet reads
  /-- A longer one is delivered in pieces, once some of its payload came. -/
  pieces : ∀ {low high payload}, part = low :: high :: payload →
    capacity < announcedLength low high + lengthPrefixSize →
    Quiet reads ∧ payload = [] ∨ Pieces capacity part reads

/-- Reads of a stream: those of each of its frames in order, and those of a frame begun last. -/
inductive Groups (capacity : Nat) : List WireFrame → Bytes → List Outcome → Prop
  /-- What is left begins a frame, or is nothing. -/
  | last {rest : Bytes} {reads : List Outcome} (incomplete : Incomplete rest)
      (begins : Begins capacity rest reads) : Groups capacity [] rest reads
  /-- The reads of one frame stand before those of the next. -/
  | frame {frame : WireFrame} {later : List WireFrame} {rest : Bytes} {group reads : List Outcome}
      (delivers : Delivers capacity frame group) (behind : Groups capacity later rest reads) :
      Groups capacity (frame :: later) rest (group ++ reads)

section Groups

variable {capacity : Nat} {octets bytes : Bytes} {reads : List Outcome} {read : Outcome}

/-- No reads deliver nothing. -/
theorem quiet_nil : Quiet [] := nofun

/-- Another read that delivers nothing. -/
theorem Quiet.append (quiet : Quiet reads) (pending : read.event = .pending) :
    Quiet (reads ++ [read]) :=
  -- The reads before were quiet, and this one is.
  List.forall_mem_append.mpr ⟨quiet, List.forall_mem_singleton.mpr pending⟩

/-- Reads that deliver nothing deliver no end of a frame. -/
theorem Quiet.underway (quiet : Quiet reads) : Underway reads :=
  -- A quiet read has delivered nothing.
  fun read listed delivers => absurd (quiet read listed) delivers

/-- Another read that does not deliver the end of a frame. -/
theorem Underway.append (underway : Underway reads)
    (goesOn : read.event ≠ .pending → read.reader.awaitsLength = false) :
    Underway (reads ++ [read]) :=
  -- The reads before did not end a frame, and this one does not.
  List.forall_mem_append.mpr ⟨underway, List.forall_mem_singleton.mpr goesOn⟩

/-- The first of the pieces, behind reads that delivered nothing. -/
theorem Quiet.pieces (quiet : Quiet reads) {count : Nat}
    (event : read.event = .produced (lengthPrefixSize + count))
    (room : lengthPrefixSize + count ≤ capacity) (some : lengthPrefixSize < capacity → 0 < count)
    (delivered : read.delivered = octets) (length : octets.length = lengthPrefixSize + count) :
    Pieces capacity octets (reads ++ [read]) := by
  -- The first piece carries all octets taken so far.
  refine .intro quiet event room some (Nat.le_of_eq length.symm) ?_ nofun ?_
  · rw [delivered, List.take_of_length_le (Nat.le_of_eq length)]
  · rw [List.drop_eq_nil_of_le (Nat.le_of_eq length)]
    rfl

/-- One more read of a frame in pieces, which delivers what it took or nothing. -/
theorem Pieces.append (pieces : Pieces capacity octets reads)
    (chunk : read.event = .pending ∨ read.IsChunk capacity) (delivered : read.delivered = bytes) :
    Pieces capacity (octets ++ bytes) (reads ++ [read]) := by
  -- The first piece stays the same, and what the later ones delivered grows by this one.
  obtain ⟨quiet, event, room, some, inside, start, chunks, rest⟩ := pieces
  rw [List.append_assoc, List.cons_append]
  refine .intro quiet event room some ?_ ?_ ?_ ?_
  · rw [List.length_append]
    omega
  · rw [start, List.take_append_of_le_length inside]
  · exact List.forall_mem_append.mpr ⟨chunks, List.forall_mem_singleton.mpr chunk⟩
  · rw [List.flatMap_append, rest, List.drop_append_of_le_length inside]
    simp [delivered]

/-- Reads in groups have taken the frames that they delivered and what they have begun. -/
theorem Groups.taken {frames : List WireFrame} {rest : Bytes}
    (groups : Groups capacity frames rest reads) :
    reads.flatMap Outcome.taken = wire frames ++ rest ∧ Incomplete rest := by
  -- By induction on the groups, of which the last one is not complete.
  induction groups with
  | last incomplete begins => exact ⟨begins.taken, incomplete⟩
  | frame delivers _ ih =>
    refine ⟨?_, ih.2⟩
    rw [List.flatMap_append, delivers.taken, ih.1, ← List.append_assoc]
    rfl

end Groups

namespace FrameReader

/-- Where the reads of one frame have led to, and what they left in the buffer of it. -/
inductive Stands (capacity : Nat) (buffer : Bytes) (reads : List Outcome) :
    Bytes → FrameReader → Prop
  -- Of a length in progress nothing is in the buffer yet.
  | length {part : Bytes} (short : part.length < lengthPrefixSize) (quiet : Quiet reads) :
      Stands capacity buffer reads part (.awaitLength part)
  | assembling {low high : UInt8} {payload : Bytes} {cursor remaining : Nat}
      (held : buffer.take cursor = low :: high :: payload)
      (start : cursor = lengthPrefixSize + payload.length)
      (lacks : payload.length + remaining = announcedLength low high) (some : 0 < remaining)
      (fits : announcedLength low high + lengthPrefixSize ≤ capacity) (quiet : Quiet reads) :
      Stands capacity buffer reads (low :: high :: payload) (.assembling cursor remaining)
  | opening {low high : UInt8} (held : buffer.take lengthPrefixSize = [low, high])
      (some : 0 < announcedLength low high)
      (long : capacity < announcedLength low high + lengthPrefixSize) (quiet : Quiet reads) :
      Stands capacity buffer reads [low, high] (.opening (announcedLength low high))
  | collecting {low high : UInt8} {payload : Bytes} {remaining : Nat}
      (lacks : payload.length + remaining = announcedLength low high) (some : 0 < remaining)
      (long : capacity < announcedLength low high + lengthPrefixSize)
      (pieces : Pieces capacity (low :: high :: payload) reads) :
      Stands capacity buffer reads (low :: high :: payload) (.collecting remaining)

/-- What the latest read makes of the reads of a frame: they go on, or they have delivered it. -/
inductive Advances (capacity : Nat) (buffer : Bytes) (reads : List Outcome) (part : Bytes)
    (reader : FrameReader) (event : ReadEvent) : Prop
  /-- The frame is still in progress. -/
  | goesOn (stands : Stands capacity buffer reads part reader)
  /-- The read was the last one of the frame. -/
  | done {frame : WireFrame} (octets : frame.bytes = part) (next : reader = framing)
      (delivers : event ≠ .pending)
      (whole : frame.bytes.length ≤ capacity → Whole frame.bytes reads)
      (pieces : capacity < frame.bytes.length → Pieces capacity frame.bytes reads)

/-- A reader that is ready for what comes next is past the preamble. -/
theorem Ready.isFramed {capacity : Nat} {reader : FrameReader} (ready : Ready capacity reader) :
    reader.isFramed = true := by
  -- By the place of the reader; outside the frames nothing fits.
  cases reader with
  | idle | awaitHandshake => exact absurd ready.fits id
  | awaitLength | assembling | opening | collecting => rfl

section Advance

variable {capacity : Nat} {buffer part : Bytes} {reads : List Outcome} {reader : FrameReader}

/-- The reads of a frame in progress have taken the beginning of a frame. -/
theorem Stands.incomplete (stands : Stands capacity buffer reads part reader) :
    Incomplete part := by
  -- By the place of the reader, which is missing something in each of them.
  cases stands with
  | length short => exact .length short
  | opening _ some => exact .payload some
  | assembling _ _ lacks some | collecting lacks some => exact .payload (by omega)

/-- The reader of a frame in progress is past the preamble. -/
theorem Stands.isFramed (stands : Stands capacity buffer reads part reader) :
    reader.isFramed = true := by
  -- By the place of the reader.
  cases stands with
  | length | assembling | opening | collecting => rfl

/-- A frame in progress of which something was delivered has its length. -/
theorem Stands.away {last : Outcome} (stands : Stands capacity buffer (reads ++ [last]) part reader)
    (delivers : last.event ≠ .pending) : reader.awaitsLength = false := by
  -- Before the length is complete nothing is delivered.
  cases stands with
  | length _ quiet => exact absurd (quiet last (by simp)) delivers
  | assembling | opening | collecting => rfl

/-- The reads of a frame in progress are those of a frame of which a part was taken. -/
theorem Stands.begins (stands : Stands capacity buffer reads part reader)
    (taken : reads.flatMap Outcome.taken = part) (underway : Underway reads) :
    Begins capacity part reads := by
  -- Only in pieces anything is delivered, and pieces are for what is longer than the buffer.
  refine ⟨taken, underway, ?_, ?_, ?_⟩
  · intro short
    cases stands with
    | length _ quiet | assembling _ _ _ _ _ quiet | opening _ _ _ quiet => exact quiet
    | collecting => exact absurd short (by simp [lengthPrefixSize])
  -- A frame that fits the buffer is delivered nowhere before it is whole.
  · rintro low high payload rfl fits
    cases stands with
    | length _ quiet | assembling _ _ _ _ _ quiet | opening _ _ _ quiet => exact quiet
    | collecting _ _ long => omega
  -- A longer one is silent until its length is there, and comes in pieces then.
  · rintro low high payload rfl long
    cases stands with
    | length short => exact absurd short (by simp [lengthPrefixSize])
    | assembling _ _ _ _ fits => omega
    | opening _ _ _ quiet => exact .inl ⟨quiet, rfl⟩
    | collecting _ _ _ pieces => exact .inr pieces

/-- One more read that delivers nothing leaves the reads of a frame where they are. -/
theorem Stands.append {read : Outcome} (stands : Stands capacity buffer reads part reader)
    (pending : read.event = .pending) (delivered : read.delivered = []) :
    Stands capacity buffer (reads ++ [read]) part reader := by
  -- By the place of the reader, each of which allows for reads without delivery.
  cases stands with
  | length short quiet => exact .length short (quiet.append pending)
  | assembling held start lacks some fits quiet =>
    exact .assembling held start lacks some fits (quiet.append pending)
  | opening held some long quiet => exact .opening held some long (quiet.append pending)
  | collecting lacks some long pieces =>
    have more := pieces.append (.inl pending) delivered
    rw [List.append_nil] at more
    exact .collecting lacks some long more

/-- A frame that fits the buffer is done once all of it is there and goes out. -/
theorem advances_whole {low high : UInt8} {payload : Bytes} {last : Outcome}
    (quiet : Quiet reads) (all : payload.length = announcedLength low high)
    (fits : announcedLength low high + lengthPrefixSize ≤ capacity)
    (event : last.event = .produced (lengthPrefixSize + announcedLength low high))
    (delivered : last.delivered = low :: high :: payload) :
    Advances capacity buffer (reads ++ [last]) (low :: high :: payload) framing last.event := by
  -- The octets are those of a frame, which the last read delivered at once.
  obtain ⟨frame, octets⟩ := WireFrame.exists_of_whole all
  have length : frame.bytes.length = lengthPrefixSize + announcedLength low high := by
    rw [octets]
    simp only [List.length_cons, lengthPrefixSize]
    omega
  refine .done octets rfl (by simp [event]) (fun _ => ?_) fun long => by omega
  exact .intro quiet (by rw [event, length]) (delivered.trans octets.symm)

/-- A delivery of pieces completes its frame, or the rest of it is collected. -/
theorem advances_afterDelivery {low high : UInt8} {payload : Bytes} {left : Nat} {event : ReadEvent}
    (pieces : Pieces capacity (low :: high :: payload) reads)
    (lacks : payload.length + left = announcedLength low high)
    (long : capacity < announcedLength low high + lengthPrefixSize) (delivers : event ≠ .pending) :
    Advances capacity buffer reads (low :: high :: payload) (afterDelivery left) event := by
  rcases afterDelivery_next left with ⟨rfl, next⟩ | ⟨some, next⟩
  · obtain ⟨frame, octets⟩ := WireFrame.exists_of_whole (show payload.length = _ from lacks)
    refine .done octets next delivers ?_ fun _ => octets ▸ pieces
    -- What is longer than the buffer is not delivered whole.
    rw [octets]
    simp only [List.length_cons, lengthPrefixSize] at long ⊢
    omega
  · rw [next]
    exact .goesOn (.collecting lacks some long pieces)

end Advance

variable {σ : Type} [Receiver σ] {capacity : Nat} {source : σ} {buffer part : Bytes}
  {reader : FrameReader} {draws : List Draw} {result : ReadResult σ} {reads : List Outcome}
  {last : Outcome}

omit [Receiver σ] in
/-- Octets that arrive go on with their frame or complete it. -/
theorem Asks.advances {offset wanted : Nat} {bytes : Bytes} {later : σ}
    (asks : Asks buffer reader offset wanted) (stands : Stands capacity buffer reads part reader)
    (length : buffer.length = capacity) (some : bytes ≠ []) (bounded : bytes.length ≤ wanted)
    (tells : last.Tells (ReadResult.mk (arrival reader bytes.length).1
      (arrival reader bytes.length).2 later (Bytes.overwrite buffer offset bytes))) :
    Advances capacity (Bytes.overwrite buffer offset bytes) (reads ++ [last]) (part ++ bytes)
      (arrival reader bytes.length).2 last.event := by
  -- The place in the frame says what was asked for and where it goes.
  have room := asks.room
  -- Octets came, so the reader moves on.
  have positive := List.length_pos_iff.mpr some
  have laid : (Bytes.overwrite buffer offset bytes).take (offset + bytes.length) =
      buffer.take offset ++ bytes := Bytes.take_overwrite (by omega) rfl
  obtain ⟨event, delivered⟩ := tells
  cases stands with
  | length =>
    -- Where a length is still missing, no payload is asked for.
    cases asks
  | @assembling low high payload _ _ held start lacks _ fits quiet =>
    obtain ⟨⟩ := asks
    rw [held] at laid
    rw [List.cons_append, List.cons_append]
    simp only [arrival, ReadResult.delivered] at event delivered ⊢
    by_cases complete : wanted - bytes.length = 0
    · -- The frame is all there and goes out as a whole.
      have all : wanted = bytes.length := by omega
      simp only [if_pos complete] at event delivered ⊢
      refine advances_whole quiet ?_ fits ?_ (by rw [delivered, all, laid]; rfl)
      · rw [List.length_append]
        omega
      · rw [event, start, Nat.add_assoc, lacks]
    · -- What came stands behind the octets that were assembled before.
      simp only [if_neg complete] at event delivered ⊢
      refine .goesOn (.assembling laid ?_ ?_ ?_ fits (quiet.append event))
      · rw [List.length_append]
        omega
      · rw [List.length_append]
        omega
      · omega
  | @opening low high held _ long quiet =>
    rcases asks with _ | @⟨_, _, _, _, limit⟩
    rw [held] at laid
    rw [List.cons_append, List.cons_append, List.nil_append]
    simp only [arrival, ReadResult.delivered] at event delivered ⊢
    -- The length goes out with what came behind it.
    have first : Pieces capacity (low :: high :: bytes) (reads ++ [last]) := by
      refine quiet.pieces event (by omega) (fun _ => positive) (delivered.trans laid) ?_
      simp only [List.length_cons, lengthPrefixSize]
      omega
    exact advances_afterDelivery first (by omega) long (by simp [event])
  | @collecting low high payload remaining lacks _ long pieces =>
    rcases asks with _ | _ | @⟨_, _, _, limit⟩
    simp only [arrival, ReadResult.delivered] at event delivered ⊢
    rw [Nat.zero_add, List.take_zero, List.nil_append] at laid
    rw [laid] at delivered
    rw [List.cons_append, List.cons_append]
    -- The pieces before held all of the payload that came before.
    have chunk : last.IsChunk capacity :=
      ⟨by rw [event, delivered], by rw [delivered]; exact positive, by rw [delivered]; omega⟩
    have more : Pieces capacity (low :: high :: (payload ++ bytes)) (reads ++ [last]) :=
      pieces.append (.inr chunk) delivered
    refine advances_afterDelivery more ?_ long (by simp [event])
    rw [List.length_append]
    omega

omit [Receiver σ] in
/-- A length that goes out alone is the first of the pieces. -/
theorem GivesOut.advances {count remaining : Nat} (given : GivesOut buffer reader count remaining)
    (stands : Stands capacity buffer reads part reader) (length : buffer.length = capacity)
    (tells : last.Tells (ReadResult.mk (.produced count) (.collecting remaining) source buffer)) :
    Stands capacity buffer (reads ++ [last]) part (.collecting remaining) := by
  -- Two causes let a read deliver without a receive.
  obtain ⟨event, delivered⟩ := tells
  cases given with
  | shrunk short =>
    -- What is assembled fits the buffer, which keeps its capacity.
    cases stands with
    | assembling _ _ _ _ fits => omega
  | lengthOnly room none =>
    cases stands with
    | opening held some long quiet =>
      -- A buffer with room for the length only has the length as its first piece.
      have alone : last.event = .produced (lengthPrefixSize + 0) := event
      refine .collecting (Nat.zero_add _) some long ?_
      exact quiet.pieces alone (by omega) (by omega) (delivered.trans held) rfl

/-- A read inside a payload goes on with the frame or completes it. -/
theorem PayloadRead.advances [LawfulReceiver σ]
    (read : PayloadRead reader source buffer draws result)
    (stands : Stands capacity buffer reads part reader) (length : buffer.length = capacity)
    (room : lengthPrefixSize ≤ capacity) (endless : ∀ draw ∈ draws, draw.receipt.ends = false)
    (tells : last.Tells result) :
    result.buffer.length = capacity ∧
      Advances capacity result.buffer (reads ++ [last]) (part ++ taken draws) result.reader
        last.event := by
  -- By what the read came to.
  have lawful := read.drawn.length_le
  cases read with
  | stalls stalled =>
    -- A buffer with room for a length leaves every frame room to go on.
    cases stalled with
    | opening tight => omega
    | collecting none =>
      cases stands with
      | collecting _ some =>
        simp only [lengthPrefixSize] at room
        omega
  | givesOut given =>
    rw [taken_nil, List.append_nil]
    exact ⟨length, .goesOn (given.advances stands length tells)⟩
  | waits asks =>
    simp only [taken_cons, taken_nil, Receipt.bytes, List.append_nil]
    exact ⟨length, .goesOn (stands.append tells.event tells.delivered)⟩
  | ends _ _ ended => simp [ended] at endless
  | @arrives offset wanted bytes later asks received some =>
    have bounded : bytes.length ≤ wanted :=
      lawful ⟨wanted, .data bytes⟩ (List.mem_singleton.mpr rfl)
    have inside := asks.room
    rw [taken_cons, taken_nil, Receipt.bytes, List.append_nil]
    exact ⟨(Bytes.length_overwrite (by omega)).trans length,
      asks.advances stands length some bounded tells⟩

/-- A complete length leads to where the octets of the payload are put, or go out in pieces. -/
theorem stands_opened {low high : UInt8} (positive : 0 < announcedLength low high)
    (quiet : Quiet reads) :
    Stands capacity (Bytes.overwrite buffer 0 [low, high]) reads [low, high]
      (opened capacity (announcedLength low high)) := by
  have laid := take_overwrite_pair buffer low high
  -- The capacity decides here, once and for the whole frame.
  unfold opened
  split
  · next fits => exact .assembling laid rfl (Nat.zero_add _) positive fits quiet
  · next long => exact .opening laid positive (by omega) quiet

/-- A read for a length waits for more of it, or goes on behind it with the frame. -/
theorem LengthRead.advances [LawfulReceiver σ] {collected : Bytes}
    (read : LengthRead collected source buffer draws result)
    (short : collected.length < lengthPrefixSize) (quiet : Quiet reads)
    (length : buffer.length = capacity) (room : lengthPrefixSize ≤ capacity)
    (endless : ∀ draw ∈ draws, draw.receipt.ends = false) (tells : last.Tells result) :
    result.buffer.length = capacity ∧
      Advances capacity result.buffer (reads ++ [last]) (collected ++ taken draws) result.reader
        last.event := by
  -- By what the read came to; a length that is complete may bring its payload in the same read.
  have lawful := (FrameRead.length read).drawn.length_le
  cases read with
  | stalls tight => omega
  | waits =>
    simp only [taken_cons, taken_nil, Receipt.bytes, List.append_nil]
    exact ⟨length, .goesOn (.length short (quiet.append tells.event))⟩
  | ends _ _ ended => simp [ended] at endless
  | collects _ _ _ few =>
    rw [taken_cons, taken_nil, Receipt.bytes, List.append_nil]
    exact ⟨length, .goesOn (.length few (quiet.append tells.event))⟩
  | @empty bytes beyond low high later fits received some complete none =>
    -- The length of an empty payload is a frame that goes out at once.
    have pair : collected ++ bytes = [low, high] := eq_pair_of_complete short
      (lawful ⟨_, .data bytes⟩ (List.mem_singleton.mpr rfl)) complete
    have laid := take_overwrite_pair buffer low high
    rw [taken_cons, taken_nil, Receipt.bytes, List.append_nil, pair]
    refine ⟨(length_overwrite_pair fits low high).trans length, ?_⟩
    refine advances_whole quiet none.symm (by omega) ?_ (tells.delivered.trans laid)
    rw [tells.event, none]
    rfl
  | @opens bytes beyond low high later draws _ fits received some complete positive payload =>
    have pair : collected ++ bytes = [low, high] := eq_pair_of_complete short
      (lawful ⟨_, .data bytes⟩ (List.mem_cons_self ..)) complete
    rw [length] at payload
    -- The payload's read begins with a frame that has just been opened.
    have inner := payload.advances (stands_opened positive quiet)
      ((length_overwrite_pair fits low high).trans length) room
      (fun draw listed => endless draw (List.mem_cons_of_mem _ listed)) tells
    rw [taken_cons, ← List.append_assoc, Receipt.bytes, pair]
    exact inner

/-- Every read goes on with the frame in progress or completes it. -/
theorem FrameRead.advances [LawfulReceiver σ]
    (read : FrameRead source buffer reader draws result)
    (stands : Stands capacity buffer reads part reader) (length : buffer.length = capacity)
    (room : lengthPrefixSize ≤ capacity) (endless : ∀ draw ∈ draws, draw.receipt.ends = false)
    (tells : last.Tells result) :
    result.buffer.length = capacity ∧
      Advances capacity result.buffer (reads ++ [last]) (part ++ taken draws) result.reader
        last.event := by
  -- Where the reader stands decides which of the two kinds of read it is.
  cases read with
  | payload _ read => exact read.advances stands length room endless tells
  | length read =>
    cases stands with
    | length short quiet => exact read.advances short quiet length room endless tells

end FrameReader

/-- A reader, its source, and the one buffer that all of its reads are given. -/
structure Intake (σ : Type) where
  reader : FrameReader := .framing
  source : σ
  buffer : Bytes

namespace Intake

open FrameReader

variable {σ : Type} [Receiver σ]

/-- What the next read comes to. -/
def result (intake : Intake σ) : ReadResult σ :=
  intake.reader.read intake.source intake.buffer

/-- What the next read receives, as its source would write it down under watch. -/
def draws (intake : Intake σ) : List Draw :=
  (intake.reader.read (Watched.mk intake.source []) intake.buffer).source.draws

/-- The next read, as its source and its caller see it. -/
def outcome (intake : Intake σ) : Outcome :=
  ⟨intake.draws, intake.result.event, intake.result.delivered, intake.result.reader⟩

/-- The intake after the next read. -/
def next (intake : Intake σ) : Intake σ :=
  ⟨intake.result.reader, intake.result.source, intake.result.buffer⟩

/-- Reads in a row; before each of them anything may happen to the source. -/
def outcomes (intake : Intake σ) : List (σ → σ) → List Outcome
  | [] => []
  | meanwhile :: later =>
    let intake := { intake with source := meanwhile intake.source }
    intake.outcome :: intake.next.outcomes later

/-- The next read receives what it receives under watch, and comes to the same. -/
theorem exists_frameRead {intake : Intake σ} (framed : intake.reader.isFramed = true) :
    ∃ result : ReadResult (Watched σ),
      FrameRead (Watched.mk intake.source []) intake.buffer intake.reader intake.draws result ∧
        result.mapSource Watched.source = intake.result := by
  -- Watching a source changes no read, and notes the receives that it makes.
  obtain ⟨draws, read⟩ :=
    frameRead_read framed (Watched.mk intake.source []) intake.buffer
  have noted : intake.draws = draws := read.drawn.watched
  exact ⟨_, noted ▸ read, read_watched intake.reader (Watched.mk intake.source []) intake.buffer⟩

/-- What the next read leaves, once the watch is taken off its source. -/
theorem next_eq {intake : Intake σ} {result : ReadResult (Watched σ)}
    (same : result.mapSource Watched.source = intake.result) :
    intake.next = ⟨result.reader, result.source.source, result.buffer⟩ := by
  -- The watch stands beside the source and changes nothing else.
  rw [next, ← same]
  rfl

/-- The next read goes on with the frame in progress or completes it. -/
theorem stands_advances [LawfulReceiver σ] {capacity : Nat} {intake : Intake σ}
    {reads : List Outcome} {part : Bytes}
    (stands : Stands capacity intake.buffer reads part intake.reader)
    (length : intake.buffer.length = capacity) (room : lengthPrefixSize ≤ capacity)
    (endless : ∀ draw ∈ intake.outcome.draws, draw.receipt.ends = false) :
    intake.next.buffer.length = capacity ∧
      Advances capacity intake.next.buffer (reads ++ [intake.outcome])
        (part ++ intake.outcome.taken) intake.next.reader intake.outcome.event := by
  obtain ⟨result, read, same⟩ := exists_frameRead stands.isFramed
  -- The watch is in the source alone, so it shows in nothing that the caller sees.
  have tells : intake.outcome.Tells result := by
    constructor
    · rw [outcome, ← same]
      rfl
    · rw [outcome, ← same]
      rfl
  rw [next_eq same]
  exact read.advances stands length room endless tells

/-- Reads in a row fall into groups, those of a frame in progress into the first of them. -/
theorem exists_groups [LawfulReceiver σ] {capacity : Nat} (room : lengthPrefixSize ≤ capacity)
    {intake : Intake σ} {reads : List Outcome} {part : Bytes}
    (stands : Stands capacity intake.buffer reads part intake.reader)
    (length : intake.buffer.length = capacity) (taken : reads.flatMap Outcome.taken = part)
    (underway : Underway reads) {turns : List (σ → σ)}
    (endless : ∀ read ∈ intake.outcomes turns, ∀ draw ∈ read.draws, draw.receipt.ends = false) :
    ∃ frames rest, Groups capacity frames rest (reads ++ intake.outcomes turns) := by
  -- The reads so far are those of the frame in progress, and each new one joins them or ends them.
  induction turns generalizing intake reads part with
  | nil =>
    refine ⟨[], part, .last stands.incomplete ?_⟩
    rw [outcomes, List.append_nil]
    exact stands.begins taken underway
  | cons meanwhile later ih =>
    obtain ⟨first, others⟩ := List.forall_mem_cons.mp endless
    let moved := { intake with source := meanwhile intake.source }
    have still : Stands capacity moved.buffer reads part moved.reader := stands
    obtain ⟨length, advances⟩ := stands_advances still length room first
    have whole : (reads ++ [moved.outcome]).flatMap Outcome.taken =
        part ++ moved.outcome.taken := by
      rw [List.flatMap_append, taken, List.flatMap_singleton]
    show ∃ frames rest, Groups capacity frames rest
      (reads ++ moved.outcome :: moved.next.outcomes later)
    rw [List.append_cons]
    cases advances with
    | goesOn stands =>
      -- The frame goes on, so nothing that was delivered is its end.
      exact ih stands length whole (underway.append stands.away) others
    | @done frame octets next delivers once pieces =>
      -- The frame's group is complete, and the next one begins behind it.
      have start : Stands capacity moved.next.buffer [] [] moved.next.reader := by
        rw [next]
        exact .length (by decide) quiet_nil
      obtain ⟨frames, rest, groups⟩ := ih start length rfl quiet_nil.underway others
      exact ⟨frame :: frames, rest, .frame
        ⟨whole.trans octets.symm, once, pieces, reads, _, rfl, underway, delivers, next⟩ groups⟩

/-- Each read of a ready reader asks its source for something, as long as the stream goes on. -/
theorem outcomes_ask [LawfulReceiver σ] {capacity : Nat} (room : lengthPrefixSize ≤ capacity)
    {intake : Intake σ} (ready : Ready capacity intake.reader)
    (length : intake.buffer.length = capacity) {turns : List (σ → σ)}
    (endless : ∀ read ∈ intake.outcomes turns, ∀ draw ∈ read.draws, draw.receipt.ends = false) :
    ∀ read ∈ intake.outcomes turns, read.draws ≠ [] ∧ ∀ draw ∈ read.draws, 0 < draw.wanted := by
  -- By induction on the turns, with the reader kept ready from one to the next.
  induction turns generalizing intake with
  | nil => exact nofun
  | cons meanwhile later ih =>
    obtain ⟨first, others⟩ := List.forall_mem_cons.mp endless
    let moved := { intake with source := meanwhile intake.source }
    have size : moved.buffer.length = capacity := length
    have still : Ready moved.buffer.length moved.reader := size ▸ ready
    have inside : lengthPrefixSize ≤ moved.buffer.length := size ▸ room
    obtain ⟨result, read, same⟩ := exists_frameRead still.isFramed
    -- What is left between the turns is ready again.
    have conserves := read.conserves still.fits inside first
    refine List.forall_mem_cons.mpr
      ⟨⟨read.draws_ne_nil still inside, read.asks_some still.fits⟩, ih ?_ ?_ others⟩
    · rw [next_eq same, ← size]
      exact conserves.ready
    · rw [next_eq same]
      exact conserves.length.trans size

/--
The capacity of the buffer decides how each frame of a stream is delivered.

Every read of a stream that goes on asks for more of it. The reads are those of the frames taken, in
order, and then those of a frame of which only a part was taken. A frame that fits the buffer is
delivered whole by the last of its reads, the others before it delivering nothing. A longer one is
delivered in pieces: its length and the first octets of the payload that there is room for, and then
chunks of the payload at the start of the buffer. The last delivery of a frame, and no other, leads
back to waiting for a length.
-/
theorem delivered_by_capacity [LawfulReceiver σ] (source : σ) (buffer : Bytes)
    (room : lengthPrefixSize ≤ buffer.length) (turns : List (σ → σ))
    (endless : ∀ read ∈ outcomes { source, buffer } turns,
      ∀ draw ∈ read.draws, draw.receipt.ends = false) :
    let reads := outcomes { source, buffer } turns
    (∀ read ∈ reads, read.draws ≠ [] ∧ ∀ draw ∈ read.draws, 0 < draw.wanted) ∧
    (∃ frames rest, reads.flatMap Outcome.taken = wire frames ++ rest ∧ Incomplete rest) ∧
    ∀ frames rest, reads.flatMap Outcome.taken = wire frames ++ rest → Incomplete rest →
      Groups buffer.length frames rest reads := by
  intro reads
  have start : Stands buffer.length buffer [] [] framing := .length (by decide) quiet_nil
  obtain ⟨frames, rest, groups⟩ := exists_groups room start rfl rfl quiet_nil.underway endless
  obtain ⟨taken, incomplete⟩ := groups.taken
  refine ⟨outcomes_ask room (ready_framing _) rfl endless, ⟨frames, rest, taken, incomplete⟩, ?_⟩
  intro others more split short
  -- There is only one way to split what was taken into frames.
  obtain ⟨rfl, rfl⟩ := wire_append_inj (taken.symm.trans split) incomplete short
  exact groups

/-- Octets come in by pieces: a frame that just fits, one that is an octet longer, and a part. -/
def piecemeal : List (SegmentQueue → SegmentQueue) :=
  let arrives (segment : Bytes) (queue : SegmentQueue) := queue.push segment
  [arrives [2], id, arrives [0, 10], arrives [20, 3], arrives [0, 30], id, arrives [40, 50, 1], id]

/-- A frame of the buffer's size comes out whole, and one that is an octet longer in pieces. -/
theorem delivered_by_capacity_piecemeal :
    let reads := outcomes { source := ({} : SegmentQueue), buffer := [7, 7, 7, 7] } piecemeal
    lengthPrefixSize ≤ [(7 : UInt8), 7, 7, 7].length ∧
      (∀ read ∈ reads, ∀ draw ∈ read.draws, draw.receipt.ends = false) ∧
      Groups 4 [⟨[10, 20], by decide⟩, ⟨[30, 40, 50], by decide⟩] [1] reads ∧
      reads.map Outcome.event =
        [.pending, .pending, .pending, .produced 4, .pending, .produced 3, .produced 2, .pending] ∧
      reads.map Outcome.delivered =
        [[], [], [], [2, 0, 10, 20], [], [3, 0, 30], [40, 50], []] := by
  intro reads
  have room : lengthPrefixSize ≤ [(7 : UInt8), 7, 7, 7].length := by decide
  have endless : ∀ read ∈ reads, ∀ draw ∈ read.draws, draw.receipt.ends = false := by decide
  -- How the frames are cut out is evaluated, and how the reads deliver them follows.
  obtain ⟨-, -, grouped⟩ :=
    delivered_by_capacity ({} : SegmentQueue) [7, 7, 7, 7] room piecemeal endless
  exact ⟨room, endless, grouped _ _ (by decide) (.length (by decide)), by decide, by decide⟩

/-- With room for a length only, the length goes out alone and the payload behind it. -/
example :
    let octets (queue : SegmentQueue) := queue.push [3, 0, 30, 40, 50]
    (outcomes { source := ({} : SegmentQueue), buffer := [7, 7] } [octets, id, id]).map
      Outcome.delivered = [[3, 0], [30, 40], [50]] := by decide

end Intake

end CompanionLink
