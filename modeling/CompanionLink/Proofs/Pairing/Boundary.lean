import CompanionLink.Proofs.Pairing.Align
import CompanionLink.Proofs.Pairing.Watch

/-!
Frame boundaries are kept whatever buffers a reader is given: it knows what the frame in progress
misses, and never asks its source for an octet beyond.
-/

namespace CompanionLink

/-- No receive asks beyond the length or the payload that the stream before it leaves unfinished. -/
def Within (stream : Bytes) : List Draw → Prop
  | [] => True
  | draw :: later =>
    draw.wanted ≤ missing (unfinished stream) ∧ Within (stream ++ draw.receipt.bytes) later

/-- Receives in a row ask for no more than each of them does behind those before it. -/
theorem within_append {stream : Bytes} {earlier later : List Draw} :
    Within stream (earlier ++ later) ↔
      Within stream earlier ∧ Within (stream ++ taken earlier) later := by
  -- The stream grows by what each of the earlier receives brought.
  induction earlier generalizing stream with
  | nil => simp [Within]
  | cons draw rest ih => simp [Within, ih, and_assoc]

/-- Complete frames in front of a stream make no difference to what may be asked for. -/
theorem within_unfinished {stream : Bytes} {draws : List Draw} :
    Within (unfinished stream) draws ↔ Within stream draws := by
  induction draws generalizing stream with
  | nil => exact Iff.rfl
  | cons draw later ih =>
    have first : unfinished (unfinished stream) = unfinished stream :=
      (incomplete_unfinished stream).unfinished_eq
    -- What comes behind is added to a stream that is unfinished in the same place.
    have rest : Within (unfinished stream ++ draw.receipt.bytes) later ↔
        Within (stream ++ draw.receipt.bytes) later := by
      rw [← ih, ← unfinished_append, ih]
    simp only [Within, first, rest]

namespace FrameReader

/-- The octets behind which an aligned reader stands are the beginning of a frame. -/
theorem Aligned.incomplete {rest : Bytes} {reader : FrameReader} (aligned : Aligned rest reader) :
    Incomplete rest := by
  -- A part of a length, or a length and less than its payload.
  cases aligned with
  | length short => exact .length short
  | payload _ lacks some => exact .payload (by omega)

/-- Inside a payload, an aligned reader is missing what the frame misses. -/
theorem Aligned.missing_eq {rest : Bytes} {reader : FrameReader} (aligned : Aligned rest reader)
    (inside : reader.inPayload = true) : missing rest = reader.remaining := by
  -- Both count from the length that stands in front of the payload.
  cases aligned with
  | length => cases inside
  | payload _ lacks =>
    simp only [missing]
    omega

/-- An aligned reader waits for a length exactly while there is less than one to stand behind. -/
theorem Aligned.awaitLength_iff {rest : Bytes} {reader : FrameReader}
    (aligned : Aligned rest reader) :
    (∃ collected, reader = .awaitLength collected) ↔ rest.length < lengthPrefixSize := by
  cases aligned with
  | length short => exact ⟨fun _ => short, fun _ => ⟨rest, rfl⟩⟩
  | payload inside =>
    -- Behind a length the reader is in a payload, which is not waiting for one.
    constructor
    · rintro ⟨collected, waits⟩
      subst waits
      cases inside
    · intro short
      simp only [List.length_cons, lengthPrefixSize] at short
      omega

/-- What an aligned reader has collected of a length is all that it stands behind. -/
theorem Aligned.eq_awaitLength {rest : Bytes} {reader : FrameReader}
    (aligned : Aligned rest reader) (short : rest.length < lengthPrefixSize) :
    reader = .awaitLength rest := by
  -- Inside a payload there would be a whole length.
  cases aligned with
  | length => rfl
  | payload =>
    simp only [List.length_cons, lengthPrefixSize] at short
    omega

/-- Behind a length, an aligned reader is missing the rest of the frame that it announces. -/
theorem Aligned.remaining_eq {low high : UInt8} {part : Bytes} {reader : FrameReader}
    (aligned : Aligned (low :: high :: part) reader) :
    reader.inPayload = true ∧ 1 ≤ reader.remaining ∧
      reader.remaining =
        lengthPrefixSize + announcedLength low high - (low :: high :: part).length := by
  -- Two octets are a whole length, so the reader is not waiting for one.
  cases aligned with
  | length short =>
    simp only [List.length_cons, lengthPrefixSize] at short
    omega
  | payload inside lacks some =>
    refine ⟨inside, some, ?_⟩
    simp only [List.length_cons, lengthPrefixSize]
    omega

variable {σ : Type} [Receiver σ] {source : σ} {buffer : Bytes} {reader : FrameReader}
  {draws : List Draw} {result : ReadResult σ}

/-- A read inside a payload asks for no octet beyond that payload. -/
theorem PayloadRead.within {rest : Bytes}
    (read : PayloadRead reader source buffer draws result) (inside : reader.inPayload = true)
    (aligned : Aligned rest reader) : Within rest draws := by
  -- It asks at most once, and then for no more than is missing.
  have bound : ∀ offset wanted, Asks buffer reader offset wanted →
      wanted ≤ missing (unfinished rest) := by
    intro offset wanted asks
    rw [aligned.incomplete.unfinished_eq, aligned.missing_eq inside]
    exact asks.wanted_le
  cases read with
  | stalls | givesOut => trivial
  | waits asks | ends asks | arrives asks => exact ⟨bound _ _ asks, trivial⟩

/-- A read for a length asks for no octet beyond the length, and then none beyond the payload. -/
theorem LengthRead.within [LawfulReceiver σ] {collected : Bytes}
    (read : LengthRead collected source buffer draws result)
    (short : collected.length < lengthPrefixSize) : Within collected draws := by
  have lawful := (FrameRead.length read).drawn.length_le
  have same : missing (unfinished collected) = lengthPrefixSize - collected.length := by
    rw [unfinished_of_short short, missing_of_short short]
  have whole : lengthPrefixSize - collected.length ≤ missing (unfinished collected) :=
    Nat.le_of_eq same.symm
  -- The first receive asks for the length alone; only a length that is complete has another.
  cases read with
  | stalls => trivial
  | waits | ends | collects | empty => exact ⟨whole, trivial⟩
  | @opens bytes beyond low high later draws _ room received some complete positive payload =>
    -- The octets of the length are all that came, so the payload is read from its first octet.
    have pair : collected ++ bytes = [low, high] := eq_pair_of_complete short
      (lawful ⟨_, .data bytes⟩ (List.mem_cons_self ..)) complete
    refine ⟨whole, ?_⟩
    show Within (collected ++ bytes) draws
    rw [pair]
    exact payload.within (inPayload_opened ..) (aligned_opened _ positive)

/-- No read asks for an octet beyond the length or the payload in progress. -/
theorem FrameRead.within [LawfulReceiver σ] {rest : Bytes}
    (read : FrameRead source buffer reader draws result) (aligned : Aligned rest reader) :
    Within rest draws := by
  -- Where the reader stands decides which of the two kinds of read it is.
  cases read with
  | payload inside read => exact read.within inside aligned
  | length read =>
    cases aligned with
    | length short => exact read.within short
    | payload inside => cases inside

end FrameReader

/-- One read of a run: what happens to the source before it, and the buffer that it is given. -/
structure Turn (σ : Type) where
  meanwhile : σ → σ := id
  buffer : Bytes

/-- A reader and the source that it reads from, with every receive so far. -/
structure Session (σ : Type) where
  reader : FrameReader := .framing
  watched : Watched σ

namespace Session

open FrameReader

variable {σ : Type} [Receiver σ]

/-- The octets that were taken from the source, in order. -/
def received (session : Session σ) : Bytes := taken session.watched.draws

/-- The session after one read. -/
def turn (session : Session σ) (turn : Turn σ) : Session σ :=
  let source := turn.meanwhile session.watched.source
  let result := session.reader.read { session.watched with source } turn.buffer
  { reader := result.reader, watched := result.source }

/-- The session of a new reader after reads in order. -/
def after (source : σ) (turns : List (Turn σ)) : Session σ :=
  turns.foldl turn { watched := { source } }

/-- The reader and the source after the same reads, which nobody watches. -/
def unwatched (reader : FrameReader) (source : σ) : List (Turn σ) → FrameReader × σ
  | [] => (reader, source)
  | step :: later =>
    let result := reader.read (step.meanwhile source) step.buffer
    unwatched result.reader result.source later

/-- Watching makes no difference to where reads lead. -/
theorem foldl_eq_unwatched (session : Session σ) (turns : List (Turn σ)) :
    ((turns.foldl turn session).reader, (turns.foldl turn session).watched.source) =
      unwatched session.reader session.watched.source turns := by
  induction turns generalizing session with
  | nil => rfl
  | cons step later ih =>
    -- The first read leaves the same reader and the same source either way.
    have first := read_watched session.reader
      (Watched.mk (step.meanwhile session.watched.source) session.watched.draws) step.buffer
    rw [List.foldl_cons, ih, unwatched, ← first]
    rfl

/-- The session's stream never came to an end. -/
def Endless (session : Session σ) : Prop :=
  ∀ draw ∈ session.watched.draws, draw.receipt.ends = false

/-- The reader stands where the stream leaves it, and no receive ever asked beyond a boundary. -/
structure Bounded (session : Session σ) : Prop where
  aligned : Aligned (unfinished session.received) session.reader
  within : Within [] session.watched.draws

/-- A read adds its receives to those of the session. -/
theorem turn_frameRead {session : Session σ} (bounded : Bounded session) (step : Turn σ) :
    ∃ draws, (session.turn step).watched.draws = session.watched.draws ++ draws ∧
      FrameRead
        (Watched.mk (step.meanwhile session.watched.source) session.watched.draws) step.buffer
        session.reader draws
        (session.reader.read
          (Watched.mk (step.meanwhile session.watched.source) session.watched.draws)
          step.buffer) := by
  -- What the watch wrote down is what the read received.
  obtain ⟨draws, read⟩ := frameRead_read bounded.aligned.isFramed
    (Watched.mk (step.meanwhile session.watched.source) session.watched.draws) step.buffer
  exact ⟨draws, read.drawn.watched, read⟩

/-- Each read keeps the boundaries, as long as the stream goes on. -/
theorem Bounded.turn [LawfulReceiver σ] {session : Session σ} (bounded : Bounded session)
    {step : Turn σ} (endless : Endless (session.turn step)) : Bounded (session.turn step) := by
  -- A turn is one framed read, whose receives are noted behind the earlier ones.
  obtain ⟨draws, noted, read⟩ := turn_frameRead bounded step
  have goesOn : ∀ draw ∈ draws, draw.receipt.ends = false := by
    intro draw listed
    apply endless
    rw [noted]
    exact List.mem_append_right _ listed
  constructor
  · -- The stream is longer by what this read took.
    have longer : (session.turn step).received = session.received ++ taken draws := by
      rw [received, noted]
      exact List.flatMap_append
    rw [longer, unfinished_append]
    exact read.aligned bounded.aligned goesOn
  -- The receives of this read stay within its frame, as those before did in theirs.
  · rw [noted, within_append]
    exact ⟨bounded.within, within_unfinished.mp (read.within bounded.aligned)⟩

/-- Reads only add to the receives of a session. -/
theorem draws_foldl (session : Session σ) (turns : List (Turn σ)) :
    session.watched.draws <+: (turns.foldl Session.turn session).watched.draws := by
  -- By induction on the turns.
  induction turns generalizing session with
  | nil => exact List.prefix_refl _
  | cons step later ih =>
    have first : session.watched.draws <+: (session.turn step).watched.draws :=
      draws_read session.reader (Watched.mk (step.meanwhile session.watched.source) _) step.buffer
    exact first.trans (ih (session.turn step))

/-- Reads in a row keep the boundaries, as long as the stream goes on. -/
theorem Bounded.foldl [LawfulReceiver σ] {session : Session σ} (bounded : Bounded session)
    {turns : List (Turn σ)} (endless : Endless (turns.foldl Session.turn session)) :
    Bounded (turns.foldl Session.turn session) := by
  induction turns generalizing session with
  | nil => exact bounded
  | cons step later ih =>
    -- An end seen by the first read would still be among the receives at last.
    have first : Endless (session.turn step) :=
      fun draw listed => endless draw ((draws_foldl _ later).subset listed)
    exact ih (bounded.turn first) endless

omit [Receiver σ] in
/-- A new reader stands at the start of a stream of which nothing was asked. -/
theorem bounded_start (source : σ) : Bounded ({ watched := { source } } : Session σ) where
  -- Nothing was taken, so nothing is unfinished.
  aligned := by
    show Aligned (unfinished []) framing
    rw [unfinished_of_short (by decide)]
    exact aligned_framing
  within := trivial

/--
Frame boundaries survive any buffers and any lawful source whose stream goes on.

Watching the source changes nothing about where the reads lead. The octets taken are complete
frames and the beginning of one. Behind less than a length the reader has collected exactly that;
behind a length it is in the payload and misses exactly the rest of it. No receive asked for more
than the frame in progress was missing of its length or of its payload.
-/
theorem boundaries_kept [LawfulReceiver σ] (source : σ) (turns : List (Turn σ))
    (endless : Endless (after source turns)) :
    let session := after source turns
    (session.reader, session.watched.source) = unwatched .framing source turns ∧
    (∃ frames rest, session.received = wire frames ++ rest ∧ Incomplete rest) ∧
    (∀ frames rest, session.received = wire frames ++ rest → Incomplete rest →
      ((∃ collected, session.reader = .awaitLength collected) ↔
        rest.length < lengthPrefixSize) ∧
      (rest.length < lengthPrefixSize → session.reader = .awaitLength rest) ∧
      ∀ low high part, rest = low :: high :: part →
        session.reader.inPayload = true ∧ 1 ≤ session.reader.remaining ∧
        session.reader.remaining =
          lengthPrefixSize + announcedLength low high - rest.length) ∧
    ∀ earlier draw later, session.watched.draws = earlier ++ draw :: later →
      ∀ frames rest, taken earlier = wire frames ++ rest → Incomplete rest →
        draw.wanted ≤ missing rest := by
  -- The invariant says all of it about the unfinished part, and every split has that part.
  intro session
  have bounded : Bounded session := (bounded_start source).foldl endless
  refine ⟨foldl_eq_unwatched _ turns, ?_, ?_, ?_⟩
  · obtain ⟨frames, split⟩ := exists_wire_append_unfinished session.received
    exact ⟨frames, _, split, incomplete_unfinished _⟩
  · intro frames rest split incomplete
    have aligned := bounded.aligned
    rw [unfinished_of_split split incomplete] at aligned
    refine ⟨aligned.awaitLength_iff, aligned.eq_awaitLength, ?_⟩
    rintro low high part rfl
    exact aligned.remaining_eq
  -- Each receive is judged by what had been taken before it.
  · intro earlier draw later drawn frames rest split incomplete
    have within := bounded.within
    rw [drawn, within_append, List.nil_append] at within
    rw [← unfinished_of_split split incomplete]
    exact within.2.1

/-- Reads with no room, with too little, with just enough and with plenty, as octets come in. -/
def unevenTurns : List (Turn SegmentQueue) :=
  let arrives (segment : Bytes) (queue : SegmentQueue) := queue.push segment
  [{ buffer := [] }, { meanwhile := arrives [3], buffer := [7, 7, 7, 7, 7] },
    { meanwhile := arrives [0, 10], buffer := [7, 7, 7, 7, 7] }, { buffer := [7] },
    { meanwhile := arrives [20, 30, 1], buffer := [7] }, { buffer := [] }, { buffer := [1, 2, 3] },
    { buffer := [7, 7] }]

/-- A buffer cut down in the middle of a frame, and one of no length, leave the boundaries alone. -/
theorem boundaries_kept_uneven :
    let session := after ({} : SegmentQueue) unevenTurns
    Endless session ∧ session.received = wire [⟨[10, 20, 30], by decide⟩] ++ [1] ∧
      session.reader = .awaitLength [1] ∧
      session.watched.draws.map Draw.wanted = [2, 1, 3, 1, 1, 2] := by
  have endless : Endless (after ({} : SegmentQueue) unevenTurns) := by
    unfold Endless
    decide
  -- How the octets taken are cut is evaluated, and where the reader stands follows.
  obtain ⟨-, -, stands, -⟩ := boundaries_kept ({} : SegmentQueue) unevenTurns endless
  have split : (after ({} : SegmentQueue) unevenTurns).received =
      wire [⟨[10, 20, 30], by decide⟩] ++ [1] := by decide
  have reader := (stands _ [1] split (.length (by decide))).2.1 (by decide)
  exact ⟨endless, split, reader, by decide⟩

end Session

end CompanionLink
