import CompanionLink.Proofs.Pairing.Conserve

/-! Reading a queue of segments into one buffer puts every frame together again. -/

namespace CompanionLink

/-- A reader, its source and its buffer, with what came of the reads so far. -/
structure Reception where
  reader : FrameReader := .framing
  queue : SegmentQueue := {}
  buffer : Bytes
  events : List ReadEvent := []
  delivered : Bytes := []
deriving DecidableEq, Repr

/-- One step of a reception: a segment comes in, or the reader is asked to read. -/
inductive ReceptionStep where
  | push (segment : Bytes)
  | read
deriving DecidableEq, Repr

/-- The octets that a step pushes. -/
def ReceptionStep.octets : ReceptionStep → Bytes
  | .push segment => segment
  | .read => []

namespace Reception

open FrameReader

/-- The reception after one read. -/
def read (reception : Reception) : Reception :=
  let result := reception.reader.read reception.queue reception.buffer
  { reader := result.reader
    queue := result.source
    buffer := result.buffer
    events := reception.events ++ [result.event]
    delivered := reception.delivered ++ result.delivered }

/-- The reception after one step. -/
def step (reception : Reception) : ReceptionStep → Reception
  | .push segment => { reception with queue := reception.queue.push segment }
  | .read => reception.read

/-- The reception after steps in order. -/
def run (reception : Reception) (steps : List ReceptionStep) : Reception :=
  steps.foldl step reception

/-- The octets that steps push, in order. -/
def pushed (steps : List ReceptionStep) : Bytes := steps.flatMap ReceptionStep.octets

/-- The first step's octets come first. -/
@[simp] theorem pushed_cons (step : ReceptionStep) (later : List ReceptionStep) :
    pushed (step :: later) = step.octets ++ pushed later := rfl

/-- Segments push their octets. -/
@[simp] theorem pushed_map_push (segments : List Bytes) :
    pushed (segments.map .push) = segments.flatten := by
  -- By induction on the segments.
  induction segments with
  | nil => rfl
  | cons segment later ih =>
    rw [List.map_cons, pushed_cons, ih, ReceptionStep.octets, List.flatten_cons]

/-- Reads push nothing. -/
@[simp] theorem pushed_replicate_read (reads : Nat) :
    pushed (List.replicate reads .read) = [] := by
  -- By induction on the number of reads.
  induction reads with
  | zero => rfl
  | succ reads ih =>
    rw [List.replicate_succ, pushed_cons, ih, ReceptionStep.octets, List.append_nil]

/-- The octets that are delivered, held by the reader, or still in the queue. -/
def accounted (reception : Reception) : Bytes :=
  reception.delivered ++ reception.reader.held reception.buffer ++ reception.queue.queued

/-- What holds of a reception on a buffer of a capacity after `arrived` octets were pushed. -/
structure Sound (capacity : Nat) (arrived : Bytes) (reception : Reception) : Prop where
  length : reception.buffer.length = capacity
  isOpen : reception.queue.Open
  ready : Ready capacity reception.reader
  events : ∀ event ∈ reception.events,
    event = .pending ∨ ∃ count ≤ capacity, event = .produced count
  accounted : reception.accounted = arrived
  /-- The reader stands where the octets that have left the queue leave it. -/
  aligned : Aligned
    (unfinished (reception.delivered ++ reception.reader.held reception.buffer)) reception.reader

/-- A reception starts sound, with nothing pushed. -/
theorem sound_start (buffer : Bytes) : Sound buffer.length [] { buffer } where
  -- A new reader stands at the start of an empty stream.
  length := rfl
  isOpen := SegmentQueue.open_empty
  ready := ready_framing _
  events := by intro event listed; cases listed
  accounted := rfl
  aligned := by
    show Aligned (unfinished []) framing
    rw [unfinished_of_short (by decide)]
    exact aligned_framing

variable {capacity : Nat} {arrived : Bytes} {reception : Reception}

/-- A pushed segment is accounted for in the queue. -/
theorem Sound.push (sound : Sound capacity arrived reception) (segment : Bytes) :
    Sound capacity (arrived ++ segment) (reception.step (.push segment)) where
  -- Only the queue is touched, at its end.
  length := sound.length
  isOpen := sound.isOpen.push segment
  ready := sound.ready
  events := sound.events
  accounted := by
    rw [← sound.accounted]
    simp [Reception.accounted, step, SegmentQueue.queued_push]
  aligned := sound.aligned

/-- One read of a sound reception: what it receives, and what comes of it. -/
structure Reads (reception : Reception) (draws : List Draw) : Prop where
  /-- The read is one of a framed reader. -/
  read : FrameRead reception.queue reception.buffer reception.reader draws
    (reception.reader.read reception.queue reception.buffer)
  isOpen : reception.read.queue.Open
  /-- What it took was at the front of the queue. -/
  queued : reception.queue.queued = taken draws ++ reception.read.queue.queued
  endless : ∀ draw ∈ draws, draw.receipt.ends = false
  /-- Octets that wait are taken from. -/
  progress : reception.queue.queued ≠ [] → taken draws ≠ []

/-- A sound reception's read takes from the queue, and never sees an end of its stream. -/
theorem Sound.reads (sound : Sound capacity arrived reception)
    (room : lengthPrefixSize ≤ capacity) : ∃ draws, Reads reception draws := by
  -- A receive that asks for nothing answers like one that finds nothing, so the reader must ask.
  have ready := sound.ready
  rw [← sound.length] at ready room
  obtain ⟨draws, read⟩ := frameRead_read sound.aligned.isFramed reception.queue reception.buffer
  obtain ⟨isOpen, queued, endless, progress⟩ :=
    sound.isOpen.draws read.drawn (read.asks_some ready.fits)
  exact ⟨draws, read, isOpen, queued, endless, progress (read.draws_ne_nil ready room)⟩

/-- A read keeps a reception sound. -/
theorem Sound.read (sound : Sound capacity arrived reception)
    (room : lengthPrefixSize ≤ capacity) : Sound capacity arrived reception.read := by
  -- One read is one of a framed reader, which loses nothing.
  obtain ⟨draws, reads⟩ := sound.reads room
  have ready := sound.ready
  rw [← sound.length] at ready room
  have conserves := reads.read.conserves ready.fits room reads.endless
  rw [sound.length] at conserves
  -- What the read delivers and leaves held is what was held before and what it took.
  have moved : reception.read.delivered ++ reception.read.reader.held reception.read.buffer =
      reception.delivered ++ reception.reader.held reception.buffer ++ taken draws := by
    rw [List.append_assoc, ← conserves.bytes, ← List.append_assoc]
    rfl
  -- The octets that the read took moved from the queue to the reader.
  refine ⟨conserves.length, reads.isOpen, conserves.ready, ?_, ?_, ?_⟩
  · intro event listed
    rcases List.mem_append.mp listed with earlier | latest
    · exact sound.events event earlier
    · rw [List.mem_singleton.mp latest]
      exact conserves.event
  · rw [Reception.accounted, moved, List.append_assoc, ← reads.queued]
    exact sound.accounted
  · rw [moved, unfinished_append]
    exact reads.read.aligned sound.aligned reads.endless

/-- Steps keep a reception sound and account for what they push. -/
theorem Sound.run (sound : Sound capacity arrived reception) (room : lengthPrefixSize ≤ capacity)
    (steps : List ReceptionStep) :
    Sound capacity (arrived ++ pushed steps) (reception.run steps) := by
  -- A push adds to what has arrived, a read does not.
  induction steps generalizing arrived reception with
  | nil =>
    rw [show pushed [] = [] from rfl, List.append_nil]
    exact sound
  | cons step later ih =>
    rw [pushed_cons, ← List.append_assoc]
    cases step with
    | push segment => exact ih (sound.push segment)
    | read =>
      -- A read adds no octets to what arrived.
      rw [ReceptionStep.octets, List.append_nil]
      exact ih (sound.read room)

/-- A drained reception of complete frames has delivered them and waits for the next one. -/
theorem Sound.finished {frames : List WireFrame}
    (sound : Sound capacity (wire frames) reception) (drained : reception.queue.queued = []) :
    reception.reader = .framing ∧ reception.delivered = wire frames := by
  have all := sound.accounted
  rw [Reception.accounted, drained, List.append_nil] at all
  have aligned := sound.aligned
  -- Everything has left the queue, and complete frames leave nothing unfinished.
  rw [all, unfinished_wire] at aligned
  have start := aligned.eq_framing
  rw [start] at all
  exact ⟨start, by simpa [held, framing] using all⟩

/-- A read of a queue that is not drained takes at least one octet off it. -/
theorem Sound.length_queued_read (sound : Sound capacity arrived reception)
    (room : lengthPrefixSize ≤ capacity) :
    reception.read.queue.queued.length ≤ reception.queue.queued.length - 1 := by
  -- What is taken leaves the queue, and a queue that is not drained gives something.
  obtain ⟨draws, reads⟩ := sound.reads room
  have whole := congrArg List.length reads.queued
  rw [List.length_append] at whole
  by_cases drained : reception.queue.queued = []
  · rw [drained, List.length_nil] at whole ⊢
    omega
  · have some : 0 < (taken draws).length := List.length_pos_iff.mpr (reads.progress drained)
    omega

/-- As many reads as octets are queued drain the queue. -/
theorem Sound.drains (sound : Sound capacity arrived reception)
    (room : lengthPrefixSize ≤ capacity) {reads : Nat}
    (enough : reception.queue.queued.length ≤ reads) :
    (reception.run (List.replicate reads .read)).queue.queued = [] := by
  -- Each read leaves at least one octet less to take.
  induction reads generalizing reception with
  | zero =>
    have none : reception.queue.queued.length = 0 := by omega
    exact List.length_eq_zero_iff.mp none
  | succ reads ih =>
    have shorter := sound.length_queued_read room
    have left : reception.read.queue.queued.length ≤ reads := by omega
    exact ih (sound.read room) left

/-- Pushing the segments of a stream queues the stream. -/
theorem queued_run_push (reception : Reception) (segments : List Bytes) :
    (reception.run (segments.map .push)).queue.queued =
      reception.queue.queued ++ segments.flatten := by
  -- Segments queue up in the order in which they are pushed.
  induction segments generalizing reception with
  | nil => simp [run]
  | cons segment later ih =>
    have rest := ih (reception.step (.push segment))
    simpa [run, step, SegmentQueue.queued_push] using rest

/--
Reading into one buffer with room for a length delivers a stream as it was pushed.

However it is cut and however pushes and reads alternate, each read is pending or delivers within
the buffer, and the octets delivered, held by the reader and still queued are those pushed so far.
If complete frames are queued first, as many reads as they have octets drain the queue, and once
it is drained the reader waits for a next frame and has delivered exactly those.
-/
theorem reassembly_lossless (buffer : Bytes) (room : lengthPrefixSize ≤ buffer.length) :
    (∀ steps : List ReceptionStep,
      let reception := Reception.run { buffer } steps
      (∀ event ∈ reception.events,
        event = .pending ∨ ∃ count ≤ buffer.length, event = .produced count) ∧
      reception.delivered ++ reception.reader.held reception.buffer ++ reception.queue.queued =
        pushed steps) ∧
    ∀ (frames : List WireFrame) (segments : List Bytes) (reads : Nat),
      segments.flatten = wire frames →
      let reception := Reception.run { buffer }
        (segments.map .push ++ List.replicate reads .read)
      ((wire frames).length ≤ reads → reception.queue.isDrained = true) ∧
      (reception.queue.isDrained = true →
        reception.reader = .awaitLength [] ∧ reception.delivered = wire frames) := by
  -- Both parts come from the soundness that every step keeps.
  have start := sound_start buffer
  refine ⟨?_, ?_⟩
  · intro steps reception
    have sound := start.run room steps
    exact ⟨sound.events, sound.accounted⟩
  · intro frames segments reads cut reception
    -- All segments are queued before the first read.
    have queued := start.run room (segments.map .push)
    have whole : (Reception.run { buffer } (segments.map .push)).queue.queued = wire frames := by
      rw [queued_run_push, cut]
      rfl
    have split : reception =
        (Reception.run { buffer } (segments.map .push)).run (List.replicate reads .read) :=
      List.foldl_append
    have sound := queued.run room (List.replicate reads .read)
    rw [← split, pushed_map_push, pushed_replicate_read, List.append_nil, cut, List.nil_append]
      at sound
    rw [sound.isOpen.isDrained_iff]
    constructor
    · intro enough
      rw [split]
      exact queued.drains room (by rw [whole]; exact enough)
    -- A drained queue has given all octets, so the whole wire was delivered.
    · intro drained
      exact sound.finished drained

/-- A frame cut inside its length and longer than the buffer comes out whole, and an empty one. -/
theorem reassembly_lossless_cut_length :
    let segments : List Bytes := [[3], [0, 10], [20, 30, 0], [0]]
    let pushes : List ReceptionStep := segments.map .push
    let halfway := Reception.run { buffer := [7, 7, 7] } (pushes ++ [.read, .read])
    let finished := Reception.run { buffer := [7, 7, 7] } (pushes ++ List.replicate 7 .read)
    lengthPrefixSize ≤ [(7 : UInt8), 7, 7].length ∧ halfway.delivered = [3, 0, 10] ∧
      halfway.delivered ++ halfway.reader.held halfway.buffer ++ halfway.queue.queued =
        [3, 0, 10, 20, 30, 0, 0] ∧
      finished.reader = .awaitLength [] ∧ finished.delivered = [3, 0, 10, 20, 30, 0, 0] := by
  -- How the stream is cut is evaluated, and what was delivered in the end follows.
  have room : lengthPrefixSize ≤ [(7 : UInt8), 7, 7].length := by decide
  obtain ⟨always, framed⟩ := reassembly_lossless [7, 7, 7] room
  obtain ⟨drains, finishes⟩ := framed [⟨[10, 20, 30], by decide⟩, ⟨[], by decide⟩]
    [[3], [0, 10], [20, 30, 0], [0]] 7 (by decide)
  exact ⟨room, by decide, (always _).2, finishes (drains (by decide))⟩

end Reception

end CompanionLink
