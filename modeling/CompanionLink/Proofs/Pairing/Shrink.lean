import CompanionLink.Proofs.Pairing.Intake
import CompanionLink.Proofs.Pairing.Reassembly

/-!
A buffer that is cut while a frame is being assembled in it. What the cut leaves of its start is
given out at once and the rest is collected behind it, so the frame lacks what was cut off.
-/

namespace CompanionLink

open FrameReader in
/-- A read that collects the rest of a frame delivers what it takes, and takes none beyond it. -/
theorem FrameReader.FrameRead.collects {σ : Type} [Receiver σ] [LawfulReceiver σ] {source : σ}
    {buffer : Bytes} {reader : FrameReader} {draws : List Draw} {result : ReadResult σ}
    {left : Nat} (read : FrameRead source buffer reader draws result)
    (waits : reader = .collecting left) (some : 0 < left)
    (room : lengthPrefixSize ≤ buffer.length)
    (endless : ∀ draw ∈ draws, draw.receipt.ends = false) :
    (taken draws).length ≤ left ∧ result.reader = afterDelivery (left - (taken draws).length) ∧
      result.delivered = taken draws := by
  subst waits
  have conserves := read.conserves some room endless
  have lawful := read.drawn.length_le
  have still : afterDelivery left = .collecting left := if_neg (by omega)
  suffices course : (taken draws).length ≤ left ∧
      result.reader = afterDelivery (left - (taken draws).length) by
    refine ⟨course.1, course.2, ?_⟩
    -- Behind what was delivered before, a reader that collects holds nothing back.
    have all := conserves.bytes
    rwa [course.2, held_afterDelivery, List.append_nil] at all
  -- A collecting reader has no assembled octets, so nothing is given out without a receive.
  cases read with
  | payload _ read =>
    cases read with
    | stalls | waits => exact ⟨Nat.zero_le _, still.symm⟩
    | givesOut given => cases given
    | ends _ _ ended => simp [ended] at endless
    | @arrives offset wanted bytes _ asks =>
      have bounded : bytes.length ≤ wanted :=
        lawful ⟨wanted, .data bytes⟩ (List.mem_singleton.mpr rfl)
      rw [taken_cons, taken_nil, List.append_nil]
      exact ⟨Nat.le_trans bounded asks.wanted_le, rfl⟩

/-- Behind a delivery the reader waits for a length exactly if nothing of the frame is left. -/
@[simp] theorem FrameReader.awaitsLength_afterDelivery (left : Nat) :
    (afterDelivery left).awaitsLength = (left == 0) := by
  -- By where the delivery leads.
  rcases afterDelivery_next left with ⟨rfl, next⟩ | ⟨some, next⟩
  · rw [next]
    rfl
  · rw [next, beq_eq_false_iff_ne.mpr (by omega)]
    rfl

namespace Reception

open FrameReader

/-- The reception with its buffer cut to a capacity, and nothing delivered of it yet. -/
def shrunk (reception : Reception) (capacity : Nat) : Reception :=
  { reception with buffer := reception.buffer.take capacity, events := [], delivered := [] }

/-- The steps lead back to waiting for a length, for the first time with the last of them. -/
inductive Returns : Reception → List ReceptionStep → Prop
  /-- No step is needed. -/
  | now {reception : Reception} (waits : reception.reader.awaitsLength = true) :
      Returns reception []
  /-- A step is taken, and others may follow. -/
  | later {reception : Reception} {step : ReceptionStep} {steps : List ReceptionStep}
      (away : reception.reader.awaitsLength = false)
      (returns : Returns (reception.step step) steps) : Returns reception (step :: steps)

/-- Wherever steps lead, the reads of the frame in progress tell what the buffer holds of it. -/
theorem exists_stands {capacity : Nat} {arrived : Bytes} {reception : Reception}
    (sound : Sound capacity arrived reception) (room : lengthPrefixSize ≤ capacity)
    {reads : List Outcome} {part : Bytes}
    (stands : Stands capacity reception.buffer reads part reception.reader)
    (steps : List ReceptionStep) :
    ∃ reads part,
      Stands capacity (reception.run steps).buffer reads part (reception.run steps).reader := by
  -- By induction on the steps; a frame that is complete is followed by the next one.
  induction steps generalizing arrived reception reads part with
  | nil => exact ⟨reads, part, stands⟩
  | cons step later ih =>
    cases step with
    | push segment => exact ih (sound.push segment) stands
    | read =>
      obtain ⟨draws, receives⟩ := sound.reads room
      let result := reception.reader.read reception.queue reception.buffer
      let last : Outcome := ⟨draws, result.event, result.delivered, result.reader⟩
      have tells : last.Tells result := ⟨rfl, rfl⟩
      obtain ⟨-, advances⟩ :=
        receives.read.advances stands sound.length room receives.endless tells
      cases advances with
      | goesOn stands => exact ih (sound.read room) stands
      | done _ next =>
        -- Between two frames the reader has nothing of the next one.
        have start : Stands capacity reception.read.buffer [] [] reception.read.reader := by
          rw [show reception.read.reader = framing from next]
          exact .length (by decide) quiet_nil
        exact ih (sound.read room) start

/-- The buffer was cut under a frame, and no read has come across the cut yet. -/
structure Cut (kept : Bytes) (cursor remaining : Nat) (arrived : Bytes) (reception : Reception) :
    Prop where
  /-- The frame is still said to be assembled. -/
  reader : reception.reader = .assembling cursor remaining
  /-- The buffer holds what was kept of it. -/
  buffer : reception.buffer = kept
  isOpen : reception.queue.Open
  delivered : reception.delivered = []
  /-- What has arrived since waits. -/
  queued : reception.queue.queued = arrived

/-- What is left of the start was delivered, and all but `left` octets of the rest behind it. -/
structure Collects (kept : Bytes) (cursor remaining left : Nat) (arrived : Bytes)
    (reception : Reception) : Prop where
  /-- The rest of the frame comes in pieces. -/
  reader : reception.reader = afterDelivery left
  length : reception.buffer.length = kept.length
  isOpen : reception.queue.Open
  /-- What was kept went out first, and then what came. -/
  delivered : ∃ got, got.length + left = remaining ∧ arrived = got ++ reception.queue.queued ∧
    reception.delivered = kept.take cursor ++ got

section Course

variable {kept arrived : Bytes} {cursor remaining left : Nat} {reception : Reception}

/-- A segment that comes in before the next read is queued. -/
theorem Cut.push (cut : Cut kept cursor remaining arrived reception) (segment : Bytes) :
    Cut kept cursor remaining (arrived ++ segment) (reception.step (.push segment)) :=
  -- Pushing touches the queue only.
  ⟨cut.reader, cut.buffer, cut.isOpen.push segment, cut.delivered,
    by rw [← cut.queued]; exact SegmentQueue.queued_push ..⟩

/-- A segment that comes in between reads is queued. -/
theorem Collects.push (collects : Collects kept cursor remaining left arrived reception)
    (segment : Bytes) :
    Collects kept cursor remaining left (arrived ++ segment) (reception.step (.push segment)) := by
  -- Pushing touches the queue only.
  obtain ⟨got, count, split, delivered⟩ := collects.delivered
  refine ⟨collects.reader, collects.length, collects.isOpen.push segment,
    got, count, ?_, delivered⟩
  rw [split, List.append_assoc]
  exact congrArg (got ++ ·) (SegmentQueue.queued_push ..).symm

/-- The first read finds the buffer too short, and gives out what it still holds of the frame. -/
theorem Cut.read (cut : Cut kept cursor remaining arrived reception) (some : 0 < remaining)
    (short : kept.length < cursor + remaining) :
    Collects kept cursor remaining remaining arrived reception.read := by
  have result : reception.reader.read reception.queue reception.buffer =
      ⟨.produced (min cursor kept.length), .collecting remaining, reception.queue, kept⟩ := by
    rw [cut.reader, cut.buffer]
    exact if_pos short
  have next : afterDelivery remaining = .collecting remaining := if_neg (by omega)
  -- It delivers as much of the start as there is, and receives nothing for it.
  simp only [Reception.read, result]
  refine ⟨next.symm, rfl, cut.isOpen, [], Nat.zero_add _, cut.queued.symm, ?_⟩
  have given : kept.take (min cursor kept.length) = kept.take cursor := List.take_eq_take_min.symm
  rw [cut.delivered, List.append_nil]
  exact given

/-- A read that collects takes what is there of the rest, and nothing behind it. -/
theorem Collects.read (collects : Collects kept cursor remaining left arrived reception)
    (some : 0 < left) (room : lengthPrefixSize ≤ kept.length) :
    ∃ fewer, Collects kept cursor remaining fewer arrived reception.read ∧
      (reception.queue.queued ≠ [] → fewer < left) := by
  -- A collecting read delivers the octets that it takes, and asks for no more than are left.
  obtain ⟨got, count, split, delivered⟩ := collects.delivered
  have waits : reception.reader = .collecting left := by
    rw [collects.reader]
    exact if_neg (by omega)
  have ready : Ready reception.buffer.length reception.reader := by
    rw [waits]
    exact ready_collecting _ some
  rw [← collects.length] at room
  have framed : reception.reader.isFramed = true := by
    rw [waits]
    rfl
  -- The read is one of a framed reader, so what it took is what it delivers.
  obtain ⟨draws, read⟩ := frameRead_read framed reception.queue reception.buffer
  obtain ⟨isOpen, queued, endless, progress⟩ :=
    collects.isOpen.draws read.drawn (read.asks_some ready.fits)
  obtain ⟨bounded, next, given⟩ := read.collects waits some room endless
  have length := (read.conserves ready.fits room endless).length
  refine ⟨left - (taken draws).length, ⟨next, length.trans collects.length, isOpen,
    got ++ taken draws, ?_, ?_, ?_⟩, fun waiting => ?_⟩
  · rw [List.length_append]
    omega
  · rw [split, queued, List.append_assoc]
    rfl
  · simp only [Reception.read, delivered, given, List.append_assoc]
  -- Something is asked for while octets wait, so something is taken.
  · have positive : 0 < (taken draws).length :=
      List.length_pos_iff.mpr (progress (read.draws_ne_nil ready room) waiting)
    omega

/-- Steps back to waiting for a length deliver what the cut left, and then exactly the rest. -/
theorem Collects.returns {steps : List ReceptionStep}
    (collects : Collects kept cursor remaining left arrived reception)
    (room : lengthPrefixSize ≤ kept.length) (returns : Returns reception steps) :
    ∃ got more, got.length = remaining ∧ arrived ++ pushed steps = got ++ more ∧
      (reception.run steps).delivered = kept.take cursor ++ got := by
  -- By induction on the steps, each of which leaves as much to come or less.
  induction returns generalizing arrived left with
  | now waits =>
    -- Where the reader waits for a length, nothing of the frame is left to come.
    have none : left = 0 := by simpa [collects.reader] using waits
    subst none
    obtain ⟨got, count, split, delivered⟩ := collects.delivered
    exact ⟨got, _, count, (List.append_nil _).trans split, delivered⟩
  | @later reception step steps away _ ih =>
    cases step with
    | push segment =>
      rw [pushed_cons, ← List.append_assoc]
      exact ih (collects.push segment)
    | read =>
      have some : left ≠ 0 := by simpa [collects.reader] using away
      obtain ⟨fewer, still, -⟩ := collects.read (Nat.pos_of_ne_zero some) room
      exact ih still

/-- The same holds from the cut on, where the first read gives out what it left. -/
theorem Cut.returns {steps : List ReceptionStep}
    (cut : Cut kept cursor remaining arrived reception) (some : 0 < remaining)
    (short : kept.length < cursor + remaining) (room : lengthPrefixSize ≤ kept.length)
    (returns : Returns reception steps) :
    ∃ got more, got.length = remaining ∧ arrived ++ pushed steps = got ++ more ∧
      (reception.run steps).delivered = kept.take cursor ++ got := by
  -- By induction on the steps, of which the pushes before the first read only add to the queue.
  induction returns generalizing arrived with
  | now waits =>
    rw [cut.reader] at waits
    cases waits
  | @later reception step steps _ rest ih =>
    cases step with
    | push segment =>
      rw [pushed_cons, ← List.append_assoc]
      exact ih (cut.push segment)
    | read => exact (cut.read some short).returns room rest

/-- With the rest of the frame queued, one read for each octet that is left is enough. -/
theorem Collects.exists_returns (collects : Collects kept cursor remaining left arrived reception)
    (room : lengthPrefixSize ≤ kept.length) (enough : remaining ≤ arrived.length) :
    ∃ reads ≤ left, Returns reception (List.replicate reads .read) := by
  -- Each read leaves fewer octets to come, as long as there are some to take.
  induction left using Nat.strongRecOn generalizing reception with
  | ind left ih =>
    by_cases none : left = 0
    · subst none
      exact ⟨0, Nat.le_refl _, .now (by simp [collects.reader])⟩
    · have away : reception.reader.awaitsLength = false := by simpa [collects.reader] using none
      -- Enough arrived in all, so the octets still to come are among those that wait.
      have waiting : reception.queue.queued ≠ [] := by
        obtain ⟨got, count, split, -⟩ := collects.delivered
        intro drained
        rw [split, drained, List.append_nil] at enough
        omega
      obtain ⟨fewer, still, less⟩ := collects.read (Nat.pos_of_ne_zero none) room
      have shorter := less waiting
      obtain ⟨reads, bound, returns⟩ := ih fewer shorter still
      exact ⟨reads + 1, by omega, .later away returns⟩

/-- From the cut on, one more read is enough, whenever the rest of the frame comes in. -/
theorem Cut.exists_returns {segments : List Bytes}
    (cut : Cut kept cursor remaining arrived reception) (some : 0 < remaining)
    (short : kept.length < cursor + remaining) (room : lengthPrefixSize ≤ kept.length)
    (enough : remaining ≤ (arrived ++ segments.flatten).length) :
    ∃ reads ≤ remaining + 1,
      Returns reception (segments.map .push ++ List.replicate reads .read) := by
  -- By induction on the segments, which all come in before the first read.
  have away : reception.reader.awaitsLength = false := by
    rw [cut.reader]
    rfl
  induction segments generalizing arrived reception with
  -- All have come in: the first read gives out what is kept, and the others collect.
  | nil =>
    rw [List.flatten_nil, List.append_nil] at enough
    obtain ⟨reads, bound, returns⟩ := (cut.read some short).exists_returns room enough
    exact ⟨reads + 1, by omega, .later away returns⟩
  -- A push changes nothing but what has arrived.
  | cons segment later ih =>
    rw [List.flatten_cons, ← List.append_assoc] at enough
    obtain ⟨reads, bound, returns⟩ := ih (cut.push segment) enough away
    exact ⟨reads, bound, .later away returns⟩

end Course

/-- A frame that is being assembled is in the buffer up to the octets that are missing. -/
theorem assembled_eq {buffer : Bytes} (room : lengthPrefixSize ≤ buffer.length)
    {steps : List ReceptionStep} {cursor remaining : Nat}
    (assembling : (Reception.run { buffer } steps).reader = .assembling cursor remaining) :
    ∃ low high payload,
      (Reception.run { buffer } steps).buffer.take cursor = low :: high :: payload ∧
      cursor = lengthPrefixSize + payload.length ∧
      payload.length + remaining = announcedLength low high ∧ 0 < remaining ∧
      cursor + remaining ≤ buffer.length := by
  -- The reads so far are those of a frame in progress, and its place says what is in the buffer.
  have start : Stands buffer.length buffer [] [] framing := .length (by decide) quiet_nil
  obtain ⟨reads, part, stands⟩ := exists_stands (sound_start buffer) room start steps
  rw [assembling] at stands
  cases stands with
  | assembling held start lacks some fits =>
    exact ⟨_, _, _, held, start, lacks, some, by omega⟩

/--
A buffer that shrinks under a frame loses of it what lies behind the cut, and nothing else.

Whatever led to the frame being assembled, and however its rest comes in: the reads on the cut
buffer, up to the return to waiting for a length, deliver the assembled octets that the cut left,
and then exactly the rest of the frame. That is the whole frame exactly if the cut was made behind
the assembled octets. Once the rest has come in, there are reads that return.
-/
theorem shrunk_delivers (buffer : Bytes) (room : lengthPrefixSize ≤ buffer.length)
    (steps : List ReceptionStep) {cursor remaining capacity : Nat}
    (assembling : (Reception.run { buffer } steps).reader = .assembling cursor remaining)
    (least : lengthPrefixSize ≤ capacity) (short : capacity < cursor + remaining) :
    let before := Reception.run { buffer } steps
    let cut := before.shrunk capacity
    (∀ later, Returns cut later →
      ∃ frame : WireFrame, frame.bytes.length = cursor + remaining ∧
        frame.bytes <+: before.buffer.take cursor ++ (before.queue.queued ++ pushed later) ∧
        (cut.run later).delivered =
          frame.bytes.take (min cursor capacity) ++ frame.bytes.drop cursor ∧
        ((cut.run later).delivered = frame.bytes ↔ cursor ≤ capacity)) ∧
    ∀ segments : List Bytes, remaining ≤ (before.queue.queued ++ segments.flatten).length →
      ∃ reads ≤ remaining + 1,
        Returns cut (segments.map .push ++ List.replicate reads .read) := by
  -- The read after the shrinking gives out what is kept, and later ones the rest of the frame.
  intro before cut
  have sound := (sound_start buffer).run room steps
  obtain ⟨low, high, payload, held, start, lacks, some, fits⟩ := assembled_eq room assembling
  have size : (before.buffer.take capacity).length = capacity := by
    rw [List.length_take, sound.length]
    omega
  -- From the cut on, the steps before it count only in what they left.
  have under : Cut (before.buffer.take capacity) cursor remaining before.queue.queued cut :=
    ⟨assembling, rfl, sound.isOpen, rfl, rfl⟩
  refine ⟨fun later returns => ?_, fun segments enough => ?_⟩
  · obtain ⟨got, more, count, split, delivered⟩ :=
      under.returns some (by rwa [size]) (by rwa [size]) returns
    -- The octets that were assembled and those that came behind them are the frame.
    have whole : (payload ++ got).length = announcedLength low high := by
      rw [List.length_append, count, lacks]
    obtain ⟨frame, octets⟩ := WireFrame.exists_of_whole whole
    have assembled : frame.bytes = before.buffer.take cursor ++ got := by
      rw [octets, held]
      rfl
    have length : (before.buffer.take cursor).length = cursor := by
      rw [held, start]
      simp only [List.length_cons, lengthPrefixSize]
      omega
    have total : frame.bytes.length = cursor + remaining := by
      rw [assembled, List.length_append, length, count]
    -- What is delivered lacks the octets between the new capacity and the cursor.
    have given : (cut.run later).delivered =
        frame.bytes.take (min cursor capacity) ++ frame.bytes.drop cursor := by
      rw [delivered, assembled, List.drop_left' length,
        List.take_append_of_le_length (by omega), List.take_take, List.take_take]
      congr 2
      omega
    refine ⟨frame, total, ?_, given, ?_⟩
    · rw [assembled, split, ← List.append_assoc]
      exact List.prefix_append ..
    · rw [given]
      constructor
      -- Nothing is lost only if the cursor was inside the new capacity.
      · intro same
        have lengths := congrArg List.length same
        rw [List.length_append, List.length_take, List.length_drop, total] at lengths
        omega
      · intro behind
        rw [Nat.min_eq_left behind, List.take_append_drop]
  · exact under.exists_returns some (by rwa [size]) (by rwa [size]) enough

/-- A buffer that is cut right behind the assembled octets loses nothing. -/
theorem shrunk_delivers_behind :
    let steps : List ReceptionStep := [.push [2, 0, 170], .read]
    let before := Reception.run { buffer := [0, 0, 0, 0] } steps
    let cut := before.shrunk 3
    let later : List ReceptionStep := [.read, .push [187], .read]
    before.reader = .assembling 3 1 ∧ lengthPrefixSize ≤ 3 ∧ 3 < 3 + 1 ∧ Returns cut later ∧
      (∃ frame : WireFrame, frame.bytes.length = 4 ∧
        frame.bytes <+: before.buffer.take 3 ++ (before.queue.queued ++ pushed later) ∧
        (cut.run later).delivered = frame.bytes) ∧
      (cut.run later).delivered = [2, 0, 170, 187] := by
  intro steps before cut later
  have assembling : before.reader = .assembling 3 1 := by decide
  have returns : Returns cut later := .later rfl (.later rfl (.later rfl (.now rfl)))
  -- The octets are evaluated, and that they are the whole frame is the theorem's.
  obtain ⟨delivers, -⟩ := shrunk_delivers [0, 0, 0, 0] (by decide) steps assembling
    (show lengthPrefixSize ≤ 3 by decide) (by decide)
  obtain ⟨frame, length, inside, -, whole⟩ := delivers later returns
  exact ⟨assembling, by decide, by decide, returns,
    ⟨frame, length, inside, whole.mpr (Nat.le_refl _)⟩, by decide⟩

/--
A buffer that is cut into the assembled octets loses what was cut off.

The assembled octet behind the cut is in no delivery, although the rest of its frame comes out.
-/
theorem shrunk_loses_octet :
    let before := Reception.run { buffer := [0, 0, 0, 0] } [.push [2, 0, 170], .read]
    let cut := before.shrunk 2
    let later : List ReceptionStep := [.push [187], .read, .read]
    let frame : WireFrame := ⟨[170, 187], by decide⟩
    before.reader = .assembling 3 1 ∧ Returns cut later ∧
      frame.bytes = before.buffer.take 3 ++ (before.queue.queued ++ pushed later) ∧
      (cut.run later).delivered = [2, 0, 187] ∧ (cut.run later).delivered ≠ frame.bytes :=
  -- Evaluation of the reception.
  ⟨by decide, .later rfl (.later rfl (.later rfl (.now rfl))), by decide, by decide, by decide⟩

end Reception

end CompanionLink
