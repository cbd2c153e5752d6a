import CompanionLink.Proofs.Pairing.Greeting
import CompanionLink.Proofs.Pairing.Reassembly

/-!
What is read behind the greeting of a client that is let in. The searched octets of its preamble are
dropped with it, and everything behind them is framed, be it of the same segment or of a later one.
-/

namespace CompanionLink

namespace SegmentQueue

/-- Segments wait in the order in which they were pushed, but for the empty ones. -/
theorem segments_foldl_push (queue : SegmentQueue) (segments : List Bytes) :
    segments.foldl push queue =
      { queue with
        segments := queue.segments ++ segments.filter fun segment => !segment.isEmpty } := by
  -- By induction on the segments, each of which goes to the end or is dropped.
  induction segments generalizing queue with
  | nil => simp
  | cons segment later ih =>
    rw [List.foldl_cons, ih, push]
    cases empty : segment.isEmpty <;> simp [empty]

end SegmentQueue

namespace Reception

open FrameReader

/-- The reception with more events in front of its own. -/
def behind (earlier : List ReadEvent) (reception : Reception) : Reception :=
  { reception with events := earlier ++ reception.events }

/-- Events that came before events that came before are one list of earlier events. -/
theorem behind_behind (earlier later : List ReadEvent) (reception : Reception) :
    behind earlier (behind later reception) = behind (earlier ++ later) reception := by
  simp [behind]

/-- What came of earlier reads makes no difference to later steps. -/
theorem run_behind (earlier : List ReadEvent) (reception : Reception)
    (steps : List ReceptionStep) :
    (reception.behind earlier).run steps = (reception.run steps).behind earlier := by
  -- By induction on the steps, none of which looks at the events so far.
  induction steps generalizing reception with
  | nil => rfl
  | cons step later ih =>
    have first : (reception.behind earlier).step step = (reception.step step).behind earlier := by
      cases step with
      | push => rfl
      | read => simp [Reception.step, Reception.read, behind]
    show ((reception.behind earlier).step step).run later = _
    rw [first, ih]
    rfl

/-- Pushing changes the queue alone. -/
theorem run_map_push (reception : Reception) (segments : List Bytes) :
    reception.run (segments.map .push) =
      { reception with queue := segments.foldl .push reception.queue } := by
  -- By induction on the segments.
  induction segments generalizing reception with
  | nil => rfl
  | cons segment later ih => exact ih (reception.step (.push segment))

/-- While nothing of the preamble has come, reads leave an accepted client as it is. -/
theorem run_early (buffer : Bytes) (early : Nat) :
    Reception.run { reader := .accepted, buffer } (List.replicate early .read) =
      behind (List.replicate early .pending) { reader := .accepted, buffer } := by
  induction early with
  | zero => rfl
  | succ early ih =>
    -- A read of the empty queue reports that nothing came, and the later ones find the same.
    have first : Reception.run { reader := .accepted, buffer } (List.replicate (early + 1) .read) =
        (behind [.pending] { reader := .accepted, buffer }).run (List.replicate early .read) := rfl
    rw [first, run_behind, ih]
    rfl

/-- The read that finds the marker drops what is searched of the segment, and only that. -/
theorem read_marked {buffer preamble : Bytes} {later : List Bytes}
    (marked : handshakeMarker <:+: preamble.take preambleLimit) :
    let left := preamble.drop preambleLimit
    Reception.read { reader := .accepted, queue := { segments := preamble :: later }, buffer } =
      behind [.handshakeAccepted]
        { queue := { segments := if left.isEmpty then later else left :: later }, buffer } := by
  intro left
  let queue : SegmentQueue := { segments := preamble :: later }
  have received : Receiver.receive queue (preambleLimit - ([] : Bytes).length) =
      (.data (preamble.take preambleLimit),
        { segments := if left.isEmpty then later else left :: later }) := rfl
  have inside : ([] ++ (Receipt.data (preamble.take preambleLimit)).bytes).length ≤
      preambleLimit := by
    rw [List.nil_append]
    exact List.length_take_le ..
  -- The one receive of this read is known, so the verdict on it decides.
  obtain ⟨event, reader, read, -, judged⟩ :=
    readPreamble_judges buffer deserves_nil received inside
  -- The marker is not empty, so the segment brings something and is judged by it.
  have goesOn : (Receipt.data (preamble.take preambleLimit)).ends = false := by
    rw [Receipt.ends, List.isEmpty_eq_false_iff]
    intro none
    rw [none] at marked
    exact absurd marked (by decide)
  have deserved : Deserves ([] ++ preamble.take preambleLimit) .matched := by
    refine .matched ?_
    rwa [List.nil_append, List.take_take, Nat.min_self]
  obtain ⟨verdict, deserves, rfl, rfl⟩ := judged goesOn
  obtain rfl : verdict = .matched := deserves.unique deserved
  have read : FrameReader.read .accepted queue buffer = _ := read
  simp only [Reception.read, behind]
  rw [read]
  rfl

/--
The reception of a client that was let in by a preamble in one segment. Some reads come before the
segment, and some segments behind it before the read that finds the marker.
-/
def admission (buffer preamble : Bytes) (early : Nat) (waiting : List Bytes) : Reception :=
  Reception.run { reader := .accepted, buffer }
    (List.replicate early .read ++ (preamble :: waiting).map .push ++ [.read])

/-- A client that was let in has been accepted once, and nothing else has come of its preamble. -/
theorem admission_eq (buffer : Bytes) {preamble : Bytes} (early : Nat) (waiting : List Bytes)
    (marked : handshakeMarker <:+: preamble.take preambleLimit) :
    ∃ queue : SegmentQueue, queue.Open ∧
      queue.queued = preamble.drop preambleLimit ++ waiting.flatten ∧
      admission buffer preamble early waiting =
        behind (List.replicate early .pending ++ [.handshakeAccepted]) { queue, buffer } := by
  -- What the search leaves of the preamble is the first segment that waits.
  let left := preamble.drop preambleLimit
  let later := waiting.filter fun segment => !segment.isEmpty
  have solid : [] ∉ later := by simp [later]
  refine ⟨{ segments := if left.isEmpty then later else left :: later }, ⟨rfl, ?_⟩, ?_, ?_⟩
  · -- What is left of the preamble waits only if there is something left.
    dsimp only
    split
    · exact solid
    · next some =>
      rw [List.mem_cons, not_or]
      exact ⟨fun empty => some (by simp [← empty]), solid⟩
  -- Empty segments that were not pushed add no octets.
  · have all : later.flatten = waiting.flatten := List.flatten_filter_not_isEmpty
    rw [← all, SegmentQueue.queued]
    split
    · next none =>
      have none : preamble.drop preambleLimit = [] := List.isEmpty_iff.mp none
      rw [none, List.nil_append]
    · rfl
  · -- A segment that holds the marker is not empty, so it is the first that waits.
    have some : preamble.isEmpty = false := by
      rw [List.isEmpty_eq_false_iff]
      rintro rfl
      exact absurd marked (by decide)
    have queued : (preamble :: waiting).foldl .push ({} : SegmentQueue) =
        { segments := preamble :: later } := by
      rw [SegmentQueue.segments_foldl_push]
      simp [some, later]
    -- The reads before anything came are put aside, and so is the one that finds the marker.
    rw [admission, run, List.foldl_append, List.foldl_append]
    show ((Reception.run _ (List.replicate early .read)).run
      ((preamble :: waiting).map .push)).run [.read] = _
    rw [run_early, run_behind, run_map_push]
    show (behind _ { reader := .accepted, queue := _, buffer }).run [.read] = _
    rw [queued, run_behind]
    show behind _ (Reception.read _) = _
    rw [read_marked marked, behind_behind]

/--
Behind the read that finds the marker a reception is that of a new reader: what is framed is the
rest of the preamble's segment behind the searched octets, and the later segments.
-/
theorem sound_admission {buffer preamble : Bytes} (room : lengthPrefixSize ≤ buffer.length)
    (marked : handshakeMarker <:+: preamble.take preambleLimit) (early : Nat)
    (waiting : List Bytes) (steps : List ReceptionStep) :
    ∃ reception, Sound buffer.length
        (preamble.drop preambleLimit ++ waiting.flatten ++ pushed steps) reception ∧
      (admission buffer preamble early waiting).run steps =
        behind (List.replicate early .pending ++ [.handshakeAccepted]) reception := by
  obtain ⟨queue, isOpen, queued, admitted⟩ := admission_eq buffer early waiting marked
  -- The reader that begins to frame there is sound, with what was left as all that arrived.
  have start : Sound buffer.length (preamble.drop preambleLimit ++ waiting.flatten)
      ({ queue, buffer } : Reception) :=
    ⟨rfl, isOpen, ready_framing _, nofun, queued, (sound_start buffer).aligned⟩
  exact ⟨_, start.run room steps, by rw [admitted, run_behind]⟩

/--
A client whose preamble holds the marker among the searched octets is accepted once, and then its
stream is framed, whatever reads and segments follow. The octets delivered, held by the reader and
still queued are those of the preamble's segment behind the searched ones, and all later ones.

So a preamble that is no longer than what is searched never gets among the frames: a reception that
has drained its queue has delivered the frames that were pushed, and waits for the next one. As many
reads as there are octets of frames drain it.
-/
theorem frames_follow_preamble (buffer preamble : Bytes) (room : lengthPrefixSize ≤ buffer.length)
    (marked : handshakeMarker <:+: preamble.take preambleLimit) (early : Nat)
    (waiting : List Bytes) (steps : List ReceptionStep) :
    let reception := (admission buffer preamble early waiting).run steps
    (∃ later,
      reception.events = List.replicate early .pending ++ .handshakeAccepted :: later ∧
      ∀ event ∈ later,
        event = .pending ∨ ∃ count ≤ buffer.length, event = .produced count) ∧
    reception.delivered ++ reception.reader.held reception.buffer ++ reception.queue.queued =
      preamble.drop preambleLimit ++ (waiting.flatten ++ pushed steps) ∧
    (preamble.length ≤ preambleLimit → ∀ frames, waiting.flatten ++ pushed steps = wire frames →
      (reception.queue.isDrained = true →
        reception.reader = .awaitLength [] ∧ reception.delivered = wire frames) ∧
      ∀ reads, (wire frames).length ≤ reads →
        (reception.run (List.replicate reads .read)).queue.isDrained = true) := by
  intro reception
  obtain ⟨rest, sound, same⟩ := sound_admission room marked early waiting steps
  have same : reception = _ := same
  rw [List.append_assoc] at sound
  refine ⟨⟨rest.events, ?_, sound.events⟩, ?_, fun short frames cut => ?_⟩
  -- The events of the early reads stand before those of the reception.
  · rw [same, behind, List.append_assoc]
    rfl
  -- Every octet is accounted for, as in any sound reception.
  · rw [same]
    exact sound.accounted
  · -- Nothing of the preamble is left, so the frames are all that there is.
    rw [List.drop_eq_nil_of_le short, List.nil_append, cut] at sound
    rw [same]
    refine ⟨fun drained => sound.finished (sound.isOpen.isDrained_iff.mp drained),
      fun reads enough => ?_⟩
    rw [run_behind]
    have later := sound.run room (List.replicate reads .read)
    refine later.isOpen.isDrained_iff.mpr (sound.drains room (Nat.le_trans ?_ enough))
    -- What is queued is a part of the frames.
    rw [← sound.accounted, Reception.accounted, List.length_append]
    exact Nat.le_add_left ..

/-- A preamble that fills the searched octets, and two frames in three later segments. -/
theorem frames_follow_preamble_padded :
    let preamble := handshakeMarker ++ List.replicate 86 32
    let reception := (admission [9, 9, 9, 9] preamble 1 [[1]]).run
      [.push [0, 7], .read, .push [0, 0], .read, .read]
    handshakeMarker <:+: preamble.take preambleLimit ∧
      reception.events = [.pending, .handshakeAccepted, .pending, .produced 3, .produced 2] ∧
      reception.delivered = wire [⟨[7], by decide⟩, ⟨[], by decide⟩] := by
  -- That the queue is drained is evaluated, and what was delivered follows.
  intro preamble reception
  have marked : handshakeMarker <:+: preamble.take preambleLimit := by decide +kernel
  obtain ⟨-, -, framed⟩ := frames_follow_preamble [9, 9, 9, 9] preamble (by decide) marked 1 [[1]]
    [.push [0, 7], .read, .push [0, 0], .read, .read]
  obtain ⟨delivers, -⟩ := framed (by decide +kernel) [⟨[7], by decide⟩, ⟨[], by decide⟩] (by decide)
  exact ⟨marked, by decide +kernel, (delivers (by decide +kernel)).2⟩

/--
An octet of the preamble behind the searched ones is taken for the first octet of a length, and the
frame in the next segment is delivered as a part of another.
-/
theorem frame_behind_long_preamble :
    let preamble := handshakeMarker ++ List.replicate 87 0
    let frame : WireFrame := ⟨[7], by decide⟩
    let reception := (admission [0, 0, 0, 0] preamble 0 [wire [frame]]).run [.read, .read]
    handshakeMarker <:+: preamble.take preambleLimit ∧ reception.queue.isDrained = true ∧
      reception.delivered = [0, 1, 0, 7] ∧ reception.delivered ≠ wire [frame] := by
  -- Evaluation of the reception.
  decide +kernel

end Reception

end CompanionLink
