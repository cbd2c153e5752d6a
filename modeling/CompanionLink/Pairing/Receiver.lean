import CompanionLink.Bytes

/-! Sources of bytes that are asked for what they have and never make the caller wait. -/

namespace CompanionLink

/-- What one receive brought. -/
inductive Receipt where
  /-- These octets; none at all mean that the peer ended its stream. -/
  | data (bytes : Bytes)
  /-- Nothing is there now. -/
  | pending
  /-- The peer is gone. -/
  | closed
deriving DecidableEq, Repr, Inhabited

/-- A source that can be asked for up to a number of octets. -/
class Receiver (σ : Type) where
  receive : σ → Nat → Receipt × σ

/-- A source that never hands out more than it was asked for. -/
class LawfulReceiver (σ : Type) [Receiver σ] : Prop where
  length_le : ∀ (source : σ) (wanted : Nat) (bytes : Bytes),
    (Receiver.receive source wanted).1 = .data bytes → bytes.length ≤ wanted

/-- Segments that wait to be received, one receive taking from the first of them only. -/
structure SegmentQueue where
  segments : List Bytes := []
  /-- Whether the end of the segments is the end of the stream. -/
  closesWhenDrained : Bool := false
deriving DecidableEq, Repr, Inhabited

namespace SegmentQueue

/-- Adds a segment at the end; an empty one adds nothing. -/
def push (queue : SegmentQueue) (segment : Bytes) : SegmentQueue :=
  if segment.isEmpty then queue else { queue with segments := queue.segments ++ [segment] }

/-- Whether every segment has been received. -/
def isDrained (queue : SegmentQueue) : Bool := queue.segments.isEmpty

/-- Takes from the first segment; what is not wanted of it stays first. -/
def receive (queue : SegmentQueue) (wanted : Nat) : Receipt × SegmentQueue :=
  if wanted = 0 then (.pending, queue)
  else
    match queue.segments with
    | [] => (if queue.closesWhenDrained then .closed else .pending, queue)
    | first :: later =>
      -- Segments are never joined, so one receive may bring less than was asked for.
      let left := first.drop wanted
      (.data (first.take wanted),
        { queue with segments := if left.isEmpty then later else left :: later })

/-- A queue of segments is a source. -/
instance : Receiver SegmentQueue := ⟨receive⟩

/-- A segment is cut to what was wanted. -/
instance : LawfulReceiver SegmentQueue where
  length_le queue wanted bytes received := by
    -- Only the branch with a first segment hands out octets, and it cuts them.
    simp only [Receiver.receive, receive] at received
    split at received
    · cases received
    · split at received
      · split at received <;> cases received
      · cases received
        simp only [List.length_take]
        omega

end SegmentQueue

/-- One prepared outcome of a receive. -/
inductive ReceiptCue where
  | segment (bytes : Bytes)
  | pending
  | endOfStream
  | closed
deriving DecidableEq, Repr, Inhabited

/-- Outcomes of receives prepared in advance; past the last one nothing is there. -/
structure CuedReceiver where
  cues : List ReceiptCue := []
deriving DecidableEq, Repr, Inhabited

namespace CuedReceiver

/-- Prepares one more outcome. -/
def push (receiver : CuedReceiver) (cue : ReceiptCue) : CuedReceiver :=
  ⟨receiver.cues ++ [cue]⟩

/-- Whether every outcome has been used. -/
def isDrained (receiver : CuedReceiver) : Bool := receiver.cues.isEmpty

/-- Uses the first outcome; octets that are not wanted stay first. -/
def receive (receiver : CuedReceiver) (wanted : Nat) : Receipt × CuedReceiver :=
  match receiver.cues with
  | [] => (.pending, receiver)
  | .pending :: later => (.pending, ⟨later⟩)
  | .endOfStream :: later => (.data [], ⟨later⟩)
  | .closed :: later => (.closed, ⟨later⟩)
  | .segment bytes :: later =>
    let left := bytes.drop wanted
    (.data (bytes.take wanted), ⟨if left.isEmpty then later else .segment left :: later⟩)

/-- A list of cues is a source. -/
instance : Receiver CuedReceiver := ⟨receive⟩

/-- A prepared segment is cut to what was wanted. -/
instance : LawfulReceiver CuedReceiver where
  length_le receiver wanted bytes received := by
    simp only [Receiver.receive, receive] at received
    split at received <;> cases received
    · simp
    · simp only [List.length_take]
      omega

end CuedReceiver

end CompanionLink
