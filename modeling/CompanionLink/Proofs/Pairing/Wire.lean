import CompanionLink.Pairing.Frame

/-! Frames as octets of a stream, and what a stream holds behind its last complete frame. -/

namespace CompanionLink

/-- A frame whose payload is no longer than two octets can announce. -/
structure WireFrame where
  payload : Bytes
  bounded : payload.length < 65536

namespace WireFrame

/-- The low octet of the frame's length. -/
def low (frame : WireFrame) : UInt8 := (frame.payload.length % 256).toUInt8

/-- The high octet of the frame's length. -/
def high (frame : WireFrame) : UInt8 := (frame.payload.length / 256).toUInt8

/-- The frame as it stands in the stream: its length, low octet first, and its payload. -/
def bytes (frame : WireFrame) : Bytes := frame.low :: frame.high :: frame.payload

/-- A frame announces the length that its payload has. -/
@[simp] theorem announcedLength_eq (frame : WireFrame) :
    announcedLength frame.low frame.high = frame.payload.length := by
  have bounded := frame.bounded
  -- Quotient and remainder by 256 make up the length, which two octets can hold.
  simp only [announcedLength, low, high, Nat.toUInt8, UInt8.toNat_ofNat']
  omega

end WireFrame

/-- The octets of frames, one behind the other. -/
def wire (frames : List WireFrame) : Bytes := frames.flatMap WireFrame.bytes

/-- No length that two octets announce is longer than a frame can be. -/
theorem announcedLength_lt (low high : UInt8) : announcedLength low high < 65536 := by
  -- Neither octet is above 255.
  have lowBound := low.toNat_lt
  have highBound := high.toNat_lt
  simp only [announcedLength]
  omega

/-- The length that two octets announce has these octets. -/
theorem octets_of_announcedLength (low high : UInt8) :
    (announcedLength low high % 256).toUInt8 = low ∧
      (announcedLength low high / 256).toUInt8 = high := by
  -- Dividing by 256 takes the announced number apart again.
  have lowBound := low.toNat_lt
  have highBound := high.toNat_lt
  constructor
  · apply UInt8.toNat_inj.mp
    simp only [announcedLength, Nat.toUInt8, UInt8.toNat_ofNat']
    omega
  · apply UInt8.toNat_inj.mp
    simp only [announcedLength, Nat.toUInt8, UInt8.toNat_ofNat']
    omega

/-- Two octets and a payload of the length that they announce are a frame. -/
theorem WireFrame.exists_of_whole {low high : UInt8} {payload : Bytes}
    (whole : payload.length = announcedLength low high) :
    ∃ frame : WireFrame, frame.bytes = low :: high :: payload := by
  -- A frame's two length octets are those of its payload, hence the given ones.
  obtain ⟨lowEq, highEq⟩ := octets_of_announcedLength low high
  refine ⟨⟨payload, by rw [whole]; exact announcedLength_lt low high⟩, ?_⟩
  simp only [WireFrame.bytes, WireFrame.low, WireFrame.high, whole, lowEq, highEq]

/-- What a stream of frames holds behind its last complete frame. -/
def unfinished : Bytes → Bytes
  | low :: high :: more =>
    if announcedLength low high ≤ more.length then
      -- The complete frame in front is passed over.
      unfinished (more.drop (announcedLength low high))
    else low :: high :: more
  | short => short
termination_by stream => stream.length
decreasing_by
  simp only [List.length_drop, List.length_cons]
  omega

/-- Fewer octets than a length are part of one. -/
theorem unfinished_of_short {stream : Bytes} (short : stream.length < lengthPrefixSize) :
    unfinished stream = stream := by
  -- Two octets would be long enough.
  match stream with
  | [] => simp [unfinished]
  | [only] => simp [unfinished]
  | low :: high :: more =>
    simp only [List.length_cons, lengthPrefixSize] at short
    omega

/-- A payload that is not all there leaves its frame unfinished. -/
theorem unfinished_of_part {low high : UInt8} {part : Bytes}
    (missing : part.length < announcedLength low high) :
    unfinished (low :: high :: part) = low :: high :: part := by
  -- The test for the whole payload fails.
  rw [unfinished, if_neg (by omega)]

/-- A complete frame in front does not count. -/
theorem unfinished_of_whole {low high : UInt8} {payload rest : Bytes}
    (whole : payload.length = announcedLength low high) :
    unfinished (low :: high :: (payload ++ rest)) = unfinished rest := by
  -- The test for the payload succeeds, and dropping it leaves the rest.
  rw [unfinished, if_pos (by rw [List.length_append]; omega), List.drop_left' whole]

/-- A complete frame alone leaves nothing unfinished. -/
theorem unfinished_of_complete {low high : UInt8} {payload : Bytes}
    (whole : payload.length = announcedLength low high) :
    unfinished (low :: high :: payload) = [] := by
  -- It is a complete frame in front of nothing.
  have behind : unfinished (low :: high :: (payload ++ [])) = unfinished [] :=
    unfinished_of_whole whole
  rw [List.append_nil] at behind
  exact behind.trans (unfinished_of_short (by decide))

/-- Frames in front do not count. -/
theorem unfinished_wire_append (frames : List WireFrame) (rest : Bytes) :
    unfinished (wire frames ++ rest) = unfinished rest := by
  -- The frames go one after the other.
  induction frames with
  | nil => rfl
  | cons frame later ih =>
    have behind : unfinished (frame.low :: frame.high :: (frame.payload ++ (wire later ++ rest))) =
        unfinished (wire later ++ rest) := unfinished_of_whole frame.announcedLength_eq.symm
    simpa [wire, WireFrame.bytes] using behind.trans ih

/-- A stream of complete frames leaves nothing unfinished. -/
theorem unfinished_wire (frames : List WireFrame) : unfinished (wire frames) = [] := by
  -- They are frames in front of nothing.
  have rest := unfinished_wire_append frames []
  rw [List.append_nil] at rest
  rw [rest]
  exact unfinished_of_short (by decide)

/-- Every stream is complete frames and then what it leaves unfinished. -/
theorem exists_wire_append_unfinished (stream : Bytes) :
    ∃ frames, stream = wire frames ++ unfinished stream := by
  -- A complete frame in front leaves a shorter stream to split.
  induction bound : stream.length using Nat.strongRecOn generalizing stream with
  | ind length ih =>
    match stream with
    | [] => exact ⟨[], by simp [wire, unfinished]⟩
    | [only] => exact ⟨[], by simp [wire, unfinished]⟩
    | low :: high :: more =>
      by_cases complete : announcedLength low high ≤ more.length
      -- The octets announced are there, so they are a frame's payload.
      · have size : (more.take (announcedLength low high)).length = announcedLength low high := by
          rw [List.length_take]
          omega
        have shorter : (more.drop (announcedLength low high)).length < length := by
          rw [List.length_drop, ← bound, List.length_cons, List.length_cons]
          omega
        -- The rest splits by induction, and the frame goes in front.
        obtain ⟨frames, split⟩ := ih _ shorter (more.drop (announcedLength low high)) rfl
        obtain ⟨frame, octets⟩ := WireFrame.exists_of_whole size
        refine ⟨frame :: frames, ?_⟩
        rw [unfinished, if_pos complete, wire, List.flatMap_cons, octets, List.append_assoc]
        rw [wire] at split
        rw [← split, List.cons_append, List.cons_append, List.take_append_drop]
      · exact ⟨[], by simp [wire, unfinished, complete]⟩

/-- Reading on from what was unfinished is reading the whole stream. -/
theorem unfinished_append (stream more : Bytes) :
    unfinished (stream ++ more) = unfinished (unfinished stream ++ more) := by
  -- The complete frames in front count for neither side.
  obtain ⟨frames, split⟩ := exists_wire_append_unfinished stream
  calc unfinished (stream ++ more)
      = unfinished (wire frames ++ (unfinished stream ++ more)) := by
        rw [← List.append_assoc, ← split]
    _ = unfinished (unfinished stream ++ more) := unfinished_wire_append frames _

/-- Octets that are shorter than the frame that they begin. -/
inductive Incomplete : Bytes → Prop
  | length {rest : Bytes} (short : rest.length < lengthPrefixSize) : Incomplete rest
  | payload {low high : UInt8} {part : Bytes} (lacks : part.length < announcedLength low high) :
    Incomplete (low :: high :: part)

/-- The beginning of a frame is all unfinished. -/
theorem Incomplete.unfinished_eq {rest : Bytes} (incomplete : Incomplete rest) :
    unfinished rest = rest := by
  -- Either the length is not all there or the payload is not.
  cases incomplete with
  | length short => exact unfinished_of_short short
  | payload lacks => exact unfinished_of_part lacks

/-- What a stream leaves unfinished is the beginning of a frame. -/
theorem incomplete_unfinished (stream : Bytes) : Incomplete (unfinished stream) := by
  -- The search for the last complete frame stops only where the frame in front is not all there.
  fun_induction unfinished stream with
  | case1 low high more complete ih => exact ih
  | case2 low high more lacks => exact .payload (Nat.lt_of_not_le lacks)
  | case3 short few =>
    refine .length ?_
    match short, few with
    | [], _ => decide
    | [only], _ => exact Nat.one_lt_two
    | low :: high :: more, few => exact absurd rfl (few low high more)

/-- However frames are split off a stream, the beginning of a frame behind them is the same. -/
theorem unfinished_of_split {stream rest : Bytes} {frames : List WireFrame}
    (split : stream = wire frames ++ rest) (incomplete : Incomplete rest) :
    unfinished stream = rest := by
  -- The frames in front do not count, and the rest is a beginning.
  rw [split, unfinished_wire_append, incomplete.unfinished_eq]

/-- A frame is known from any stream that it begins. -/
theorem WireFrame.eq_of_append {frame other : WireFrame} {more rest : Bytes}
    (same : frame.bytes ++ more = other.bytes ++ rest) : frame = other ∧ more = rest := by
  -- The two octets in front are the same, so both announce the same length.
  simp only [WireFrame.bytes, List.cons_append, List.cons.injEq] at same
  obtain ⟨low, high, same⟩ := same
  have length : frame.payload.length = other.payload.length := by
    rw [← frame.announcedLength_eq, ← other.announcedLength_eq, low, high]
  obtain ⟨payload, behind⟩ := List.append_inj same length
  cases frame
  cases other
  cases payload
  exact ⟨rfl, behind⟩

/-- Frames are known from the stream that they make. -/
theorem wire_inj {frames others : List WireFrame} (same : wire frames = wire others) :
    frames = others := by
  -- They are known one after the other, and none of them is empty.
  induction frames generalizing others with
  | nil =>
    cases others with
    | nil => rfl
    | cons other later => cases same
  | cons frame rest ih =>
    cases others with
    | nil => cases same
    | cons other later =>
      -- The first frame is known from the stream, and the others from what is left.
      obtain ⟨rfl, behind⟩ := WireFrame.eq_of_append same
      rw [ih behind]

/-- A stream is split into complete frames and the beginning of one in a single way. -/
theorem wire_append_inj {frames others : List WireFrame} {rest more : Bytes}
    (same : wire frames ++ rest = wire others ++ more) (incomplete : Incomplete rest)
    (short : Incomplete more) : frames = others ∧ rest = more := by
  -- What is left unfinished is known from the stream, and then the frames in front are.
  obtain rfl : rest = more := by
    rw [← unfinished_of_split rfl incomplete, same, unfinished_of_split rfl short]
  exact ⟨wire_inj (List.append_cancel_right same), rfl⟩

/-- How many octets the length of a frame misses, or else its payload. -/
def missing : Bytes → Nat
  | low :: high :: part => announcedLength low high - part.length
  | short => lengthPrefixSize - short.length

/-- Fewer octets than a length miss the others of it. -/
theorem missing_of_short {rest : Bytes} (short : rest.length < lengthPrefixSize) :
    missing rest = lengthPrefixSize - rest.length := by
  -- With two octets or more the length would be there.
  match rest with
  | [] => rfl
  | [only] => rfl
  | low :: high :: more =>
    simp only [List.length_cons, lengthPrefixSize] at short
    omega

end CompanionLink
