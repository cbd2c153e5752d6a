import CompanionLink.Proofs.Pairing.Read
import CompanionLink.Proofs.Pairing.Wire

/-! The reader stands where the octets it received leave it, whatever buffers it was given. -/

namespace CompanionLink

namespace FrameReader

/-- A reader stands where the unfinished end of the received stream says. -/
inductive Aligned : Bytes → FrameReader → Prop
  /-- The octets of a length that is not complete are collected. -/
  | length {rest : Bytes} (short : rest.length < lengthPrefixSize) :
      Aligned rest (.awaitLength rest)
  /-- Behind a complete length as much is missing as it announces beyond what came. -/
  | payload {low high : UInt8} {part : Bytes} {reader : FrameReader}
      (inside : reader.inPayload = true)
      (missing : part.length + reader.remaining = announcedLength low high)
      (some : 0 < reader.remaining) : Aligned (low :: high :: part) reader

/-- A new reader stands at the start of a stream. -/
theorem aligned_framing : Aligned [] framing := .length (by decide)

/-- An aligned reader is past the preamble. -/
theorem Aligned.isFramed {rest : Bytes} {reader : FrameReader} (aligned : Aligned rest reader) :
    reader.isFramed = true := by
  -- Of the readers inside a payload all are framed.
  cases aligned with
  | length => rfl
  | payload inside => cases reader <;> first | rfl | cases inside

/-- A reader with nothing unfinished waits for a length and has none of it. -/
theorem Aligned.eq_framing {reader : FrameReader} (aligned : Aligned [] reader) :
    reader = framing := by
  -- Inside a payload at least a length lies behind the reader.
  cases aligned with
  | length => rfl

/-- A payload read never asks for more than its frame is missing. -/
theorem Asks.wanted_le {buffer : Bytes} {reader : FrameReader} {offset wanted : Nat}
    (asks : Asks buffer reader offset wanted) : wanted ≤ reader.remaining := by
  -- The room in the buffer can only make it ask for less.
  cases asks with
  | assembling => exact Nat.le_refl _
  | opening _ _ limit => rw [limit]; exact Nat.min_le_right ..
  | collecting _ limit => rw [limit]; exact Nat.min_le_left ..

/-- After a delivery the reader goes to the next length, or collects what is still missing. -/
theorem afterDelivery_next (left : Nat) :
    left = 0 ∧ afterDelivery left = framing ∨ 0 < left ∧ afterDelivery left = .collecting left := by
  -- By whether anything is left.
  unfold afterDelivery
  by_cases done : left = 0
  · exact .inl ⟨done, if_pos done⟩
  · exact .inr ⟨Nat.pos_of_ne_zero done, if_neg done⟩

/-- Octets that complete a frame lead to the next length, others leave the rest of it missing. -/
theorem arrival_next {reader : FrameReader} (inside : reader.inPayload = true) (count : Nat) :
    reader.remaining - count = 0 ∧ (arrival reader count).2 = framing ∨
      0 < reader.remaining - count ∧ (arrival reader count).2.inPayload = true ∧
        (arrival reader count).2.remaining = reader.remaining - count := by
  -- The three places in a payload differ in what they deliver, not in what is left missing.
  cases reader with
  | idle | awaitHandshake _ | awaitLength _ => cases inside
  | assembling cursor remaining =>
    simp only [FrameReader.remaining, arrival]
    -- The frame is through, or the reader goes on inside it.
    by_cases done : remaining - count = 0
    · rw [if_pos done]
      exact .inl ⟨done, rfl⟩
    · rw [if_neg done]
      exact .inr ⟨Nat.pos_of_ne_zero done, rfl, rfl⟩
  | opening remaining | collecting remaining =>
    simp only [FrameReader.remaining, arrival]
    rcases afterDelivery_next (remaining - count) with ⟨done, next⟩ | ⟨left, next⟩
    · exact .inl ⟨done, next⟩
    · rw [next]
      exact .inr ⟨left, rfl, rfl⟩

/-- Giving out the buffer leaves as much of the frame missing as before. -/
theorem GivesOut.remaining_eq {buffer : Bytes} {reader : FrameReader} {count remaining : Nat}
    (given : GivesOut buffer reader count remaining) : reader.remaining = remaining := by
  -- Both ways give out octets that had arrived before.
  cases given with
  | shrunk | lengthOnly => rfl

/-- Payload octets that arrive keep the reader where the stream says. -/
theorem aligned_arrival {low high : UInt8} {part bytes : Bytes} {reader : FrameReader}
    (inside : reader.inPayload = true)
    (missing : part.length + reader.remaining = announcedLength low high)
    (bounded : bytes.length ≤ reader.remaining) :
    Aligned (unfinished (low :: high :: (part ++ bytes))) (arrival reader bytes.length).2 := by
  -- What came is the whole of what was missing or a part of it.
  rcases arrival_next inside bytes.length with ⟨done, next⟩ | ⟨left, next, missingNext⟩
  · -- The frame is complete, so nothing of it is left unfinished.
    have whole : (part ++ bytes).length = announcedLength low high := by
      rw [List.length_append]
      omega
    rw [unfinished_of_complete whole, next]
    exact aligned_framing
  · -- The frame goes on, with as much less missing as arrived.
    have short : (part ++ bytes).length < announcedLength low high := by
      rw [List.length_append]
      omega
    rw [unfinished_of_part short]
    refine .payload next ?_ ?_
    · rw [missingNext, List.length_append]
      omega
    · rw [missingNext]
      exact left

variable {σ : Type} [Receiver σ] {source : σ} {buffer : Bytes} {reader : FrameReader}
  {draws : List Draw} {result : ReadResult σ}

/-- A read inside a payload keeps the reader where the stream says, unless the stream ended. -/
theorem PayloadRead.aligned [LawfulReceiver σ] {rest : Bytes}
    (read : PayloadRead reader source buffer draws result) (inside : reader.inPayload = true)
    (aligned : Aligned rest reader) (endless : ∀ draw ∈ draws, draw.receipt.ends = false) :
    Aligned (unfinished (rest ++ taken draws)) result.reader := by
  -- By what the read came to, of which only the end of the stream leaves its place.
  have lawful := read.drawn.length_le
  cases aligned with
  | length => cases inside
  | @payload low high part _ _ missing some =>
    -- Where nothing came, what is unfinished stays as it was.
    have still : unfinished (low :: high :: part) = low :: high :: part :=
      unfinished_of_part (by omega)
    cases read with
    | stalls | waits =>
      simpa [Receipt.bytes, still] using Aligned.payload inside missing some
    | givesOut given =>
      have same := given.remaining_eq
      rw [taken_nil, List.append_nil, still]
      exact .payload rfl (by rw [← missing, same]; rfl) (by rw [same] at some; exact some)
    | ends _ _ ended => simp [ended] at endless
    | @arrives offset wanted bytes _ asks _ _ =>
      have bounded : bytes.length ≤ wanted :=
        lawful ⟨wanted, .data bytes⟩ (List.mem_singleton.mpr rfl)
      simpa [Receipt.bytes] using
        aligned_arrival inside missing (Nat.le_trans bounded asks.wanted_le)

/-- The reader that a length leads to misses the whole payload. -/
theorem aligned_opened (capacity : Nat) {low high : UInt8}
    (positive : 0 < announcedLength low high) :
    Aligned [low, high] (opened capacity (announcedLength low high)) := by
  -- Of the frame only the two octets of its length are there.
  have missing :
      (opened capacity (announcedLength low high)).remaining = announcedLength low high := by
    unfold opened
    split <;> rfl
  refine .payload (inPayload_opened ..) ?_ ?_
  · rw [missing]
    exact Nat.zero_add _
  · rw [missing]
    exact positive

/-- Octets that were asked for to complete a length hold nothing behind it. -/
theorem eq_pair_of_complete {collected bytes beyond : Bytes} {low high : UInt8}
    (short : collected.length < lengthPrefixSize)
    (bounded : bytes.length ≤ lengthPrefixSize - collected.length)
    (complete : collected ++ bytes = low :: high :: beyond) : collected ++ bytes = [low, high] := by
  -- Counting octets leaves none for what would stand behind the length.
  have length := congrArg List.length complete
  simp only [List.length_append, List.length_cons] at length
  have none : beyond = [] := by
    simp only [lengthPrefixSize] at short bounded
    exact List.length_eq_zero_iff.mp (by omega)
  rw [complete, none]

/-- A read for a length keeps the reader where the stream says, unless the stream ended. -/
theorem LengthRead.aligned [LawfulReceiver σ] {collected : Bytes}
    (read : LengthRead collected source buffer draws result)
    (short : collected.length < lengthPrefixSize)
    (endless : ∀ draw ∈ draws, draw.receipt.ends = false) :
    Aligned (unfinished (collected ++ taken draws)) result.reader := by
  -- By what the read came to; a length that is complete may bring its payload in the same read.
  have still : unfinished collected = collected := unfinished_of_short short
  have lawful := (FrameRead.length read).drawn.length_le
  cases read with
  | stalls | waits => simpa [Receipt.bytes, still] using Aligned.length short
  | ends _ _ ended => simp [ended] at endless
  | collects _ _ _ few =>
    simpa [Receipt.bytes, unfinished_of_short few] using Aligned.length few
  | @empty bytes beyond low high later room received some complete none =>
    -- The length announces nothing, so it is a whole frame.
    have pair : collected ++ bytes = [low, high] := eq_pair_of_complete short
      (lawful ⟨_, .data bytes⟩ (List.mem_singleton.mpr rfl)) complete
    have whole : unfinished [low, high] = [] := unfinished_of_complete none.symm
    rw [taken_cons, taken_nil, List.append_nil]
    show Aligned (unfinished (collected ++ bytes)) framing
    rw [pair, whole]
    exact aligned_framing
  | @opens bytes beyond low high later draws _ room received some complete positive payload =>
    have pair : collected ++ bytes = [low, high] := eq_pair_of_complete short
      (lawful ⟨_, .data bytes⟩ (List.mem_cons_self ..)) complete
    have ahead := payload.aligned (inPayload_opened ..) (aligned_opened _ positive)
      (fun draw listed => endless draw (List.mem_cons_of_mem _ listed))
    rw [taken_cons, ← List.append_assoc]
    show Aligned (unfinished (collected ++ bytes ++ taken draws)) result.reader
    rw [pair]
    exact ahead

/-- Every read keeps the reader where the stream says, unless the stream ended. -/
theorem FrameRead.aligned [LawfulReceiver σ] {rest : Bytes}
    (read : FrameRead source buffer reader draws result) (aligned : Aligned rest reader)
    (endless : ∀ draw ∈ draws, draw.receipt.ends = false) :
    Aligned (unfinished (rest ++ taken draws)) result.reader := by
  -- Where the reader stands decides which of the two kinds of read it is.
  cases read with
  | payload inside read => exact read.aligned inside aligned endless
  | length read =>
    cases aligned with
    | length short => exact read.aligned short endless
    | payload inside => cases inside

end FrameReader

end CompanionLink
