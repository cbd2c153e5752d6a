import CompanionLink.Proofs.Bytes
import CompanionLink.Proofs.Pairing.Align

/-! With a buffer that keeps its capacity, every octet is delivered, held back, or not yet taken. -/

namespace CompanionLink

/-- The octets at the start of the buffer that a read delivered. -/
def ReadResult.delivered {σ : Type} (result : ReadResult σ) : Bytes :=
  match result.event with
  | .produced count => result.buffer.take count
  | _ => []

namespace FrameReader

/-- The octets that the reader has taken and not delivered, in itself and in the buffer. -/
def held (reader : FrameReader) (buffer : Bytes) : Bytes :=
  match reader with
  -- The octets of a length are held by the reader, those of a frame in the buffer.
  | .awaitLength collected => collected
  | .assembling cursor _ => buffer.take cursor
  | .opening _ => buffer.take lengthPrefixSize
  | _ => []

/-- The reader's place in a frame agrees with the capacity of the buffer. -/
def Fits (capacity : Nat) : FrameReader → Prop
  | .awaitLength collected => collected.length < lengthPrefixSize
  -- A frame that is assembled has room in the buffer for all of it.
  | .assembling cursor remaining =>
    lengthPrefixSize ≤ cursor ∧ 0 < remaining ∧ cursor + remaining ≤ capacity
  | .opening remaining | .collecting remaining => 0 < remaining
  | _ => False

/-- The reader fits, and the capacity lets it go on with whatever octet comes next. -/
structure Ready (capacity : Nat) (reader : FrameReader) : Prop where
  fits : Fits capacity reader
  /-- With no room behind the length, the length is given out at once. -/
  room : ∀ remaining, reader = .opening remaining → lengthPrefixSize < capacity

/-- A new reader is ready for any buffer. -/
theorem ready_framing (capacity : Nat) : Ready capacity framing where
  -- Less than a length is collected, namely nothing.
  fits := by simp [framing, Fits, lengthPrefixSize]
  room := by intro remaining same; cases same

/-- A reader that collects what is missing of a frame is ready for any buffer. -/
theorem ready_collecting (capacity : Nat) {remaining : Nat} (some : 0 < remaining) :
    Ready capacity (.collecting remaining) where
  -- Something is missing, which is all that is asked.
  fits := some
  room := by intro remaining same; cases same

/-- After a delivery the reader is ready for any buffer. -/
theorem ready_afterDelivery (capacity left : Nat) : Ready capacity (afterDelivery left) := by
  -- By where the delivery leads.
  rcases afterDelivery_next left with ⟨_, next⟩ | ⟨some, next⟩
  · rw [next]
    exact ready_framing capacity
  · rw [next]
    exact ready_collecting capacity some

/-- After a delivery the reader holds nothing back. -/
theorem held_afterDelivery (left : Nat) (buffer : Bytes) :
    held (afterDelivery left) buffer = [] := by
  -- By where the delivery leads; neither place keeps octets in the buffer.
  rcases afterDelivery_next left with ⟨_, next⟩ | ⟨_, next⟩ <;> rw [next] <;> rfl

/-- A read loses and repeats nothing of `before`, and leaves everything fit for the next one. -/
structure Conserves {σ : Type} (before : Bytes) (capacity : Nat) (result : ReadResult σ) :
    Prop where
  /-- The client goes on, and no more than the buffer is delivered. -/
  event : result.event = .pending ∨ ∃ count ≤ capacity, result.event = .produced count
  length : result.buffer.length = capacity
  ready : Ready capacity result.reader
  /-- What was held is delivered or held on. -/
  bytes : result.delivered ++ held result.reader result.buffer = before

variable {σ : Type} [Receiver σ] {source : σ} {buffer : Bytes} {reader : FrameReader}
  {draws : List Draw} {result : ReadResult σ}

/-- Where a reader that asks for octets puts them is where its held octets end. -/
theorem Asks.held_eq {offset wanted : Nat} (asks : Asks buffer reader offset wanted) :
    held reader buffer = buffer.take offset := by
  -- By the three places in a payload.
  cases asks with
  | assembling | opening => rfl
  | collecting => rfl

/-- What a reader asks for has room in the buffer. -/
theorem Asks.room {offset wanted : Nat} (asks : Asks buffer reader offset wanted) :
    offset + wanted ≤ buffer.length := by
  -- The three places ask for no more than what lies behind their offset.
  cases asks with
  | assembling fits => exact fits
  | opening room _ limit => omega
  | collecting _ limit => omega

omit [Receiver σ] in
/-- Giving out the buffer of a fitting frame gives out what the reader holds. -/
theorem GivesOut.conserves {count remaining : Nat}
    (given : GivesOut buffer reader count remaining) (fits : Fits buffer.length reader)
    (later : σ) :
    Conserves (held reader buffer) buffer.length
      ⟨.produced count, .collecting remaining, later, buffer⟩ := by
  cases given with
  | shrunk short =>
    -- A fitting frame is not longer than the buffer.
    exact absurd fits.2.2 (by omega)
  | lengthOnly room none =>
    exact ⟨.inr ⟨_, room, rfl⟩, rfl, ready_collecting _ fits, List.append_nil _⟩

omit [Receiver σ] in
/-- Octets that arrive are delivered behind the held ones, or held there. -/
theorem Asks.conserves {offset wanted : Nat} {bytes : Bytes}
    (asks : Asks buffer reader offset wanted) (fits : Fits buffer.length reader)
    (bounded : bytes.length ≤ wanted) (later : σ) :
    Conserves (held reader buffer ++ bytes) buffer.length
      ⟨(arrival reader bytes.length).1, (arrival reader bytes.length).2, later,
        Bytes.overwrite buffer offset bytes⟩ := by
  -- What is delivered or held afterwards is what was held and what came, in this order.
  have room := asks.room
  have length : (Bytes.overwrite buffer offset bytes).length = buffer.length :=
    Bytes.length_overwrite (by omega)
  -- The octets that came stand behind those that were there.
  have laid : (Bytes.overwrite buffer offset bytes).take (offset + bytes.length) =
      buffer.take offset ++ bytes := Bytes.take_overwrite (by omega) rfl
  rw [asks.held_eq]
  cases asks with
  | assembling =>
    obtain ⟨start, some, whole⟩ := fits
    simp only [arrival]
    by_cases done : wanted - bytes.length = 0
    · -- The frame is complete and goes out as a whole.
      have all : wanted = bytes.length := by omega
      rw [if_pos done]
      refine ⟨.inr ⟨_, room, rfl⟩, length, ready_framing _, ?_⟩
      simp only [ReadResult.delivered, held, framing, List.append_nil]
      rw [all, laid]
    · -- What came stands behind the octets assembled before.
      rw [if_neg done]
      have progress : Fits buffer.length (.assembling (offset + bytes.length)
          (wanted - bytes.length)) := by
        refine ⟨?_, ?_, ?_⟩ <;> omega
      refine ⟨.inl rfl, length, ⟨progress, fun _ same => by cases same⟩, ?_⟩
      simp only [ReadResult.delivered, held, List.nil_append]
      exact laid
  -- The first piece goes out behind the length that stood in the buffer.
  | @opening remaining =>
    refine ⟨.inr ⟨_, by omega, rfl⟩, length, ready_afterDelivery _ _, ?_⟩
    simp only [ReadResult.delivered, arrival, held_afterDelivery, List.append_nil]
    exact laid
  -- A later piece is all that the buffer holds.
  | @collecting remaining =>
    refine ⟨.inr ⟨bytes.length, by omega, rfl⟩, length, ready_afterDelivery _ _, ?_⟩
    simp only [ReadResult.delivered, arrival, held_afterDelivery, List.append_nil]
    rw [← laid, Nat.zero_add]

/-- A read inside a fitting payload loses and repeats nothing, unless the stream ended. -/
theorem PayloadRead.conserves [LawfulReceiver σ]
    (read : PayloadRead reader source buffer draws result) (inside : reader.inPayload = true)
    (fits : Fits buffer.length reader) (room : lengthPrefixSize ≤ buffer.length)
    (endless : ∀ draw ∈ draws, draw.receipt.ends = false) :
    Conserves (held reader buffer ++ taken draws) buffer.length result := by
  have lawful := read.drawn.length_le
  cases read with
  | stalls stalled =>
    -- A fitting frame always has room to go on.
    cases stalled with
    | opening tight => omega
    | collecting none =>
      have some : 0 < _ := fits
      simp only [lengthPrefixSize] at room
      omega
  | givesOut given => simpa using given.conserves fits source
  -- Nothing came, so the same octets are held as before.
  | @waits offset wanted later asks =>
    refine ⟨.inl rfl, rfl, ⟨fits, ?_⟩, by simp [ReadResult.delivered, Receipt.bytes]⟩
    intro remaining same
    subst same
    cases asks with
    | opening _ some limit => omega
  | ends _ _ ended => simp [ended] at endless
  | @arrives offset wanted bytes later asks =>
    have bounded : bytes.length ≤ wanted :=
      lawful ⟨wanted, .data bytes⟩ (List.mem_singleton.mpr rfl)
    simpa [Receipt.bytes] using asks.conserves fits bounded later

/-- A length that was put into the buffer stands at its start. -/
theorem take_overwrite_pair (buffer : Bytes) (low high : UInt8) :
    (Bytes.overwrite buffer 0 [low, high]).take lengthPrefixSize = [low, high] :=
  -- Both octets were written, and nothing stands before them.
  Bytes.take_overwrite (Nat.zero_le _) rfl

/-- A complete length puts its two octets in front of the payload. -/
theorem held_opened (buffer : Bytes) (low high : UInt8) (capacity size : Nat) :
    held (opened capacity size) (Bytes.overwrite buffer 0 [low, high]) = [low, high] := by
  -- Both ways of starting a payload keep the length at the front of the buffer.
  unfold opened
  split <;> exact take_overwrite_pair buffer low high

/-- A complete length of a payload leads to a reader that fits the buffer. -/
theorem fits_opened (capacity : Nat) {size : Nat} (positive : 0 < size) :
    Fits capacity (opened capacity size) := by
  -- A frame that is assembled was found to fit; one in pieces has no bound to keep.
  unfold opened
  split
  · next fits => exact ⟨Nat.le_refl _, positive, by omega⟩
  · exact positive

/-- A read for a length loses and repeats nothing, unless the stream ended. -/
theorem LengthRead.conserves [LawfulReceiver σ] {collected : Bytes}
    (read : LengthRead collected source buffer draws result)
    (short : collected.length < lengthPrefixSize) (room : lengthPrefixSize ≤ buffer.length)
    (endless : ∀ draw ∈ draws, draw.receipt.ends = false) :
    Conserves (collected ++ taken draws) buffer.length result := by
  -- Short of a length everything is held; a whole one goes out or opens its frame.
  have lawful := (FrameRead.length read).drawn.length_le
  cases read with
  | stalls tight => omega
  | waits =>
    refine ⟨.inl rfl, rfl, ⟨short, fun _ same => by cases same⟩, ?_⟩
    simp [ReadResult.delivered, held, Receipt.bytes]
  | ends _ _ ended => simp [ended] at endless
  | collects _ _ _ few =>
    refine ⟨.inl rfl, rfl, ⟨few, fun _ same => by cases same⟩, ?_⟩
    simp [ReadResult.delivered, held, Receipt.bytes]
  | @empty bytes beyond low high later _ received some complete none =>
    -- The length of an empty payload is delivered at once.
    have pair : collected ++ bytes = [low, high] := eq_pair_of_complete short
      (lawful ⟨_, .data bytes⟩ (List.mem_singleton.mpr rfl)) complete
    have laid := take_overwrite_pair buffer low high
    refine ⟨.inr ⟨_, room, rfl⟩, length_overwrite_pair room low high, ready_framing _, ?_⟩
    simpa [ReadResult.delivered, held, framing, Receipt.bytes, laid] using pair.symm
  -- The length is in the buffer, and the rest of the read is one inside the payload.
  | @opens bytes beyond low high later draws _ _ received some complete positive payload =>
    have pair : collected ++ bytes = [low, high] := eq_pair_of_complete short
      (lawful ⟨_, .data bytes⟩ (List.mem_cons_self ..)) complete
    have capacity := length_overwrite_pair room low high
    -- The frame opens with the length held, as a payload read finds it.
    have inner := payload.conserves (inPayload_opened ..)
      (by rw [capacity]; exact fits_opened buffer.length positive) (by rw [capacity]; exact room)
      (fun draw listed => endless draw (List.mem_cons_of_mem _ listed))
    rw [held_opened, capacity] at inner
    rw [taken_cons, ← List.append_assoc]
    show Conserves (collected ++ bytes ++ taken draws) buffer.length result
    rw [pair]
    exact inner

/-- Every read of a fitting reader loses and repeats nothing, unless the stream ended. -/
theorem FrameRead.conserves [LawfulReceiver σ]
    (read : FrameRead source buffer reader draws result) (fits : Fits buffer.length reader)
    (room : lengthPrefixSize ≤ buffer.length)
    (endless : ∀ draw ∈ draws, draw.receipt.ends = false) :
    Conserves (held reader buffer ++ taken draws) buffer.length result := by
  -- Where the reader stands decides which of the two kinds of read it is.
  cases read with
  | length read => exact read.conserves fits room endless
  | payload inside read => exact read.conserves inside fits room endless

/-- A payload read asks for something wherever it asks at all. -/
theorem PayloadRead.asks_some (read : PayloadRead reader source buffer draws result)
    (fits : Fits buffer.length reader) : ∀ draw ∈ draws, 0 < draw.wanted := by
  -- A fitting frame is missing something, and room for some of it was checked before asking.
  have positive : ∀ offset wanted, Asks buffer reader offset wanted → 0 < wanted := by
    intro offset wanted asks
    cases asks with
    | assembling => exact fits.2.1
    | opening _ some => exact some
    | collecting some => exact some
  -- Without a receive nothing was asked, and otherwise it was asked once.
  cases read with
  | stalls | givesOut => intro draw listed; cases listed
  | waits asks | ends asks | arrives asks =>
    intro draw listed
    rw [List.mem_singleton.mp listed]
    exact positive _ _ asks

/-- A read of a fitting reader asks for something wherever it asks at all. -/
theorem FrameRead.asks_some (read : FrameRead source buffer reader draws result)
    (fits : Fits buffer.length reader) : ∀ draw ∈ draws, 0 < draw.wanted := by
  -- Short of its length a frame is missing an octet of it; behind it the payload law applies.
  cases read with
  | payload _ read => exact read.asks_some fits
  | @length collected _ _ read =>
    have missing : 0 < lengthPrefixSize - collected.length := Nat.sub_pos_of_lt fits
    cases read with
    | stalls => intro draw listed; cases listed
    | waits | ends | collects | empty =>
      intro draw listed
      rw [List.mem_singleton.mp listed]
      exact missing
    | opens room _ _ _ positive payload =>
      -- The payload's receives come behind the one for the length.
      have inner := payload.asks_some
        (by rw [length_overwrite_pair room]; exact fits_opened buffer.length positive)
      intro draw listed
      rcases List.mem_cons.mp listed with first | listed
      · rw [first]
        exact missing
      · exact inner draw listed

/-- A ready reader asks the source for something in every read. -/
theorem FrameRead.draws_ne_nil (read : FrameRead source buffer reader draws result)
    (ready : Ready buffer.length reader) (room : lengthPrefixSize ≤ buffer.length) :
    draws ≠ [] := by
  -- Stalling needs a buffer without room, and giving out without a receive one that shrank.
  have fits := ready.fits
  cases read with
  | length read =>
    cases read with
    | stalls tight => omega
    | waits | ends | collects | empty | opens => exact List.cons_ne_nil _ _
  | payload _ read =>
    cases read with
    | waits | ends | arrives => exact List.cons_ne_nil _ _
    -- A ready reader misses something, and the buffer has room for the length.
    | stalls stalled =>
      cases stalled with
      | opening tight => omega
      | collecting none =>
        have some : 0 < _ := fits
        simp only [lengthPrefixSize] at room
        omega
    | givesOut given =>
      cases given with
      | shrunk short => exact absurd fits.2.2 (by omega)
      | lengthOnly _ none =>
        have behind := ready.room _ rfl
        have some : 0 < _ := fits
        omega

end FrameReader

end CompanionLink
