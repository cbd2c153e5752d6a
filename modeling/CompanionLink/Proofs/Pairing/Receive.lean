import CompanionLink.Pairing.Receiver

/-! Receives one after the other: what they asked for, what they brought, and what a queue keeps. -/

namespace CompanionLink

namespace Receipt

/-- The octets that a receive brought. -/
def bytes : Receipt → Bytes
  | .data bytes => bytes
  | _ => []

/-- Whether a receive found the stream at its end. -/
def ends : Receipt → Bool
  | .data bytes => bytes.isEmpty
  | .closed => true
  | .pending => false

end Receipt

/-- One receive: how many octets were asked for and what came. -/
structure Draw where
  wanted : Nat
  receipt : Receipt
deriving DecidableEq, Repr

/-- The octets that receives brought, in order. -/
def taken (draws : List Draw) : Bytes :=
  draws.flatMap fun draw => draw.receipt.bytes

/-- No receives bring nothing. -/
@[simp] theorem taken_nil : taken [] = [] := rfl

/-- The first receive's octets come first. -/
@[simp] theorem taken_cons (draw : Draw) (later : List Draw) :
    taken (draw :: later) = draw.receipt.bytes ++ taken later := rfl

section Receiver

variable {σ : Type} [Receiver σ]

/-- The receives that lead from one state of a source to another. -/
inductive Draws : σ → List Draw → σ → Prop
  | done {source : σ} : Draws source [] source
  | more {source next last : σ} {wanted : Nat} {receipt : Receipt} {later : List Draw}
      (received : Receiver.receive source wanted = (receipt, next))
      (rest : Draws next later last) : Draws source (⟨wanted, receipt⟩ :: later) last

/-- A single receive. -/
theorem Draws.one {source next : σ} {wanted : Nat} {receipt : Receipt}
    (received : Receiver.receive source wanted = (receipt, next)) :
    Draws source [⟨wanted, receipt⟩] next :=
  -- One receive and none behind it.
  .more received .done

/-- A lawful source brings at most what is asked for. -/
theorem Draws.length_le [LawfulReceiver σ] {source last : σ} {draws : List Draw}
    (drawn : Draws source draws last) :
    ∀ draw ∈ draws, draw.receipt.bytes.length ≤ draw.wanted := by
  -- By induction on the receives.
  induction drawn with
  | done => intro draw listed; cases listed
  | @more source next last wanted receipt later received rest ih =>
    intro draw listed
    rcases List.mem_cons.mp listed with first | listed
    · subst first
      -- Only octets have a length to bound, and those the law bounds.
      cases receipt with
      | data bytes => exact LawfulReceiver.length_le source wanted bytes (by rw [received])
      | pending => exact Nat.zero_le _
      | closed => exact Nat.zero_le _
    · exact ih draw listed

end Receiver

namespace SegmentQueue

/-- The octets that wait in the queue. -/
def queued (queue : SegmentQueue) : Bytes := queue.segments.flatten

/-- The queue's stream goes on, and none of its segments is empty. -/
structure Open (queue : SegmentQueue) : Prop where
  endless : queue.closesWhenDrained = false
  solid : [] ∉ queue.segments

/-- The empty queue is open. -/
theorem open_empty : Open {} where
  -- Nothing waits, and no end was announced.
  endless := rfl
  solid := by simp

/-- A pushed segment waits behind the others. -/
@[simp] theorem queued_push (queue : SegmentQueue) (segment : Bytes) :
    (queue.push segment).queued = queue.queued ++ segment := by
  -- An empty segment is not queued, and brings nothing.
  unfold push
  split
  · next empty => simp [List.isEmpty_iff.mp empty]
  · simp [queued]

/-- Pushing keeps a queue open, since an empty segment is not added. -/
theorem Open.push {queue : SegmentQueue} (isOpen : Open queue) (segment : Bytes) :
    Open (queue.push segment) := by
  -- The new segment is last, and it is added only if it holds something.
  unfold SegmentQueue.push
  split
  · exact isOpen
  · next full =>
    refine ⟨isOpen.endless, ?_⟩
    intro empty
    rcases List.mem_append.mp empty with earlier | last
    · exact isOpen.solid earlier
    · exact full (List.isEmpty_iff.mpr (List.mem_singleton.mp last).symm)

/-- An open queue is drained exactly when no octet waits. -/
theorem Open.isDrained_iff {queue : SegmentQueue} (isOpen : Open queue) :
    queue.isDrained = true ↔ queue.queued = [] := by
  -- Without empty segments a queue of no octets has no segments.
  rw [isDrained, List.isEmpty_iff, queued, List.flatten_eq_nil_iff]
  constructor
  · intro drained segment listed
    rw [drained] at listed
    cases listed
  · intro empty
    cases held : queue.segments with
    | nil => rfl
    | cons first later =>
      -- A first segment would have to be empty, which an open queue excludes.
      have none : first = [] := empty first (by simp [held])
      exact absurd (by simp [held, none]) isOpen.solid

/-- A receive takes what it brings off the front of the queue, whatever the queue holds. -/
theorem queued_receive (queue : SegmentQueue) (wanted : Nat) :
    queue.queued = (queue.receive wanted).1.bytes ++ (queue.receive wanted).2.queued := by
  -- The first segment is split into what was received and what stays.
  unfold receive
  split
  · rfl
  · split
    · split <;> rfl
    · next first later held =>
      -- What is cut off stays in front, whether a segment of it is left or not.
      have cut := List.take_append_drop wanted first
      simp only [queued, held, List.flatten_cons, Receipt.bytes]
      split
      · next gone =>
        rw [List.isEmpty_iff.mp gone, List.append_nil] at cut
        rw [cut]
      · rw [List.flatten_cons, ← List.append_assoc, cut]

/-- Receives take what they bring off the front of the queue. -/
theorem queued_draws {queue last : SegmentQueue} {draws : List Draw}
    (drawn : Draws queue draws last) : queue.queued = taken draws ++ last.queued := by
  -- By induction on the receives.
  induction drawn with
  | done => rfl
  | @more queue next last wanted receipt later received rest ih =>
    have first := queue.queued_receive wanted
    rw [show queue.receive wanted = (receipt, next) from received] at first
    rw [first, ih, taken_cons, List.append_assoc]

/-- What a receive from an open queue can bring when it asks for something. -/
inductive Yields (queue : SegmentQueue) (wanted : Nat) : Receipt × SegmentQueue → Prop
  | nothing (drained : queue.queued = []) : Yields queue wanted (.pending, queue)
  | some {bytes : Bytes} {later : SegmentQueue} (some : bytes ≠ []) (isOpen : Open later)
      (split : queue.queued = bytes ++ later.queued) : Yields queue wanted (.data bytes, later)

/-- A receive brings the octets that waited longest, and only a drained queue brings none. -/
theorem Open.receive {queue : SegmentQueue} (isOpen : Open queue) {wanted : Nat}
    (asked : 0 < wanted) : Yields queue wanted (SegmentQueue.receive queue wanted) := by
  unfold SegmentQueue.receive
  rw [if_neg (by omega)]
  -- Only the first segment is taken from; what is left of it goes back to the front.
  cases held : queue.segments with
  | nil =>
    simp only [isOpen.endless]
    exact .nothing (by simp [queued, held])
  | cons first later =>
    have full : first ≠ [] := by
      intro empty
      exact isOpen.solid (by simp [held, empty])
    -- Neither the first segment nor one behind it is empty.
    have others : [] ∉ later := by
      intro empty
      exact isOpen.solid (by simp [held, empty])
    refine .some ?_ ?_ ?_
    · -- At least one octet is asked for and the segment has one.
      rw [ne_eq, List.take_eq_nil_iff]
      rintro (zero | empty)
      · omega
      · exact full empty
    · refine ⟨isOpen.endless, ?_⟩
      split
      · exact others
      · next rest =>
        rw [List.mem_cons, not_or]
        exact ⟨fun empty => rest (by simp [← empty]), others⟩
    · have taken := queue.queued_receive wanted
      rw [SegmentQueue.receive, if_neg (by omega), held] at taken
      exact taken

/-- Receives that ask for something take octets off an open queue and never see an end. -/
theorem Open.draws {queue last : SegmentQueue} {draws : List Draw} (isOpen : Open queue)
    (drawn : Draws queue draws last) (asked : ∀ draw ∈ draws, 0 < draw.wanted) :
    Open last ∧ queue.queued = taken draws ++ last.queued ∧
      (∀ draw ∈ draws, draw.receipt.ends = false) ∧
      (draws ≠ [] → queue.queued ≠ [] → taken draws ≠ []) := by
  -- Every receive finds an open queue and leaves one.
  induction drawn with
  | done => simp [isOpen]
  | @more queue next last wanted receipt later received rest ih =>
    have first : 0 < wanted := asked ⟨wanted, receipt⟩ (List.mem_cons_self ..)
    have yields := isOpen.receive first
    change SegmentQueue.receive queue wanted = (receipt, next) at received
    rw [received] at yields
    have others : ∀ draw ∈ later, 0 < draw.wanted := by
      intro draw listed
      exact asked draw (List.mem_cons_of_mem _ listed)
    cases yields with
    | nothing drained =>
      -- Nothing came, so the rest of the receives speaks for all.
      obtain ⟨lastOpen, split, endless, -⟩ := ih isOpen others
      refine ⟨lastOpen, ?_, List.forall_mem_cons.mpr ⟨rfl, endless⟩, ?_⟩
      · simpa [Receipt.bytes] using split
      · intro _ full
        exact absurd drained full
    | @some bytes _ full nextOpen cut =>
      -- The first octets came, and the rest of the receives takes what is behind them.
      obtain ⟨lastOpen, split, endless, -⟩ := ih nextOpen others
      have goesOn : (Receipt.data bytes).ends = false := by simp [Receipt.ends, full]
      refine ⟨lastOpen, ?_, List.forall_mem_cons.mpr ⟨goesOn, endless⟩, ?_⟩
      · rw [cut, split, taken_cons, List.append_assoc]
        rfl
      · intro _ _ none
        rw [taken_cons, List.append_eq_nil_iff] at none
        exact full none.1

end SegmentQueue

end CompanionLink
