import CompanionLink.Proofs.Pairing.Boundary
import Mathlib.Data.List.Induction
import Mathlib.Data.List.Infix

/-!
A client is judged by the first octets of its stream alone. However they are cut and whenever they
come, the verdict is the one that they deserve in one piece.
-/

namespace CompanionLink

/-- The verdict that a stream deserves by the octets that are searched for the marker. -/
inductive Deserves (stream : Bytes) : PreambleVerdict → Prop
  /-- The marker stands among the searched octets. -/
  | matched (marked : handshakeMarker <:+: stream.take preambleLimit) : Deserves stream .matched
  /-- All octets that are searched have come, and the marker is not among them. -/
  | rejected (full : preambleLimit ≤ stream.length)
    (unmarked : ¬ handshakeMarker <:+: stream.take preambleLimit) : Deserves stream .rejected
  /-- More octets would be searched, and so far the marker is not among them. -/
  | pending (short : stream.length < preambleLimit)
    (unmarked : ¬ handshakeMarker <:+: stream.take preambleLimit) : Deserves stream .pending

section Deserves

variable {stream : Bytes} {verdict : PreambleVerdict}

/-- No stream deserves two verdicts. -/
theorem Deserves.unique {other : PreambleVerdict} (one : Deserves stream verdict)
    (two : Deserves stream other) : verdict = other := by
  -- The conditions of any two of the verdicts contradict each other.
  cases one <;> cases two <;> first | rfl | contradiction | omega

/-- Octets behind a stream that was judged make no difference to its verdict. -/
theorem Deserves.longer {earlier : Bytes} (begins : earlier <+: stream)
    (deserves : Deserves earlier verdict) (judged : verdict ≠ .pending) :
    Deserves stream verdict := by
  cases deserves with
  | matched marked =>
    -- The octets searched so far are still the first ones.
    exact .matched (marked.trans (begins.take preambleLimit).isInfix)
  | rejected full unmarked =>
    -- Every searched octet was there before, so the longer stream is searched no further.
    have same : earlier.take preambleLimit = stream.take preambleLimit := by
      refine (begins.take preambleLimit).eq_of_length_le ?_
      rw [List.length_take, List.length_take]
      have longer := begins.length_le
      omega
    exact .rejected (Nat.le_trans full begins.length_le) (same ▸ unmarked)
  | pending => exact absurd rfl judged

/-- A stream's verdict is the one that it deserves. -/
theorem Deserves.eq_iff (deserves : Deserves stream verdict) (other : PreambleVerdict) :
    verdict = other ↔ Deserves stream other :=
  -- No stream deserves two verdicts.
  ⟨fun same => same ▸ deserves, deserves.unique⟩

/-- A stream that is not judged yet is shorter than what is searched. -/
theorem Deserves.short (undecided : Deserves stream .pending) : stream.length < preambleLimit := by
  -- The verdict is left open only where there is still something to search.
  cases undecided
  assumption

/-- A stream that is not judged yet holds no marker at all. -/
theorem Deserves.unmarked (undecided : Deserves stream .pending) :
    ¬ handshakeMarker <:+: stream := by
  -- All of the stream is searched, as it is short.
  cases undecided with
  | pending short unmarked => rwa [List.take_of_length_le (Nat.le_of_lt short)] at unmarked

/-- Of no octets nothing can be said yet. -/
theorem deserves_nil : Deserves [] .pending := .pending (by decide) (by decide)

end Deserves

namespace Preamble

/-- The search finds the marker exactly where it stands. -/
theorem occursIn_marker {bytes : Bytes} :
    Bytes.occursIn handshakeMarker bytes = true ↔ handshakeMarker <:+: bytes := by
  -- Both say that something stands before and behind the marker.
  rw [Bytes.occursIn_iff]
  exact ⟨fun ⟨before, after, whole⟩ => ⟨before, after, whole.symm⟩,
    fun ⟨before, after, whole⟩ => ⟨before, after, whole.symm⟩⟩

/-- The first octets of a stream are given the verdict that the stream deserves. -/
theorem verdict_take (stream : Bytes) :
    Deserves stream (Preamble.mk (stream.take preambleLimit)).verdict := by
  -- The cut is full exactly when the stream is long enough to fill it.
  simp only [verdict, occursIn_marker]
  split
  · next marked => exact .matched marked
  · next unmarked =>
    split
    -- A full cut without the marker is all that is searched.
    · next full =>
      rw [List.length_take] at full
      exact .rejected (by omega) unmarked
    · next short =>
      rw [List.length_take] at short
      exact .pending (by omega) unmarked

/-- What is dropped of a chunk that overshoots would not have been searched. -/
theorem extend_take (stream chunk : Bytes) :
    extend ⟨stream.take preambleLimit⟩ chunk = ⟨(stream ++ chunk).take preambleLimit⟩ := by
  -- There is room for exactly the octets that are searched behind those of the stream.
  have room : preambleLimit - (stream.take preambleLimit).length =
      preambleLimit - stream.length := by
    rw [List.length_take]
    omega
  rw [extend, Preamble.room, room, List.take_append]

/-- The preamble after chunks in order, whatever was said of them. -/
def fed (chunks : List Bytes) : Preamble :=
  chunks.foldl (fun preamble chunk => (preamble.feed chunk).2) {}

/-- The first verdict on chunks in order that is not left open. -/
def judge (preamble : Preamble) : List Bytes → PreambleVerdict
  | [] => .pending
  | chunk :: later =>
    match preamble.feed chunk with
    -- As long as nothing is decided the next chunk is looked at.
    | (.pending, next) => next.judge later
    | (verdict, _) => verdict

/-- Of chunks in order, the octets are kept that are searched. -/
theorem fed_eq (chunks : List Bytes) : fed chunks = ⟨chunks.flatten.take preambleLimit⟩ := by
  -- The last chunk comes behind the octets of those before it.
  induction chunks using List.reverseRecOn with
  | nil => rfl
  | append_singleton earlier chunk ih =>
    rw [fed, List.foldl_append, ← fed, ih, List.flatten_append, List.flatten_singleton]
    exact extend_take earlier.flatten chunk

/-- The first verdict on a stream that goes on in chunks is the one that the whole deserves. -/
theorem judge_deserves (stream : Bytes) (undecided : Deserves stream .pending)
    (chunks : List Bytes) :
    Deserves (stream ++ chunks.flatten)
      (judge ⟨stream.take preambleLimit⟩ chunks) := by
  -- The stream grows by the chunks that were judged, which all left the verdict open.
  induction chunks generalizing stream with
  | nil => simpa [judge] using undecided
  | cons chunk later ih =>
    have begins : stream ++ chunk <+: stream ++ (chunk :: later).flatten := by
      rw [List.flatten_cons, ← List.append_assoc]
      exact List.prefix_append ..
    have deserves := verdict_take (stream ++ chunk)
    rw [judge, feed, extend_take]
    cases said : (Preamble.mk ((stream ++ chunk).take preambleLimit)).verdict with
    | pending =>
      -- The chunk left the verdict open, so the later ones have to decide.
      rw [said] at deserves
      rw [List.flatten_cons, ← List.append_assoc]
      exact ih _ deserves
    | matched | rejected =>
      -- The later chunks are not looked at, and they could not change the verdict.
      rw [said] at deserves
      exact deserves.longer begins nofun

end Preamble

/-- The event of a read that brought a verdict. -/
def PreambleVerdict.event : PreambleVerdict → ReadEvent
  | .matched => .handshakeAccepted
  | .pending => .pending
  | .rejected => .handshakeRejected

/-- The reader that a verdict leaves, with the octets seen so far. -/
def PreambleVerdict.reader (seen : Bytes) : PreambleVerdict → FrameReader
  | .matched => .framing
  | .pending => .awaitHandshake ⟨seen⟩
  | .rejected => .idle

/-- An event that announces the deserved verdict announces no other. -/
theorem Deserves.event_iff {stream : Bytes} {verdict : PreambleVerdict} {event : ReadEvent}
    (deserves : Deserves stream verdict) (announced : event = verdict.event)
    (other : PreambleVerdict) : event = other.event ↔ Deserves stream other := by
  subst announced
  constructor
  · intro same
    -- Each verdict has an event of its own.
    have same : verdict = other := by cases verdict <;> cases other <;> first | rfl | cases same
    exact same ▸ deserves
  · intro also
    rw [deserves.unique also]

section Read

variable {σ : Type} [Receiver σ] {seen : Bytes} {source later : σ} {receipt : Receipt}

/-- A read of the preamble judges all octets that it leaves seen, or ends with the stream. -/
theorem readPreamble_judges (buffer : Bytes) (undecided : Deserves seen .pending)
    (received : Receiver.receive source (preambleLimit - seen.length) = (receipt, later))
    (inside : (seen ++ receipt.bytes).length ≤ preambleLimit) :
    ∃ event reader,
      FrameReader.readPreamble ⟨seen⟩ source buffer = ⟨event, reader, later, buffer⟩ ∧
      (receipt.ends = true → event = .disconnected) ∧
      (receipt.ends = false → ∃ verdict, Deserves (seen ++ receipt.bytes) verdict ∧
        event = verdict.event ∧ reader = verdict.reader (seen ++ receipt.bytes)) := by
  -- By what the receive brought.
  simp only [FrameReader.readPreamble, Preamble.room, received]
  rcases receipt with ⟨_ | ⟨first, more⟩⟩ | _ | _
  · -- No octets at all are the end of the stream.
    exact ⟨_, _, rfl, fun _ => rfl, fun goesOn => by cases goesOn⟩
  · -- All that came is kept, since no more was asked for than is searched.
    have inside : (seen ++ first :: more).length ≤ preambleLimit := inside
    have fits : (first :: more).length ≤ preambleLimit - seen.length := by
      rw [List.length_append] at inside
      omega
    have kept : Preamble.extend ⟨seen⟩ (first :: more) = ⟨seen ++ first :: more⟩ := by
      rw [Preamble.extend, Preamble.room, List.take_of_length_le fits]
    have deserves := Preamble.verdict_take (seen ++ first :: more)
    rw [List.take_of_length_le inside] at deserves
    simp only [Preamble.feed, kept]
    -- The verdict on the octets seen is the one that the reader acts on.
    revert deserves
    cases (Preamble.mk (seen ++ first :: more)).verdict <;> intro deserves <;>
      exact ⟨_, _, rfl, fun ends => (by cases ends), fun _ => ⟨_, deserves, rfl, rfl⟩⟩
  · -- Nothing came, and the octets are the ones that were judged before.
    simp only [Receipt.bytes, List.append_nil]
    exact ⟨_, _, rfl, fun ends => (by cases ends), fun _ => ⟨.pending, undecided, rfl, rfl⟩⟩
  · exact ⟨_, _, rfl, fun _ => rfl, fun goesOn => by cases goesOn⟩

end Read

/-- A client whose preamble is being searched, with every receive so far. -/
structure Greeting (σ : Type) where
  event : ReadEvent := .pending
  reader : FrameReader := .accepted
  watched : Watched σ

namespace Greeting

variable {σ : Type} [Receiver σ]

/-- The octets that were taken of the client's stream. -/
def seen (greeting : Greeting σ) : Bytes := taken greeting.watched.draws

/-- The greeting after something happened to the client's stream. -/
def supplied (greeting : Greeting σ) (meanwhile : σ → σ) : Greeting σ :=
  { greeting with
    watched.source := meanwhile greeting.watched.source }

/-- What the next read comes to. -/
def next (greeting : Greeting σ) (step : Turn σ) : ReadResult (Watched σ) :=
  greeting.reader.read (greeting.supplied step.meanwhile).watched step.buffer

/-- The greeting after one more read. A client that was judged is not read from any more. -/
def turn (greeting : Greeting σ) (step : Turn σ) : Greeting σ :=
  if greeting.event = .pending then
    let result := greeting.next step
    ⟨result.event, result.reader, result.source⟩
  else greeting.supplied step.meanwhile

/-- The greeting of a client that was just accepted, after reads in order. -/
def after (source : σ) (turns : List (Turn σ)) : Greeting σ :=
  turns.foldl turn { watched := { source } }

/-- The greeting after further reads, each with its buffer, while nothing happens to the stream. -/
def readOn (greeting : Greeting σ) (buffers : List Bytes) : Greeting σ :=
  buffers.foldl (fun greeting buffer => greeting.turn { buffer }) greeting

/-- The event and the reader are those of the verdict that the octets so far deserve. -/
def Judged (greeting : Greeting σ) : Prop :=
  ∃ verdict, Deserves greeting.seen verdict ∧ greeting.event = verdict.event ∧
    greeting.reader = verdict.reader greeting.seen

omit [Receiver σ] in
/-- While a judged client is undecided, its reader goes on with the octets seen so far. -/
theorem Judged.undecided {greeting : Greeting σ} (judged : Judged greeting)
    (undecided : greeting.event = .pending) :
    Deserves greeting.seen .pending ∧ greeting.reader = .awaitHandshake ⟨greeting.seen⟩ := by
  -- A verdict shows in the event, and the event is that of no verdict.
  obtain ⟨verdict, deserves, event, reader⟩ := judged
  cases verdict with
  | pending => exact ⟨deserves, reader⟩
  | matched | rejected => cases undecided.symm.trans event

/-- What a read of an undecided client does: it receives once, and judges all that has come. -/
structure Reads (greeting : Greeting σ) (step : Turn σ) (receipt : Receipt) : Prop where
  /-- One receive asks for all that is still searched. -/
  received : Receiver.receive (step.meanwhile greeting.watched.source)
    (preambleLimit - greeting.seen.length) = (receipt, (greeting.turn step).watched.source)
  /-- It is written down, and it is the only one. -/
  noted : (greeting.turn step).watched.draws =
    greeting.watched.draws ++ [⟨preambleLimit - greeting.seen.length, receipt⟩]
  /-- The buffer is handed back as it was. -/
  untouched : (greeting.next step).buffer = step.buffer
  /-- No more is seen than is searched. -/
  bounded : (greeting.turn step).seen.length ≤ preambleLimit
  /-- The end of the stream loses the client. -/
  gone : receipt.ends = true → (greeting.turn step).event = .disconnected
  /-- Any other receipt is judged with what came before it. -/
  judged : receipt.ends = false → Judged (greeting.turn step)

/-- The octets of a read come behind those that were seen before. -/
theorem Reads.seen_eq {greeting : Greeting σ} {step : Turn σ} {receipt : Receipt}
    (reads : Reads greeting step receipt) :
    (greeting.turn step).seen = greeting.seen ++ receipt.bytes := by
  -- Exactly one receive was noted.
  rw [seen, reads.noted]
  simp [taken, seen]

/-- Every read of an undecided client receives once and judges all that has come. -/
theorem Judged.reads [LawfulReceiver σ] {greeting : Greeting σ} (judged : Judged greeting)
    (undecided : greeting.event = .pending) (step : Turn σ) :
    ∃ receipt, Reads greeting step receipt := by
  -- An undecided client is read from once, and no more than is searched is asked for.
  obtain ⟨deserves, reader⟩ := judged.undecided undecided
  let wanted := preambleLimit - greeting.seen.length
  rcases received : Receiver.receive (step.meanwhile greeting.watched.source) wanted with
    ⟨receipt, later⟩
  -- The watch notes the receive.
  have watched : Receiver.receive (greeting.supplied step.meanwhile).watched wanted =
      (receipt, Watched.mk later (greeting.watched.draws ++ [⟨wanted, receipt⟩])) := by
    show Watched.receive (Watched.mk (step.meanwhile greeting.watched.source) _) _ = _
    rw [Watched.receive, received]
  -- A lawful source brings no more than was asked for, so all of it is searched.
  have inside : (greeting.seen ++ receipt.bytes).length ≤ preambleLimit := by
    have lawful : receipt.bytes.length ≤ wanted :=
      (Draws.one received).length_le _ (List.mem_singleton_self _)
    have short : greeting.seen.length < preambleLimit := deserves.short
    rw [List.length_append]
    omega
  obtain ⟨event, next, read, gone, judges⟩ :=
    readPreamble_judges step.buffer deserves watched inside
  -- So the turn leaves the reader with the octets seen, whatever the verdict.
  have result : greeting.next step = ⟨event, next,
      ⟨later, greeting.watched.draws ++ [⟨wanted, receipt⟩]⟩, step.buffer⟩ := by
    rw [Greeting.next, reader, FrameReader.read, read]
  have turned : greeting.turn step =
      ⟨event, next, ⟨later, greeting.watched.draws ++ [⟨wanted, receipt⟩]⟩⟩ := by
    rw [turn, if_pos undecided, result]
  have longer : (greeting.turn step).seen = greeting.seen ++ receipt.bytes := by
    simp [turned, seen, taken]
  refine ⟨receipt, ?_⟩
  -- Each part of what a read does is one of the facts above.
  constructor
  · rw [turned, received]
  · rw [turned]
  · rw [result]
  · rw [longer]
    exact inside
  · rw [turned]
    exact gone
  · intro goesOn
    obtain ⟨verdict, said, event, reader⟩ := judges goesOn
    rw [Judged, longer, turned]
    exact ⟨verdict, said, event, reader⟩

/-- A client is judged by the octets so far, or its stream has come to an end. -/
inductive Sound (greeting : Greeting σ) : Prop
  | judged (judged : Judged greeting) : Sound greeting
  | gone (event : greeting.event = .disconnected) : Sound greeting

omit [Receiver σ] in
/-- Nothing of a new client was seen, so nothing is said of it yet. -/
theorem judged_start (source : σ) : Judged ({ watched := { source } } : Greeting σ) :=
  -- No octet was seen, and that is an open verdict.
  ⟨.pending, deserves_nil, rfl, rfl⟩

omit [Receiver σ] in
/-- A client whose last event was a verdict is judged. -/
theorem Sound.judged_of_event {greeting : Greeting σ} (sound : Sound greeting)
    (verdict : PreambleVerdict) (announced : greeting.event = verdict.event) :
    Judged greeting := by
  cases sound with
  | judged judged => exact judged
  | gone event =>
    -- The end of a stream is not the event of any verdict.
    rw [event] at announced
    cases verdict <;> cases announced

/-- A client that was judged or has gone is not read from. -/
theorem turn_decided {greeting : Greeting σ} (decided : greeting.event ≠ .pending)
    (step : Turn σ) :
    greeting.turn step = greeting.supplied step.meanwhile := by
  -- The guard of the turn.
  rw [turn, if_neg decided]

/-- Each read leaves a client that is judged by its first octets, or one that has gone. -/
theorem Sound.turn [LawfulReceiver σ] {greeting : Greeting σ} (sound : Sound greeting)
    (step : Turn σ) : Sound (greeting.turn step) := by
  -- Only an undecided client is read from, and it cannot have gone.
  by_cases undecided : greeting.event = .pending
  · cases sound with
    | gone event => cases undecided.symm.trans event
    | judged judged =>
      obtain ⟨receipt, reads⟩ := judged.reads undecided step
      cases ends : receipt.ends with
      | true => exact .gone (reads.gone ends)
      | false => exact .judged (reads.judged ends)
  -- A decided client is not read from any more.
  · rw [turn_decided undecided]
    cases sound with
    | gone event => exact .gone event
    | judged judged => exact .judged judged

/-- However a client was read from, it is judged by its first octets or has gone. -/
theorem sound_after [LawfulReceiver σ] (source : σ) (turns : List (Turn σ)) :
    Sound (after source turns) := by
  -- The last read finds what the earlier ones left.
  induction turns using List.reverseRecOn with
  | nil => exact .judged (judged_start source)
  | append_singleton earlier step ih =>
    rw [after, List.foldl_append]
    exact ih.turn step

end Greeting

/-- The octets of a prepared outcome. -/
def ReceiptCue.bytes : ReceiptCue → Bytes
  | .segment bytes => bytes
  | _ => []

/-- Whether the stream goes on behind an outcome. A segment without octets would end it. -/
def ReceiptCue.goesOn : ReceiptCue → Bool
  | .segment bytes => !bytes.isEmpty
  | .pending => true
  | .endOfStream | .closed => false

namespace CuedReceiver

/-- The octets of the outcomes that wait. -/
def queued (receiver : CuedReceiver) : Bytes := receiver.cues.flatMap ReceiptCue.bytes

/-- None of the outcomes that wait ends the stream. -/
def Endless (receiver : CuedReceiver) : Prop := ∀ cue ∈ receiver.cues, cue.goesOn = true

/-- What a receive does to outcomes of which none ends the stream. -/
structure Advances (receiver : CuedReceiver) (receipt : Receipt) (later : CuedReceiver) : Prop where
  endless : later.Endless
  goesOn : receipt.ends = false
  octets : receiver.queued = receipt.bytes ++ later.queued
  fewer : later.cues.length ≤ receiver.cues.length
  /-- An outcome is used up, or octets of it came. -/
  onward : receiver.cues ≠ [] →
    later.cues.length < receiver.cues.length + receipt.bytes.length

/-- A receive that asks for something takes from the first outcome only. -/
theorem Endless.receive {receiver : CuedReceiver} (endless : Endless receiver) {wanted : Nat}
    (asked : 0 < wanted) :
    Advances receiver (receive receiver wanted).1 (receive receiver wanted).2 := by
  obtain ⟨cues⟩ := receiver
  cases cues with
  | nil =>
    -- Past the last outcome nothing comes and nothing changes.
    exact ⟨endless, rfl, rfl, Nat.le_refl _, fun waits => absurd rfl waits⟩
  | cons cue later =>
    obtain ⟨first, others⟩ := List.forall_mem_cons.mp endless
    cases cue with
    | pending =>
      exact ⟨others, rfl, rfl, Nat.le_succ _, fun _ => Nat.lt_succ_self _⟩
    | endOfStream | closed => cases first
    | segment bytes =>
      -- A segment that does not end the stream has an octet, and one at least is asked for.
      have full : bytes ≠ [] := by simpa [ReceiptCue.goesOn] using first
      have some : 0 < (bytes.take wanted).length := by
        have positive := List.length_pos_iff.mpr full
        rw [List.length_take]
        omega
      have cut := List.take_append_drop wanted bytes
      simp only [CuedReceiver.receive]
      cases left : bytes.drop wanted with
      | nil =>
        -- The whole segment was taken, so it is used up.
        rw [left, List.append_nil] at cut
        refine ⟨others, ?_, ?_, Nat.le_succ _, fun _ => ?_⟩
        · simp [Receipt.ends, cut, full]
        · simp [queued, Receipt.bytes, ReceiptCue.bytes, cut]
        · simp only [List.isEmpty_nil, if_true, List.length_cons]
          omega
      | cons next rest =>
        -- What was not asked for stays in front, and some octets of the segment came.
        refine ⟨?_, ?_, ?_, Nat.le_refl _, fun _ => ?_⟩
        · exact List.forall_mem_cons.mpr ⟨rfl, others⟩
        · exact List.isEmpty_eq_false_iff.mpr (List.length_pos_iff.mp some)
        · rw [left] at cut
          simp only [queued, List.flatMap_cons, Receipt.bytes, ReceiptCue.bytes,
            List.isEmpty_cons, Bool.false_eq_true, if_false]
          rw [← List.append_assoc, cut]
        · simp only [Receipt.bytes, List.isEmpty_cons, Bool.false_eq_true, if_false,
            List.length_cons]
          omega

/-- Outcomes that are prepared one after the other wait behind those before. -/
theorem cues_foldl_push (receiver : CuedReceiver) (cues : List ReceiptCue) :
    (cues.foldl push receiver).cues = receiver.cues ++ cues := by
  -- By induction on the outcomes.
  induction cues generalizing receiver with
  | nil => exact (List.append_nil _).symm
  | cons cue later ih =>
    rw [List.foldl_cons, ih]
    exact List.append_assoc ..

end CuedReceiver

/-- One read of a prepared stream: what is prepared just before it, and its buffer. -/
structure CuedTurn where
  cues : List ReceiptCue
  buffer : Bytes

/-- The read for which the outcomes are prepared. -/
def CuedTurn.toTurn (step : CuedTurn) : Turn CuedReceiver where
  meanwhile receiver := step.cues.foldl .push receiver
  buffer := step.buffer

namespace Greeting

variable {pushed : List ReceiptCue} {greeting : Greeting CuedReceiver}

/-- A client whose prepared stream goes on: what was prepared of it was taken or waits. -/
structure Fed (pushed : List ReceiptCue) (greeting : Greeting CuedReceiver) : Prop where
  judged : Judged greeting
  endless : greeting.watched.source.Endless
  octets : greeting.seen ++ greeting.watched.source.queued = pushed.flatMap ReceiptCue.bytes
  fewer : greeting.watched.source.cues.length ≤ pushed.length

/-- How many more reads can make a difference at most, unless more is prepared. -/
def left (greeting : Greeting CuedReceiver) : Nat :=
  greeting.watched.source.cues.length + (preambleLimit - greeting.seen.length)

/-- Of a new client nothing was prepared. -/
theorem fed_start : Fed [] ({ watched := { source := ⟨[]⟩ } } : Greeting CuedReceiver) where
  -- Nothing seen and nothing waiting make up nothing prepared.
  judged := judged_start _
  endless := nofun
  octets := rfl
  fewer := Nat.le_refl _

/-- What is prepared before a read is added to what waits. -/
theorem Fed.prepare (fed : Fed pushed greeting) {cues : List ReceiptCue}
    (goesOn : ∀ cue ∈ cues, cue.goesOn = true) :
    Fed (pushed ++ cues) (greeting.supplied fun receiver => cues.foldl .push receiver) := by
  -- More cues change what waits and nothing that was taken.
  have behind : (greeting.supplied fun receiver => cues.foldl .push receiver).watched.source.cues =
      greeting.watched.source.cues ++ cues := CuedReceiver.cues_foldl_push _ cues
  refine ⟨fed.judged, ?_, ?_, ?_⟩
  · intro cue listed
    rw [behind] at listed
    exact (List.mem_append.mp listed).elim (fed.endless cue) (goesOn cue)
  · -- What was taken stays in front of what waited, and that in front of what is new.
    rw [CuedReceiver.queued, behind, List.flatMap_append, List.flatMap_append,
      ← List.append_assoc, ← fed.octets]
    rfl
  · have before := fed.fewer
    rw [behind, List.length_append, List.length_append]
    omega

/-- What happens to the stream just before a read may as well have happened earlier. -/
theorem turn_prepared (greeting : Greeting CuedReceiver) (step : Turn CuedReceiver) :
    greeting.turn step = (greeting.supplied step.meanwhile).turn { buffer := step.buffer } := by
  -- A turn prepares first and reads then.
  show (if greeting.event = .pending then _ else _) = if greeting.event = .pending then _ else _
  rfl

/-- A read of an undecided client takes from what waits, after which less can make a difference. -/
theorem Fed.read (fed : Fed pushed greeting) (undecided : greeting.event = .pending)
    (buffer : Bytes) :
    Fed pushed (greeting.turn { buffer }) ∧
      (greeting.watched.source.cues = [] →
        (greeting.turn { buffer }).watched.source.cues = []) ∧
      (greeting.watched.source.cues ≠ [] →
        left (greeting.turn { buffer }) < left greeting) := by
  -- A read of an undecided client takes the first cue or a part of it.
  obtain ⟨receipt, reads⟩ := fed.judged.reads undecided { buffer }
  have short := (fed.judged.undecided undecided).1.short
  -- Something is asked for, so the receive makes its way through what waits.
  have asked : 0 < preambleLimit - greeting.seen.length := by omega
  have advances : CuedReceiver.Advances greeting.watched.source receipt
      (greeting.turn { buffer }).watched.source := by
    have received : CuedReceiver.receive greeting.watched.source _ = _ := reads.received
    have advances := fed.endless.receive asked
    rwa [received] at advances
  -- What was seen grew by as much as came, and stays within the limit.
  have longer := congrArg List.length reads.seen_eq
  have bounded := reads.bounded
  rw [List.length_append] at longer
  refine ⟨⟨reads.judged advances.goesOn, advances.endless, ?_, ?_⟩, ?_, ?_⟩
  · -- The octets of the read only changed sides.
    rw [reads.seen_eq, List.append_assoc, ← advances.octets, fed.octets]
  · exact Nat.le_trans advances.fewer fed.fewer
  · intro drained
    have fewer := advances.fewer
    rw [drained] at fewer
    exact List.length_eq_zero_iff.mp (Nat.le_zero.mp fewer)
  · -- Either an outcome was used up, or octets came that are not searched for any more.
    intro waits
    have onward := advances.onward waits
    unfold left
    omega

/-- Each read of a stream that goes on leaves a client of which everything was taken or waits. -/
theorem Fed.turn (fed : Fed pushed greeting) {step : CuedTurn}
    (goesOn : ∀ cue ∈ step.cues, cue.goesOn = true) :
    Fed (pushed ++ step.cues) (greeting.turn step.toTurn) := by
  have prepared := fed.prepare goesOn
  -- An undecided client is read from, and of any other one nothing changes.
  by_cases undecided : greeting.event = .pending
  · rw [turn_prepared]
    exact (prepared.read undecided step.buffer).1
  · rw [turn_decided undecided]
    exact prepared

/-- However a stream that goes on is cut, all that was prepared of it was taken or waits. -/
theorem fed_after (steps : List CuedTurn)
    (goesOn : ∀ cue ∈ steps.flatMap CuedTurn.cues, cue.goesOn = true) :
    Fed (steps.flatMap CuedTurn.cues) (after ⟨[]⟩ (steps.map CuedTurn.toTurn)) := by
  -- By induction on the turns from the end.
  induction steps using List.reverseRecOn with
  | nil => exact fed_start
  | append_singleton earlier step ih =>
    rw [List.flatMap_append, List.forall_mem_append] at goesOn
    simp only [List.flatMap_append, List.flatMap_singleton] at goesOn ⊢
    rw [after, List.map_append, List.foldl_append]
    exact (ih goesOn.1).turn goesOn.2

/-- Further reads decide a client or take all that waits, as each makes a difference till then. -/
theorem Fed.drains (fed : Fed pushed greeting) (buffers : List Bytes) :
    Fed pushed (greeting.readOn buffers) ∧
      ((greeting.readOn buffers).event = .pending →
        (greeting.readOn buffers).watched.source.cues = [] ∨
          left (greeting.readOn buffers) + buffers.length ≤ left greeting) := by
  -- By induction on the reads from the end.
  induction buffers using List.reverseRecOn with
  | nil => exact ⟨fed, fun _ => .inr (Nat.le_refl _)⟩
  | append_singleton earlier buffer ih =>
    obtain ⟨kept, before⟩ := ih
    have turned : greeting.readOn (earlier ++ [buffer]) =
        (greeting.readOn earlier).turn { buffer } := List.foldl_append
    rw [turned, List.length_append, List.length_singleton]
    -- The last read counts only if the client was undecided before it.
    by_cases undecided : (greeting.readOn earlier).event = .pending
    · obtain ⟨still, drained, less⟩ := kept.read undecided buffer
      refine ⟨still, fun _ => ?_⟩
      by_cases waits : (greeting.readOn earlier).watched.source.cues = []
      · exact .inl (drained waits)
      · -- The earlier reads left something, so all of them made a difference, as this one does.
        have earlier := (before undecided).resolve_left waits
        have last := less waits
        exact .inr (by omega)
    · -- A client that was decided earlier stays as it is.
      have same : (greeting.readOn earlier).turn { buffer } = greeting.readOn earlier :=
        turn_decided undecided _
      rw [same]
      exact ⟨kept, fun pending => absurd pending undecided⟩

/-- After reads enough a client has the verdict that all of its stream deserves. -/
theorem Fed.settled (fed : Fed pushed greeting) {buffers : List Bytes}
    (enough : pushed.length + preambleLimit ≤ buffers.length) :
    ∃ verdict, Deserves (pushed.flatMap ReceiptCue.bytes) verdict ∧
      (greeting.readOn buffers).event = verdict.event := by
  -- With so many reads either a verdict was given or nothing is left to take.
  obtain ⟨last, drains⟩ := fed.drains buffers
  obtain ⟨verdict, deserves, event, -⟩ := last.judged
  by_cases undecided : verdict = .pending
  · -- Still undecided, the client has taken all that there is.
    subst undecided
    have short := deserves.short
    have drained : (greeting.readOn buffers).watched.source.cues = [] := by
      refine (drains event).resolve_right fun late => ?_
      have few := fed.fewer
      unfold left at late
      omega
    have octets := last.octets
    rw [CuedReceiver.queued, drained, List.flatMap_nil, List.append_nil] at octets
    exact ⟨_, octets ▸ deserves, event⟩
  · -- A verdict on the octets taken is the verdict on all that was prepared.
    have begins : (greeting.readOn buffers).seen <+: pushed.flatMap ReceiptCue.bytes :=
      ⟨_, last.octets⟩
    exact ⟨verdict, deserves.longer begins undecided, event⟩

variable {σ : Type} [Receiver σ]

/--
A client is judged by the first octets of its stream, whatever pieces they come in.

Each read of an undecided client makes one receive, for what is left of the searched octets, and
leaves the buffer alone; its event and its reader are those of the verdict that all octets so far
deserve, unless the stream ended. So no verdict contradicts a stream that the octets are the start
of, and a stream that goes on is given the verdict it deserves once it was read often enough. The
search itself gives every chunk the verdict that the chunks up to it deserve as one piece, and the
first verdict that is not left open is the one of the whole.
-/
theorem judged_by_first_octets [LawfulReceiver σ] :
    (∀ (source : σ) (turns : List (Turn σ)) (step : Turn σ),
      let before := after source turns
      let later := before.turn step
      before.event = .pending →
        before.seen.length < preambleLimit ∧ ¬ handshakeMarker <:+: before.seen ∧
        (before.next step).buffer = step.buffer ∧ later.seen.length ≤ preambleLimit ∧
        ∃ receipt,
          later.watched.draws =
            before.watched.draws ++ [⟨preambleLimit - before.seen.length, receipt⟩] ∧
          (receipt.ends = false → ∀ verdict,
            (later.event = verdict.event ↔ Deserves later.seen verdict) ∧
            (Deserves later.seen verdict → later.reader = verdict.reader later.seen))) ∧
    (∀ (source : σ) (turns : List (Turn σ)) (stream : Bytes),
      let greeting := after source turns
      greeting.seen <+: stream → ∀ verdict, verdict ≠ .pending →
        greeting.event = verdict.event → Deserves stream verdict) ∧
    (∀ (steps : List CuedTurn) (buffers : List Bytes),
      let cues := steps.flatMap CuedTurn.cues
      let greeting := (after ⟨[]⟩ (steps.map CuedTurn.toTurn)).readOn buffers
      (∀ cue ∈ cues, cue.goesOn = true) → cues.length + preambleLimit ≤ buffers.length →
        ∀ verdict, greeting.event = verdict.event ↔
          Deserves (cues.flatMap ReceiptCue.bytes) verdict) ∧
    ∀ (chunks : List Bytes) (chunk : Bytes) (verdict : PreambleVerdict),
      (((Preamble.fed chunks).feed chunk).1 = verdict ↔
        Deserves (chunks ++ [chunk]).flatten verdict) ∧
      (Preamble.judge {} chunks = verdict ↔ Deserves chunks.flatten verdict) := by
  refine ⟨?_, ?_, ?_, ?_⟩
  · -- One read: an undecided client is judged, and a read of it judges again.
    intro source turns step before later undecided
    have judged := (sound_after source turns).judged_of_event .pending undecided
    have deserves := (judged.undecided undecided).1
    obtain ⟨receipt, reads⟩ := judged.reads undecided step
    refine ⟨deserves.short, deserves.unmarked, reads.untouched, reads.bounded, receipt,
      reads.noted, fun goesOn verdict => ?_⟩
    obtain ⟨given, said, event, reader⟩ := reads.judged goesOn
    refine ⟨said.event_iff event verdict, fun also => ?_⟩
    rw [← said.unique also]
    exact reader
  · -- Any stream: the verdict was on its first octets.
    intro source turns stream greeting begins verdict decided announced
    have judged := (sound_after source turns).judged_of_event verdict announced
    obtain ⟨given, said, event, -⟩ := judged
    exact ((said.event_iff event verdict).mp announced).longer begins decided
  -- Enough reads settle the client, and a verdict is the only one deserved.
  · intro steps buffers cues greeting goesOn enough
    obtain ⟨verdict, deserves, event⟩ := (fed_after steps goesOn).settled enough
    exact deserves.event_iff event
  · -- The search without a reader: what it keeps of the chunks is what is searched of them.
    intro chunks chunk verdict
    have fed : ((Preamble.fed chunks).feed chunk).1 =
        (Preamble.fed (chunks ++ [chunk])).verdict := by
      rw [Preamble.fed_eq, Preamble.fed_eq, Preamble.feed, Preamble.extend_take,
        List.flatten_append, List.flatten_singleton]
    rw [fed, Preamble.fed_eq]
    exact ⟨(Preamble.verdict_take _).eq_iff verdict, (Preamble.judge_deserves [] deserves_nil
      chunks).eq_iff verdict⟩

/-- The marker behind so many spaces, cut in two, with nothing there in between. -/
def indented (spaces : Nat) : List CuedTurn :=
  [{ cues := [.segment (List.replicate spaces 32), .pending], buffer := [7, 7] },
    { cues := [.segment (handshakeMarker.take 5)], buffer := [] },
    { cues := [.pending, .segment (handshakeMarker.drop 5)], buffer := [7] }]

/-- A marker that ends with the last octet searched is seen, and one octet later it is not. -/
theorem judged_by_first_octets_indented :
    let prepared (spaces : Nat) := (indented spaces).map CuedTurn.toTurn
    let greeting (spaces : Nat) :=
      (after ⟨[]⟩ (prepared spaces)).readOn (List.replicate 105 [])
    (greeting 86).event = .handshakeAccepted ∧ (greeting 87).event = .handshakeRejected ∧
      ((after ⟨[]⟩ (prepared 86)).next { buffer := [7] }).buffer = [7] ∧
      ∀ rest, Deserves ((after ⟨[]⟩ (prepared 86 ++ prepared 0)).seen ++ rest) .matched := by
  intro prepared greeting
  -- Which verdict the two streams deserve is evaluated, and what the reads said follows.
  obtain ⟨reads, contradicts, settles, -⟩ := @judged_by_first_octets CuedReceiver _ _
  -- With 86 blanks in front the marker ends at the limit, with 87 behind it.
  have accepted : (greeting 86).event = .handshakeAccepted :=
    (settles (indented 86) _ (by decide +kernel) (by decide +kernel) .matched).mpr
      (.matched (by decide +kernel))
  have rejected : (greeting 87).event = .handshakeRejected :=
    (settles (indented 87) _ (by decide +kernel) (by decide +kernel) .rejected).mpr
      (.rejected (by decide +kernel) (by decide +kernel))
  have untouched : ((after ⟨[]⟩ (prepared 86)).next { buffer := [7] }).buffer = [7] :=
    (reads ⟨[]⟩ (prepared 86) { buffer := [7] } (by decide +kernel)).2.2.1
  refine ⟨accepted, rejected, untouched, fun rest => ?_⟩
  exact contradicts ⟨[]⟩ (prepared 86 ++ prepared 0) _ (List.prefix_append ..) .matched nofun
    (by decide +kernel)

end Greeting

end CompanionLink
