import CompanionLink.Proofs.Pairing.Read

/-! A source under watch: what is asked of it is written down, and a read is none the wiser. -/

namespace CompanionLink

/-- A source with every receive from it so far. -/
structure Watched (σ : Type) where
  source : σ
  draws : List Draw := []
deriving Repr

namespace Watched

variable {σ : Type} [Receiver σ]

/-- One receive, which is written down. -/
def receive (watched : Watched σ) (wanted : Nat) : Receipt × Watched σ :=
  let (receipt, source) := Receiver.receive watched.source wanted
  (receipt, ⟨source, watched.draws ++ [⟨wanted, receipt⟩]⟩)

/-- The watched source is received from like the source itself. -/
instance : Receiver (Watched σ) := ⟨receive⟩

/-- Writing a receive down hands on what was received, so the law of the source stays. -/
instance [LawfulReceiver σ] : LawfulReceiver (Watched σ) where
  length_le watched wanted := LawfulReceiver.length_le watched.source wanted

end Watched

variable {σ : Type} [Receiver σ]

/-- The receives from a watched source are those that it has written down. -/
theorem Draws.watched {watched last : Watched σ} {draws : List Draw}
    (drawn : Draws watched draws last) : last.draws = watched.draws ++ draws := by
  -- Each receive adds itself behind those before it.
  induction drawn with
  | done => exact (List.append_nil _).symm
  | @more watched next last wanted receipt later received rest ih =>
    have noted : next.draws = watched.draws ++ [⟨wanted, receipt⟩] := by
      cases received
      rfl
    rw [ih, noted, List.append_assoc, List.singleton_append]

/-- The result of a read, with the source seen in another way. -/
def ReadResult.mapSource {σ τ : Type} (view : σ → τ) (result : ReadResult σ) : ReadResult τ :=
  ⟨result.event, result.reader, view result.source, result.buffer⟩

namespace FrameReader

section View

variable {τ : Type} [Receiver τ] (view : σ → τ)
  (faithful : ∀ source wanted, Receiver.receive (view source) wanted =
    ((Receiver.receive source wanted).1, view (Receiver.receive source wanted).2))

include faithful

/-- A receive into the buffer depends on the source only through what it answers. -/
theorem receiveInto_view (reader : FrameReader) (source : σ) (buffer : Bytes) (offset size : Nat)
    (arrived : Nat → ReadEvent × FrameReader) :
    receiveInto reader (view source) buffer offset size arrived =
      (receiveInto reader source buffer offset size arrived).mapSource view := by
  -- The answer is the same for both, and each of its forms is treated alike.
  unfold receiveInto
  rw [faithful]
  rcases Receiver.receive source size with ⟨⟨_ | _⟩ | _ | _, _⟩ <;> rfl

/-- A read of payload octets depends on the source only through what it answers. -/
theorem readPayload_view (reader : FrameReader) (source : σ) (buffer : Bytes) :
    readPayload reader (view source) buffer =
      (readPayload reader source buffer).mapSource view := by
  -- The tests on the buffer do not look at the source, and behind them comes one receive.
  unfold readPayload
  cases reader <;> simp only [receiveInto_view view faithful] <;> (repeat' split) <;> rfl

/-- A read of the preamble depends on the source only through what it answers. -/
theorem readPreamble_view (preamble : Preamble) (source : σ) (buffer : Bytes) :
    readPreamble preamble (view source) buffer =
      (readPreamble preamble source buffer).mapSource view := by
  -- The scan of the octets that arrived does not look at the source.
  unfold readPreamble
  rw [faithful]
  rcases Receiver.receive source preamble.room with ⟨⟨_ | _⟩ | _ | _, _⟩ <;> dsimp only
  case _ => rfl
  · split <;> rfl
  all_goals rfl

/-- Opening a frame depends on the source only through what it answers. -/
theorem openFrame_view (low high : UInt8) (source : σ) (buffer : Bytes) :
    openFrame low high (view source) buffer =
      (openFrame low high source buffer).mapSource view := by
  -- Whether a payload follows is decided by the length alone.
  unfold openFrame
  simp only [readPayload_view view faithful]
  split
  · rfl
  · split <;> rfl

/-- A read for a length depends on the source only through what it answers. -/
theorem readLength_view (collected : Bytes) (source : σ) (buffer : Bytes) :
    readLength collected (view source) buffer =
      (readLength collected source buffer).mapSource view := by
  -- A length that is complete opens the frame, which may receive a second time.
  unfold readLength
  rw [faithful]
  split
  · rfl
  · rcases Receiver.receive source (lengthPrefixSize - collected.length) with ⟨⟨_ | _⟩ | _ | _, _⟩
    case _ => rfl
    · dsimp only
      split
      -- The length is complete, so its frame is opened behind it.
      · exact openFrame_view view faithful ..
      · rfl
    all_goals rfl

/-- A read depends on the source only through what it answers. -/
theorem read_view (reader : FrameReader) (source : σ) (buffer : Bytes) :
    reader.read (view source) buffer = (reader.read source buffer).mapSource view := by
  -- Each place in a frame has its own way to read, and none of them looks at the source.
  cases reader with
  | idle => rfl
  | awaitHandshake preamble => exact readPreamble_view view faithful preamble source buffer
  | awaitLength collected => exact readLength_view view faithful collected source buffer
  | assembling | opening | collecting =>
    rw [read_eq_readPayload rfl, read_eq_readPayload rfl]
    exact readPayload_view view faithful _ source buffer

end View

/-- A read of a watched source is the read of the source. -/
theorem read_watched (reader : FrameReader) (watched : Watched σ) (buffer : Bytes) :
    (reader.read watched buffer).mapSource Watched.source =
      reader.read watched.source buffer :=
  -- What a watched receive answers is by definition what its source answers.
  (read_view Watched.source (fun _ _ => rfl) reader watched buffer).symm

/-- Wherever a reader stands, its receives lead to the source that it leaves. -/
theorem exists_draws_read (reader : FrameReader) (source : σ) (buffer : Bytes) :
    ∃ draws, Draws source draws (reader.read source buffer).source := by
  -- Behind the preamble the list of what a read can do names its receives.
  by_cases framed : reader.isFramed = true
  · obtain ⟨draws, read⟩ := frameRead_read framed source buffer
    exact ⟨draws, read.drawn⟩
  cases reader with
  | idle => exact ⟨[], .done⟩
  | awaitHandshake preamble =>
    -- The preamble is searched in what one receive brings.
    rcases received : Receiver.receive source preamble.room with ⟨receipt, later⟩
    refine ⟨[⟨preamble.room, receipt⟩], ?_⟩
    have left : (readPreamble preamble source buffer).source = later := by
      unfold readPreamble
      rw [received]
      rcases receipt with ⟨_ | _⟩ | _ | _ <;> dsimp only
      split <;> rfl
    rw [read, left]
    exact .one received
  | awaitLength | assembling | opening | collecting => exact absurd rfl framed

/-- A read only adds to what is written down. -/
theorem draws_read (reader : FrameReader) (watched : Watched σ) (buffer : Bytes) :
    watched.draws <+: (reader.read watched buffer).source.draws := by
  -- The receives of this read are the ones behind those written down before.
  obtain ⟨draws, drawn⟩ := exists_draws_read reader watched buffer
  exact ⟨draws, drawn.watched.symm⟩

end FrameReader

end CompanionLink
