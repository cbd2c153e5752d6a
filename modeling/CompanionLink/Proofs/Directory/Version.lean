import CompanionLink.Proofs.Directory.Quiet
import CompanionLink.Proofs.Directory.Replay

/-!
What the version of a directory tells. Every change advances it and nothing else does, so a reader
that finds the version it knows need not look at the entries.
-/

namespace CompanionLink

namespace Directory

/-- Whether an update is reported as a change; forgetting everything reports nothing. -/
def reports (directory : Directory) : Update → Bool
  | .batch changed removed => (directory.applyChanges changed removed).1
  | .property id property => (directory.applyProperty id property).1
  | .clear => false

/-- What an update does to a directory. -/
inductive Writes (directory : Directory) (update : Update) : Directory → Prop
  | nothing (silent : directory.reports update = false) : Writes directory update directory
  | change {entries : List AccessPoint}
    (noticed : directory.reports update = true ∨ entries ≠ directory.entries) :
    Writes directory update (directory.replaced entries)

/-- An update that is no change writes nothing, and a change puts a list under the next version. -/
theorem update_writes {directory : Directory} (distinct : DistinctIds directory.entries)
    (update : Update) : Writes directory update (directory.update update) := by
  -- A batch and a property report what they did, and write exactly if they report a change.
  cases update with
  | batch changed removed =>
    cases reported : (directory.applyChanges changed removed).1 with
    | false =>
      rw [Directory.update, applyChanges_unchanged distinct reported]
      exact .nothing reported
    | true =>
      -- What was reported decides the branch in which the new list is written.
      have written : (directory.applyChanges changed removed).2 =
          directory.replaced (afterBatch directory.entries changed removed).2 := by
        unfold applyChanges at reported ⊢
        dsimp only at reported ⊢
        split at reported
        · next loud => rw [if_pos loud]
        · cases reported
      rw [Directory.update, written]
      exact .change (.inl reported)
  -- A property goes the same way, with the entry that it is merged into.
  | property id property =>
    cases reported : (directory.applyProperty id property).1 with
    | false =>
      rw [Directory.update, applyProperty_unchanged reported]
      exact .nothing reported
    | true =>
      have written : (directory.applyProperty id property).2 =
          directory.replaced (mergeInto directory.entries ⟨id, [property]⟩).2 := by
        unfold applyProperty at reported ⊢
        dsimp only at reported ⊢
        split at reported
        · next loud => rw [if_pos loud]
        · cases reported
      rw [Directory.update, written]
      exact .change (.inl reported)
  | clear =>
    -- Nothing is reported here, so a change shows in the entries alone.
    rw [Directory.update, clear]
    split
    · exact .nothing rfl
    · next full =>
      refine .change (.inr fun empty => full ?_)
      rw [← empty]
      rfl

/-- Below the last version the next one is one more. -/
theorem toNat_nextVersion {version : UInt32} (below : version < 0xFFFFFFFF) :
    (nextVersion version).toNat = version.toNat + 1 := by
  -- Adding one does not wrap around, since the last version is left out.
  have bound : version.toNat < 4294967295 := UInt32.lt_iff_toNat_lt.mp below
  have inner : version ≠ 0xFFFFFFFF := by
    rintro rfl
    exact absurd bound (by decide)
  rw [nextVersion, if_neg inner, UInt32.toNat_add]
  exact Nat.mod_eq_of_lt (by simp; omega)

/-- No version follows another as zero. -/
theorem nextVersion_ne_zero (version : UInt32) : nextVersion version ≠ 0 := by
  -- At its end the version goes back to one, and before it one is added.
  unfold nextVersion
  split
  · decide
  · next inner =>
    -- Adding one gives zero only at the last version, which is the other case.
    intro wrapped
    have count := congrArg UInt32.toNat wrapped
    rw [UInt32.toNat_add] at count
    have bound := version.toNat_lt
    have last : version.toNat = 4294967295 := by
      simp only [UInt32.toNat_one, UInt32.toNat_zero] at count
      omega
    exact inner (UInt32.toNat_inj.mp last)

/-- An update advances the version by one exactly if it reports or makes a change. -/
theorem Writes.version {directory after : Directory} {update : Update}
    (writes : Writes directory update after) (below : directory.version < 0xFFFFFFFF) :
    after.version.toNat = directory.version.toNat +
      if directory.reports update = true ∨ after.entries ≠ directory.entries then 1 else 0 := by
  -- What is written as a change is counted, and only that.
  cases writes with
  | nothing silent => simp [silent]
  | change noticed =>
    rw [replaced, toNat_nextVersion below, if_pos noticed]

/-- An update that leaves the version leaves the entries, unless the version has come to its end. -/
theorem Writes.eq_of_version {directory after : Directory} {update : Update}
    (writes : Writes directory update after) (below : directory.version < 0xFFFFFFFF)
    (same : after.version.toNat = directory.version.toNat) : after = directory := by
  -- A change would have advanced the version.
  cases writes with
  | nothing => rfl
  | change =>
    rw [replaced, toNat_nextVersion below] at same
    omega

/-- Only a directory that was never listed has version zero. -/
def Numbered (directory : Directory) : Prop := directory.version = 0 → directory.entries = []

/-- An update keeps a version that is not zero from becoming zero. -/
theorem Writes.version_ne_zero {directory after : Directory} {update : Update}
    (writes : Writes directory update after) (counted : directory.version ≠ 0) :
    after.version ≠ 0 := by
  -- An update keeps the version or goes on to the next one.
  cases writes with
  | nothing => exact counted
  | change => exact nextVersion_ne_zero _

/-- An update keeps zero for directories that were never listed. -/
theorem Writes.numbered {directory after : Directory} {update : Update}
    (writes : Writes directory update after) (numbered : Numbered directory) : Numbered after := by
  -- A change leaves a version that is not zero.
  cases writes with
  | nothing => exact numbered
  | change => exact fun zero => absurd zero (nextVersion_ne_zero _)

section Replay

variable {updates : List Update}

/-- The next point of a run is one update further. -/
theorem replay_take_succ {n : Nat} (within : n < updates.length) :
    replay (updates.take (n + 1)) = (replay (updates.take n)).update updates[n] := by
  -- The updates so far and the next one are the updates up to there.
  rw [← List.take_append_getElem within, replay, List.foldl_append]
  rfl

/-- Each update of a run writes what it does at its point of the run. -/
theorem replay_writes {n : Nat} (within : n < updates.length) :
    Writes (replay (updates.take n)) updates[n] (replay (updates.take (n + 1))) := by
  -- Identities are distinct at every point, which is what the law of one update asks for.
  rw [replay_take_succ within]
  exact update_writes (distinctIds_replay _) _

/-- What every update of a run keeps, holds at each point behind one at which it holds. -/
theorem replay_keeps {kept : Directory → Prop} {m n : Nat} (order : m ≤ n)
    (keeps : ∀ k (within : k < updates.length),
      Writes (replay (updates.take k)) updates[k] (replay (updates.take (k + 1))) →
      kept (replay (updates.take k)) → kept (replay (updates.take (k + 1))))
    (before : kept (replay (updates.take m))) : kept (replay (updates.take n)) := by
  -- The points between the two are passed one after the other.
  induction order with
  | refl => exact before
  | @step n order ih =>
    rw [Nat.succ_eq_add_one]
    by_cases within : n < updates.length
    · exact keeps n within (replay_writes within) ih
    · -- Behind its last update a run stays where it is.
      have beyond : updates.length ≤ n := Nat.le_of_not_lt within
      rw [List.take_of_length_le (Nat.le_succ_of_le beyond), ← List.take_of_length_le beyond]
      exact ih

/-- The later of two points of a run has no lower version, and the same only if it is equal. -/
theorem replay_mono (below : ∀ n < updates.length, (replay (updates.take n)).version < 0xFFFFFFFF)
    {m n : Nat} (order : m ≤ n) :
    (replay (updates.take m)).version.toNat ≤ (replay (updates.take n)).version.toNat ∧
      ((replay (updates.take n)).version.toNat = (replay (updates.take m)).version.toNat →
        replay (updates.take n) = replay (updates.take m)) := by
  -- Both are carried from each point to the next one, starting with nothing to show.
  let start := replay (updates.take m)
  let Follows (later : Directory) : Prop := start.version.toNat ≤ later.version.toNat ∧
    (later.version.toNat = start.version.toNat → later = start)
  have follows : Follows (replay (updates.take n)) := by
    refine replay_keeps order ?_ ⟨Nat.le_refl _, fun _ => rfl⟩
    rintro k within writes ⟨grown, equal⟩
    have counted := writes.version (below k within)
    refine ⟨by omega, fun same => ?_⟩
    -- Between two equal versions no update can have advanced it.
    have still := writes.eq_of_version (below k within) (by omega)
    rw [still] at same ⊢
    exact equal same
  exact follows

/-- Zero is kept for directories that were never listed, at every point of a run. -/
theorem numbered_replay (n : Nat) : Numbered (replay (updates.take n)) :=
  -- The empty directory is numbered, and every update keeps that.
  replay_keeps (Nat.zero_le n) (fun _ _ writes => writes.numbered) fun _ => rfl

/-- Once something was listed the version is never zero again. -/
theorem version_ne_zero_of_listed {m n : Nat} (order : m ≤ n)
    (listed : (replay (updates.take m)).entries ≠ []) :
    (replay (updates.take n)).version ≠ 0 := by
  -- Listing something counts, and no version follows another as zero.
  let Counted (later : Directory) : Prop := later.version ≠ 0
  have counted : Counted (replay (updates.take m)) := fun zero => listed (numbered_replay m zero)
  have kept : Counted (replay (updates.take n)) :=
    replay_keeps order (fun _ _ writes => writes.version_ne_zero) counted
  exact kept

end Replay

/--
In every run of updates whose version does not come to its end, the version tells the entries.

At every point identities are distinct. Each update advances the version by one if it reports or
makes a change, and leaves it otherwise. Two points with the same version have the same entries,
and the version is not zero at or behind a point where something is listed.
-/
theorem version_tells_entries (updates : List Update)
    (below : ∀ n < updates.length, (replay (updates.take n)).version < 0xFFFFFFFF) :
    (∀ n, ((replay (updates.take n)).entries.map AccessPoint.id).Nodup) ∧
    (∀ n (within : n < updates.length),
      let before := replay (updates.take n)
      let after := before.update updates[n]
      after.version.toNat = before.version.toNat +
        if before.reports updates[n] = true ∨ after.entries ≠ before.entries then 1 else 0) ∧
    (∀ m n, (replay (updates.take m)).version = (replay (updates.take n)).version →
      (replay (updates.take m)).entries = (replay (updates.take n)).entries) ∧
    ∀ m n, m ≤ n → (replay (updates.take m)).entries ≠ [] →
      (replay (updates.take n)).version ≠ 0 := by
  -- Each part is a law of its own; the step law needs that the version does not wrap.
  refine ⟨fun n => distinctIds_replay _, fun n within => ?_, fun m n same => ?_,
    fun m n order listed => version_ne_zero_of_listed order listed⟩
  · exact (update_writes (distinctIds_replay _) _).version (below n within)
  · -- Whichever point comes first, the other one has come no further.
    have count := congrArg UInt32.toNat same
    rcases Nat.le_total m n with order | order
    · rw [(replay_mono below order).2 count.symm]
    · rw [(replay_mono below order).2 count]

/--
A run that lists, repeats, turns round, corrects twice in one report, tells a property that is known
and one that is new, and forgets.
-/
def turnover : List Update :=
  [.batch [⟨"a", [.name "attic"]⟩, ⟨"b", []⟩] [], .batch [⟨"a", []⟩, ⟨"b", []⟩] ["c"],
    .batch [⟨"b", []⟩, ⟨"a", []⟩] [],
    .batch [⟨"b", [.favorite true, .favorite false]⟩, ⟨"a", []⟩] [],
    .property "a" (.name "attic"), .property "a" (.favorite true), .clear]

/--
Turning the list round is a change, correcting a value back is reported as one, and of two
properties only the new one counts.
-/
theorem version_tells_entries_turnover :
    (∀ n < turnover.length, (replay (turnover.take n)).version < 0xFFFFFFFF) ∧
    (replay (turnover.take 1)).entries = (replay (turnover.take 2)).entries ∧
    (replay turnover).version ≠ 0 ∧
    ((List.range 8).map fun n => (replay (turnover.take n)).version) =
      [0, 1, 1, 2, 3, 3, 4, 5] := by
  -- The version stays below its end; its course is computed.
  have below : ∀ n < turnover.length, (replay (turnover.take n)).version < 0xFFFFFFFF := by decide
  obtain ⟨-, -, equal, counted⟩ := version_tells_entries turnover below
  exact ⟨below, equal 1 2 (by decide), counted 1 7 (by decide) (by decide), by decide⟩

end Directory

end CompanionLink
