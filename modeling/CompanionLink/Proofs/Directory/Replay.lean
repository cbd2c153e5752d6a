import CompanionLink.Proofs.Directory.Batch

/-! The directories that some sequence of updates leads to, and what holds of each of them. -/

namespace CompanionLink

namespace Directory

/-- One call that writes to a directory. -/
inductive Update where
  | batch (changed : List Report) (removed : List String)
  | property (id : String) (property : Property)
  | clear
deriving DecidableEq, Repr, Inhabited

/-- The directory after one update. -/
def update (directory : Directory) : Update → Directory
  | .batch changed removed => (directory.applyChanges changed removed).2
  | .property id property => (directory.applyProperty id property).2
  | .clear => directory.clear

/-- The directory that updates lead to from the empty one. -/
def replay (updates : List Update) : Directory :=
  updates.foldl update {}

/-- A batch keeps identities distinct. -/
theorem distinctIds_applyChanges {directory : Directory} (distinct : DistinctIds directory.entries)
    (changed : List Report) (removed : List String) :
    DistinctIds (directory.applyChanges changed removed).2.entries := by
  -- Either a part of the old list is left, or a listing that names each identity once.
  rw [applyChanges_entries, afterBatch_entries distinct]
  by_cases silent : changed = []
  · rw [if_pos silent]
    exact distinct.filter _
  · rw [if_neg silent]
    exact distinctIds_listing _ _

/-- A property keeps identities distinct. -/
theorem distinctIds_applyProperty {directory : Directory}
    (distinct : DistinctIds directory.entries) (id : String) (property : Property) :
    DistinctIds (directory.applyProperty id property).2.entries := by
  -- Whether it counts as a change or not, the entries are those with the property merged in.
  have merged : (directory.applyProperty id property).2.entries =
      (mergeInto directory.entries ⟨id, [property]⟩).2 := by
    simp only [applyProperty]
    split <;> rfl
  rw [merged, DistinctIds, mergeInto_ids]
  exact distinct

/-- Forgetting everything leaves no identity to share. -/
theorem distinctIds_clear {directory : Directory} (distinct : DistinctIds directory.entries) :
    DistinctIds directory.clear.entries := by
  -- Either nothing was listed, or nothing is.
  unfold clear
  split
  · exact distinct
  · exact List.nodup_nil

/-- Every update keeps identities distinct. -/
theorem distinctIds_update {directory : Directory} (distinct : DistinctIds directory.entries)
    (update : Update) : DistinctIds (directory.update update).entries := by
  -- One case for each kind of update.
  cases update with
  | batch changed removed => exact distinctIds_applyChanges distinct changed removed
  | property id property => exact distinctIds_applyProperty distinct id property
  | clear => exact distinctIds_clear distinct

/-- No two access points share an identity, however the directory came about. -/
theorem distinctIds_replay (updates : List Update) : DistinctIds (replay updates).entries := by
  -- The property is kept by each update, so it is carried from any directory that has it.
  have carried : ∀ directory : Directory, DistinctIds directory.entries →
      DistinctIds (updates.foldl update directory).entries := by
    induction updates with
    | nil => exact fun directory distinct => distinct
    | cons update later ih =>
      intro directory distinct
      exact ih _ (distinctIds_update distinct update)
  exact carried {} List.nodup_nil

/--
What a batch makes of any directory: without reports, the entries that it does not remove.

With reports, one entry for each reported identity in the order of first mention: the entry that
the removals left under that identity, or a fresh one, with everything that the batch reports for
it taken in order, so that each field holds the last value reported and otherwise the old one.
-/
theorem entries_after_batch (updates : List Update) (changed : List Report)
    (removed : List String) :
    let directory := replay updates
    let kept := directory.entries.filter fun point => !removed.contains point.id
    let after := (directory.applyChanges changed removed).2.entries
    (after =
      if changed = [] then kept
      else (changed.map Report.id).eraseDups.map fun id =>
        ((kept.find? fun point => point.id == id).getD { id }).absorb changed) ∧
    (after.map AccessPoint.id).Nodup ∧
    ∀ point : AccessPoint,
      point.absorb changed = point.updated (AccessPoint.reportedFor changed point.id) := by
  intro directory kept after
  -- The batch law asks for distinct identities, which every history of updates provides.
  have distinct : DistinctIds directory.entries := distinctIds_replay updates
  refine ⟨?_, ?_, ?_⟩
  · exact (applyChanges_entries directory changed removed).trans
      (afterBatch_entries distinct changed removed)
  · exact distinctIds_applyChanges distinct changed removed
  · intro point
    exact AccessPoint.absorb_eq_updated point changed

/-- An access point that is removed and reported twice starts afresh and is listed once. -/
example :
    let known := replay [.batch [⟨"a", [.name "attic"]⟩, ⟨"b", [.favorite true]⟩] []]
    (known.applyChanges [⟨"b", []⟩, ⟨"a", [.state .ready]⟩, ⟨"b", [.mac "02"]⟩] ["a"]).2.entries =
      [{ id := "b", favorite := true, mac := some "02" }, { id := "a", state := .ready }] := by
  decide

end Directory

end CompanionLink
