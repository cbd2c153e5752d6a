import CompanionLink.Proofs.Directory.Identity

/-!
Batches and properties that are reported as no change. The report is put together on the way, from
what each removal and each reported access point did; if none did anything, nothing is changed.
-/

namespace CompanionLink

namespace Directory

/-- Merging that counts as no change leaves the list as it is. -/
theorem mergeInto_unchanged {listed : List AccessPoint} {report : Report}
    (quiet : (mergeInto listed report).1 = false) : (mergeInto listed report).2 = listed := by
  -- Either the first access point is meant, or the others are searched.
  induction listed with
  | nil => rfl
  | cons point later ih =>
    unfold mergeInto at quiet ⊢
    split at quiet
    -- A report that tells nothing new leaves the access point as it is.
    · next found =>
      rw [if_pos found]
      exact congrArg (· :: later) (AccessPoint.applyAll_unchanged quiet)
    · next other =>
      rw [if_neg other]
      exact congrArg (point :: ·) (ih quiet)

/-- Removals that hit nothing leave the list as it is. -/
theorem dropRemoved_unchanged {entries : List AccessPoint} {removed : List String}
    (quiet : (dropRemoved entries removed).1 = false) :
    (dropRemoved entries removed).2 = entries := by
  induction removed generalizing entries with
  -- No removals drop nothing.
  | nil => rfl
  | cons id later ih =>
    simp only [dropRemoved, Bool.or_eq_false_iff] at quiet ⊢
    -- Nothing has the first identity, so dropping it drops nothing.
    have missed : dropId entries id = entries := by
      apply List.eraseP_of_forall_not
      simpa using quiet.1
    rw [missed] at quiet ⊢
    exact ih quiet.2

/-- A report that counts as no change only moves an access point from the old list to the new. -/
theorem relist_untouched {relisting : Relisting} {report : Report}
    (quiet : (relist relisting report).touched = false) :
    relisting.touched = false ∧
      ((relist relisting report).listed ++ (relist relisting report).old).Perm
        (relisting.listed ++ relisting.old) := by
  -- A quiet step moves an access point from the old list to the new one at most.
  unfold relist at quiet ⊢
  split at quiet
  · -- It was listed before in this batch and reported nothing new since.
    next known =>
    rw [if_pos known]
    simp only [Bool.or_eq_false_iff] at quiet
    refine ⟨quiet.1, ?_⟩
    simp only [mergeInto_unchanged quiet.2]
    exact .refl _
  · -- A new access point would count, so this one was among the old ones and moves over.
    next fresh =>
    rw [if_neg fresh]
    split at quiet
    · next point found =>
      simp only [Bool.or_eq_false_iff] at quiet
      refine ⟨quiet.1, ?_⟩
      simp only [AccessPoint.applyAll_unchanged quiet.2, List.append_assoc]
      exact (perm_cons_dropId found).append_left relisting.listed
    · cases quiet

/-- Reports that count as no change only move access points from the old list to the new. -/
theorem foldl_relist_untouched {relisting : Relisting} {batch : List Report}
    (quiet : (batch.foldl relist relisting).touched = false) :
    relisting.touched = false ∧
      ((batch.foldl relist relisting).listed ++ (batch.foldl relist relisting).old).Perm
        (relisting.listed ++ relisting.old) := by
  -- What the whole batch left untouched, its first report left untouched.
  induction batch generalizing relisting with
  | nil => exact ⟨quiet, .refl _⟩
  | cons report later ih =>
    obtain ⟨first, rest⟩ := ih quiet
    obtain ⟨start, moved⟩ := relist_untouched first
    exact ⟨start, rest.trans moved⟩

/-- A batch that counts as no change on the way reorders the entries at most. -/
theorem afterBatch_untouched {entries : List AccessPoint} {changed : List Report}
    {removed : List String} (quiet : (afterBatch entries changed removed).1 = false) :
    (afterBatch entries changed removed).2.Perm entries := by
  -- A batch without reports does nothing but its removals.
  unfold afterBatch at quiet ⊢
  by_cases silent : changed.isEmpty = true
  · simp only [silent, if_true] at quiet ⊢
    rw [dropRemoved_unchanged quiet]
  -- With reports, neither one of them nor a removal has touched anything.
  · simp only [silent, Bool.false_eq_true, if_false, Bool.or_eq_false_iff, Bool.not_eq_false',
      List.isEmpty_iff] at quiet ⊢
    obtain ⟨untouched, moved⟩ := foldl_relist_untouched quiet.1
    -- No access point is left among the old ones, so all of them were moved over.
    rw [quiet.2, List.append_nil, List.nil_append] at moved
    rw [dropRemoved_unchanged untouched] at moved ⊢
    exact moved

/-- A batch that is reported as no change leaves the directory as it is. -/
theorem applyChanges_unchanged {directory : Directory} (distinct : DistinctIds directory.entries)
    {changed : List Report} {removed : List String}
    (quiet : (directory.applyChanges changed removed).1 = false) :
    (directory.applyChanges changed removed).2 = directory := by
  unfold applyChanges at quiet ⊢
  dsimp only at quiet ⊢
  split at quiet
  · cases quiet
  · next still =>
    rw [if_neg still]
    simp only [Bool.or_eq_true, bne_iff_ne, not_or, Bool.not_eq_true, Decidable.not_not] at still
    -- Nothing was touched, so only the order could differ, and that was compared.
    have same := eq_of_perm_of_ids distinct (afterBatch_untouched still.1) still.2
    simp only [same]

/-- A property that is reported as no change leaves the directory as it is. -/
theorem applyProperty_unchanged {directory : Directory} {id : String} {property : Property}
    (quiet : (directory.applyProperty id property).1 = false) :
    (directory.applyProperty id property).2 = directory := by
  -- A property is merged like a report of its own.
  unfold applyProperty at quiet ⊢
  dsimp only at quiet ⊢
  split at quiet
  · cases quiet
  · next still =>
    rw [if_neg still]
    simp only [mergeInto_unchanged (Bool.not_eq_true _ ▸ still)]

end Directory

end CompanionLink
