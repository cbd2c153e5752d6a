import CompanionLink.Proofs.Directory.Identity

/-! What a batch of changes makes of the listed access points, whatever it repeats or removes. -/

namespace CompanionLink

namespace Directory

/-- An identity has a single first occurrence. -/
theorem nodup_eraseDups (ids : List String) : ids.eraseDups.Nodup := by
  -- Every step sets one identity aside and goes on with strictly fewer.
  induction bound : ids.length using Nat.strongRecOn generalizing ids with
  | ind length ih =>
    cases ids with
    | nil => simp
    | cons id later =>
      rw [List.eraseDups_cons, List.nodup_cons]
      -- What is kept of the others is not this identity, and there are fewer of them.
      constructor
      · simp [List.mem_eraseDups]
      · have shorter := List.length_filter_le (fun other => !other == id) later
        rw [List.length_cons] at bound
        exact ih _ (by omega) _ rfl

/-- Another occurrence of an identity adds nothing to the distinct ones. -/
theorem eraseDups_append_of_mem {ids : List String} {id : String} (listed : id ∈ ids) :
    (ids ++ [id]).eraseDups = ids.eraseDups := by
  -- What is appended is among those that are left out of it.
  simp [List.eraseDups_append, List.removeAll, listed]

/-- A first occurrence comes behind the identities before it. -/
theorem eraseDups_append_of_not_mem {ids : List String} {id : String} (fresh : id ∉ ids) :
    (ids ++ [id]).eraseDups = ids.eraseDups ++ [id] := by
  -- Nothing before it is equal, so it stays, at the end.
  simp [List.eraseDups_append, List.removeAll, fresh, List.eraseDups_cons]

/-- The access point of an identity before a batch, a fresh one if the list has none. -/
def former (entries : List AccessPoint) (id : String) : AccessPoint :=
  (entries.find? fun point => point.id == id).getD { id }

/-- The access point that stood for an identity has that identity. -/
@[simp] theorem former_id (entries : List AccessPoint) (id : String) :
    (former entries id).id = id := by
  -- A search by identity finds that identity, and a fresh access point is given it.
  unfold former
  cases found : entries.find? fun point => point.id == id with
  | none => rfl
  | some point => simpa using List.find?_some found

/-- The list that the reports of a batch ask for: one access point per identity, in order. -/
def listing (entries : List AccessPoint) (batch : List Report) : List AccessPoint :=
  (batch.map Report.id).eraseDups.map fun id => (former entries id).absorb batch

/-- The listing names the reported identities, each once, by first occurrence. -/
@[simp] theorem listing_ids (entries : List AccessPoint) (batch : List Report) :
    (listing entries batch).map AccessPoint.id = (batch.map Report.id).eraseDups := by
  -- Taking a batch leaves every identity as it is.
  simp [listing, Function.comp_def]

/-- No identity is listed twice. -/
theorem distinctIds_listing (entries : List AccessPoint) (batch : List Report) :
    DistinctIds (listing entries batch) := by
  -- The identities are listed by their first occurrences.
  rw [DistinctIds, listing_ids]
  exact nodup_eraseDups _

/-- An identity is listed once the batch has reported it. -/
theorem any_listing (entries : List AccessPoint) (batch : List Report) (id : String) :
    (listing entries batch).any (fun point => point.id == id) = true ↔
      id ∈ batch.map Report.id := by
  -- The identities of the listing are those of the reports, repetitions aside.
  rw [← List.mem_eraseDups, ← listing_ids entries batch]
  simp only [List.any_eq_true, beq_iff_eq, List.mem_map]

/-- Reporting a listed identity again changes its access point and leaves the rest. -/
theorem listing_again {entries : List AccessPoint} {batch : List Report} {report : Report}
    (known : report.id ∈ batch.map Report.id) :
    listing entries (batch ++ [report]) =
      (listing entries batch).map fun point => point.take report := by
  -- The same identities are listed, each with one more report taken.
  simp only [listing, List.map_append, List.map_cons, List.map_nil, eraseDups_append_of_mem known,
    List.map_map, Function.comp_def, AccessPoint.absorb_append_singleton]

/-- Reporting a new identity appends the access point that it stood for, with the report. -/
theorem listing_new {entries : List AccessPoint} {batch : List Report} {report : Report}
    (fresh : report.id ∉ batch.map Report.id) :
    listing entries (batch ++ [report]) =
      listing entries batch ++ [(former entries report.id).take report] := by
  -- A fresh access point has taken no report of the batch so far.
  have unnamed : (former entries report.id).id ∉ batch.map Report.id := by
    rw [former_id]
    exact fresh
  simp only [listing, List.map_append, List.map_cons, List.map_nil,
    eraseDups_append_of_not_mem fresh, AccessPoint.absorb_append_singleton,
    AccessPoint.absorb_of_not_mem unnamed]
  congr 1
  -- The access points listed so far have other identities.
  apply List.map_congr_left
  intro id listed
  apply AccessPoint.take_of_ne
  rw [AccessPoint.absorb_id, former_id]
  intro same
  rw [List.mem_eraseDups, ← same] at listed
  exact fresh listed

/-- How far the new list has come after the first reports of a batch. -/
structure Relisting.Follows (entries : List AccessPoint) (seen : List Report)
    (relisting : Relisting) : Prop where
  listed : relisting.listed = listing entries seen
  old : relisting.old = survivors entries (seen.map Report.id)

/-- An identity that the batch has not reported is found among the old entries as before. -/
theorem find_survivors {entries : List AccessPoint} {ids : List String} {id : String}
    (fresh : id ∉ ids) :
    (survivors entries ids).find? (fun point => point.id == id) =
      entries.find? fun point => point.id == id := by
  -- What was moved over has another identity, so leaving it out hides nothing looked for.
  rw [survivors, List.find?_filter]
  congr 1
  funext point
  by_cases found : point.id = id <;> simp [found, fresh]

/-- An identity reported again leaves the old entries as they are. -/
theorem survivors_again {entries : List AccessPoint} {ids : List String} {id : String}
    (known : id ∈ ids) : survivors entries (ids ++ [id]) = survivors entries ids := by
  -- What is left out already is left out once more.
  apply List.filter_congr
  intro point listed
  by_cases named : point.id = id <;> simp [named, known]

/-- Moving an identity over leaves the old entries without it. -/
theorem survivors_without {entries : List AccessPoint} (distinct : DistinctIds entries)
    (ids : List String) (id : String) :
    dropId (survivors entries ids) id = survivors entries (ids ++ [id]) := by
  -- Leaving out the moved ones and then one more is leaving them all out.
  have rest : DistinctIds (survivors entries ids) := distinct.filter _
  rw [dropId_eq_filter rest, survivors, List.filter_filter]
  apply List.filter_congr
  intro point listed
  by_cases named : point.id = id <;> simp [named]

/-- A fresh identity that the old entries do not hold changes nothing there. -/
theorem survivors_absent {entries : List AccessPoint} (ids : List String) {id : String}
    (absent : entries.find? (fun point => point.id == id) = none) :
    survivors entries (ids ++ [id]) = survivors entries ids := by
  -- Nothing has the identity, so leaving it out as well changes nothing.
  apply List.filter_congr
  intro point listed
  have other : point.id ≠ id := by simpa using List.find?_eq_none.mp absent point listed
  simp [other]

/-- One report takes the new list from one point of the batch to the next. -/
theorem Relisting.Follows.relist {entries : List AccessPoint} {seen : List Report}
    {relisting : Relisting} (distinct : DistinctIds entries)
    (follows : Relisting.Follows entries seen relisting) (report : Report) :
    Relisting.Follows entries (seen ++ [report]) (relist relisting report) := by
  obtain ⟨listed, old⟩ := follows
  unfold Directory.relist
  by_cases known : report.id ∈ seen.map Report.id
  · -- The batch reported it before, so it is merged where it stands.
    rw [listed, if_pos ((any_listing entries seen report.id).mpr known)]
    constructor
    · rw [listing_again known]
      exact mergeInto_eq_map (distinctIds_listing entries seen) report
    · rw [List.map_append, List.map_singleton, survivors_again known]
      exact old
  · have unlisted := mt (any_listing entries seen report.id).mp known
    rw [listed, if_neg unlisted, old, find_survivors known]
    cases found : entries.find? fun point => point.id == report.id with
    | some point =>
      -- It is moved over with what it held.
      have named : point.id = report.id := by simpa using List.find?_some found
      constructor
      · simp [listing_new known, former, found, AccessPoint.take, named]
      · rw [List.map_append, List.map_singleton]
        exact survivors_without distinct _ _
    | none =>
      -- Nothing stood for it, so it begins with the defaults.
      constructor
      · simp [listing_new known, former, found, AccessPoint.take]
      · rw [List.map_append, List.map_singleton, survivors_absent _ found]

/-- A whole batch of reports builds the listing that it asks for. -/
theorem Relisting.Follows.foldl {entries : List AccessPoint} {seen : List Report}
    {relisting : Relisting} (distinct : DistinctIds entries)
    (follows : Relisting.Follows entries seen relisting) (later : List Report) :
    Relisting.Follows entries (seen ++ later) (later.foldl Directory.relist relisting) := by
  -- The invariant of one report carries over the rest of the batch.
  induction later generalizing seen relisting with
  | nil => simpa using follows
  | cons report later ih => simpa using ih (follows.relist distinct report)

/-- A batch leaves the survivors of its removals, or lists what it reports and nothing else. -/
theorem afterBatch_entries {entries : List AccessPoint} (distinct : DistinctIds entries)
    (changed : List Report) (removed : List String) :
    (afterBatch entries changed removed).2 =
      if changed = [] then survivors entries removed
      else listing (survivors entries removed) changed := by
  -- The removals come first, and what they leave has distinct identities.
  have remaining : DistinctIds (survivors entries removed) := distinct.filter _
  simp only [afterBatch, List.isEmpty_iff, dropRemoved_eq_survivors distinct]
  by_cases silent : changed = []
  · simp [silent]
  · -- The new list starts empty, with every survivor among the old entries.
    have start : Relisting.Follows (survivors entries removed) []
        { old := survivors entries removed, touched := (dropRemoved entries removed).1 } := by
      constructor
      · rfl
      · exact (List.filter_eq_self.mpr (by simp)).symm
    -- The fold ends with the listing of the whole batch.
    have done := start.foldl remaining changed
    rw [List.nil_append] at done
    simp only [if_neg silent]
    exact done.listed

/-- The entries after a batch, whether it counted as a change or not. -/
theorem applyChanges_entries (directory : Directory) (changed : List Report)
    (removed : List String) :
    (directory.applyChanges changed removed).2.entries =
      (afterBatch directory.entries changed removed).2 := by
  -- Counting as a change only touches the version.
  simp only [applyChanges]
  split <;> rfl

end Directory

end CompanionLink
