import CompanionLink.Directory
import CompanionLink.Proofs.AccessPoint

/-! Lists of access points whose identities are distinct, and what dropping and merging do there. -/

namespace CompanionLink

namespace Directory

/-- No two listed access points share an identity. -/
def DistinctIds (entries : List AccessPoint) : Prop :=
  (entries.map AccessPoint.id).Nodup

/-- The access points that a list of removals leaves, in their order. -/
def survivors (entries : List AccessPoint) (removed : List String) : List AccessPoint :=
  entries.filter fun point => !removed.contains point.id

/-- The first access point's identity is not that of a later one. -/
theorem distinctIds_cons {point : AccessPoint} {later : List AccessPoint} :
    DistinctIds (point :: later) ↔ (∀ other ∈ later, other.id ≠ point.id) ∧ DistinctIds later := by
  -- This is what it means for a list of identities to have no duplicates.
  simp [DistinctIds]

/-- Leaving access points out keeps identities distinct. -/
theorem DistinctIds.filter {entries : List AccessPoint} (distinct : DistinctIds entries)
    (keep : AccessPoint → Bool) : DistinctIds (entries.filter keep) :=
  -- A part of a list has a part of its identities.
  List.Pairwise.sublist (List.filter_sublist.map AccessPoint.id) distinct

/-- Dropping the first access point of an identity drops every one of it. -/
theorem dropId_eq_filter {entries : List AccessPoint} (distinct : DistinctIds entries)
    (id : String) : dropId entries id = entries.filter fun point => point.id != id := by
  -- Dropping stops at the first one that has the identity, and the filter goes on.
  induction entries with
  | nil => rfl
  | cons point later ih =>
    obtain ⟨alone, distinct⟩ := distinctIds_cons.mp distinct
    by_cases found : point.id = id
    · -- The rest holds no second one, so the filter leaves it whole.
      have kept : later.filter (fun other => other.id != id) = later := by
        rw [List.filter_eq_self]
        intro other listed
        simpa [found] using alone other listed
      simp [dropId, found, kept]
    -- Another access point is kept by both, and the search goes on behind it.
    · have rest := ih distinct
      simp only [dropId] at rest ⊢
      simp [found, rest]

/-- Removing identities one by one leaves the access points that are not to be removed. -/
theorem dropRemoved_eq_survivors {entries : List AccessPoint} (distinct : DistinctIds entries)
    (removed : List String) : (dropRemoved entries removed).2 = survivors entries removed := by
  induction removed generalizing entries with
  -- Nothing is removed, so everything is left.
  | nil => exact (List.filter_eq_self.mpr (by simp)).symm
  | cons id later ih =>
    have rest := ih (distinct.filter fun point => point.id != id)
    rw [← dropId_eq_filter distinct id] at rest
    simp only [dropRemoved]
    rw [rest, dropId_eq_filter distinct id]
    -- Leaving out the head and then the others is leaving out the whole list.
    simp only [survivors, List.filter_filter]
    apply List.filter_congr
    intro point listed
    by_cases named : point.id = id <;> simp [named]

/-- Merging into the first access point of an identity is taking the report everywhere. -/
theorem mergeInto_eq_map {listed : List AccessPoint} (distinct : DistinctIds listed)
    (report : Report) :
    (mergeInto listed report).2 = listed.map fun point => point.take report := by
  -- Merging stops at the first one that the report names, and the map goes on.
  induction listed with
  | nil => rfl
  | cons point later ih =>
    obtain ⟨alone, distinct⟩ := distinctIds_cons.mp distinct
    by_cases found : point.id = report.id
    · -- No later access point has the identity, so the report passes them all by.
      have untouched : later.map (fun other => other.take report) = later := by
        rw [List.map_congr_left, List.map_id']
        intro other listed
        exact AccessPoint.take_of_ne (found ▸ (alone other listed).symm)
      have merged : point.take report = (point.applyAll report.properties).2 := by
        simp [AccessPoint.take, found]
      simp [mergeInto, found, merged, untouched]
    -- The report passes the first one by and is taken further behind.
    · simp [mergeInto, found, ih distinct, AccessPoint.take_of_ne (Ne.symm found)]

/-- Merging keeps every identity in its place. -/
theorem mergeInto_ids (listed : List AccessPoint) (report : Report) :
    (mergeInto listed report).2.map AccessPoint.id = listed.map AccessPoint.id := by
  -- Taking a report never changes an identity.
  induction listed with
  | nil => rfl
  | cons point later ih =>
    by_cases found : point.id = report.id
    · simp [mergeInto, found]
    · simp [mergeInto, found, ih]

/-- Moving an access point to the front of the list it is found in reorders that list. -/
theorem perm_cons_dropId {entries : List AccessPoint} {id : String} {point : AccessPoint}
    (found : entries.find? (fun other => other.id == id) = some point) :
    (point :: dropId entries id).Perm entries := by
  induction entries with
  | nil => cases found
  | cons first later ih =>
    -- The one found is the first of the list, or the search went on.
    by_cases named : first.id = id
    · simp only [List.find?_cons, named, beq_self_eq_true, Option.some.injEq] at found
      subst found
      simp [dropId, named]
    · simp only [List.find?_cons, beq_eq_false_iff_ne.mpr named] at found
      have behind : dropId (first :: later) id = first :: dropId later id := by
        simp [dropId, named]
      -- It is moved past the first one, and past the others by induction.
      rw [behind]
      exact (List.Perm.swap first point _).trans ((ih found).cons first)

/-- Where identities are distinct, the order of the identities is the order of the entries. -/
theorem eq_of_perm_of_ids {entries other : List AccessPoint} (distinct : DistinctIds entries)
    (moved : other.Perm entries)
    (ids : other.map AccessPoint.id = entries.map AccessPoint.id) : other = entries := by
  -- The identities fix the order, entry after entry from the front.
  induction other generalizing entries with
  | nil => exact moved.nil_eq
  | cons point later ih =>
    cases entries with
    | nil => cases ids
    | cons first rest =>
      obtain ⟨alone, rest_distinct⟩ := distinctIds_cons.mp distinct
      simp only [List.map_cons, List.cons.injEq] at ids
      -- The entry that has the first identity cannot stand further behind.
      have same : point = first := by
        rcases List.mem_cons.mp (moved.mem_iff.mp (List.mem_cons_self ..)) with here | behind
        · exact here
        · exact absurd ids.1 (alone point behind)
      subst same
      rw [ih rest_distinct moved.cons_inv ids.2]

end Directory

end CompanionLink
