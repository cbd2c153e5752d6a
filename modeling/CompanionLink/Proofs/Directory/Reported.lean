import CompanionLink.Proofs.Directory.Quiet
import CompanionLink.Proofs.Directory.Replay
import Mathlib.Data.List.Nodup

/-!
When a batch is reported as a change, and what it does when it comes a second time. The report is
put together on the way, so a value that is corrected back counts. In a batch that says each thing
once nothing is corrected, and then it is reported exactly if the entries differ afterwards.
-/

namespace CompanionLink

/-- What a property is about. -/
inductive PropertyKind where
  | name
  | security
  | favorite
  | state
  | lease
  | mac
deriving DecidableEq, Repr

/-- The kind of a property. -/
def Property.kind : Property → PropertyKind
  | .name _ => .name
  | .security _ => .security
  | .favorite _ => .favorite
  | .state _ => .state
  | .lease _ => .lease
  | .mac _ => .mac

namespace AccessPoint

/-- A property that was just taken is held. -/
@[simp] theorem differsIn_set_self (point : AccessPoint) (property : Property) :
    (point.set property).differsIn property = false := by
  -- Each kind of property is read where it is written.
  cases property <;> simp [set, differsIn]

/-- A property of another kind makes no difference to whether one is held. -/
theorem differsIn_set {property other : Property} (apart : other.kind ≠ property.kind)
    (point : AccessPoint) : (point.set other).differsIn property = point.differsIn property := by
  -- The two write to different fields, unless they are of one kind.
  cases property <;> cases other <;> first | rfl | exact absurd rfl apart

/-- Properties of other kinds make no difference to whether one is held. -/
theorem differsIn_foldl_set {property : Property} {later : List Property}
    (apart : property.kind ∉ later.map Property.kind) (point : AccessPoint) :
    (later.foldl set point).differsIn property = point.differsIn property := by
  -- The other properties are taken one by one, each of another kind.
  induction later generalizing point with
  | nil => rfl
  | cons other rest ih =>
    rw [List.map_cons, List.mem_cons, not_or] at apart
    rw [List.foldl_cons, ih apart.2, differsIn_set (Ne.symm apart.1)]

/-- Taking a property that is held changes nothing. -/
theorem set_of_held {point : AccessPoint} {property : Property}
    (held : point.differsIn property = false) : point.set property = point := by
  -- If taking it changed something, it would not have been held.
  refine Decidable.not_not.mp fun differs => ?_
  rw [(differsIn_iff point property).mpr differs] at held
  cases held

/-- Properties of different kinds that leave an access point as it is were all held before. -/
theorem held_of_applyAll_eq {point : AccessPoint} {properties : List Property}
    (once : (properties.map Property.kind).Nodup)
    (same : (point.applyAll properties).2 = point) :
    ∀ property ∈ properties, point.differsIn property = false := by
  rw [applyAll_snd] at same
  induction properties with
  | nil => exact nofun
  | cons property later ih =>
    rw [List.map_cons, List.nodup_cons] at once
    -- No later property has the first one's kind, so what the first one set is there in the end.
    have held : point.differsIn property = false := by
      rw [← same, List.foldl_cons, differsIn_foldl_set once.1]
      exact differsIn_set_self point property
    rw [List.foldl_cons, set_of_held held] at same
    exact List.forall_mem_cons.mpr ⟨held, ih once.2 same⟩

/-- Properties that are all held count as no change. -/
theorem applyAll_quiet {point : AccessPoint} {properties : List Property}
    (held : ∀ property ∈ properties, point.differsIn property = false) :
    (point.applyAll properties).1 = false := by
  -- A held property leaves the access point to the others as it was.
  induction properties with
  | nil => rfl
  | cons property later ih =>
    obtain ⟨first, rest⟩ := List.forall_mem_cons.mp held
    simp only [applyAll, apply, first, set_of_held first, ih rest, Bool.or_false]

/-- The values reported last are the same when they are reported a second time. -/
theorem updated_updated (point : AccessPoint) (properties : List Property) :
    (point.updated properties).updated properties = point.updated properties := by
  -- A field that is reported has its last value the first time, and no other field is written.
  have settled {α : Type} (given : Option α) (old : α) :
      given.getD (given.getD old) = given.getD old := by
    cases given <;> rfl
  simp only [updated, settled, ← Option.or_assoc, Option.or_self]

/-- Taking the same batch a second time changes nothing more. -/
theorem absorb_absorb (point : AccessPoint) (batch : List Report) :
    (point.absorb batch).absorb batch = point.absorb batch := by
  -- A batch leaves the last values reported, which are the last ones again.
  rw [absorb_eq_updated (point.absorb batch), absorb_id, absorb_eq_updated, updated_updated]

/-- What a report of a batch gives is among all that the batch reports for its identity. -/
theorem mem_reportedFor {batch : List Report} {report : Report} (listed : report ∈ batch)
    {property : Property} (given : property ∈ report.properties) :
    property ∈ reportedFor batch report.id := by
  -- The report is one of those for its identity, and its properties are put among theirs.
  rw [reportedFor, List.mem_flatMap]
  exact ⟨report, List.mem_filter.mpr ⟨listed, beq_self_eq_true _⟩, given⟩

end AccessPoint

namespace Directory

/-- A batch that says each thing once: nothing is removed and reported, or reported twice. -/
structure SaysOnce (changed : List Report) (removed : List String) : Prop where
  /-- No identity is both reported and removed. -/
  apart : ∀ report ∈ changed, report.id ∉ removed
  /-- For each identity every kind of property is reported once at most. -/
  once : ∀ id, ((AccessPoint.reportedFor changed id).map Property.kind).Nodup

/-- Removals that count as a change hit one of the entries. -/
theorem exists_of_dropRemoved {entries : List AccessPoint} {removed : List String}
    (hit : (dropRemoved entries removed).1 = true) :
    ∃ point ∈ entries, point.id ∈ removed := by
  induction removed generalizing entries with
  -- Without removals nothing is hit.
  | nil => cases hit
  | cons id later ih =>
    simp only [dropRemoved, Bool.or_eq_true, List.any_eq_true, beq_iff_eq] at hit
    rcases hit with ⟨point, listed, rfl⟩ | rest
    · exact ⟨point, listed, List.mem_cons_self ..⟩
    · -- What a later removal hits was there before the first one, too.
      obtain ⟨point, listed, named⟩ := ih rest
      exact ⟨point, List.mem_of_mem_eraseP listed, List.mem_cons_of_mem _ named⟩

/-- Where identities are distinct, two entries of one identity are the same. -/
theorem DistinctIds.eq_of_id {entries : List AccessPoint} (distinct : DistinctIds entries)
    {point other : AccessPoint} (listed : point ∈ entries) (among : other ∈ entries)
    (same : point.id = other.id) : point = other :=
  -- A list without duplicates has each identity at one place.
  List.inj_on_of_nodup_map distinct listed among same

/-- An entry is found by its identity where identities are distinct. -/
theorem DistinctIds.former_eq {entries : List AccessPoint} (distinct : DistinctIds entries)
    {point : AccessPoint} (listed : point ∈ entries) : former entries point.id = point := by
  -- The search finds something, since the entry is there, and nothing else of its identity.
  unfold former
  cases found : entries.find? fun other => other.id == point.id with
  | none =>
    have missed := List.find?_eq_none.mp found point listed
    simp at missed
  | some other =>
    have named : other.id = point.id := by simpa using List.find?_some found
    exact distinct.eq_of_id (List.mem_of_find?_eq_some found) listed named

/-- A report that tells nothing new of one of the entries. -/
def TellsNothing (entries : List AccessPoint) (report : Report) : Prop :=
  ∃ point ∈ entries, point.id = report.id ∧
    ∀ property ∈ report.properties, point.differsIn property = false

/-- Merging a report counts as no change if what it gives is held wherever it may be merged. -/
theorem mergeInto_quiet {listed : List AccessPoint} {report : Report}
    (held : ∀ point ∈ listed, point.id = report.id →
      (point.applyAll report.properties).1 = false) : (mergeInto listed report).1 = false := by
  -- The report is merged at one place or at none.
  induction listed with
  | nil => rfl
  | cons point later ih =>
    unfold mergeInto
    split
    · next found => exact held point (List.mem_cons_self ..) (by simpa using found)
    · exact ih fun other among => held other (List.mem_cons_of_mem _ among)

/-- A report that tells nothing new counts as no change wherever its access point is by then. -/
theorem relist_quiet {entries : List AccessPoint} (distinct : DistinctIds entries)
    {relisting : Relisting} {report : Report} (untouched : relisting.touched = false)
    (moved : (relisting.listed ++ relisting.old).Perm entries)
    (tells : TellsNothing entries report) : (relist relisting report).touched = false := by
  obtain ⟨point, member, named, held⟩ := tells
  -- Any entry of the identity is the one of which nothing new is told.
  have quiet : ∀ other ∈ relisting.listed ++ relisting.old, other.id = report.id →
      (other.applyAll report.properties).1 = false := by
    intro other among same
    obtain rfl := distinct.eq_of_id (moved.mem_iff.mp among) member (same.trans named.symm)
    exact AccessPoint.applyAll_quiet held
  unfold relist
  split
  -- Listed in this batch already, the access point takes the report where it stands.
  · simp only [untouched, Bool.false_or]
    exact mergeInto_quiet fun other among => quiet other (List.mem_append_left _ among)
  · next unlisted =>
    split
    · next other found =>
      simp only [untouched, Bool.false_or]
      exact quiet other (List.mem_append_right _ (List.mem_of_find?_eq_some found))
        (by simpa using List.find?_some found)
    · next missing =>
      -- The access point is listed already or still among the old ones.
      rcases List.mem_append.mp (moved.mem_iff.mpr member) with listed | old
      · exact absurd (List.any_eq_true.mpr ⟨point, listed, by simpa using named⟩) unlisted
      · exact absurd named (by simpa using List.find?_eq_none.mp missing point old)

/-- Reports that tell nothing new count as no change, and only move entries to the new list. -/
theorem foldl_relist_quiet {entries : List AccessPoint} (distinct : DistinctIds entries)
    {batch : List Report} {relisting : Relisting} (untouched : relisting.touched = false)
    (moved : (relisting.listed ++ relisting.old).Perm entries)
    (tells : ∀ report ∈ batch, TellsNothing entries report) :
    (batch.foldl relist relisting).touched = false ∧
      ((batch.foldl relist relisting).listed ++ (batch.foldl relist relisting).old).Perm
        entries := by
  -- Quiet reports only move entries, so each one meets the same entries as the first.
  induction batch generalizing relisting with
  | nil => exact ⟨untouched, moved⟩
  | cons report later ih =>
    obtain ⟨first, rest⟩ := List.forall_mem_cons.mp tells
    have still := relist_quiet distinct untouched moved first
    exact ih still ((relist_untouched still).2.trans moved) rest

/-- A listing that says each thing once and gives the old entries tells nothing new of them. -/
theorem tellsNothing_of_listing {entries : List AccessPoint} {changed : List Report}
    {removed : List String} (plain : SaysOnce changed removed)
    (same : listing entries changed = entries) :
    ∀ report ∈ changed, TellsNothing entries report := by
  intro report listed
  have reported : report.id ∈ (changed.map Report.id).eraseDups :=
    List.mem_eraseDups.mpr (List.mem_map_of_mem listed)
  -- The entry that the report stands for has taken the whole batch and is what it was before.
  let point := (former entries report.id).absorb changed
  have named : point.id = report.id := by simp [point]
  have member : point ∈ entries := by
    rw [← same]
    exact List.mem_map_of_mem reported
  -- So the properties that were reported for it change nothing any more.
  have still : (point.applyAll (AccessPoint.reportedFor changed point.id)).2 = point := by
    rw [AccessPoint.applyAll_updated, ← AccessPoint.absorb_eq_updated]
    exact AccessPoint.absorb_absorb _ _
  -- Properties that are told once each are then held one by one.
  refine ⟨point, member, named, fun property given => ?_⟩
  refine AccessPoint.held_of_applyAll_eq (plain.once point.id) still property ?_
  rw [named]
  exact AccessPoint.mem_reportedFor listed given

/-- A batch that says each thing once and leaves the entries as they are counts as no change. -/
theorem afterBatch_quiet {entries : List AccessPoint} (distinct : DistinctIds entries)
    {changed : List Report} {removed : List String} (plain : SaysOnce changed removed)
    (same : (afterBatch entries changed removed).2 = entries) :
    (afterBatch entries changed removed).1 = false := by
  -- The removals are looked at first, then the reports.
  have whole := afterBatch_entries distinct changed removed
  rw [same] at whole
  -- An entry that was removed would be missing, since it is not reported again.
  have spared : (dropRemoved entries removed).1 = false := by
    refine Bool.eq_false_iff.mpr fun hit => ?_
    obtain ⟨point, listed, named⟩ := exists_of_dropRemoved hit
    rw [whole] at listed
    split at listed
    · simp [survivors, named] at listed
    · have again : point.id ∈ (listing (survivors entries removed) changed).map AccessPoint.id :=
        List.mem_map_of_mem listed
      rw [listing_ids, List.mem_eraseDups, List.mem_map] at again
      obtain ⟨report, reported, id⟩ := again
      exact plain.apart report reported (id ▸ named)
  -- Without removals the batch is applied to the entries as they were.
  have kept := dropRemoved_unchanged spared
  rw [← dropRemoved_eq_survivors distinct, kept] at whole
  unfold afterBatch at same ⊢
  by_cases silent : changed = []
  · simp only [silent, List.isEmpty_nil, if_true]
    exact spared
  · rw [if_neg silent] at whole
    simp only [List.isEmpty_iff, if_neg silent, kept, spared] at same ⊢
    -- Nothing new is told of any entry, and all of them were moved over.
    obtain ⟨untouched, moved⟩ := @foldl_relist_quiet _ distinct changed
      { old := entries, touched := false } rfl (.refl _) (tellsNothing_of_listing plain whole.symm)
    rw [same] at moved
    -- The new list is as long as the old one, so nothing was left behind.
    have none : (changed.foldl relist { old := entries, touched := false }).old = [] := by
      have counts := moved.length_eq
      rw [List.length_append] at counts
      exact List.length_eq_zero_iff.mp (by omega)
    simp [untouched, none]

/-- A batch that says each thing once is reported exactly if the entries differ afterwards. -/
theorem applyChanges_reported_iff {directory : Directory}
    (distinct : DistinctIds directory.entries) {changed : List Report} {removed : List String}
    (plain : SaysOnce changed removed) :
    (directory.applyChanges changed removed).1 = true ↔
      (directory.applyChanges changed removed).2.entries ≠ directory.entries := by
  constructor
  · intro reported same
    rw [applyChanges_entries] at same
    have quiet := afterBatch_quiet distinct plain same
    -- Neither a step on the way nor the order of the identities counts as a change.
    simp [applyChanges, quiet, same] at reported
  -- A batch that is not reported leaves the directory as it is.
  · intro differs
    refine (Bool.not_eq_false _).mp fun quiet => differs ?_
    rw [applyChanges_unchanged distinct quiet]

/-- What a listing stands on for an identity is the same after the batch was taken once. -/
theorem former_again (entries : List AccessPoint) (changed : List Report)
    (removed : List String) {id : String} (reported : id ∈ changed.map Report.id) :
    (former (survivors (listing (survivors entries removed) changed) removed) id).absorb changed =
      (former (survivors entries removed) id).absorb changed := by
  -- What the reports begin from depends on whether the identity was removed.
  by_cases gone : id ∈ removed
  · -- What was removed is a fresh access point both times.
    have fresh : ∀ others, former (survivors others removed) id = { id } := by
      intro others
      have none : (survivors others removed).find? (fun point => point.id == id) = none := by
        rw [List.find?_eq_none]
        intro point listed
        simp only [survivors, List.mem_filter] at listed
        rintro named
        simp [beq_iff_eq.mp named, gone] at listed
      rw [former, none, Option.getD_none]
    rw [fresh, fresh]
  · -- What was not removed is what the batch made of it, which takes no more of the batch.
    have listed : (former (survivors entries removed) id).absorb changed ∈
        listing (survivors entries removed) changed :=
      List.mem_map_of_mem (List.mem_eraseDups.mpr reported)
    have found := (distinctIds_listing (survivors entries removed) changed).former_eq listed
    rw [AccessPoint.absorb_id, former_id] at found
    rw [former, find_survivors gone, ← former, found, AccessPoint.absorb_absorb]

/-- A batch that comes a second time leaves the entries as the first time left them. -/
theorem afterBatch_again {entries : List AccessPoint} (distinct : DistinctIds entries)
    (changed : List Report) (removed : List String) :
    (afterBatch (afterBatch entries changed removed).2 changed removed).2 =
      (afterBatch entries changed removed).2 := by
  -- Without reports only the removals are made again, and they find nothing left.
  have remaining : DistinctIds (survivors entries removed) := distinct.filter _
  rw [afterBatch_entries distinct]
  by_cases silent : changed = []
  · rw [if_pos silent, afterBatch_entries remaining, if_pos silent]
    simp [survivors, List.filter_filter]
  -- With reports each identity is listed again with what it had become.
  · rw [if_neg silent, afterBatch_entries (distinctIds_listing _ _), if_neg silent]
    apply List.map_congr_left
    intro id named
    exact former_again entries changed removed (List.mem_eraseDups.mp named)

/-- A batch that comes a second time, as the directory sees it. -/
theorem applyChanges_again {directory : Directory} (distinct : DistinctIds directory.entries)
    (changed : List Report) (removed : List String) :
    ((directory.applyChanges changed removed).2.applyChanges changed removed).2.entries =
      (directory.applyChanges changed removed).2.entries := by
  -- Versions and reports aside, the entries are those of the batch itself.
  rw [applyChanges_entries, applyChanges_entries]
  exact afterBatch_again distinct changed removed

/--
However a directory came about, a batch that says each thing once is reported as a change exactly
if the entries differ afterwards.

Any batch that comes a second time leaves the entries as they are. If it says each thing once it is
then reported as no change, and the directory stays as it was with its version.
-/
theorem batch_reported_exactly (updates : List Update) (changed : List Report)
    (removed : List String) :
    let directory := replay updates
    let after := (directory.applyChanges changed removed).2
    (SaysOnce changed removed →
      ((directory.applyChanges changed removed).1 = true ↔
        after.entries ≠ directory.entries)) ∧
    (after.applyChanges changed removed).2.entries = after.entries ∧
    (SaysOnce changed removed → after.applyChanges changed removed = (false, after)) := by
  intro directory after
  have distinct : DistinctIds directory.entries := distinctIds_replay updates
  have distinctAfter : DistinctIds after.entries :=
    distinctIds_applyChanges distinct changed removed
  have again := applyChanges_again distinct changed removed
  refine ⟨applyChanges_reported_iff distinct, again, fun plain => ?_⟩
  -- The second time nothing differs, so nothing is reported and nothing is written.
  have quiet : (after.applyChanges changed removed).1 = false := by
    refine Bool.eq_false_iff.mpr fun reported => ?_
    exact (applyChanges_reported_iff distinctAfter plain).mp reported again
  exact Prod.ext quiet (applyChanges_unchanged distinctAfter quiet)

/-- A batch that lists a new access point first and reports a known one twice. -/
def scattered : List Report :=
  [⟨"new", [.state .ready]⟩, ⟨"a", [.name "attic"]⟩, ⟨"a", [.favorite true, .mac "02"]⟩]

/-- Taken once it is a change, and taken again it is none. -/
theorem batch_reported_exactly_scattered :
    let known := replay [.batch [⟨"a", [.name "attic"]⟩, ⟨"b", []⟩] []]
    let after := (known.applyChanges scattered ["c"]).2
    SaysOnce scattered ["c"] ∧ (known.applyChanges scattered ["c"]).1 = true ∧
      after.applyChanges scattered ["c"] = (false, after) := by
  intro known after
  -- Two identities are reported, each of them with nothing told twice.
  have plain : SaysOnce scattered ["c"] := by
    refine ⟨by decide, fun id => ?_⟩
    by_cases new : id = "new"
    · subst new
      decide
    by_cases a : id = "a"
    · subst a
      decide
    -- No other identity is reported at all.
    have none : AccessPoint.reportedFor scattered id = [] := by
      simp [AccessPoint.reportedFor, scattered, Ne.symm new, Ne.symm a]
    rw [none]
    exact List.nodup_nil
  -- The batch itself is evaluated; that it is quiet the second time follows.
  obtain ⟨told, -, again⟩ := batch_reported_exactly
    [.batch [⟨"a", [.name "attic"]⟩, ⟨"b", []⟩] []] scattered ["c"]
  exact ⟨plain, (told plain).mpr (by decide), again plain⟩

/-- An access point that is removed and reported as it was is a change that leaves no difference. -/
example :
    let known := replay [.batch [⟨"a", []⟩] []]
    (known.applyChanges [⟨"a", []⟩] ["a"]).1 = true ∧
      (known.applyChanges [⟨"a", []⟩] ["a"]).2.entries = known.entries := by
  decide

end Directory

end CompanionLink
