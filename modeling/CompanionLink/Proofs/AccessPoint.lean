import CompanionLink.AccessPoint

/-! What a list of reported properties leaves in each field of an access point. -/

namespace CompanionLink

namespace Property

/-- The network name that a property reports. -/
def name? : Property → Option String
  | .name text => some text
  | _ => none

/-- The security modes that a property reports. -/
def security? : Property → Option (List String)
  | .security modes => some modes
  | _ => none

/-- Whether credentials are held, as a property reports it. -/
def favorite? : Property → Option Bool
  | .favorite held => some held
  | _ => none

/-- The state of the link that a property reports. -/
def state? : Property → Option AccessPointState
  | .state reached => some reached
  | _ => none

/-- The lease that a property reports, which may be that there is none. -/
def lease? : Property → Option (Option Lease)
  | .lease leased => some leased
  | _ => none

/-- The hardware address that a property reports. -/
def mac? : Property → Option String
  | .mac address => some address
  | _ => none

/-- The last value that a list of properties reports for a field. -/
def lastReported {α : Type} (field : Property → Option α) (properties : List Property) : Option α :=
  properties.reverse.findSome? field

variable {α : Type} {field : Property → Option α}

/-- No properties report nothing. -/
@[simp] theorem lastReported_nil : lastReported field [] = none := rfl

/-- A property counts for a field unless a later one reports that field again. -/
@[simp] theorem lastReported_cons (property : Property) (later : List Property) :
    lastReported field (property :: later) = (lastReported field later).or (field property) := by
  -- From behind, the first property is the last one looked at.
  simp [lastReported, List.findSome?_append, List.findSome?_singleton]

end Property

namespace AccessPoint

open Property (lastReported)

/-- The access point with, in every field, the last value reported and the old one otherwise. -/
def updated (point : AccessPoint) (properties : List Property) : AccessPoint where
  id := point.id
  -- The last report of each property counts; what was not reported stays.
  name := (lastReported Property.name? properties).getD point.name
  security := (lastReported Property.security? properties).getD point.security
  favorite := (lastReported Property.favorite? properties).getD point.favorite
  state := (lastReported Property.state? properties).getD point.state
  lease := (lastReported Property.lease? properties).getD point.lease
  mac := (lastReported Property.mac? properties).or point.mac

/-- A later report overrides an earlier one and leaves the other fields to it. -/
theorem updated_cons (point : AccessPoint) (property : Property) (later : List Property) :
    point.updated (property :: later) = (point.set property).updated later := by
  -- Only the reported field is set; there the earlier value is the fallback of the later ones.
  cases property <;> simp [updated, set, Property.name?, Property.security?, Property.favorite?,
    Property.state?, Property.lease?, Property.mac?]

/-- Taking properties in order leaves the last value reported for each field. -/
theorem applyAll_updated (point : AccessPoint) (properties : List Property) :
    (point.applyAll properties).2 = point.updated properties := by
  -- What counts as a change is left aside; the values are set one after the other.
  rw [applyAll_snd]
  induction properties generalizing point with
  | nil => simp [updated]
  -- The first property is set before the rest, which is where it may still be overridden.
  | cons property later ih => rw [List.foldl_cons, ih, updated_cons]

/-- Properties that count as no change leave the access point as it is. -/
theorem applyAll_unchanged {point : AccessPoint} {properties : List Property}
    (quiet : (point.applyAll properties).1 = false) : (point.applyAll properties).2 = point := by
  induction properties generalizing point with
  -- Without properties there is nothing to take.
  | nil => rfl
  | cons property later ih =>
    simp only [applyAll, apply, Bool.or_eq_false_iff] at quiet ⊢
    -- The first property is held already, so the others meet the same access point.
    have held : point.set property = point := by
      refine Decidable.not_not.mp fun differs => ?_
      rw [(differsIn_iff point property).mpr differs] at quiet
      exact Bool.noConfusion quiet.1
    rw [held] at quiet ⊢
    exact ih quiet.2

/-- The access point after a report, which changes it if the report names it. -/
def take (point : AccessPoint) (report : Report) : AccessPoint :=
  if report.id == point.id then (point.applyAll report.properties).2 else point

/-- The access point after the reports of a batch, in the order of the batch. -/
def absorb (point : AccessPoint) (batch : List Report) : AccessPoint :=
  batch.foldl take point

/-- All properties that a batch reports for an identity, in the order of the batch. -/
def reportedFor (batch : List Report) (id : String) : List Property :=
  (batch.filter fun report => report.id == id).flatMap Report.properties

/-- A report keeps the access point's identity. -/
@[simp] theorem take_id (point : AccessPoint) (report : Report) :
    (point.take report).id = point.id := by
  -- No property writes to the identity.
  unfold take
  split <;> simp

/-- A report of another access point changes nothing. -/
theorem take_of_ne {point : AccessPoint} {report : Report} (other : report.id ≠ point.id) :
    point.take report = point := by
  -- The report names another access point.
  simp [take, other]

/-- A batch keeps the access point's identity. -/
@[simp] theorem absorb_id (point : AccessPoint) (batch : List Report) :
    (point.absorb batch).id = point.id := by
  -- Every report keeps it.
  induction batch generalizing point with
  | nil => rfl
  | cons report later ih => simpa [absorb] using ih (point.take report)

/-- The last report of a batch is taken last. -/
theorem absorb_append_singleton (point : AccessPoint) (batch : List Report) (report : Report) :
    point.absorb (batch ++ [report]) = (point.absorb batch).take report := by
  -- A fold goes over its last element last.
  simp [absorb]

/-- A batch that never names the access point leaves it as it is. -/
theorem absorb_of_not_mem {point : AccessPoint} {batch : List Report}
    (unnamed : point.id ∉ batch.map Report.id) : point.absorb batch = point := by
  -- Each report passes it by, one after the other.
  induction batch with
  | nil => rfl
  | cons report later ih =>
    rw [List.map_cons, List.mem_cons, not_or] at unnamed
    have first : point.take report = point := take_of_ne (Ne.symm unnamed.1)
    rw [absorb, List.foldl_cons, first]
    exact ih unnamed.2

/-- The reports of a batch count as one list of all properties that they give. -/
theorem absorb_eq_updated (point : AccessPoint) (batch : List Report) :
    point.absorb batch = point.updated (reportedFor batch point.id) := by
  -- The fold over reports is a fold over their properties, those of other identities left out.
  rw [← applyAll_updated, applyAll_snd]
  induction batch generalizing point with
  | nil => rfl
  | cons report later ih =>
    -- The first report keeps the identity, so the others are told apart as before.
    have rest := ih (point.take report)
    rw [take_id] at rest
    rw [absorb, List.foldl_cons]
    refine rest.trans ?_
    by_cases named : report.id = point.id
    · -- Its properties stand before those of the later reports.
      simp [take, reportedFor, named, applyAll_snd]
    -- A report of another identity changes nothing and adds no properties.
    · rw [take_of_ne named]
      simp [reportedFor, named]

end AccessPoint

end CompanionLink
