import CompanionLink.Technologies

/-!
Laws of the registered technologies. Each slot holds its own kind of technology, and a notification
is told apart as a loss of power exactly when the wifi radio was powered before it and is not
afterwards.
-/

namespace CompanionLink

namespace Technologies

/-- Each slot holds technologies of its own kind only. -/
structure KindsMatch (technologies : Technologies) : Prop where
  wifi : ∀ technology, technologies.wifi = some technology → technology.kind = .wifi
  ethernet : ∀ technology, technologies.ethernet = some technology → technology.kind = .ethernet

/-- With nothing registered, no slot holds the wrong kind. -/
theorem kindsMatch_empty : KindsMatch {} where
  -- Both slots are empty.
  wifi technology held := by cases held
  ethernet technology held := by cases held

/-- A powered radio is a registered wifi technology that is powered. -/
theorem wifiPowered_iff {technologies : Technologies} :
    technologies.wifiPowered = true ↔
      ∃ wifi, technologies.wifi = some wifi ∧ wifi.powered = true := by
  -- The radio is looked for in its own slot.
  unfold wifiPowered
  rw [Option.any_eq_true]

/-- A registered technology goes into the slot of its kind. -/
theorem KindsMatch.added {technologies : Technologies} (kinds : technologies.KindsMatch)
    (technology : Technology) : (technologies.added technology).2.KindsMatch := by
  -- The kind itself picks the slot.
  unfold Technologies.added
  split
  · rename_i wifi
    refine ⟨?_, kinds.ethernet⟩
    rintro held ⟨rfl⟩
    exact wifi
  · rename_i ethernet
    refine ⟨kinds.wifi, ?_⟩
    rintro held ⟨rfl⟩
    exact ethernet

/-- A withdrawal at most empties a slot. -/
theorem KindsMatch.removed {technologies : Technologies} (kinds : technologies.KindsMatch)
    (path : String) : (technologies.removed path).2.KindsMatch := by
  -- A path empties the first slot that it names and leaves the other one.
  unfold Technologies.removed
  split
  · exact ⟨fun _ held => (nomatch held), kinds.ethernet⟩
  · split
    · exact ⟨kinds.wifi, fun _ held => nomatch held⟩
    · exact kinds

/-- Switching a slot's power keeps the kind of what it holds. -/
theorem kind_switchSlot {slot : Option Technology} {kind : TechnologyKind} {on : Bool}
    (kept : ∀ technology, slot = some technology → technology.kind = kind) :
    ∀ technology, (switchSlot slot on).2 = some technology → technology.kind = kind := by
  -- Only the power of what is there is written.
  unfold switchSlot
  split
  · rintro technology ⟨⟩
  · rename_i held
    rintro technology ⟨rfl⟩
    exact kept held rfl

/-- Switching power moves no technology to another slot. -/
theorem KindsMatch.switched {technologies : Technologies} (kinds : technologies.KindsMatch)
    (path : String) (on : Bool) : (technologies.switched path on).2.KindsMatch := by
  -- As for a withdrawal, the first slot that the path names is meant.
  unfold Technologies.switched
  split
  · exact ⟨kind_switchSlot kinds.wifi, kinds.ethernet⟩
  · split
    · exact ⟨kinds.wifi, kind_switchSlot kinds.ethernet⟩
    · exact kinds

/-- Every notification leaves each slot with its own kind. -/
theorem KindsMatch.apply {technologies : Technologies} (kinds : technologies.KindsMatch)
    (notification : Notification) : (technologies.apply notification).2.KindsMatch := by
  -- The notifications that are not about technologies change none of them.
  cases notification with
  | technologyAdded technology => exact kinds.added technology
  | technologyRemoved path => exact kinds.removed path
  | powered path on => exact kinds.switched path on
  | _ => exact kinds

/-- Registering a technology loses power exactly when it replaces a powered radio by a dark one. -/
theorem added_lost_iff (technologies : Technologies) (technology : Technology) :
    (technologies.added technology).1 = .wifiPowerLost ↔
      technologies.wifiPowered = true ∧
        (technologies.added technology).2.wifiPowered = false := by
  -- The slot is picked by the kind, and only the wifi slot can lose power.
  unfold added
  split
  · simp [wifiPowered]
  · -- The ethernet slot has no part in the radio's power.
    simp [wifiPowered]

/-- A withdrawal loses power exactly when it is the powered radio that goes. -/
theorem removed_lost_iff (technologies : Technologies) (path : String) :
    (technologies.removed path).1 = .wifiPowerLost ↔
      technologies.wifiPowered = true ∧ (technologies.removed path).2.wifiPowered = false := by
  -- The radio loses power by going itself; the other slot cannot take it along.
  unfold removed
  split
  · -- Whether the radio had power decides what its going means.
    cases lit : technologies.wifiPowered
    · simp
    · simp [wifiPowered]
  · split <;> simp [wifiPowered]

/-- Switching power loses it exactly when a powered radio is switched off. -/
theorem switched_lost_iff {technologies : Technologies} (kinds : technologies.KindsMatch)
    (path : String) (on : Bool) :
    (technologies.switched path on).1 = .wifiPowerLost ↔
      technologies.wifiPowered = true ∧
        (technologies.switched path on).2.wifiPowered = false := by
  unfold switched
  split
  · rename_i named
    -- The path names the wifi slot, so that slot holds a technology of the wifi kind.
    cases held : technologies.wifi with
    | none => simp [Technologies.named, held] at named
    | some wifi =>
      have kind := kinds.wifi wifi held
      cases on <;> cases powered : wifi.powered <;>
        simp [switchSlot, wifiPowered, held, powered, kind]
  · split
    · rename_i named
      -- What is switched here is no radio, so neither side of the claim holds.
      cases held : technologies.ethernet with
      | none => simp [Technologies.named, held] at named
      | some ethernet =>
        have kind := kinds.ethernet ethernet held
        cases on <;> cases powered : ethernet.powered <;>
          simp [switchSlot, wifiPowered, powered, kind]
    · simp

/-- A notification counts as a loss of power exactly when the radio had power and has none now. -/
theorem apply_lost_iff {technologies : Technologies} (kinds : technologies.KindsMatch)
    (notification : Notification) :
    (technologies.apply notification).1 = .wifiPowerLost ↔
      technologies.wifiPowered = true ∧
        (technologies.apply notification).2.wifiPowered = false := by
  -- One law for each kind of notification about technologies; no other is a loss.
  cases notification with
  | technologyAdded technology => exact added_lost_iff technologies technology
  | technologyRemoved path => exact removed_lost_iff technologies path
  | powered path on => exact switched_lost_iff kinds path on
  | _ => simp [apply]

section Power

variable {μ : Type} [NetworkManager μ]

/-- A power request that fails leaves the technologies as they were. -/
theorem setWifiPower_error {technologies after : Technologies} {manager later : μ} {on : Bool}
    {error : PowerError}
    (refused : technologies.setWifiPower manager on = (.error error, after, later)) :
    after = technologies := by
  -- Without a radio nothing is asked, and a refusal comes before anything is written.
  unfold setWifiPower at refused
  split at refused
  · cases refused
    rfl
  · split at refused
    · -- Nothing is asked of the manager when the radio is as wanted already.
      exact (congrArg (fun result => result.2.1) refused).symm
    · split at refused
      · cases refused
        rfl
      -- The manager refused, and the technologies were not written.
      · cases refused

/-- A power request that succeeds leaves a wifi technology, with the power asked for. -/
theorem setWifiPower_ok {technologies after : Technologies} {manager later : μ} {on : Bool}
    (switched : technologies.setWifiPower manager on = (.ok (), after, later)) :
    ∃ wifi, technologies.wifi = some wifi ∧
      after = { technologies with wifi := some { wifi with powered := on } } := by
  -- A success is found on two ways: the radio was on already, or the manager agreed.
  unfold setWifiPower at switched
  split at switched
  · cases switched
  · rename_i wifi held
    refine ⟨wifi, held, ?_⟩
    split at switched
    · -- The radio was on already, so switching it on changes nothing.
      rename_i same
      cases on with
      | false => cases switched
      | true =>
        cases switched
        have lit : wifi.powered = true := by simpa using same
        rw [← lit, ← held]
    · split at switched
      · cases switched
      · cases switched
        rfl

end Power

/-- A power request keeps each slot's kind. -/
theorem KindsMatch.setWifiPower {μ : Type} [NetworkManager μ] {technologies after : Technologies}
    {manager later : μ} {on : Bool} (kinds : technologies.KindsMatch)
    (switched : technologies.setWifiPower manager on = (.ok (), after, later)) :
    after.KindsMatch := by
  -- The wifi slot keeps the technology that it held, with its power written.
  obtain ⟨wifi, held, rfl⟩ := setWifiPower_ok switched
  refine ⟨?_, kinds.ethernet⟩
  rintro technology ⟨rfl⟩
  exact kinds.wifi wifi held

end Technologies

end CompanionLink
