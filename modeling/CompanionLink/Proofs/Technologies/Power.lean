import CompanionLink.Double.Manager
import CompanionLink.Proofs.Technologies

/-!
The edges of the radio's power. However the registered technologies came about, a notification is
told apart as a loss exactly on the way from a powered radio to none, and a power request asks the
manager for one switch exactly if there is one to make.
-/

namespace CompanionLink

namespace Technologies

/-- The technologies that calls lead to from none, whatever manager is asked on the way. -/
inductive Reached : Technologies → Prop
  /-- Nothing is registered at first, nor after everything was forgotten. -/
  | nothing : Reached {}
  /-- A notification of any kind is taken in. -/
  | applied {technologies : Technologies} (before : Reached technologies)
      (notification : Notification) : Reached (technologies.apply notification).2
  /-- A registration, a withdrawal or a switch is taken in by itself. -/
  | added {technologies : Technologies} (before : Reached technologies)
      (technology : Technology) : Reached (technologies.added technology).2
  | removed {technologies : Technologies} (before : Reached technologies) (path : String) :
      Reached (technologies.removed path).2
  | switched {technologies : Technologies} (before : Reached technologies) (path : String)
      (on : Bool) : Reached (technologies.switched path on).2
  /-- A request may go to any manager, and may fail. -/
  | powered {technologies : Technologies} (before : Reached technologies) {μ : Type}
      [NetworkManager μ] (manager : μ) (on : Bool) :
      Reached (technologies.setWifiPower manager on).2.1

/-- A registration is always told as a change. -/
theorem added_told (technologies : Technologies) (technology : Technology) :
    (technologies.added technology).1 ≠ .unchanged := by
  -- Both slots tell of it, the wifi slot as a loss if that is what it was.
  unfold added
  split
  · -- A dark radio in place of a powered one is a loss, any other one an update.
    split <;> exact nofun
  · exact nofun

/-- A withdrawal that is told as no change found nothing to withdraw. -/
theorem removed_unchanged {technologies : Technologies} {path : String}
    (quiet : (technologies.removed path).1 = .unchanged) :
    (technologies.removed path).2 = technologies := by
  -- The path names the radio, the cable or nothing, and only the last is no change.
  unfold removed at quiet ⊢
  split at quiet
  · -- The radio's withdrawal is a loss or an update.
    split at quiet <;> cases quiet
  · next other =>
    rw [if_neg other]
    split at quiet
    · cases quiet
    · next unknown => rw [if_neg unknown]

/-- A switch that is told as no change writes the power that was there. -/
theorem switchSlot_unchanged {slot : Option Technology} {on : Bool}
    (quiet : (switchSlot slot on).1 = .unchanged) : (switchSlot slot on).2 = slot := by
  -- An empty slot stays so, and otherwise the power was the one told of.
  cases slot with
  | none => rfl
  | some technology =>
    simp only [switchSlot] at quiet ⊢
    split at quiet
    · next same =>
      have held : technology.powered = on := by simpa using same
      rw [← held]
    · split at quiet <;> cases quiet

/-- A change of power that is told as no change leaves the technologies as they were. -/
theorem switched_unchanged {technologies : Technologies} {path : String} {on : Bool}
    (quiet : (technologies.switched path on).1 = .unchanged) :
    (technologies.switched path on).2 = technologies := by
  -- The path picks the slot, and only that slot is written back.
  unfold switched at quiet ⊢
  split at quiet
  · next wifi =>
    rw [if_pos wifi]
    exact congrArg (fun slot => { technologies with wifi := slot }) (switchSlot_unchanged quiet)
  · next other =>
    rw [if_neg other]
    split at quiet
    · next ethernet =>
      rw [if_pos ethernet]
      exact congrArg (fun slot => { technologies with ethernet := slot })
        (switchSlot_unchanged quiet)
    -- A path that names neither slot writes nothing.
    · next unknown => rw [if_neg unknown]

/-- A notification that is told as no change leaves the technologies as they were. -/
theorem apply_unchanged {technologies : Technologies} {notification : Notification}
    (quiet : (technologies.apply notification).1 = .unchanged) :
    (technologies.apply notification).2 = technologies := by
  -- Each notification about technologies has its own law, and no other writes anything.
  cases notification with
  | technologyAdded technology => exact absurd quiet (added_told technologies technology)
  | technologyRemoved path => exact removed_unchanged quiet
  | powered path on => exact switched_unchanged quiet
  | _ => rfl

/-- A notification writes to one slot at most. -/
theorem apply_one_slot (technologies : Technologies) (notification : Notification) :
    (technologies.apply notification).2.wifi = technologies.wifi ∨
      (technologies.apply notification).2.ethernet = technologies.ethernet := by
  -- The kind picks the slot of a registration, the path that of the others, and wifi goes first.
  cases notification with
  | technologyAdded technology =>
    simp only [apply, added]
    split
    · exact .inr rfl
    · exact .inl rfl
  -- A path that names the radio leaves the cable, and any other path the radio.
  | technologyRemoved path =>
    simp only [apply, removed]
    split
    · exact .inr rfl
    · split <;> exact .inl rfl
  | powered path on =>
    simp only [apply, switched]
    split
    · exact .inr rfl
    · split <;> exact .inl rfl
  | _ => exact .inl rfl

variable {μ : Type} [NetworkManager μ]

/-- What becomes of a power request, by the radio that is registered and the manager's answer. -/
inductive SetsPower (technologies : Technologies) (manager : μ) (on : Bool) :
    Except PowerError Unit × Technologies × μ → Prop
  /-- Without a radio the manager is not asked. -/
  | absent (none : technologies.wifi = none) :
      SetsPower technologies manager on (.error .noWifi, technologies, manager)
  /-- Nor is it asked for what is so already, which is a success only for switching on. -/
  | already {wifi : Technology} (held : technologies.wifi = some wifi)
      (same : wifi.powered = on) :
      SetsPower technologies manager on
        (if on then .ok () else .error .alreadyOff, technologies, manager)
  /-- The manager's refusal leaves the radio as it was. -/
  | refused {wifi : Technology} {error : ManagerError} {later : μ}
      (held : technologies.wifi = some wifi) (differs : wifi.powered ≠ on)
      (answered : NetworkManager.submit manager (.setPowered wifi.path on) =
        (.error error, later)) :
      SetsPower technologies manager on (.error (.manager error), technologies, later)
  /-- Its consent is written into the slot at once. -/
  | taken {wifi : Technology} {later : μ} (held : technologies.wifi = some wifi)
      (differs : wifi.powered ≠ on)
      (answered : NetworkManager.submit manager (.setPowered wifi.path on) = (.ok (), later)) :
      SetsPower technologies manager on
        (.ok (), { technologies with wifi := some { wifi with powered := on } }, later)

/-- Every power request comes to one of these. -/
theorem setWifiPower_cases (technologies : Technologies) (manager : μ) (on : Bool) :
    SetsPower technologies manager on (technologies.setWifiPower manager on) := by
  -- The tests are made in the order of the cases.
  unfold setWifiPower
  split
  · next none => exact .absent none
  · next wifi held =>
    split
    · next same => exact .already held (by simpa using same)
    · next differs =>
      have differs : wifi.powered ≠ on := by simpa using differs
      -- The manager is asked once, and only its consent switches the radio.
      split
      · next error later answered => exact .refused held differs answered
      · next later answered => exact .taken held differs answered

variable {technologies : Technologies} {manager : μ} {on : Bool}
  {outcome : Except PowerError Unit × Technologies × μ}

/-- A power request that does not succeed leaves the technologies as they were. -/
theorem SetsPower.unchanged (sets : SetsPower technologies manager on outcome)
    (failed : outcome.1 ≠ .ok ()) : outcome.2.1 = technologies := by
  -- Only consent writes to the slot.
  cases sets with
  | absent | already | refused => rfl
  | taken => exact absurd rfl failed

/-- A power request that succeeds leaves the radio with the power asked for. -/
theorem SetsPower.wifiPowered_eq (sets : SetsPower technologies manager on outcome)
    (done : outcome.1 = .ok ()) : outcome.2.1.wifiPowered = on := by
  cases sets with
  | absent | refused => cases done
  | taken => rfl
  | already held same =>
    -- The radio was as wanted, whether that counts as success or not.
    simp only [wifiPowered, held]
    exact same

/-- The manager is asked once for the radio's switch, or there is nothing to ask for. -/
theorem SetsPower.asked (sets : SetsPower technologies manager on outcome) :
    (∃ wifi, technologies.wifi = some wifi ∧ wifi.powered ≠ on ∧
      outcome.2.2 = (NetworkManager.submit manager (.setPowered wifi.path on)).2) ∨
    (∀ wifi, technologies.wifi = some wifi → wifi.powered = on) ∧ outcome.2.2 = manager := by
  -- A request goes out exactly if a radio is there and has the other power.
  cases sets with
  | absent none => exact .inr ⟨fun wifi held => (by rw [none] at held; cases held), rfl⟩
  | already held same =>
    refine .inr ⟨fun wifi other => ?_, rfl⟩
    rw [held] at other
    cases other
    exact same
  | refused held differs answered | taken held differs answered =>
    exact .inl ⟨_, held, differs, (congrArg Prod.snd answered).symm⟩

/-- The prepared manager has written down one call for the radio, or none. -/
theorem calls_setWifiPower (technologies : Technologies) (manager : ManagerDouble) (on : Bool) :
    (technologies.setWifiPower manager on).2.2.calls = manager.calls ++
      (technologies.wifi.toList.filter fun wifi => wifi.powered != on).map fun wifi =>
        .request (.setPowered wifi.path on) := by
  -- It writes down every request, whether it takes it or not.
  rcases (setWifiPower_cases technologies manager on).asked with
    ⟨wifi, held, differs, asked⟩ | ⟨idle, same⟩
  · rw [asked, held]
    simp [NetworkManager.submit, ManagerDouble.submit, ManagerDouble.record, differs]
  · rw [same]
    cases held : technologies.wifi with
    | none => simp
    | some wifi => simp [idle wifi held]

/-- However the technologies came about, each slot holds its own kind. -/
theorem Reached.kindsMatch {technologies : Technologies} (reached : Reached technologies) :
    technologies.KindsMatch := by
  -- Each call keeps the kinds, whatever it answers.
  induction reached with
  | nothing => exact kindsMatch_empty
  | applied _ notification ih => exact ih.apply notification
  | added _ technology ih => exact ih.added technology
  | removed _ path ih => exact ih.removed path
  | switched _ path on ih => exact ih.switched path on
  | @powered technologies _ μ _ manager on ih =>
    -- A request that fails leaves the slots, one that succeeds keeps the radio's kind.
    rcases outcome : technologies.setWifiPower manager on with ⟨result, after, later⟩
    cases result with
    | error error =>
      rw [setWifiPower_error outcome]
      exact ih
    | ok => exact ih.setWifiPower outcome

/--
However the registered technologies came about, each slot holds its own kind, and the edges of the
radio's power are told exactly.

A notification is a loss of power exactly if the radio had power before it and has none after it;
one that is no change left everything as it was, and none writes to both slots. A power request
that fails changes nothing and one that succeeds leaves the power asked for. Any manager is asked
once, for the registered radio, exactly if that has another power, and otherwise not at all; the
prepared one has written that down.
-/
theorem power_edges_told {technologies : Technologies} (reached : Reached technologies) :
    technologies.KindsMatch ∧
    (∀ notification,
      let (change, after) := technologies.apply notification
      (change = .wifiPowerLost ↔
        technologies.wifiPowered = true ∧ after.wifiPowered = false) ∧
      (change = .unchanged → after = technologies) ∧
      (after.wifi = technologies.wifi ∨ after.ethernet = technologies.ethernet) ∧
      after.KindsMatch) ∧
    (∀ (μ : Type) [NetworkManager μ] (manager : μ) (on : Bool),
      let (result, after, later) := technologies.setWifiPower manager on
      (result ≠ .ok () → after = technologies) ∧
      (result = .ok () → after.wifiPowered = on) ∧
      ((∃ wifi, technologies.wifi = some wifi ∧ wifi.powered ≠ on ∧
          later = (NetworkManager.submit manager (.setPowered wifi.path on)).2) ∨
        (∀ wifi, technologies.wifi = some wifi → wifi.powered = on) ∧ later = manager)) ∧
    ∀ (manager : ManagerDouble) (on : Bool),
      (technologies.setWifiPower manager on).2.2.calls = manager.calls ++
        (technologies.wifi.toList.filter fun wifi => wifi.powered != on).map fun wifi =>
          .request (.setPowered wifi.path on) := by
  -- The kinds hold on every way, and with them each part has its own law.
  have kinds := reached.kindsMatch
  refine ⟨kinds, fun notification => ?_, fun μ _ manager on => ?_, calls_setWifiPower _⟩
  · exact ⟨apply_lost_iff kinds notification, apply_unchanged, apply_one_slot _ _,
      kinds.apply notification⟩
  · have sets := setWifiPower_cases technologies manager on
    exact ⟨sets.unchanged, sets.wifiPowered_eq, sets.asked⟩

/--
A radio and a cable behind one path, the radio removed with power and registered twice again, dark
and with power.
-/
def sharedPath : Technologies :=
  ((((({} : Technologies).added ⟨"port", .wifi, true⟩).2.removed "port").2.added
    ⟨"port", .wifi, false⟩).2.added ⟨"port", .ethernet, true⟩).2.added ⟨"port", .wifi, true⟩ |>.2

/--
Darkness told of a shared path is the radio's, removing the path takes the radio and its power, and
switching the radio asks for it once.
-/
theorem power_edges_told_shared :
    Reached sharedPath ∧ sharedPath.wifiPowered = true ∧
      (sharedPath.apply (.powered "port" false)).1 = .wifiPowerLost ∧
      (sharedPath.apply (.powered "port" false)).2.ethernet = sharedPath.ethernet ∧
      (sharedPath.apply (.technologyRemoved "port")).1 = .wifiPowerLost ∧
      (sharedPath.apply (.technologyRemoved "port")).2 =
        { sharedPath with wifi := none } ∧
      (sharedPath.setWifiPower ({} : ManagerDouble) false).2.1.wifiPowered = false ∧
      (sharedPath.setWifiPower ({} : ManagerDouble) false).2.2.calls =
        [.request (.setPowered "port" false)] := by
  have reached : Reached sharedPath :=
    ((((Reached.nothing.added ⟨"port", .wifi, true⟩).removed "port").added
      ⟨"port", .wifi, false⟩).added ⟨"port", .ethernet, true⟩).added ⟨"port", .wifi, true⟩
  obtain ⟨-, told, set, written⟩ := power_edges_told reached
  obtain ⟨lost, -, one, -⟩ := told (.powered "port" false)
  -- A removal is a notification like the others, so the same law tells what it loses.
  obtain ⟨gone, -⟩ := told (.technologyRemoved "port")
  obtain ⟨-, dark, -⟩ := set ManagerDouble {} false
  exact ⟨reached, rfl, lost.mpr ⟨rfl, rfl⟩, one.resolve_left (by decide),
    gone.mpr ⟨rfl, rfl⟩, rfl, dark rfl, written {} false⟩

end Technologies

end CompanionLink
