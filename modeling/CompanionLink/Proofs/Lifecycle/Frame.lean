import CompanionLink.Proofs.Directory.Replay
import CompanionLink.Proofs.Lifecycle.Happening

/-!
What ticks and commands leave alone. Only notifications write to the listing, and each thing that
happens to a link asks at most one thing of the manager.
-/

namespace CompanionLink

/-- What a notification tells the listing, if it is about access points at all. -/
def Notification.update? : Notification → Option Directory.Update
  | .accessPointsChanged changed removed => some (.batch changed removed)
  | .propertyChanged id property => some (.property id property)
  | _ => none

/-- A directory once some notifications were taken in, oldest first. -/
def Directory.told (directory : Directory) (notifications : List Notification) : Directory :=
  (notifications.filterMap Notification.update?).foldl Directory.update directory

/-- Notifications may be taken in at once or in two parts. -/
theorem Directory.told_append (directory : Directory) (first later : List Notification) :
    directory.told (first ++ later) = (directory.told first).told later := by
  -- Taking in is a fold over the notifications that concern the listing.
  simp only [told, List.filterMap_append, List.foldl_append]

/-- Whether a happening is a command, other than the one that ends the link. -/
def Happening.isCommand {μ β χ : Type} : Happening μ β χ → Bool
  | .tick _ | .shutdown | .outside .. => false
  | _ => true

/-- Time passes with a happening, or it is something else. -/
theorem Happening.tick_or_still {μ β χ : Type} (happening : Happening μ β χ) :
    (∃ elapsed, happening = .tick elapsed) ∨ ∀ elapsed, happening ≠ .tick elapsed := by
  -- By cases on the happening.
  cases happening with
  | tick elapsed => exact .inl ⟨elapsed, rfl⟩
  | _ => exact .inr fun _ same => nomatch same

/-- A manager after at most one request. -/
inductive Asked {μ : Type} [NetworkManager μ] (manager : μ) : μ → Prop
  | nothing : Asked manager manager
  | request (request : Request) : Asked manager (NetworkManager.submit manager request).2

namespace Asked

variable {μ : Type} [NetworkManager μ] {manager later : μ}

/-- Whatever the manager answers to a request, it was asked for one thing. -/
theorem of_submit {request : Request} {outcome : Except ManagerError Unit}
    (answered : NetworkManager.submit manager request = (outcome, later)) :
    Asked manager later := by
  -- The answer is only a name for what submitting gives.
  have asked : Asked manager (NetworkManager.submit manager request).2 := .request request
  rwa [answered] at asked

/-- A request about a listed access point is one request, or none. -/
theorem submit (manager : μ) (wanted : Except DirectoryError (Option Request)) :
    Asked manager (Directory.submit manager wanted).2 := by
  unfold Directory.submit
  split
  -- An index outside the listing and a move that leads nowhere ask for nothing.
  · exact .nothing
  · exact .nothing
  · split
    · rename_i answered
      exact of_submit answered
    · rename_i answered
      exact of_submit answered

/-- Switching the radio is one request, or none if it is as wanted already. -/
theorem setWifiPower (technologies : Technologies) (manager : μ) (on : Bool) :
    Asked manager (technologies.setWifiPower manager on).2.2 := by
  -- There may be no radio, or it may be as wanted; otherwise it is one request.
  unfold Technologies.setWifiPower
  split
  · exact .nothing
  · split
    · exact .nothing
    · split
      · rename_i answered
        exact of_submit answered
      · rename_i answered
        exact of_submit answered

end Asked

namespace Link

variable {μ β χ : Type} [NetworkManager μ] [Announcer β] [PairingChannel χ]

/-- A link whose listing is as before, and whose manager was asked at most one thing. -/
structure Frames (link after : Link μ β χ) : Prop where
  listing : after.directory = link.directory
  asked : Asked link.manager after.manager

omit [Announcer β] [PairingChannel χ] in
/-- A link that touches neither its listing nor its manager. -/
theorem Frames.of_eq {link after : Link μ β χ} (listing : after.directory = link.directory)
    (manager : after.manager = link.manager) : Frames link after :=
  -- The same manager was asked for nothing.
  ⟨listing, manager ▸ .nothing⟩

/-- A stage's work looks at the listing and asks for a search at most. -/
theorem Works.frames {link after : Link μ β χ} (works : Works link after) :
    Frames link after := by
  -- Of all the work, only a search that is due comes to the manager.
  cases works with
  | searchTaken _ _ taken => exact ⟨rfl, .of_submit taken⟩
  | searchRefused _ _ refused => exact ⟨rfl, .of_submit refused⟩
  | _ => exact .of_eq rfl rfl

/-- The step of a tick leaves the listing alone and makes one request at most. -/
theorem frames_step (link : Link μ β χ) : Frames link link.step := by
  -- Giving up a lost access point makes no request.
  rcases step_cases link with ⟨_, _, lost⟩ | ⟨_, work⟩
  · rw [lost]
    exact .of_eq rfl rfl
  · exact work.frames

/-- The power switch leaves the listing alone and makes one request at most. -/
theorem frames_setPower (link : Link μ β χ) (on : Bool) : Frames link (link.setPower on).2 := by
  -- The switch itself is the one request; what follows only writes to the link.
  have asked := Asked.setWifiPower link.technologies link.manager on
  have outcome := setPower_cases link on
  revert outcome
  generalize link.setPower on = result
  rintro (_ | ⟨_, refused⟩ | ⟨_, switched⟩ | ⟨_, _, switched⟩ | ⟨_, switched⟩)
  · exact .of_eq rfl rfl
  · exact ⟨rfl, by rwa [refused] at asked⟩
  · exact ⟨rfl, by rwa [switched] at asked⟩
  · exact ⟨rfl, by rwa [switched] at asked⟩
  · exact ⟨rfl, by rwa [switched] at asked⟩

/-- A join leaves the listing alone and makes one request at most. -/
theorem frames_connect (link : Link μ β χ) (index : Nat) :
    Frames link (link.connect index).2 := by
  -- A join that is refused for want of power does not come to the manager.
  have asked := Asked.submit link.manager (link.directory.joinRequest index)
  have outcome := connect_cases link index
  revert outcome
  generalize link.connect index = result
  rintro (_ | ⟨_, _, refused⟩ | ⟨_, _, _, taken⟩ | ⟨_, _, _, taken⟩)
  · exact .of_eq rfl rfl
  · exact ⟨rfl, by rwa [refused] at asked⟩
  · exact ⟨rfl, by rwa [taken] at asked⟩
  · exact ⟨rfl, by rwa [taken] at asked⟩

/-- A command leaves the listing as it is. -/
theorem frames_command (link : Link μ β χ) {happening : Happening μ β χ}
    (command : happening.isCommand = true) : Frames link (link.after happening) := by
  -- Each command leaves the listing and at most asks for one thing.
  cases happening with
  | tick | shutdown | outside => cases command
  | setPower on => exact frames_setPower link on
  | connect index => exact frames_connect link index
  | scan =>
    rw [after, scan]
    split <;> exact .of_eq rfl rfl
  -- Whether the request is made depends on the listing, which it does not change.
  | forget index => exact ⟨rfl, .submit link.manager (link.directory.forgetRequest index)⟩
  | moveUp index => exact ⟨rfl, .submit link.manager (link.directory.moveUpRequest index)⟩
  | moveDown index => exact ⟨rfl, .submit link.manager (link.directory.moveDownRequest index)⟩
  | read buffer =>
    rw [after, read]
    split
    · exact .of_eq rfl rfl
    · split <;> exact .of_eq rfl rfl
  | write bytes =>
    rw [after, write]
    split <;> exact .of_eq rfl rfl

omit [NetworkManager μ] in
/-- One notification is taken in as it is told, and the manager is not asked anything for it. -/
theorem note_told (link : Link μ β χ) (notification : Notification) :
    (link.note notification).directory = link.directory.told [notification] ∧
      (link.note notification).manager = link.manager := by
  -- A lost radio takes the link down, but the listing stands.
  have technology : (link.noteTechnology notification).directory = link.directory ∧
      (link.noteTechnology notification).manager = link.manager := by
    rcases noteTechnology_cases link notification with ⟨_, _, _, lost⟩ | ⟨_, kept⟩
    · rw [lost]
      exact ⟨rfl, rfl⟩
    · rw [kept]
      exact ⟨rfl, rfl⟩
  cases notification with
  | technologyAdded | technologyRemoved | powered => exact technology
  | _ => exact ⟨rfl, rfl⟩

omit [NetworkManager μ] in
/-- Notifications are taken in one after the other. -/
theorem foldl_note_told (delivered : List Notification) (link : Link μ β χ) :
    (delivered.foldl note link).directory = link.directory.told delivered ∧
      (delivered.foldl note link).manager = link.manager := by
  induction delivered generalizing link with
  | nil => exact ⟨rfl, rfl⟩
  | cons notification later ih =>
    -- The later ones find the listing as the first one left it.
    obtain ⟨listing, manager⟩ := note_told link notification
    obtain ⟨rest, same⟩ := ih (link.note notification)
    rw [List.foldl_cons, rest, same, listing, ← Directory.told_append]
    exact ⟨rfl, manager⟩

/-- What is left of the manager once the next tick has taken everything in. -/
def drainedManager (link : Link μ β χ) : μ :=
  (NetworkManager.takeNotifications (NetworkManager.dispatch link.manager).2).2

/-- The work of a tick finds everything that was delivered in the listing, and nothing else. -/
theorem untilStep_told (link : Link μ β χ) (elapsed : Nat) :
    (link.untilStep elapsed).directory = link.directory.told link.delivered ∧
      (link.untilStep elapsed).manager = link.drainedManager := by
  -- The announcer's time changes neither, so what the fold over the notifications gives stands.
  obtain ⟨announcer, status, ticked, _⟩ :=
    tickBeacon_eq { link with elapsed := link.elapsed + elapsed }.drain elapsed
  rw [untilStep, ticked]
  exact foldl_note_told link.delivered
    { link with elapsed := link.elapsed + elapsed, manager := link.drainedManager }

/-- A tick takes in what was delivered, and asks for a search at most. -/
theorem tick_told {link : Link μ β χ} (open_ : link.stage ≠ .closed) (elapsed : Nat) :
    (link.tick elapsed).directory = link.directory.told link.delivered ∧
      Asked link.drainedManager (link.tick elapsed).manager := by
  -- What the drain brought in is what the step leaves.
  obtain ⟨listing, manager⟩ := untilStep_told link elapsed
  have frames := frames_step (link.untilStep elapsed)
  rw [tick_eq open_, ← listing, ← manager]
  exact ⟨frames.listing, frames.asked⟩

omit [NetworkManager μ] in
/-- No notification changes the settings. -/
theorem settings_note (link : Link μ β χ) (notification : Notification) :
    (link.note notification).settings = link.settings := by
  -- Only news of the technologies can do more than change the listing.
  have technology : (link.noteTechnology notification).settings = link.settings := by
    rcases noteTechnology_cases link notification with ⟨_, _, _, lost⟩ | ⟨_, kept⟩
    · rw [lost]
      rfl
    · rw [kept]
  cases notification with
  | technologyAdded | technologyRemoved | powered => exact technology
  | _ => rfl

/-- No stage's work changes the settings. -/
theorem Works.settings {link after : Link μ β χ} (works : Works link after) :
    after.settings = link.settings := by
  cases works <;> rfl

/-- The settings that a tick's work finds are those from before the tick. -/
theorem settings_untilStep (link : Link μ β χ) (elapsed : Nat) :
    (link.untilStep elapsed).settings = link.settings :=
  -- Neither a notification nor the beacon's tick writes to the settings.
  @untilStep_keeps _ _ _ _ _ _ (fun later => later.settings = link.settings) _ elapsed
    (fun _ _ _ _ same => same)
    (fun later notification same => (settings_note later notification).trans same)
    (fun _ same => same) rfl

/-- A tick keeps the settings. -/
theorem settings_tick (link : Link μ β χ) (elapsed : Nat) :
    (link.tick elapsed).settings = link.settings := by
  -- The drain and the work both keep them.
  by_cases closed : link.stage = .closed
  · rw [tick_closed closed]
  · have found := settings_untilStep link elapsed
    rw [tick_eq closed]
    rcases step_cases (link.untilStep elapsed) with ⟨_, _, lost⟩ | ⟨_, work⟩
    · rw [lost]
      exact found
    · exact work.settings.trans found

/-- The settings of a link are those that it was started with. -/
theorem settings_after (link : Link μ β χ) (happening : Happening μ β χ) :
    (link.after happening).settings = link.settings := by
  -- Each command is one of its own cases, and none of them writes to the settings.
  cases happening with
  | tick elapsed => exact settings_tick link elapsed
  | setPower on =>
    rw [after]
    have outcome := setPower_cases link on
    revert outcome
    generalize link.setPower on = result
    rintro (_ | _ | _ | _ | _) <;> rfl
  | connect index =>
    rw [after]
    have outcome := connect_cases link index
    revert outcome
    generalize link.connect index = result
    rintro (_ | _ | _ | _) <;> rfl
  -- The others write the status, a request or what the channel answered.
  | scan => rw [after, scan]; split <;> rfl
  | forget | moveUp | moveDown | outside => rfl
  | read buffer =>
    rw [after, read]
    split
    · rfl
    · split <;> rfl
  | write bytes => rw [after, write]; split <;> rfl
  | shutdown => rw [after, shutdown]; split <;> rfl

/-- A run keeps the settings. -/
theorem settings_afterAll (link : Link μ β χ) (happenings : List (Happening μ β χ)) :
    (link.afterAll happenings).settings = link.settings := by
  -- By induction on the run.
  induction happenings generalizing link with
  | nil => rfl
  | cons happening later ih =>
    exact (ih (link.after happening)).trans (settings_after link happening)

end Link

end CompanionLink
