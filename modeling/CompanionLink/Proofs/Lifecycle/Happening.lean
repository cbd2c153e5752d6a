import CompanionLink.Proofs.Lifecycle.Radio

/-!
Runs of any link as one happening after another, and which of them spare a join that is going on:
they begin no other one and do not take the link down. What a tick takes in then changes what is
known, and at most marks the join as rejected.
-/

namespace CompanionLink

/-- Something that happens to a link: a tick, a command, or a change of what it works with. -/
inductive Happening (μ β χ : Type) where
  | tick (elapsed : Nat)
  | setPower (on : Bool)
  | connect (index : Nat)
  | scan
  | forget (index : Nat)
  | moveUp (index : Nat)
  | moveDown (index : Nat)
  | read (buffer : Bytes)
  | write (bytes : Bytes)
  | shutdown
  /-- Whatever else happens to the manager, the announcer and the channel meanwhile. -/
  | outside (manager : μ) (announcer : β) (channel : χ)

/-- Whether a notification tells that the join of an access point was rejected. -/
def Notification.rejectsJoin (id : String) : Notification → Bool
  | .joinFailed other _ => other == id
  | _ => false

/-- A target once some notifications were taken in, which may tell that it was rejected. -/
def JoinTarget.marked (delivered : List Notification) (target : JoinTarget) : JoinTarget :=
  { target with rejected := target.rejected || delivered.any (·.rejectsJoin target.id) }

/-- Notifications that reject no join leave every target as it is. -/
theorem JoinTarget.map_marked_silent {delivered : List Notification}
    (silent : ∀ id, delivered.any (·.rejectsJoin id) = false) (wanted : Option JoinTarget) :
    wanted.map (JoinTarget.marked delivered) = wanted := by
  -- Marking asks only whether one of the notifications rejects the join.
  cases wanted with
  | none => rfl
  | some target => simp [marked, silent]

/-- Notifications mark a target one after the other. -/
theorem JoinTarget.marked_marked (notification : Notification) (later : List Notification)
    (target : JoinTarget) :
    (target.marked [notification]).marked later = target.marked (notification :: later) := by
  -- Being rejected by the first or by the later ones is being rejected by any.
  simp [marked, Bool.or_assoc]

namespace Technologies

/-- Whether notifications, taken in one after the other, put out a radio that was on. -/
def losesPower (technologies : Technologies) : List Notification → Bool
  | [] => false
  | notification :: later =>
    let next := (technologies.apply notification).2
    (technologies.wifiPowered && !next.wifiPowered) || next.losesPower later

end Technologies

namespace Link

variable {μ β χ : Type} [NetworkManager μ] [Announcer β] [PairingChannel χ]

/-- The link after something happened to it. -/
def after (link : Link μ β χ) : Happening μ β χ → Link μ β χ
  | .tick elapsed => link.tick elapsed
  | .setPower on => (link.setPower on).2
  | .connect index => (link.connect index).2
  | .scan => link.scan.2
  | .forget index => (link.forget index).2
  | .moveUp index => (link.moveUp index).2
  | .moveDown index => (link.moveDown index).2
  | .read buffer => (link.read buffer).2
  | .write bytes => (link.write bytes).2
  | .shutdown => link.shutdown
  | .outside manager announcer channel => { link with manager, announcer, channel }

/-- The link after one thing after another happened to it. -/
def afterAll (link : Link μ β χ) (happenings : List (Happening μ β χ)) : Link μ β χ :=
  happenings.foldl after link

/-- Every happening is one of the things that can follow. -/
theorem follows_after (link : Link μ β χ) (happening : Happening μ β χ) :
    Follows link (link.after happening) := by
  -- The two lists name the same things, one for a run and one for a proof.
  cases happening with
  | tick elapsed => exact .tick elapsed
  | setPower on => exact .setPower on
  | connect index => exact .connect index
  | scan => exact .scan
  | forget index => exact .forget index
  | moveUp index => exact .moveUp index
  | moveDown index => exact .moveDown index
  | read buffer => exact .read buffer
  | write bytes => exact .write bytes
  | shutdown => exact .shutdown
  -- What happens from outside is given with the parts that it leaves.
  | outside manager announcer channel => exact .outside manager announcer channel

/-- What follows a link is the link after some happening. -/
theorem Follows.exists_happening {link later : Link μ β χ} (happened : Follows link later) :
    ∃ happening, later = link.after happening := by
  -- The two lists have one entry for each other.
  cases happened with
  | tick elapsed => exact ⟨.tick elapsed, rfl⟩
  | setPower on => exact ⟨.setPower on, rfl⟩
  | connect index => exact ⟨.connect index, rfl⟩
  | scan => exact ⟨.scan, rfl⟩
  | forget index => exact ⟨.forget index, rfl⟩
  | moveUp index => exact ⟨.moveUp index, rfl⟩
  | moveDown index => exact ⟨.moveDown index, rfl⟩
  | read buffer => exact ⟨.read buffer, rfl⟩
  | write bytes => exact ⟨.write bytes, rfl⟩
  | shutdown => exact ⟨.shutdown, rfl⟩
  | outside manager announcer channel => exact ⟨.outside manager announcer channel, rfl⟩

/-- A run leads from a link that some history leads to to another such link. -/
theorem Reachable.afterAll {link : Link μ β χ} (reachable : Reachable link)
    (happenings : List (Happening μ β χ)) : Reachable (link.afterAll happenings) := by
  -- Each happening of the run is one more thing that follows.
  induction happenings generalizing link with
  | nil => exact reachable
  | cons happening later ih => exact ih (reachable.follow (follows_after link happening))

/-- What the next tick takes in. -/
def delivered (link : Link μ β χ) : List Notification :=
  (NetworkManager.takeNotifications (NetworkManager.dispatch link.manager).2).1

/--
Whether a happening spares a join that is going on: no other join takes its place, the radio is
not lost or switched off, and the link is not shut down.
-/
def spares (link : Link μ β χ) : Happening μ β χ → Bool
  | .tick _ => !link.technologies.losesPower link.delivered
  -- Only the switch that was taken for off, and a join that was taken, end one.
  | .setPower on => on || (link.setPower on).1 != .ok
  | .connect index => (link.connect index).1 != .ok
  | .shutdown => false
  | _ => true

/-- Whether every happening of a run spares a join that is going on. -/
def sparesAll (link : Link μ β χ) : List (Happening μ β χ) → Bool
  | [] => true
  | happening :: later => link.spares happening && (link.after happening).sparesAll later

omit [NetworkManager μ] [Announcer β] [PairingChannel χ] in
/-- A rejection marks the target if it is meant. -/
theorem noteJoinFailed_eq (link : Link μ β χ) (id reason : String) :
    link.noteJoinFailed id =
      { link with
        joinTarget := link.joinTarget.map (JoinTarget.marked [.joinFailed id reason]) } := by
  have marks : (fun target : JoinTarget =>
      if target.id == id then { target with rejected := true } else target) =
      JoinTarget.marked [.joinFailed id reason] := by
    funext target
    -- The names are compared either way round, and a mark that is there stays.
    by_cases meant : id = target.id
    · simp [JoinTarget.marked, Notification.rejectsJoin, meant]
    · have other : (id == target.id) = false := by simpa using meant
      simp [JoinTarget.marked, Notification.rejectsJoin, other, Ne.symm meant]
  rw [noteJoinFailed, marks]

omit [NetworkManager μ] in
/-- A notification that puts no radio out changes what is known, and marks a rejected target. -/
theorem note_spared {link : Link μ β χ} (kinds : link.technologies.KindsMatch)
    {notification : Notification}
    (lit : (link.technologies.wifiPowered &&
      !(link.technologies.apply notification).2.wifiPowered) = false) :
    ∃ directory scanRejected, link.note notification =
      { link with
        technologies := (link.technologies.apply notification).2, directory, scanRejected
        joinTarget := link.joinTarget.map (JoinTarget.marked [notification]) } := by
  -- Only a rejected join is about the target at all.
  have silent (other : ∀ id, notification.rejectsJoin id = false) :
      link.joinTarget.map (JoinTarget.marked [notification]) = link.joinTarget :=
    JoinTarget.map_marked_silent (by simpa using other) link.joinTarget
  -- A technology that leaves the radio as it is takes no link down.
  have written : link.noteTechnology notification =
      { link with technologies := (link.technologies.apply notification).2 } := by
    rcases noteTechnology_cases link notification with ⟨lost, _⟩ | ⟨_, written⟩
    · obtain ⟨powered, dark⟩ := (Technologies.apply_lost_iff kinds notification).mp lost
      simp [powered, dark] at lit
    · exact written
  cases notification with
  | joinFailed id reason =>
    exact ⟨link.directory, link.scanRejected, link.noteJoinFailed_eq id reason⟩
  | accessPointsChanged changed removed =>
    rw [silent fun _ => rfl]
    exact ⟨_, link.scanRejected, rfl⟩
  | propertyChanged id property =>
    rw [silent fun _ => rfl]
    exact ⟨_, link.scanRejected, rfl⟩
  | scanFailed path reason =>
    rw [silent fun _ => rfl]
    exact ⟨link.directory, true, rfl⟩
  | technologyAdded | technologyRemoved | powered =>
    rw [silent fun _ => rfl]
    exact ⟨link.directory, link.scanRejected, written⟩

omit [NetworkManager μ] in
/-- Notifications that put no radio out change what is known, and mark a rejected target. -/
theorem foldl_note_spared {delivered : List Notification} {link : Link μ β χ}
    (kinds : link.technologies.KindsMatch)
    (lit : link.technologies.losesPower delivered = false) :
    ∃ technologies directory scanRejected, delivered.foldl note link =
      { link with
        technologies, directory, scanRejected
        joinTarget := link.joinTarget.map (JoinTarget.marked delivered) } := by
  -- Each notification finds the technologies as those before it left them.
  induction delivered generalizing link with
  | nil =>
    refine ⟨link.technologies, link.directory, link.scanRejected, ?_⟩
    rw [JoinTarget.map_marked_silent fun _ => rfl]
    rfl
  | cons notification later ih =>
    rw [Technologies.losesPower, Bool.or_eq_false_iff] at lit
    obtain ⟨directory, scanRejected, first⟩ := note_spared kinds lit.1
    have kept : (link.note notification).technologies.KindsMatch := by
      rw [first]
      exact kinds.apply notification
    have still : (link.note notification).technologies.losesPower later = false := by
      rw [first]
      exact lit.2
    obtain ⟨technologies, directory, scanRejected, rest⟩ := ih kept still
    refine ⟨technologies, directory, scanRejected, ?_⟩
    rw [List.foldl_cons, rest, first]
    -- The marks of the first and of the later ones are those of all.
    have both : JoinTarget.marked later ∘ JoinTarget.marked [notification] =
        JoinTarget.marked (notification :: later) :=
      funext (JoinTarget.marked_marked notification later)
    simp only [Option.map_map, both]

end Link

end CompanionLink
