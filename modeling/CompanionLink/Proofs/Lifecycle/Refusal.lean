import CompanionLink.Proofs.Lifecycle.Frame

/-!
A command that is refused changes nothing. Every check, and the one request that a command makes of
the manager, come before anything is written to the link.
-/

namespace CompanionLink

namespace Link

variable {μ β χ : Type} [NetworkManager μ] [Announcer β] [PairingChannel χ]

/-- A link that stands as it was, but for its last status and one request to its manager at most. -/
def Stands (link after : Link μ β χ) : Prop :=
  ∃ status manager, after = { link with status, manager } ∧ Asked link.manager manager

omit [Announcer β] [PairingChannel χ] in
/-- A link that made no request stands as it was. -/
theorem stands_status (link : Link μ β χ) (status : Status) : Stands link { link with status } :=
  -- The manager was asked for nothing.
  ⟨status, link.manager, rfl, .nothing⟩

/-- The radio is not switched in a link that is closed, and not when the switch itself fails. -/
theorem stands_setPower {link : Link μ β χ} {on : Bool}
    (refused : (link.setPower on).1 ≠ .ok) : Stands link (link.setPower on).2 := by
  -- The switch is the one request, and both refusals come before the link is written to.
  have asked := Asked.setWifiPower link.technologies link.manager on
  have outcome := setPower_cases link on
  revert refused outcome
  generalize link.setPower on = result
  rintro refused (_ | ⟨_, answered⟩ | _ | _ | _)
  · exact stands_status link link.status
  -- The manager refused what it was asked.
  · rw [answered] at asked
    exact ⟨.fail, _, rfl, asked⟩
  -- The others succeeded.
  · exact absurd rfl refused
  · exact absurd rfl refused
  · exact absurd rfl refused

/-- A join is not begun without power, for an access point not listed, or against the manager. -/
theorem stands_connect {link : Link μ β χ} {index : Nat}
    (refused : (link.connect index).1 ≠ .ok) : Stands link (link.connect index).2 := by
  -- Whether the listing or the manager refuses, nothing was released yet.
  have asked := Asked.submit link.manager (link.directory.joinRequest index)
  have outcome := connect_cases link index
  revert refused outcome
  generalize link.connect index = result
  rintro refused (_ | ⟨_, _, answered⟩ | _ | _)
  · exact stands_status link .fail
  · rw [answered] at asked
    exact ⟨.fail, _, rfl, asked⟩
  · exact absurd rfl refused
  · exact absurd rfl refused

omit [NetworkManager μ] [Announcer β] [PairingChannel χ] in
/-- A search is not requested outside the listing stages, nor during another one. -/
theorem scan_refused {link : Link μ β χ} (refused : link.scan.1 ≠ .ok) :
    link.scan.2 = link := by
  -- The listing stages take the request, and every other stage leaves the link alone.
  revert refused
  unfold scan
  split <;> intro refused
  · exact absurd rfl refused
  · exact absurd rfl refused
  · rfl
  · rfl
  · rfl

omit [Announcer β] [PairingChannel χ] in
/-- A request about a listed access point writes to nothing but the status, even if it is taken. -/
theorem stands_request (link : Link μ β χ) (wanted : Except DirectoryError (Option Request)) :
    Stands link (link.request wanted).2 :=
  -- Whatever was wanted, the manager decided it alone.
  ⟨_, _, rfl, Asked.submit link.manager wanted⟩

end Link

/-- What the prepared manager has written down once it was asked, at most one request. -/
theorem ManagerDouble.calls_of_asked {manager later : ManagerDouble} (asked : Asked manager later) :
    ∃ made : Option Request,
      later = { manager with calls := manager.calls ++ (made.map ManagerCall.request).toList } := by
  -- A request is written down by the manager that decides it.
  cases asked with
  | nothing => exact ⟨none, by simp⟩
  | request request => exact ⟨some request, rfl⟩

/-- A request of a kind that is to fail is written down and rejected. -/
theorem ManagerDouble.submit_rejected {manager : ManagerDouble} {request : Request}
    (rejects : manager.failing.contains request.kind = true) :
    manager.submit request =
      (.error (.rejected request.kind request.object "injected failure"),
        manager.record (.request request)) := by
  -- The preparation is looked at first.
  rw [submit, if_pos rejects]

namespace Bench

/-- The commands that answer a status leave a link that stands as it was if they refuse. -/
theorem stands_perform {bench after : Bench} {operation : Operation} {status : Status}
    (answered : bench.perform operation = .ok (.status status, after)) (refused : status ≠ .ok) :
    Link.Stands bench after := by
  -- Only six operations are answered with a status at all.
  cases operation with
  | setPower on =>
    cases answered
    exact Link.stands_setPower refused
  | connect index =>
    cases answered
    exact Link.stands_connect refused
  | scan =>
    cases answered
    rw [Link.scan_refused refused]
    exact Link.stands_status bench bench.status
  | forget index =>
    cases answered
    exact Link.stands_request bench (bench.directory.forgetRequest index)
  | moveUp index =>
    cases answered
    exact Link.stands_request bench (bench.directory.moveUpRequest index)
  | moveDown index =>
    cases answered
    exact Link.stands_request bench (bench.directory.moveDownRequest index)
  | emit notification =>
    -- Whether it is handed in or not, a notification is not answered with a status.
    rw [perform] at answered
    cases handed : bench.manager.emit notification <;> rw [handed] at answered <;> cases answered
  | _ => cases answered

/-- A switch that the manager rejects is written down and not made. -/
theorem setPower_rejected {bench : Bench} {path : String}
    (wifi : bench.technologies.wifiPath = some path) (lit : bench.isPowered = true)
    (open_ : bench.stage ≠ .closed)
    (rejects : bench.manager.failing.contains .setPowered = true) :
    bench.perform (.setPower false) = .ok (.status .fail,
      { bench with
        status := .fail
        manager := bench.manager.record (.request (.setPowered path false)) }) := by
  -- A lit radio that is to go dark is something to ask the manager for.
  obtain ⟨radio, held, rfl⟩ := Option.map_eq_some_iff.mp wifi
  have powered : radio.powered = true := by
    simpa [Link.isPowered, Technologies.wifiPowered, held] using lit
  -- The manager writes the request down and refuses it.
  have submitted : NetworkManager.submit bench.manager (.setPowered radio.path false) =
      (.error (.rejected .setPowered radio.path "injected failure"),
        bench.manager.record (.request (.setPowered radio.path false))) :=
    ManagerDouble.submit_rejected rejects
  have answered : bench.technologies.setWifiPower bench.manager false =
      (.error (.manager (.rejected .setPowered radio.path "injected failure")),
        bench.technologies, bench.manager.record (.request (.setPowered radio.path false))) := by
    simp [Technologies.setWifiPower, held, powered, submitted]
  rw [perform, Link.setPower, if_neg open_, answered]
  rfl

/--
A command that is refused leaves everything as it was but the last status, and at most one request
more that the manager was asked.

So the session with a paired client goes on as if a join that failed had not been asked for: it is
read from as before. And a manager that rejects to switch a radio off leaves it on, with everything
open that was open.
-/
theorem refusal_changes_nothing (bench : Bench) :
    (∀ operation status after, bench.perform operation = .ok (.status status, after) →
      status ≠ .ok → ∃ made : Option Request, after =
        { bench with
          status := after.status
          manager :=
            { bench.manager with
              calls := bench.manager.calls ++ (made.map ManagerCall.request).toList } }) ∧
    (∀ index status after, bench.stage = .paired →
      bench.perform (.connect index) = .ok (.status status, after) → status ≠ .ok →
      after.stage = .paired ∧ after.announcer = bench.announcer ∧
      after.channel = bench.channel ∧
      ∀ buffer, (Link.read after buffer).1 = (Link.read bench buffer).1) ∧
    ∀ path, bench.technologies.wifiPath = some path → bench.isPowered = true →
      bench.stage ≠ .closed → bench.manager.failing.contains .setPowered = true →
      ∃ after, bench.perform (.setPower false) = .ok (.status .fail, after) ∧
        after.isPowered = true ∧ after.stage = bench.stage ∧
        after.announcer = bench.announcer ∧ after.channel = bench.channel ∧
        after.manager = bench.manager.record (.request (.setPowered path false)) := by
  refine ⟨fun operation status after answered refused => ?_,
    fun index status after paired answered refused => ?_,
    fun path wifi lit open_ rejects => ?_⟩
  -- Every refusal makes the link stand, up to the one request.
  · obtain ⟨_, _, rfl, asked⟩ := stands_perform answered refused
    obtain ⟨made, rfl⟩ := ManagerDouble.calls_of_asked asked
    exact ⟨made, rfl⟩
  · obtain ⟨_, _, rfl, -⟩ := stands_perform answered refused
    refine ⟨paired, rfl, rfl, fun buffer => ?_⟩
    -- A read looks at the stage and the channel only.
    simp only [Link.read]
    split
    · rfl
    · split <;> rfl
  -- The rejected switch is known outright, which gives the rest by reading it.
  · exact ⟨_, setPower_rejected wifi lit open_ rejects, lit, rfl, rfl, rfl, rfl⟩

/-- A run that pairs a client, after which the manager takes no join and switches no radio. -/
def obstinate : List Operation :=
  homecoming ++ [.failRequests .join true, .failRequests .setPowered true]

/-- A paired link whose manager takes no join and switches no radio goes on, with its radio on. -/
theorem refusal_changes_nothing_obstinate :
    ∃ fresh bench joined dimmed,
      Link.start homeManager ({} : AnnouncerDouble) ({} : ChannelDouble) {} = .ok fresh ∧
      Bench.run fresh obstinate = .ok bench ∧
      bench.perform (.connect 0) = .ok (.status .fail, joined) ∧
      (∃ made : Option Request, joined =
        { bench with
          status := joined.status
          manager :=
            -- The run pairs a client and then lets the manager refuse two kinds of request.
            { bench.manager with
              calls := bench.manager.calls ++ (made.map ManagerCall.request).toList } }) ∧
      joined.stage = .paired ∧
      bench.perform (.setPower false) = .ok (.status .fail, dimmed) ∧
      dimmed.isPowered = true ∧ dimmed.channel = bench.channel := by
  obtain ⟨fresh, bench, joined, started, ran, paired, answered, wifi, lit, open_, rejects⟩ :
      ∃ fresh bench joined,
        Link.start homeManager ({} : AnnouncerDouble) ({} : ChannelDouble) {} = .ok fresh ∧
        Bench.run fresh obstinate = .ok bench ∧ bench.stage = .paired ∧
        bench.perform (.connect 0) = .ok (.status .fail, joined) ∧
        bench.technologies.wifiPath = some "/net/connman/technology/wifi" ∧
        bench.isPowered = true ∧ bench.stage ≠ .closed ∧
        bench.manager.failing.contains .setPowered = true :=
    ⟨_, _, _, rfl, rfl, rfl, rfl, rfl, rfl, by decide, rfl⟩
  -- The run and its answers are evaluated first, and the theorem applied to them.
  obtain ⟨unwritten, goesOn, stays⟩ := refusal_changes_nothing bench
  obtain ⟨dimmed, refused, powered, _, _, channel, _⟩ := stays _ wifi lit open_ rejects
  exact ⟨fresh, bench, joined, dimmed, started, ran, answered,
    unwritten _ _ _ answered nofun, (goesOn _ _ _ paired answered nofun).1, refused, powered,
    channel⟩

end Bench

end CompanionLink
