import CompanionLink.Proofs.Lifecycle.Course

/-!
The access point that carries a link, and what the link reports of it. Carrier, address and hardware
address are looked up in three ways, and it is told here where these come to one access point.
-/

namespace CompanionLink

/-- The first access point whose link is up and that gave a lease. -/
def Directory.leaseHolder (directory : Directory) : Option AccessPoint :=
  directory.entries.find? fun point => point.isConnected && point.lease.isSome

/-- The lease in use is the one that its holder gave. -/
theorem Directory.connectedLease_eq (directory : Directory) :
    directory.connectedLease = directory.leaseHolder.bind fun point => point.lease := by
  unfold connectedLease leaseHolder
  induction directory.entries with
  | nil => rfl
  | cons point later ih =>
    -- Only an access point that is connected and leased ends the search.
    cases up : point.isConnected with
    | false => simp [up, ih]
    | true => cases held : point.lease <;> simp [up, held, ih]

namespace Link

variable {μ β χ : Type} [NetworkManager μ] [Announcer β] [PairingChannel χ]

omit [NetworkManager μ] [Announcer β] [PairingChannel χ] in
/-- What carries a link is listed and connected, be it the joined access point or the first one. -/
theorem carrier_connected {link : Link μ β χ} {carrier : AccessPoint}
    (carried : link.carrier = some carrier) :
    carrier ∈ link.directory.entries ∧ carrier.isConnected = true := by
  -- Both places where a carrier is looked for are the listing, and both ask that it be connected.
  rcases Option.or_eq_some_iff.mp carried with joined | ⟨_, first⟩
  · obtain ⟨wanted, up⟩ := Option.filter_eq_some_iff.mp joined
    obtain ⟨_, _, found⟩ := Option.bind_eq_some_iff.mp wanted
    exact ⟨List.mem_of_find?_eq_some found, up⟩
  · exact ⟨List.mem_of_find?_eq_some first, List.find?_some first⟩

omit [NetworkManager μ] [Announcer β] [PairingChannel χ] in
/-- Whether anything carries a link is a matter of its listing. -/
theorem carrier_isSome_iff (link : Link μ β χ) :
    link.carrier.isSome = true ↔ ∃ point ∈ link.directory.entries, point.isConnected = true := by
  -- Nothing carries a link exactly if nothing listed is connected.
  rw [Option.isSome_iff_ne_none, Ne, carrier_eq_none_iff]
  simp

omit [NetworkManager μ] [Announcer β] [PairingChannel χ] in
/-- Links with one listing are carried alike. -/
theorem isSome_carrier_congr {link after : Link μ β χ}
    (listing : after.directory = link.directory) :
    after.carrier.isSome = true ↔ link.carrier.isSome = true := by
  -- The other record that is read, the joined identifier, only decides which one it is.
  rw [carrier_isSome_iff, carrier_isSome_iff, listing]

/-- A stage's work comes to a link only over an access point that is connected. -/
theorem Works.carried {link after : Link μ β χ} (works : Works link after)
    (held : link.stage.hasLink = true → link.carrier.isSome = true)
    (linked : after.stage.hasLink = true) : after.carrier.isSome = true := by
  rw [isSome_carrier_congr works.frames.listing]
  -- A connected access point is what the two stages without a join look for.
  have connected (found : link.directory.connectedIndex.isSome = true) :
      link.carrier.isSome = true := by
    rw [carrier_isSome_iff]
    simpa [Directory.connectedIndex] using found
  -- The other ways on end without an access point, begin with one, or find the joined one up.
  cases works with
  | rests => exact held linked
  | passes why => cases why with
    | foundJoined _ found | connectedMeanwhile _ found => exact connected found
    | cameUp | foundAlone | asked | settled | askedAgain => cases linked
    | leased at_ | prepared at_ | graceOver at_ | shown at_ | clientGone at_ =>
      exact held (by rw [at_]; rfl)
    | silenced at_ =>
      refine held ?_
      rcases at_ with at_ | at_ | at_ <;> rw [at_] <;> rfl
  | joinSucceeded _ _ found up =>
    exact (carrier_isSome_iff link).mpr ⟨_, List.mem_of_find?_eq_some found, up⟩
  | powerTimedOut | searchImpossible | searchTaken | searchRefused | searchRejected | joinFailed
  | beaconFailed => cases linked
  | joinPending | channelFailed | nobodyTaken => exact held linked
  | beaconOpened at_ | channelOpened at_ | clientTaken at_ | channelGone at_ =>
    exact held (by rw [at_]; rfl)

/-- No command brings a link up to an access point. -/
theorem hasLink_of_command {link : Link μ β χ} {happening : Happening μ β χ}
    (command : happening.isCommand = true)
    (linked : (link.after happening).stage.hasLink = true) : link.stage.hasLink = true := by
  -- Only the power switch and a join move a link, and neither of them to an access point.
  revert linked
  cases happening with
  | setPower on =>
    rw [after, stage_setPower]
    split
    · split
      · intro linked
        cases linked
      · split
        · intro linked
          cases linked
        · exact id
    · exact id
  -- A join that the manager took leads to the joining stage, which has no link.
  | connect index =>
    rw [after, stage_connect]
    split
    · intro linked
      cases linked
    · exact id
  | _ =>
    rw [stage_command link command (by simp) (by simp)]
    exact id

/-- Whatever happens to a link, something carries it while it is up to an access point. -/
theorem carried_after {link : Link μ β χ} (happening : Happening μ β χ)
    (held : link.stage.hasLink = true → link.carrier.isSome = true)
    (linked : (link.after happening).stage.hasLink = true) :
    (link.after happening).carrier.isSome = true := by
  -- The tick has to be looked into; what a command does leaves the listing as it was.
  cases happening with
  | outside => exact held linked
  | shutdown =>
    rw [after, stage_shutdown] at linked
    cases linked
  -- A closed link does not move.
  | tick elapsed =>
    by_cases closed : link.stage = .closed
    · rw [after, tick_closed closed, closed] at linked
      cases linked
    · -- The work relies on what it finds, whatever was reported before.
      rw [after, tick_eq closed] at linked ⊢
      rcases step_cases (link.untilStep elapsed) with ⟨_, _, lost⟩ | ⟨found, work⟩
      · rw [lost] at linked
        cases linked
      · exact work.carried found linked
  | _ =>
    rw [isSome_carrier_congr (frames_command link rfl).listing]
    exact held (hasLink_of_command rfl linked)

/-- While a link is up to an access point, some access point carries it. -/
theorem Reachable.carried {link : Link μ β χ} (reachable : Reachable link)
    (linked : link.stage.hasLink = true) : ∃ carrier, link.carrier = some carrier := by
  -- By induction on the history: a fresh link is not up to anything.
  rw [← Option.isSome_iff_exists]
  induction reachable with
  | start started =>
    obtain ⟨_, _, _, _, _, _, rfl⟩ := start_cases started
    cases linked
  | follow _ happened held =>
    obtain ⟨happening, rfl⟩ := happened.exists_happening
    exact carried_after happening held linked

/-- A tick that opens the beacon opens it towards the subnet of the link that it leaves. -/
theorem start_of_tick_announced {link : Link μ β χ} (kinds : link.technologies.KindsMatch)
    (at_ : link.stage = .opening) {elapsed : Nat}
    (announced : (link.tick elapsed).stage = .announced) :
    ∃ announcer, Announcer.start announcer (link.tick elapsed).beaconTarget =
      (.ok (), (link.tick elapsed).announcer) := by
  have open_ : link.stage ≠ .closed := by rw [at_]; decide
  have found := stage_untilStep link kinds elapsed open_
  -- The work finds the stage before the beacon, unless the radio went out.
  have early : (link.untilStep elapsed).stage ≠ .announced := by
    rw [found]
    split
    · decide
    · rw [at_]
      decide
  -- Of all the work there is, only the opened beacon enters this stage from another one.
  rw [tick_eq open_] at announced ⊢
  rcases step_cases (link.untilStep elapsed) with ⟨_, _, lost⟩ | ⟨_, work⟩
  · rw [lost] at announced
    cases announced
  · revert announced work
    generalize (link.untilStep elapsed).step = after
    intro announced work
    cases work with
    | beaconOpened _ started => exact ⟨_, started⟩
    | rests | joinPending | channelFailed | nobodyTaken => exact absurd announced early
    | passes why => cases why <;> cases announced
    | _ => cases announced

end Link

open Link in
/--
While a link is up to an access point, a listed access point that is connected carries it, and a
beacon that a tick opens goes to the subnet of that access point. The address that is reported is
the carrier's, or none as it has none, if no other access point comes first among those that are
connected and leased; the beacon then goes to the subnet of that address. The hardware address is
the carrier's if the carrier tells one and no other access point comes first among the connected.
-/
theorem address_reported_of_carrier {μ β χ : Type} [NetworkManager μ] [Announcer β]
    [PairingChannel χ] {link : Link μ β χ} (reachable : Reachable link)
    (linked : link.stage.hasLink = true) :
    ∃ carrier ∈ link.directory.entries,
      link.carrier = some carrier ∧ carrier.isConnected = true ∧
      (∀ {earlier : Link μ β χ} {elapsed}, Reachable earlier → earlier.stage = .opening →
        earlier.tick elapsed = link → link.stage = .announced →
        ∃ announcer, Announcer.start announcer link.beaconTarget = (.ok (), link.announcer)) ∧
      ((∀ holder, link.directory.leaseHolder = some holder → holder = carrier) →
        link.ipAddress = carrier.lease.map (fun lease => lease.address) ∧
        ∀ lease netmask, carrier.lease = some lease → lease.netmask = some netmask →
          link.ipAddress = some lease.address ∧
            link.beaconTarget = lease.address.directedBroadcast netmask) ∧
      (link.directory.firstConnected = some carrier →
        ∀ mac, carrier.mac = some mac → link.macAddress = some mac) := by
  obtain ⟨carrier, carried⟩ := reachable.carried linked
  obtain ⟨listed, connected⟩ := carrier_connected carried
  refine ⟨carrier, listed, carried, connected, ?_, fun only => ?_, fun first mac told => ?_⟩
  -- What a tick opens is settled by the tick; the address by who is asked for it.
  · rintro earlier elapsed before at_ rfl announced
    exact start_of_tick_announced before.radioByStage.kinds at_ announced
  · -- Either the carrier is the one that is asked for its lease, or no lease is to be had.
    -- The listing's first connected access point with a lease is asked, if there is one.
    have lease : link.directory.connectedLease = carrier.lease := by
      rw [Directory.connectedLease_eq]
      cases holds : link.directory.leaseHolder with
      | some holder => rw [only holder holds, Option.bind_some]
      | none =>
        have bare := List.find?_eq_none.mp holds carrier listed
        have bare : carrier.lease = none := by simpa [connected] using bare
        rw [bare, Option.bind_none]
    have address : link.ipAddress = carrier.lease.map (fun lease => lease.address) := by
      rw [ipAddress, lease]
    refine ⟨address, fun lease netmask held known => ⟨?_, ?_⟩⟩
    · rw [address, held, Option.map_some]
    · simp [beaconTarget, carried, held, Lease.broadcast, known]
  · simp [macAddress, first, told]

/-- A manager that lists a cafe, which is online, before a home. Both have leased an address. -/
def townManager : ManagerDouble :=
  ((ManagerDouble.withTechnology {} .wifi true).withAccessPoint
    ⟨"cafe", [.state .online,
      .lease (some { address := .ofOctets 10 0 0 5, netmask := some (.ofOctets 255 255 255 0) }),
      .mac "00:16:53:00:00:01"]⟩).withAccessPoint
    ⟨"home", [
      .lease (some
        { address := .ofOctets 192 168 1 20, netmask := some (.ofOctets 255 255 255 0) }),
      .mac "00:16:53:00:00:02"]⟩

/-- A run that joins the home while the cafe stays connected, up to the beacon. -/
def movingHome : List Operation :=
  [.setPower true, .tick 100, .connect 1, .emit (.propertyChanged "home" (.state .online)),
    .tick 100, .tick 100, .tick 100, .tick 100]

/-- Once the cafe has gone, a link that the home carries reports the address it has there. -/
theorem address_reported_of_carrier_home :
    ∃ fresh bench,
      Link.start townManager ({} : AnnouncerDouble) ({} : ChannelDouble) {} = .ok fresh ∧
      Bench.run fresh (movingHome ++ [.emit (.propertyChanged "cafe" (.state .idle)), .tick 100]) =
        .ok bench ∧
      bench.stage = .announced ∧ bench.ipAddress = some (.ofOctets 192 168 1 20) ∧
      bench.beaconTarget = .ofOctets 192 168 1 255 ∧
      bench.macAddress = some "00:16:53:00:00:02" := by
  -- The run is evaluated, and the theorem asked for its answers.
  refine ⟨_, _, rfl, rfl, rfl, ?_⟩
  have reachable := @Bench.run_reachable townManager {} {} {}
    (movingHome ++ [.emit (.propertyChanged "cafe" (.state .idle)), .tick 100]) _ _ rfl rfl
  obtain ⟨carrier, _, carried, _, _, address, hardware⟩ :=
    address_reported_of_carrier reachable rfl
  cases carried
  obtain ⟨reported, subnet⟩ := (address (by intro holder holds; cases holds; rfl)).2 _ _ rfl rfl
  exact ⟨reported, subnet, hardware rfl _ rfl⟩

/--
While the cafe stays connected, a link that the home carries reports the address and the hardware
address of the cafe, although its beacon goes to the subnet of the home.
-/
theorem address_reported_of_another :
    ∃ fresh bench carrier,
      Link.start townManager ({} : AnnouncerDouble) ({} : ChannelDouble) {} = .ok fresh ∧
      Bench.run fresh movingHome = .ok bench ∧ bench.stage = .announced ∧
      bench.carrier = some carrier ∧ carrier.id = "home" ∧ carrier.isConnected = true ∧
      bench.announcer.targets = [.ofOctets 192 168 1 255] ∧
      carrier.lease.map (fun lease => lease.address) = some (.ofOctets 192 168 1 20) ∧
      bench.ipAddress = some (.ofOctets 10 0 0 5) ∧
      carrier.mac = some "00:16:53:00:00:02" ∧ bench.macAddress = some "00:16:53:00:00:01" :=
  -- Evaluation of the run.
  ⟨_, _, _, rfl, rfl, rfl, rfl, rfl, rfl, rfl, rfl, rfl, rfl, rfl⟩

end CompanionLink
