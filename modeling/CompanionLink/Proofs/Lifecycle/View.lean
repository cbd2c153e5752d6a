import CompanionLink.Proofs.Lifecycle.Frame

/-!
A link seen over another channel. A link depends on its channel only through what the channel
answers, so a channel that answers alike may stand in its place.
-/

namespace CompanionLink

/-- A view of a channel that answers everything a link asks as the channel itself does. -/
structure Faithful {χ τ : Type} [PairingChannel χ] [PairingChannel τ] (view : χ → τ) : Prop where
  listen (channel : χ) (port : UInt16) : PairingChannel.listen (view channel) port =
    ((PairingChannel.listen channel port).1, view (PairingChannel.listen channel port).2)
  accept (channel : χ) : PairingChannel.accept (view channel) =
    ((PairingChannel.accept channel).1, view (PairingChannel.accept channel).2)
  hasClient (channel : χ) :
    PairingChannel.hasClient (view channel) = PairingChannel.hasClient channel
  read (channel : χ) (buffer : Bytes) : PairingChannel.read (view channel) buffer =
    ((PairingChannel.read channel buffer).1, view (PairingChannel.read channel buffer).2)
  write (channel : χ) (bytes : Bytes) : PairingChannel.write (view channel) bytes =
    ((PairingChannel.write channel bytes).1, view (PairingChannel.write channel bytes).2)
  shutdown (channel : χ) :
    PairingChannel.shutdown (view channel) = view (PairingChannel.shutdown channel)

/-- A happening with the channel seen in another way. -/
def Happening.mapChannel {μ β χ τ : Type} (view : χ → τ) : Happening μ β χ → Happening μ β τ
  | .tick elapsed => .tick elapsed
  | .setPower on => .setPower on
  | .connect index => .connect index
  | .scan => .scan
  | .forget index => .forget index
  | .moveUp index => .moveUp index
  | .moveDown index => .moveDown index
  | .read buffer => .read buffer
  | .write bytes => .write bytes
  | .shutdown => .shutdown
  | .outside manager announcer channel => .outside manager announcer (view channel)

namespace Link

/-- A link with its channel seen in another way. -/
def mapChannel {μ β χ τ : Type} (view : χ → τ) (link : Link μ β χ) : Link μ β τ :=
  { link with channel := view link.channel }

section Fields

variable {μ β χ τ : Type} (view : χ → τ) (link : Link μ β χ)

/-- The manager is not the channel's. -/
@[simp] theorem mapChannel_manager : (link.mapChannel view).manager = link.manager := rfl

/-- The announcer is not the channel's. -/
@[simp] theorem mapChannel_announcer : (link.mapChannel view).announcer = link.announcer := rfl

/-- The channel of the viewed link is the view of the channel. -/
@[simp] theorem mapChannel_channel : (link.mapChannel view).channel = view link.channel := rfl

/-- The technologies are not the channel's. -/
@[simp] theorem mapChannel_technologies :
    (link.mapChannel view).technologies = link.technologies := rfl

/-- The listing is not the channel's. -/
@[simp] theorem mapChannel_directory : (link.mapChannel view).directory = link.directory := rfl

/-- The stage is not the channel's. -/
@[simp] theorem mapChannel_stage : (link.mapChannel view).stage = link.stage := rfl

/-- The target of a join is not the channel's. -/
@[simp] theorem mapChannel_joinTarget : (link.mapChannel view).joinTarget = link.joinTarget := rfl

/-- Where announcements belong does not depend on the channel. -/
@[simp] theorem mapChannel_beaconTarget :
    (link.mapChannel view).beaconTarget = link.beaconTarget := rfl

end Fields

-- Most stages do their work without looking at the channel, whatever it is.
section Apart

variable {μ β χ τ : Type} (view : χ → τ) (link : Link μ β χ)

/-- The announcer's time passes alike beside either channel. -/
theorem mapChannel_tickBeacon [Announcer β] (elapsed : Nat) :
    (link.mapChannel view).tickBeacon elapsed = (link.tickBeacon elapsed).mapChannel view := by
  -- Both ask the same announcer, and write its answer to the same field.
  unfold tickBeacon
  rw [apply_ite (mapChannel view)]
  dsimp only [mapChannel]
  rcases Announcer.tick link.announcer elapsed with ⟨_ | _, announcer⟩ <;> rfl

/-- Waiting for the radio does not look at the channel. -/
theorem mapChannel_stepPowering :
    (link.mapChannel view).stepPowering = link.stepPowering.mapChannel view := by
  -- The channel has no part in it.
  unfold stepPowering
  rw [apply_ite (mapChannel view), apply_ite (mapChannel view)]
  rfl

/-- Requesting a search does not look at the channel. -/
theorem mapChannel_stepSearching [NetworkManager μ] :
    (link.mapChannel view).stepSearching = link.stepSearching.mapChannel view := by
  -- The manager gets the same request from either link.
  unfold stepSearching
  dsimp only [mapChannel]
  cases link.technologies.wifiPath with
  | none => rfl
  | some path =>
    dsimp only
    rcases NetworkManager.submit link.manager (.scan path) with ⟨_ | _, manager⟩ <;> rfl

/-- Waiting for a search does not look at the channel. -/
theorem mapChannel_stepSettling :
    (link.mapChannel view).stepSettling = link.stepSettling.mapChannel view := by
  -- The channel has no part in it.
  unfold stepSettling
  rw [apply_ite (mapChannel view), apply_ite (mapChannel view)]
  rfl

/-- The work of the listing does not look at the channel. -/
theorem mapChannel_stepListed :
    (link.mapChannel view).stepListed = link.stepListed.mapChannel view := by
  -- The channel has no part in it.
  unfold stepListed
  rw [apply_ite (mapChannel view), apply_ite (mapChannel view)]
  rfl

/-- Waiting for a join does not look at the channel. -/
theorem mapChannel_stepJoining :
    (link.mapChannel view).stepJoining = link.stepJoining.mapChannel view := by
  -- A target that is gone or not listed any more ends the join on either side.
  rw [stepJoining, stepJoining, mapChannel_joinTarget, mapChannel_directory]
  cases link.joinTarget with
  | none => rfl
  | some target =>
    dsimp only
    cases link.directory.find target.id with
    | none => rfl
    | some point =>
      dsimp only
      -- The tests look at the access point and the clock, not at the channel.
      rw [apply_ite (mapChannel view), apply_ite (mapChannel view)]
      rfl

end Apart

section Faithful

variable {μ β χ τ : Type} [PairingChannel χ] [PairingChannel τ] [Announcer β]
variable {view : χ → τ} (faithful : Faithful view) (link : Link μ β χ)

include faithful

/-- A release shuts down the channel that is viewed. -/
theorem mapChannel_release : (link.mapChannel view).release = link.release.mapChannel view := by
  simp only [release, mapChannel, faithful.shutdown]

/-- Powering down releases the channel that is viewed. -/
theorem mapChannel_powerDown :
    (link.mapChannel view).powerDown = link.powerDown.mapChannel view := by
  -- The release shuts both channels down alike.
  rw [powerDown, mapChannel_release faithful]
  rfl

/-- Taking in a notification shuts down the channel that is viewed, or leaves it alone. -/
theorem mapChannel_note (notification : Notification) :
    (link.mapChannel view).note notification = (link.note notification).mapChannel view := by
  -- Only a lost radio has anything to do with the channel.
  have technology : (link.mapChannel view).noteTechnology notification =
      (link.noteTechnology notification).mapChannel view := by
    unfold noteTechnology
    dsimp only
    rw [apply_ite (mapChannel view), ← mapChannel_powerDown faithful]
    rfl
  cases notification with
  | technologyAdded | technologyRemoved | powered => exact technology
  | _ => rfl

/-- Opening the beacon shuts the viewed channel down if it fails, and else leaves it alone. -/
theorem mapChannel_stepOpening :
    (link.mapChannel view).stepOpening = link.stepOpening.mapChannel view := by
  -- The announcer is asked the same thing on both sides.
  rw [stepOpening, stepOpening, mapChannel_beaconTarget, mapChannel_announcer]
  rcases Announcer.start link.announcer link.beaconTarget with ⟨_ | _, announcer⟩
  · -- A beacon that does not open takes the channel down with it.
    exact mapChannel_powerDown faithful { link with announcer, status := .fail }
  · rfl

omit [Announcer β] in
/-- The viewed channel opens its socket exactly if the channel does. -/
theorem mapChannel_stepOffering :
    (link.mapChannel view).stepOffering = link.stepOffering.mapChannel view := by
  -- Whether the socket opened is the answer, and the rest is the link's own.
  unfold stepOffering
  dsimp only [mapChannel]
  rw [faithful.listen]
  rcases PairingChannel.listen link.channel link.settings.pairingPort with ⟨_ | _, channel⟩ <;> rfl

omit [Announcer β] in
/-- The viewed channel takes the clients that the channel takes. -/
theorem mapChannel_stepListening :
    (link.mapChannel view).stepListening = link.stepListening.mapChannel view := by
  -- Each answer of the channel leads to the same work.
  unfold stepListening
  dsimp only [mapChannel]
  rw [faithful.accept]
  rcases PairingChannel.accept link.channel with ⟨(_ | _ | _ | _) | _ | _, channel⟩ <;> rfl

variable [NetworkManager μ]

/-- Draining goes over the viewed channel as over the channel. -/
theorem mapChannel_drain : (link.mapChannel view).drain = link.drain.mapChannel view := by
  -- The manager delivers the same, and each notification is taken in alike.
  have taken (delivered : List Notification) (link : Link μ β χ) :
      delivered.foldl note (link.mapChannel view) =
        (delivered.foldl note link).mapChannel view := by
    induction delivered generalizing link with
    | nil => rfl
    | cons notification later ih =>
      rw [List.foldl_cons, mapChannel_note faithful, ih, List.foldl_cons]
  exact taken link.delivered { link with manager := link.drainedManager }

/-- Each stage does the same work beside the viewed channel. -/
theorem mapChannel_stepStage :
    (link.mapChannel view).stepStage = link.stepStage.mapChannel view := by
  -- The stages that rely on the beacon look at the announcer, which is the same.
  have announcing {work : Link μ β χ → Link μ β χ} {seen : Link μ β τ → Link μ β τ}
      (alike : seen (link.mapChannel view) = (work link).mapChannel view) :
      (link.mapChannel view).whileAnnouncing seen =
        (link.whileAnnouncing work).mapChannel view := by
    unfold whileAnnouncing
    rw [apply_ite (mapChannel view), ← alike]
    rfl
  rw [stepStage, stepStage, mapChannel_stage]
  cases link.stage with
  | powering => exact mapChannel_stepPowering view link
  | searching => exact mapChannel_stepSearching view link
  | settling => exact mapChannel_stepSettling view link
  | listed => exact mapChannel_stepListed view link
  | joining => exact mapChannel_stepJoining view link
  | ready | joined | announced =>
    dsimp only
    rw [apply_ite (mapChannel view)]
    rfl
  | opening => exact mapChannel_stepOpening faithful link
  | visible => exact announcing rfl
  | offering => exact announcing (mapChannel_stepOffering faithful link)
  | listening => exact announcing (mapChannel_stepListening faithful link)
  -- Whether the client is there is asked of the channel, and answered alike.
  | paired =>
    dsimp only
    rw [apply_ite (mapChannel view), ← faithful.hasClient]
    rfl
  | _ => rfl

/-- A step goes over the viewed channel as over the channel. -/
theorem mapChannel_step : (link.mapChannel view).step = link.step.mapChannel view := by
  -- Whether the access point is lost is read from the listing, which is the same.
  unfold step
  rw [apply_ite (mapChannel view), mapChannel_release faithful, mapChannel_stepStage faithful]
  rfl

/-- A tick looks at the channel only through its answers. -/
theorem mapChannel_tick (elapsed : Nat) :
    (link.mapChannel view).tick elapsed = (link.tick elapsed).mapChannel view := by
  -- The parts of a tick one after the other.
  have drained := mapChannel_drain faithful { link with elapsed := link.elapsed + elapsed }
  unfold tick
  rw [apply_ite (mapChannel view), ← mapChannel_step faithful, ← mapChannel_tickBeacon, ← drained]
  rfl

/-- A switch of the power looks at the channel only to shut it down. -/
theorem mapChannel_setPower (on : Bool) : ((link.mapChannel view).setPower on).2 =
    (link.setPower on).2.mapChannel view := by
  -- The request goes to the same manager, and only a switch off comes to the channel.
  rw [setPower, setPower, mapChannel_stage, mapChannel_technologies, mapChannel_manager]
  split
  · rfl
  · rcases link.technologies.setWifiPower link.manager on with ⟨_ | _, technologies, manager⟩
    · rfl
    · have down := mapChannel_powerDown faithful { link with technologies, manager }
      dsimp only
      split
      -- Switching on leaves the channel as it is.
      · split <;> rfl
      · -- The status is written behind the release, whatever channel was shut down in it.
        exact congrArg ({ · with status := .ok }) down

/-- A join looks at the channel only to shut it down. -/
theorem mapChannel_connect (index : Nat) : ((link.mapChannel view).connect index).2 =
    (link.connect index).2.mapChannel view := by
  -- The request goes to the same manager, and only a link that is up comes to the channel.
  rw [connect, connect, mapChannel_stage, mapChannel_technologies, mapChannel_directory,
    mapChannel_manager]
  split
  · rfl
  · rcases Directory.submit link.manager (link.directory.joinRequest index) with ⟨_ | _, manager⟩
    · rfl
    · have released := mapChannel_release faithful { link with manager }
      dsimp only
      split
      · -- What was released is the same but for the channel, and so is what it becomes.
        exact congrArg (fun later : Link μ β τ =>
          ({ later with
            linkId := none
            joinTarget := later.directory.entries[index]?.map freshTarget }.enter .joining |>.finish
              .ok).2) released
      · rfl

/-- A link depends on its channel only through what the channel answers. -/
theorem mapChannel_after (happening : Happening μ β χ) :
    (link.mapChannel view).after (happening.mapChannel view) =
      (link.after happening).mapChannel view := by
  -- By the happening; reads and writes are answered alike by the view.
  cases happening with
  | tick elapsed => exact mapChannel_tick faithful link elapsed
  | setPower on => exact mapChannel_setPower faithful link on
  | connect index => exact mapChannel_connect faithful link index
  | scan =>
    rw [Happening.mapChannel, after, after, scan, scan, mapChannel_stage]
    cases link.stage <;> rfl
  | forget | moveUp | moveDown | outside => rfl
  | read buffer =>
    rw [Happening.mapChannel, after, after, read, read, mapChannel_stage, mapChannel_channel,
      faithful.read]
    split
    · rfl
    · split <;> rfl
  | write bytes =>
    rw [Happening.mapChannel, after, after, write, write, mapChannel_stage, mapChannel_channel,
      faithful.write]
    split <;> rfl
  -- A shutdown releases the channel, which the view follows.
  | shutdown =>
    rw [Happening.mapChannel, after, after, shutdown, shutdown, mapChannel_release faithful,
      apply_ite (mapChannel view)]
    rfl

end Faithful

end Link

end CompanionLink
