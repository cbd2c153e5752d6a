import CompanionLink.Proofs.Lifecycle.Frame

/-!
What a link opens and closes. Ticks open the announcer and the channel, in one stage each; whatever
else happens to a link at most closes them, reads or writes.
-/

namespace CompanionLink

/-- Whether a happening is something that the link itself does. -/
def Happening.isOwn {μ β χ : Type} : Happening μ β χ → Bool
  | .outside .. => false
  | _ => true

namespace Link

variable {μ β χ : Type} [Announcer β] [PairingChannel χ]

/-- What becomes of the announcer and the channel of a link while it opens nothing. -/
inductive OpensNothing (link : Link μ β χ) : β → χ → Prop
  /-- Both are left alone. -/
  | kept : OpensNothing link link.announcer link.channel
  /-- Both are released. -/
  | released :
    OpensNothing link (Announcer.stop link.announcer) (PairingChannel.shutdown link.channel)
  /-- The channel is read from. -/
  | read (buffer : Bytes) :
    OpensNothing link link.announcer (PairingChannel.read link.channel buffer).2
  /-- The channel is written to. -/
  | write (bytes : Bytes) :
    OpensNothing link link.announcer (PairingChannel.write link.channel bytes).2

/-- A lost radio releases the link, and no other notification concerns what it holds. -/
theorem note_opensNothing (link : Link μ β χ) (notification : Notification) :
    OpensNothing link (link.note notification).announcer (link.note notification).channel := by
  -- Only news of the technologies can put the radio out.
  have technology : OpensNothing link (link.noteTechnology notification).announcer
      (link.noteTechnology notification).channel := by
    rcases noteTechnology_cases link notification with ⟨_, _, _, lost⟩ | ⟨_, noted⟩
    · rw [lost]
      exact .released
    · rw [noted]
      exact .kept
  cases notification with
  | technologyAdded | technologyRemoved | powered => exact technology
  | _ => exact .kept

/-- Only ticks open anything. -/
theorem after_opensNothing [NetworkManager μ] (link : Link μ β χ) {happening : Happening μ β χ}
    (own : happening.isOwn = true) (still : ∀ elapsed, happening ≠ .tick elapsed) :
    OpensNothing link (link.after happening).announcer (link.after happening).channel := by
  -- By the happening; what shuts down or gives up a link releases both parts.
  cases happening with
  | outside => cases own
  | tick elapsed => exact absurd rfl (still elapsed)
  | setPower on =>
    rw [after]
    have outcome := setPower_cases link on
    revert outcome
    generalize link.setPower on = result
    rintro (_ | _ | _ | _ | _)
    · exact .kept
    · exact .kept
    · exact .kept
    · exact .kept
    · exact .released
  | connect index =>
    rw [after]
    have outcome := connect_cases link index
    revert outcome
    generalize link.connect index = result
    rintro (_ | _ | _ | _)
    · exact .kept
    · exact .kept
    · exact .kept
    -- A link that is given up for the join is released first.
    · exact .released
  | scan => rw [after, scan]; split <;> exact .kept
  | forget | moveUp | moveDown => exact .kept
  -- Reads and writes use the channel that is open.
  | read buffer =>
    rw [after, Link.read]
    split
    · exact .kept
    · split
      · exact .kept
      · exact .read buffer
  | write bytes =>
    rw [after, Link.write]
    split
    · exact .kept
    · exact .write bytes
  | shutdown =>
    rw [after, shutdown]
    split
    · exact .kept
    · exact .released

end Link

/-- A property of a channel that lasts whatever a link does with the channel. -/
structure Lasts {χ : Type} [PairingChannel χ] (kept : χ → Prop) : Prop where
  listen {channel : χ} (before : kept channel) (port : UInt16) :
    kept (PairingChannel.listen channel port).2
  accept {channel : χ} (before : kept channel) : kept (PairingChannel.accept channel).2
  read {channel : χ} (before : kept channel) (buffer : Bytes) :
    kept (PairingChannel.read channel buffer).2
  write {channel : χ} (before : kept channel) (bytes : Bytes) :
    kept (PairingChannel.write channel bytes).2
  shutdown {channel : χ} (before : kept channel) : kept (PairingChannel.shutdown channel)

namespace Lasts

open Link

variable {μ β χ : Type} [NetworkManager μ] [Announcer β] [PairingChannel χ]
variable {kept : χ → Prop} (lasts : Lasts kept) {link : Link μ β χ}

include lasts

/-- A stage's work opens the channel, takes a client, or leaves the channel alone. -/
theorem works {after : Link μ β χ} (works : Works link after) (before : kept link.channel) :
    kept after.channel := by
  -- What the channel answered does not matter, only what it left behind.
  have listened {outcome : Except ChannelError Unit} {channel : χ}
      (answered : PairingChannel.listen link.channel link.settings.pairingPort =
        (outcome, channel)) : kept channel := by
    have next := lasts.listen before link.settings.pairingPort
    rwa [answered] at next
  have taken {outcome : Except ChannelError AcceptOutcome} {channel : χ}
      (answered : PairingChannel.accept link.channel = (outcome, channel)) : kept channel := by
    have next := lasts.accept before
    rwa [answered] at next
  cases works with
  -- Two stages listen or take a client, and failing to announce shuts down.
  | channelOpened _ _ opened => exact listened opened
  | channelFailed _ _ failed => exact listened failed
  | clientTaken _ _ accepted => exact taken accepted
  | channelGone _ _ gone => exact taken gone
  | nobodyTaken _ _ answered => exact taken answered
  | beaconFailed => exact lasts.shutdown before
  | _ => exact before

omit [NetworkManager μ] in
/-- What closes the channel, reads or writes is among what it lasts through. -/
theorem opensNothing {announcer : β} {channel : χ} (nothing : OpensNothing link announcer channel)
    (before : kept link.channel) : kept channel := by
  -- A release shuts the channel down, and the others are uses of their own.
  cases nothing with
  | kept => exact before
  | released => exact lasts.shutdown before
  | read buffer => exact lasts.read before buffer
  | write bytes => exact lasts.write before bytes

/-- What lasts under every use of the channel lasts through a tick. -/
theorem tick (elapsed : Nat) (before : kept link.channel) : kept (link.tick elapsed).channel := by
  -- A closed link does not move.
  by_cases closed : link.stage = .closed
  · rw [tick_closed closed]
    exact before
  · -- What is reported may release the link, and then its stage gets to work.
    have found : kept (link.untilStep elapsed).channel :=
      @untilStep_keeps _ _ _ _ _ _ (fun link => kept link.channel) _ elapsed
        (fun _ _ _ _ before => before)
        (fun link notification before =>
          lasts.opensNothing (note_opensNothing link notification) before)
        (fun _ before => before) before
    rw [tick_eq closed]
    rcases step_cases (link.untilStep elapsed) with ⟨_, _, lost⟩ | ⟨_, work⟩
    · rw [lost]
      exact lasts.shutdown found
    · exact lasts.works work found

/-- What lasts under every use of the channel lasts through whatever a link does itself. -/
theorem after {happening : Happening μ β χ} (own : happening.isOwn = true)
    (before : kept link.channel) : kept (link.after happening).channel := by
  -- Apart from ticks nothing is opened.
  rcases happening.tick_or_still with ⟨elapsed, rfl⟩ | still
  · exact lasts.tick elapsed before
  · exact lasts.opensNothing (after_opensNothing link own still) before

end Lasts

end CompanionLink
