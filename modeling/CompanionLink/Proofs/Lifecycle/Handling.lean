import CompanionLink.Proofs.Double.Supply

/-!
How a link handles a prepared channel, whatever its manager and its announcer are. It does one thing
with the channel at a time, and it keeps a client in the stage for it only.
-/

namespace CompanionLink

open FrameReader Link

/-- What a link leaves of its channel when it neither reads nor writes. -/
inductive Handles {χ : Type} [PairingChannel χ] (channel : χ) : χ → Prop
  | kept : Handles channel channel
  | listened (port : UInt16) : Handles channel (PairingChannel.listen channel port).2
  | accepted : Handles channel (PairingChannel.accept channel).2
  | shut (other : χ) : Handles channel (PairingChannel.shutdown other)

section Handles

variable {μ β χ : Type} [NetworkManager μ] [Announcer β] [PairingChannel χ]

/-- A stage's work opens the channel, takes a client, shuts the channel down or leaves it alone. -/
theorem handles_of_works {link after : Link μ β χ} (works : Works link after) :
    Handles link.channel after.channel := by
  -- Listening and taking a client are done in two stages, with more than one outcome each.
  have listened {outcome : Except ChannelError Unit} {channel : χ}
      (answered : PairingChannel.listen link.channel link.settings.pairingPort =
        (outcome, channel)) : Handles link.channel channel := by
    have next : Handles link.channel _ := .listened link.settings.pairingPort
    rwa [answered] at next
  have accepted {outcome : Except ChannelError AcceptOutcome} {channel : χ}
      (answered : PairingChannel.accept link.channel = (outcome, channel)) :
      Handles link.channel channel := by
    have next : Handles link.channel _ := .accepted
    rwa [answered] at next
  cases works with
  | channelOpened _ _ opened => exact listened opened
  | channelFailed _ _ failed => exact listened failed
  | clientTaken _ _ taken => exact accepted taken
  | channelGone _ _ gone => exact accepted gone
  | nobodyTaken _ _ answered => exact accepted answered
  -- Giving the link up shuts the channel down, and all other work leaves it alone.
  | beaconFailed => exact .shut link.channel
  | _ => exact .kept

/-- A tick does one thing with the channel at most. -/
theorem handles_tick (link : Link μ β χ) (elapsed : Nat) :
    Handles link.channel (link.tick elapsed).channel := by
  -- A closed link does not move.
  by_cases closed : link.stage = .closed
  · rw [tick_closed closed]
    exact .kept
  · -- What is reported shuts the channel down only along with the link, and then no work is left.
    have found : (link.untilStep elapsed).channel = link.channel ∨
        (link.untilStep elapsed).stage = .off ∧
          ∃ other, (link.untilStep elapsed).channel = PairingChannel.shutdown other := by
      refine @untilStep_keeps _ _ _ _ _ _
        (fun later => later.channel = link.channel ∨
          later.stage = .off ∧ ∃ other, later.channel = PairingChannel.shutdown other)
        _ elapsed (fun _ _ _ _ kept => kept) (fun later notification kept => ?_)
        (fun _ kept => kept) (.inl rfl)
      have technology : (later.noteTechnology notification).channel = link.channel ∨
          (later.noteTechnology notification).stage = .off ∧
            ∃ other, (later.noteTechnology notification).channel =
              PairingChannel.shutdown other := by
        rcases noteTechnology_cases later notification with ⟨_, _, _, lost⟩ | ⟨_, noted⟩
        · rw [lost]
          exact .inr ⟨rfl, later.channel, rfl⟩
        · rw [noted]
          exact kept
      cases notification with
      | technologyAdded | technologyRemoved | powered => exact technology
      | _ => exact kept
    rw [tick_eq closed]
    rcases found with same | ⟨off, other, shut⟩
    · rcases step_cases (link.untilStep elapsed) with ⟨_, _, lost⟩ | ⟨_, work⟩
      · rw [lost]
        exact .shut _
      · rw [← same]
        exact handles_of_works work
    -- A link that is off rests, so the shutdown stays the last thing done.
    · have rests : (link.untilStep elapsed).step = link.untilStep elapsed := by
        rw [step, stepStage, off]
        rfl
      rw [rests, shut]
      exact .shut other

/-- Everything but reads and writes does one thing with the channel at most. -/
theorem handles_after (link : Link μ β χ) {happening : Happening μ β χ}
    (own : happening.isOwn = true) (noRead : ∀ buffer, happening ≠ .read buffer)
    (noWrite : ∀ bytes, happening ≠ .write bytes) :
    Handles link.channel (link.after happening).channel := by
  -- Of the commands, only the switch and a join come to the channel, and they shut it down.
  cases happening with
  | outside => cases own
  | tick elapsed => exact handles_tick link elapsed
  | read buffer => exact absurd rfl (noRead buffer)
  | write bytes => exact absurd rfl (noWrite bytes)
  | setPower on =>
    rw [after]
    have outcome := setPower_cases link on
    revert outcome
    generalize link.setPower on = result
    rintro (_ | _ | _ | _ | _)
    · exact .kept
    · exact .kept
    · exact .kept
    · exact .kept
    · exact .shut link.channel
  | connect index =>
    rw [after]
    have outcome := connect_cases link index
    revert outcome
    generalize link.connect index = result
    rintro (_ | _ | _ | _)
    · exact .kept
    · exact .kept
    · exact .kept
    · exact .shut link.channel
  -- A search, a request and a shutdown of a closed link leave the channel alone.
  | scan => rw [after, scan]; split <;> exact .kept
  | forget | moveUp | moveDown => exact .kept
  | shutdown =>
    rw [after, shutdown]
    split
    · exact .kept
    · exact .shut link.channel

end Handles

/-- What a link that does not read or write leaves of a client that is there afterwards. -/
theorem Handles.supplied {supplied later : Supplied ChannelDouble}
    (handles : Handles supplied later) (served : later.channel.client.isSome = true) :
    later.octets = supplied.octets ∧ later.channel.inbound = supplied.channel.inbound ∧
      later.channel.written = supplied.channel.written ∧
      later.channel.reader =
        if supplied.channel.client.isSome then supplied.channel.reader else .framing := by
  -- By what was done with the channel, of which a shutdown leaves no client to speak of.
  cases handles with
  | kept => exact ⟨rfl, rfl, rfl, (if_pos served).symm⟩
  -- Listening touches neither the octets nor the client.
  | listened port =>
    obtain ⟨listening, binds, next⟩ := supplied.channel.listen_eq port
    have channel : (PairingChannel.listen supplied port).2 =
        supplied.next { supplied.channel with listening, binds } := congrArg supplied.next next
    rw [channel] at served ⊢
    exact ⟨Supplied.octets_next id, rfl, rfl, (if_pos served).symm⟩
  | accepted =>
    have channel : (PairingChannel.accept supplied).2 =
        supplied.next supplied.channel.accept.2 := rfl
    rw [channel] at served ⊢
    rcases answered : supplied.channel.accept with ⟨outcome, next⟩
    rw [answered] at served
    by_cases taken : ∃ peer, outcome = .ok (.accepted peer)
    · -- The client is new, and begins with what waits there already.
      obtain ⟨peer, rfl⟩ := taken
      have free := (ChannelDouble.accept_accepted answered).2.1
      obtain ⟨waiting, rfl⟩ := ChannelDouble.accept_taken answered
      refine ⟨Supplied.octets_next fun _ => rfl, rfl, rfl, ?_⟩
      rw [free]
      rfl
    · have same := ChannelDouble.accept_nobody answered fun peer here => taken ⟨peer, here⟩
      subst same
      exact ⟨Supplied.octets_next id, rfl, rfl, (if_pos served).symm⟩
  | shut other =>
    have alone : (PairingChannel.shutdown other).channel.client = none :=
      ChannelDouble.client_shutdown other.channel
    rw [alone] at served
    cases served

namespace Link

variable {μ β : Type}

/-- A link over a prepared channel keeps a client in the stage for it only. -/
def KeepsPaired (link : Link μ β ChannelDouble) : Prop :=
  link.channel.client.isSome = true → link.stage = .paired

namespace KeepsPaired

variable {link after : Link μ β ChannelDouble}

/-- Without a client there is nothing to keep. -/
theorem of_alone (alone : link.channel.client = none) : link.KeepsPaired := by
  -- Without a client there is nothing that has to be paired.
  intro client
  rw [alone] at client
  cases client

/-- A link that is shut down keeps no client. -/
theorem of_shutdown {channel : ChannelDouble} (shut : link.channel = channel.shutdown) :
    link.KeepsPaired :=
  -- A shutdown has dropped the client.
  of_alone (by rw [shut, ChannelDouble.client_shutdown])

/-- Outside the stage for it there is no client that another stage would have to allow. -/
theorem of_unpaired (keeps : link.KeepsPaired) (unpaired : link.stage ≠ .paired)
    (client : after.channel.client = link.channel.client) : after.KeepsPaired :=
  fun here => absurd (keeps (client ▸ here)) unpaired

/-- Within a stage, a client may go. -/
theorem of_less (keeps : link.KeepsPaired) (stage : after.stage = link.stage)
    (client : after.channel.client.isSome = true → link.channel.client.isSome = true) :
    after.KeepsPaired :=
  fun here => stage.trans (keeps (client here))

variable [NetworkManager μ] [Announcer β]

/-- A stage's work takes a client only for the stage that it enters. -/
theorem works (keeps : link.KeepsPaired) (works : Works link after) : after.KeepsPaired := by
  -- Work that leaves its stage begins where no client is kept, or where the client has gone.
  cases works with
  | rests | joinPending => exact keeps
  | passes why =>
    cases why with
    | silenced at_ =>
      refine keeps.of_unpaired (fun paired => ?_) rfl
      simp [paired] at at_
    | clientGone at_ gone =>
      have gone : link.channel.client.isSome = false := gone
      have alone : link.channel.client = none := by simpa using gone
      exact of_alone alone
    | cameUp at_ | foundJoined at_ | foundAlone at_ | asked at_ | settled at_
    | connectedMeanwhile at_ | askedAgain at_ | leased at_ | prepared at_ | graceOver at_
    | shown at_ =>
      exact keeps.of_unpaired (by simp [at_]) rfl
  | beaconFailed => exact of_shutdown rfl
  -- Listening takes no client, whether it succeeds or fails.
  | channelOpened at_ _ opened =>
    have same := ChannelDouble.client_listen link.channel link.settings.pairingPort
    have opened : link.channel.listen link.settings.pairingPort = _ := opened
    rw [opened] at same
    exact keeps.of_unpaired (by simp [at_]) same
  | channelFailed at_ _ failed =>
    exact keeps.of_unpaired (by simp [at_])
      (congrArg ChannelDouble.client (ChannelDouble.listen_error failed))
  | clientTaken => exact fun _ => rfl
  | channelGone at_ _ gone =>
    exact keeps.of_unpaired (by simp [at_])
      (congrArg ChannelDouble.client (ChannelDouble.accept_nobody gone (by simp)))
  | nobodyTaken at_ _ answered nobody =>
    exact keeps.of_unpaired (by simp [at_])
      (congrArg ChannelDouble.client (ChannelDouble.accept_nobody answered nobody))
  | powerTimedOut at_ | searchImpossible at_ | searchTaken at_ | searchRefused at_
  | searchRejected at_ | joinFailed at_ | joinSucceeded at_ | beaconOpened at_ =>
    exact keeps.of_unpaired (by simp [at_]) rfl

omit [NetworkManager μ] in
/-- A notification keeps a client in its stage, or takes the client away with the radio. -/
theorem note (keeps : link.KeepsPaired) (notification : Notification) :
    (link.note notification).KeepsPaired := by
  -- Only a radio that goes out touches stage or channel.
  have technology : (link.noteTechnology notification).KeepsPaired := by
    rcases noteTechnology_cases link notification with ⟨_, _, _, lost⟩ | ⟨_, noted⟩
    · rw [lost]
      exact of_shutdown rfl
    · rw [noted]
      exact keeps
  cases notification with
  | technologyAdded | technologyRemoved | powered => exact technology
  | _ => exact keeps

/-- A tick keeps a client in its stage. -/
theorem tick (keeps : link.KeepsPaired) (elapsed : Nat) : (link.tick elapsed).KeepsPaired := by
  -- A closed link does not move.
  by_cases closed : link.stage = .closed
  · rw [tick_closed closed]
    exact keeps
  · -- What is reported may release the link, and then its stage gets to work.
    have found : (link.untilStep elapsed).KeepsPaired :=
      @untilStep_keeps _ _ _ _ _ _ KeepsPaired _ elapsed (fun _ _ _ _ keeps => keeps)
        (fun _ notification keeps => keeps.note notification) (fun _ keeps => keeps) keeps
    rw [tick_eq closed]
    rcases step_cases (link.untilStep elapsed) with ⟨_, _, lost⟩ | ⟨_, work⟩
    · rw [lost]
      exact of_shutdown rfl
    · exact found.works work

/-- Whatever a link does itself, it keeps a client in the stage for it only. -/
theorem own (keeps : link.KeepsPaired) {happening : Happening μ β ChannelDouble}
    (own : happening.isOwn = true) : (link.after happening).KeepsPaired := by
  -- Whatever moves a paired link elsewhere shuts its channel down.
  cases happening with
  | outside => cases own
  | tick elapsed => exact keeps.tick elapsed
  | setPower on =>
    rw [Link.after]
    have outcome := setPower_cases link on
    revert outcome
    generalize link.setPower on = result
    rintro (_ | _ | ⟨at_, _⟩ | _ | _)
    · exact keeps
    · exact keeps
    · exact keeps.of_unpaired (by simp [at_]) rfl
    · exact keeps
    · exact of_shutdown rfl
  | connect index =>
    rw [Link.after]
    have outcome := connect_cases link index
    revert outcome
    generalize link.connect index = result
    rintro (_ | _ | ⟨_, _, _, _, free⟩ | _)
    · exact keeps
    · exact keeps
    · -- A link that was up would have been released first.
      refine keeps.of_unpaired (fun paired => ?_) rfl
      rw [paired] at free
      cases free
    · exact of_shutdown rfl
  -- What stays in its stage keeps its client, and a shutdown drops it.
  | scan => rw [Link.after, scan]; split <;> exact keeps
  | forget | moveUp | moveDown => exact keeps
  | read buffer =>
    rw [Link.after, Link.read]
    split
    · exact keeps
    · split
      · exact keeps
      · exact keeps.of_less rfl ChannelDouble.client_of_read
  | write bytes =>
    rw [Link.after, Link.write]
    split
    · exact keeps
    · have same := (ChannelDouble.write_holds link.channel bytes).2
      exact keeps.of_less rfl (congrArg Option.isSome same).symm.trans
  | shutdown =>
    rw [Link.after, shutdown]
    split
    · exact keeps
    · exact of_shutdown rfl

end KeepsPaired

end Link

end CompanionLink
