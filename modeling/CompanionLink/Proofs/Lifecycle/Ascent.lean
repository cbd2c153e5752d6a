import CompanionLink.Pairing.Tcp
import CompanionLink.Proofs.Double.Hold
import CompanionLink.Proofs.Lifecycle.Course
import Mathlib.Data.List.Induction

/-!
The way up from an access point to a paired client. Whatever happened to a link before, one that
pairs has gone the whole way since it last had no access point: a lease, a beacon, the time of the
first announcement, and a channel.
-/

namespace CompanionLink

/-- A channel that takes clients only while it listens, and goes on listening then. -/
class ListensToAccept (χ : Type) [PairingChannel χ] : Prop where
  listening {channel later : χ} {peer : SocketAddress}
    (accepted : PairingChannel.accept channel = (.ok (.accepted peer), later)) :
    PairingChannel.isListening channel = true ∧ PairingChannel.isListening later = true

/-- The prepared channel takes a client only while it listens, and listens on. -/
instance : ListensToAccept ChannelDouble where
  listening accepted :=
    have ⟨open_, _, _, still⟩ := ChannelDouble.accept_accepted accepted
    ⟨open_, still⟩

/-- A channel over sockets takes a client only from its listener, which stays open. -/
instance {ν : Type} [StreamHost ν] : ListensToAccept (TcpChannel ν) where
  listening {channel later peer} accepted := by
    have accepted : channel.accept = (.ok (.accepted peer), later) := accepted
    unfold TcpChannel.accept at accepted
    split at accepted
    · cases accepted
    · rename_i open_
      have open_ : channel.listening = true := by simpa using open_
      split at accepted
      · cases accepted
      · -- Of the host's three answers one is a connection.
        split at accepted <;> cases accepted
        exact ⟨open_, open_⟩

/-- The milliseconds that pass with a happening. -/
def Happening.time {μ β χ : Type} : Happening μ β χ → Nat
  | .tick elapsed => elapsed
  | _ => 0

namespace Link

variable {μ β χ : Type} [NetworkManager μ] [Announcer β] [PairingChannel χ]

/-- The link before the happening at a position of a run, or after all of them. -/
def atMoment (link : Link μ β χ) (happenings : List (Happening μ β χ)) (moment : Nat) :
    Link μ β χ :=
  link.afterAll (happenings.take moment)

/-- The happening at a position of a run is a tick, and its work finds a link of a kind. -/
def TickFinds (link : Link μ β χ) (happenings : List (Happening μ β χ)) (moment : Nat)
    (kind : Link μ β χ → Prop) : Prop :=
  ∃ elapsed, happenings[moment]? = some (.tick elapsed) ∧
    kind ((link.atMoment happenings moment).untilStep elapsed)

/-- The milliseconds of the ticks that begin while the first announcement is out. -/
def announcedTime (link : Link μ β χ) : List (Happening μ β χ) → Nat
  | [] => 0
  | happening :: later =>
    (if link.stage = .announced then happening.time else 0) +
      (link.after happening).announcedTime later

/-- The milliseconds that a run spends so behind a position of it. -/
def announcedSince (link : Link μ β χ) (happenings : List (Happening μ β χ)) (moment : Nat) : Nat :=
  (link.atMoment happenings (moment + 1)).announcedTime (happenings.drop (moment + 1))

omit [NetworkManager μ] [Announcer β] [PairingChannel χ] in
/-- The access point that carries the link has leased an address. -/
def IsLeased (link : Link μ β χ) : Prop := ∃ carrier lease,
  link.carrier = some carrier ∧ carrier.lease = some lease

/-- The work that is due opens the beacon, and that succeeds. -/
def BeaconStarts (link : Link μ β χ) : Prop :=
  link.stage = .opening ∧ link.carrier.isSome = true ∧
    ∃ announcer, Announcer.start link.announcer link.beaconTarget = (.ok (), announcer)

/-- The work that is due opens the pairing channel, and that succeeds. -/
def ChannelOpens (link : Link μ β χ) : Prop :=
  link.stage = .offering ∧ link.carrier.isSome = true ∧
    Announcer.isRunning link.announcer = true ∧
    ∃ channel, PairingChannel.listen link.channel link.settings.pairingPort = (.ok (), channel)

section Moments

variable (link : Link μ β χ) (happenings : List (Happening μ β χ)) (last : Happening μ β χ)

/-- What happens last happens to the link that all the rest has led to. -/
theorem afterAll_concat :
    link.afterAll (happenings ++ [last]) = (link.afterAll happenings).after last := by
  simp [afterAll]

/-- The moment after everything is the end of the run. -/
theorem atMoment_length :
    link.atMoment happenings happenings.length = link.afterAll happenings := by
  rw [atMoment, List.take_length]

variable {happenings} {moment : Nat}

/-- What happens later does not change an earlier moment. -/
theorem atMoment_concat (within : moment ≤ happenings.length) :
    link.atMoment (happenings ++ [last]) moment = link.atMoment happenings moment := by
  -- The moment is given by the happenings before it, and the last one is not among them.
  rw [atMoment, List.take_append_of_le_length within, atMoment]

/-- What a tick found is not changed by what happens later. -/
theorem tickFinds_concat (within : moment < happenings.length) (kind : Link μ β χ → Prop) :
    link.TickFinds (happenings ++ [last]) moment kind ↔ link.TickFinds happenings moment kind := by
  -- A moment within the run finds there what it found before.
  simp only [TickFinds, atMoment_concat link last (Nat.le_of_lt within),
    List.getElem?_append_left within]

variable (happenings)

/--
The last happening is a tick that finds its kind of link exactly if the link it comes to is one.
-/
theorem tickFinds_last (kind : Link μ β χ → Prop) :
    link.TickFinds (happenings ++ [last]) happenings.length kind ↔
      ∃ elapsed, last = .tick elapsed ∧ kind ((link.afterAll happenings).untilStep elapsed) := by
  -- The moment behind the run finds the further happening.
  simp only [TickFinds, atMoment_concat link last (Nat.le_refl _), atMoment_length,
    List.getElem?_concat_length, Option.some.injEq]

/-- The time of a run is that of its parts. -/
theorem announcedTime_concat :
    link.announcedTime (happenings ++ [last]) = link.announcedTime happenings +
      if (link.afterAll happenings).stage = .announced then last.time else 0 := by
  -- By induction on the run, since the time is counted from its first happening on.
  induction happenings generalizing link with
  | nil =>
    rw [List.nil_append, announcedTime, announcedTime, announcedTime, Nat.zero_add, Nat.add_zero]
    rfl
  | cons first later ih =>
    rw [List.cons_append, announcedTime, ih, announcedTime, Nat.add_assoc]
    rfl

variable {happenings}

/-- The time since a moment grows with what happens last, if that came to an announced link. -/
theorem announcedSince_concat (within : moment < happenings.length) :
    link.announcedSince (happenings ++ [last]) moment = link.announcedSince happenings moment +
      if (link.afterAll happenings).stage = .announced then last.time else 0 := by
  -- The rest of the run, followed from that moment, ends where the whole run does.
  have whole : (link.atMoment happenings (moment + 1)).afterAll (happenings.drop (moment + 1)) =
      link.afterAll happenings := by
    rw [atMoment, afterAll, afterAll, ← List.foldl_append, List.take_append_drop, afterAll]
  rw [announcedSince, atMoment_concat link last within, List.drop_append_of_le_length within,
    announcedTime_concat, whole, announcedSince]

end Moments

/-- Between ticks, a link stays where it is, or it is not up to an access point any more. -/
theorem still_cases (link : Link μ β χ) {happening : Happening μ β χ}
    (still : ∀ elapsed, happening ≠ .tick elapsed) :
    (link.after happening).stage.hasLink = false ∨
      (link.after happening).stage = link.stage ∧
        (link.after happening).elapsed = link.elapsed := by
  -- Commands that drop or renew the join leave the link without an access point; the others stay.
  cases happening with
  | tick elapsed => exact absurd rfl (still elapsed)
  | setPower on =>
    rw [after]
    have outcome := setPower_cases link on
    revert outcome
    generalize link.setPower on = result
    rintro (_ | _ | _ | _ | _)
    · exact .inr ⟨rfl, rfl⟩
    · exact .inr ⟨rfl, rfl⟩
    · exact .inl rfl
    · exact .inr ⟨rfl, rfl⟩
    · exact .inl rfl
  | connect index =>
    rw [after]
    have outcome := connect_cases link index
    revert outcome
    generalize link.connect index = result
    rintro (_ | _ | _ | _)
    · exact .inr ⟨rfl, rfl⟩
    · exact .inr ⟨rfl, rfl⟩
    · exact .inl rfl
    · exact .inl rfl
  -- None of these leaves the stage, except for a shutdown.
  | scan => rw [after, scan]; split <;> exact .inr ⟨rfl, rfl⟩
  | forget | moveUp | moveDown | outside => exact .inr ⟨rfl, rfl⟩
  | read buffer =>
    rw [after, read]
    split
    · exact .inr ⟨rfl, rfl⟩
    · split <;> exact .inr ⟨rfl, rfl⟩
  | write bytes => rw [after, write]; split <;> exact .inr ⟨rfl, rfl⟩
  | shutdown =>
    rw [after, stage_shutdown]
    exact .inl rfl

/-- The work of a tick finds the link as time has passed for it, unless the radio went out. -/
theorem untilStep_lit {link : Link μ β χ} (kinds : link.technologies.KindsMatch)
    (lit : link.losesRadio = false) (elapsed : Nat) :
    (link.untilStep elapsed).stage = link.stage ∧
      (link.untilStep elapsed).elapsed = link.elapsed + elapsed := by
  -- The drained notifications and the announcer leave stage and clock alone while the radio is on.
  let handed : Link μ β χ :=
    { link with elapsed := link.elapsed + elapsed, manager := link.drainedManager }
  have staysLit : handed.technologies.losesPower link.delivered = false := lit
  have handed_kinds : handed.technologies.KindsMatch := kinds
  obtain ⟨_, _, _, noted⟩ := foldl_note_spared handed_kinds staysLit
  obtain ⟨announcer, status, ticked, _⟩ :=
    tickBeacon_eq { link with elapsed := link.elapsed + elapsed }.drain elapsed
  have drained : { link with elapsed := link.elapsed + elapsed }.drain = _ := noted
  rw [untilStep, ticked, drained]
  exact ⟨rfl, rfl⟩

end Link

open Link

variable {μ β χ : Type} [NetworkManager μ] [Announcer β] [PairingChannel χ]

section Way

variable (fresh : Link μ β χ) (happenings : List (Happening μ β χ))

/-- The link had no access point at a moment, and has had one since then. -/
structure Linked (low : Nat) : Prop where
  lowInRun : low < happenings.length
  below : ¬ Stage.joined ≤ (fresh.atMoment happenings low).stage
  above : ∀ moment, low < moment → moment ≤ happenings.length →
    (fresh.atMoment happenings moment).stage.hasLink = true

/-- A tick since then found that the access point had leased an address. -/
structure Leased (low lease : Nat) : Prop extends Linked fresh happenings low where
  afterLow : low < lease
  leaseInRun : lease < happenings.length
  leased : fresh.TickFinds happenings lease IsLeased

/-- A later tick opened the beacon, and none has opened it again. -/
structure Announced (low lease start : Nat) : Prop extends Leased fresh happenings low lease where
  afterLease : lease < start
  startInRun : start < happenings.length
  started : fresh.TickFinds happenings start BeaconStarts
  latest : ∀ moment, start < moment → ¬ fresh.TickFinds happenings moment BeaconStarts

/-- A still later tick opened the pairing channel. -/
structure Offered (low lease start listen : Nat) : Prop extends
    Announced fresh happenings low lease start where
  afterStart : start < listen
  listenInRun : listen < happenings.length
  opened : fresh.TickFinds happenings listen ChannelOpens

end Way

section Extend

variable {fresh : Link μ β χ} {happenings : List (Happening μ β χ)} {last : Happening μ β χ}
variable {low lease start listen elapsed : Nat}

/-- A link that comes up to an access point had none at the last moment before. -/
theorem Linked.begin (below : ¬ Stage.joined ≤ (fresh.afterAll happenings).stage)
    (up : ((fresh.afterAll happenings).after last).stage.hasLink = true) :
    Linked fresh (happenings ++ [last]) happenings.length where
  -- The link was low until now, so that only the last moment is asked about.
  lowInRun := by simp
  below := by
    rw [atMoment_concat fresh last (Nat.le_refl _), atMoment_length]
    exact below
  above moment behind within := by
    have end_ : moment = (happenings ++ [last]).length := by
      rw [List.length_append, List.length_singleton] at within ⊢
      omega
    rw [end_, atMoment_length, afterAll_concat]
    exact up

/-- As long as the link is up, it has been up since the same moment. -/
theorem Linked.extend (way : Linked fresh happenings low)
    (up : ((fresh.afterAll happenings).after last).stage.hasLink = true) :
    Linked fresh (happenings ++ [last]) low where
  -- Every moment but the last was asked about before.
  lowInRun := Nat.lt_of_lt_of_le way.lowInRun (by simp)
  below := by
    rw [atMoment_concat fresh last (Nat.le_of_lt way.lowInRun)]
    exact way.below
  above moment behind within := by
    rw [List.length_append, List.length_singleton] at within
    by_cases earlier : moment ≤ happenings.length
    · rw [atMoment_concat fresh last earlier]
      exact way.above moment behind earlier
    -- The moment at the end is the one that was added.
    · have end_ : moment = (happenings ++ [last]).length := by
        rw [List.length_append, List.length_singleton]
        omega
      rw [end_, atMoment_length, afterAll_concat]
      exact up

/-- A joined link whose tick finds the lease has the lease from that tick on. -/
theorem Leased.begin (way : Linked fresh happenings low)
    (leased : IsLeased ((fresh.afterAll happenings).untilStep elapsed))
    (up : ((fresh.afterAll happenings).after (.tick elapsed)).stage.hasLink = true) :
    Leased fresh (happenings ++ [.tick elapsed]) low happenings.length where
  -- The tick that finds the lease is the last happening of the run.
  toLinked := way.extend up
  afterLow := way.lowInRun
  leaseInRun := by simp
  leased := (tickFinds_last fresh happenings _ IsLeased).mpr ⟨elapsed, rfl, leased⟩

/-- As long as the link is up, the lease that was found stays the one that counts. -/
theorem Leased.extend (way : Leased fresh happenings low lease)
    (up : ((fresh.afterAll happenings).after last).stage.hasLink = true) :
    Leased fresh (happenings ++ [last]) low lease where
  -- The tick that found the lease is still in the run.
  toLinked := way.toLinked.extend up
  afterLow := way.afterLow
  leaseInRun := Nat.lt_of_lt_of_le way.leaseInRun (by simp)
  leased := (tickFinds_concat fresh last way.leaseInRun IsLeased).mpr way.leased

/-- A link with its lease whose tick opens the beacon is announced from that tick on. -/
theorem Announced.begin (way : Leased fresh happenings low lease)
    (started : BeaconStarts ((fresh.afterAll happenings).untilStep elapsed))
    (up : ((fresh.afterAll happenings).after (.tick elapsed)).stage.hasLink = true) :
    Announced fresh (happenings ++ [.tick elapsed]) low lease happenings.length where
  toLeased := way.extend up
  afterLease := way.leaseInRun
  startInRun := by simp
  started := (tickFinds_last fresh happenings _ BeaconStarts).mpr ⟨elapsed, rfl, started⟩
  latest := by
    -- Nothing happens behind the last happening of the run.
    rintro moment behind ⟨_, ticked, _⟩
    rw [List.getElem?_eq_none (by simp; omega)] at ticked
    cases ticked

/-- A link that stays up keeps the start of its beacon, as long as no other start comes after it. -/
theorem Announced.extend (way : Announced fresh happenings low lease start)
    (up : ((fresh.afterAll happenings).after last).stage.hasLink = true)
    (quiet : ∀ elapsed, last = .tick elapsed →
      ¬ BeaconStarts ((fresh.afterAll happenings).untilStep elapsed)) :
    Announced fresh (happenings ++ [last]) low lease start where
  toLeased := way.toLeased.extend up
  afterLease := way.afterLease
  startInRun := Nat.lt_of_lt_of_le way.startInRun (by simp)
  started := (tickFinds_concat fresh last way.startInRun BeaconStarts).mpr way.started
  latest moment behind found := by
    -- The beacon would have been opened earlier, or now, or by no happening of the run.
    rcases Nat.lt_trichotomy moment happenings.length with earlier | now | beyond
    · exact way.latest moment behind ((tickFinds_concat fresh last earlier BeaconStarts).mp found)
    · subst now
      obtain ⟨elapsed, ticked, starts⟩ :=
        (tickFinds_last fresh happenings last BeaconStarts).mp found
      exact quiet elapsed ticked starts
    · obtain ⟨_, ticked, _⟩ := found
      rw [List.getElem?_eq_none (by simp; omega)] at ticked
      cases ticked

/-- What has had its time keeps it. -/
theorem Announced.longer (way : Announced fresh happenings low lease start) {grace : Nat}
    (given : grace ≤ fresh.announcedSince happenings start) :
    grace ≤ fresh.announcedSince (happenings ++ [last]) start := by
  -- The count only grows.
  rw [announcedSince_concat fresh last way.startInRun]
  exact Nat.le_trans given (Nat.le_add_right ..)

/-- An announced link whose tick opens the channel offers it from that tick on. -/
theorem Offered.begin (way : Announced fresh happenings low lease start)
    (opened : ChannelOpens ((fresh.afterAll happenings).untilStep elapsed))
    (up : ((fresh.afterAll happenings).after (.tick elapsed)).stage.hasLink = true)
    (quiet : ¬ BeaconStarts ((fresh.afterAll happenings).untilStep elapsed)) :
    Offered fresh (happenings ++ [.tick elapsed]) low lease start happenings.length where
  -- The tick that opens the channel is the last happening of the run.
  toAnnounced := way.extend up fun _ same => by cases same; exact quiet
  afterStart := way.startInRun
  listenInRun := by simp
  opened := (tickFinds_last fresh happenings _ ChannelOpens).mpr ⟨elapsed, rfl, opened⟩

/-- A link that stays up goes on offering its channel, as long as the beacon is not opened again. -/
theorem Offered.extend (way : Offered fresh happenings low lease start listen)
    (up : ((fresh.afterAll happenings).after last).stage.hasLink = true)
    (quiet : ∀ elapsed, last = .tick elapsed →
      ¬ BeaconStarts ((fresh.afterAll happenings).untilStep elapsed)) :
    Offered fresh (happenings ++ [last]) low lease start listen where
  -- The tick that opened the channel is still in the run.
  toAnnounced := way.toAnnounced.extend up quiet
  afterStart := way.afterStart
  listenInRun := Nat.lt_of_lt_of_le way.listenInRun (by simp)
  opened := (tickFinds_concat fresh last way.listenInRun ChannelOpens).mpr way.opened

end Extend

/-- What a link has been through since it last had no access point, by the stage it has come to. -/
inductive Story (fresh : Link μ β χ) (happenings : List (Happening μ β χ)) : Stage → Prop
  | apart {stage : Stage} (down : stage.hasLink = false) : Story fresh happenings stage
  | joined {low : Nat} (way : Linked fresh happenings low) : Story fresh happenings .joined
  | leased {low lease : Nat} (way : Leased fresh happenings low lease) :
    Story fresh happenings .leased
  | opening {low lease : Nat} (way : Leased fresh happenings low lease) :
    Story fresh happenings .opening
  -- The first announcement is given its time, and from there on that time has passed.
  | announced {low lease start : Nat} (way : Announced fresh happenings low lease start)
    (waits : (fresh.afterAll happenings).elapsed ≤ fresh.announcedSince happenings start) :
    Story fresh happenings .announced
  | visible {low lease start : Nat} (way : Announced fresh happenings low lease start)
    (grace : fresh.settings.announceGrace ≤ fresh.announcedSince happenings start) :
    Story fresh happenings .visible
  | offering {low lease start : Nat} (way : Announced fresh happenings low lease start)
    (grace : fresh.settings.announceGrace ≤ fresh.announcedSince happenings start) :
    Story fresh happenings .offering
  | listening {low lease start listen : Nat} (way : Offered fresh happenings low lease start listen)
    (grace : fresh.settings.announceGrace ≤ fresh.announcedSince happenings start) :
    Story fresh happenings .listening
  | paired {low lease start listen : Nat} (way : Offered fresh happenings low lease start listen)
    (grace : fresh.settings.announceGrace ≤ fresh.announcedSince happenings start) :
    Story fresh happenings .paired

namespace Story

variable {fresh : Link μ β χ} {happenings : List (Happening μ β χ)}

/-- A link that stays in its stage has been through the same. -/
theorem stay {last : Happening μ β χ}
    (story : Story fresh happenings (fresh.afterAll happenings).stage)
    (same : ((fresh.afterAll happenings).after last).stage = (fresh.afterAll happenings).stage)
    (waited : (fresh.afterAll happenings).stage = .announced →
      ((fresh.afterAll happenings).after last).elapsed ≤
        (fresh.afterAll happenings).elapsed + last.time)
    (quiet : (fresh.afterAll happenings).stage ≠ .opening → ∀ elapsed, last = .tick elapsed →
      ¬ BeaconStarts ((fresh.afterAll happenings).untilStep elapsed)) :
    Story fresh (happenings ++ [last]) ((fresh.afterAll happenings).after last).stage := by
  -- The story of every stage is extended by the last happening; two stages say more.
  have linked (up : (fresh.afterAll happenings).stage.hasLink = true) :
      ((fresh.afterAll happenings).after last).stage.hasLink = true := by rwa [same]
  rw [same]
  generalize at_ : (fresh.afterAll happenings).stage = stage at story waited quiet linked
  cases story with
  | apart down => exact .apart down
  | joined way => exact .joined (way.extend (linked rfl))
  | leased way => exact .leased (way.extend (linked rfl))
  | opening way => exact .opening (way.extend (linked rfl))
  | announced way waits =>
    refine .announced (way.extend (linked rfl) (quiet nofun)) ?_
    -- The clock of the stage and the time that is counted advance together.
    rw [afterAll_concat, announcedSince_concat fresh last way.startInRun, if_pos at_]
    have passed := waited rfl
    omega
  | visible way grace =>
    exact .visible (way.extend (linked rfl) (quiet nofun)) (way.longer grace)
  | offering way grace =>
    exact .offering (way.extend (linked rfl) (quiet nofun)) (way.longer grace)
  | listening way grace =>
    exact .listening (way.extend (linked rfl) (quiet nofun)) (way.longer grace)
  | paired way grace =>
    exact .paired (way.extend (linked rfl) (quiet nofun)) (way.longer grace)

section Tick

variable {elapsed : Nat} {found : Link μ β χ}

/-- Only the work of its own stage opens the beacon. -/
theorem quiet_of_finds (finds : (fresh.afterAll happenings).untilStep elapsed = found)
    (other : found.stage ≠ .opening) (passing : Nat)
    (now : (Happening.tick elapsed : Happening μ β χ) = .tick passing) :
    ¬ BeaconStarts ((fresh.afterAll happenings).untilStep passing) := by
  -- A beacon is opened in one stage only, and the tick has found the link in another.
  cases now
  rw [finds]
  exact fun starts => other starts.1

/-- A stage that is entered without any other work adds the part that this stage is about. -/
theorem passes {next : Stage} (story : Story fresh happenings found.stage)
    (finds : (fresh.afterAll happenings).untilStep elapsed = found)
    (ticked : ((fresh.afterAll happenings).after (.tick elapsed)).stage = next)
    (same : found.stage = (fresh.afterAll happenings).stage)
    (passed : found.stage = .announced →
      found.elapsed = (fresh.afterAll happenings).elapsed + elapsed)
    (why : Passes found next) : Story fresh (happenings ++ [.tick elapsed]) next := by
  -- The cases follow the ways on, and each takes the story of the stage that it leaves.
  have up (linked : next.hasLink = true) :
      ((fresh.afterAll happenings).after (.tick elapsed)).stage.hasLink = true := by
    rw [ticked, linked]
  have other {stage : Stage} (at_ : found.stage = stage) (unlike : stage ≠ .opening) :=
    quiet_of_finds finds (at_ ▸ unlike)
  cases why with
  | cameUp | foundAlone | asked | settled | askedAgain => exact .apart rfl
  | foundJoined at_ | connectedMeanwhile at_ =>
    exact .joined (.begin (same ▸ by rw [at_]; decide) (up rfl))
  | leased at_ lease =>
    rw [at_] at story
    cases story with
    | apart down => cases down
    | joined way =>
      -- The lease that the stage waited for is the one of the access point that carries the link.
      obtain ⟨_, held⟩ := Option.isSome_iff_exists.mp lease
      obtain ⟨_, carried, given⟩ := Option.bind_eq_some_iff.mp held
      have leased : IsLeased found := ⟨_, _, carried, given⟩
      exact .leased (.begin way (finds ▸ leased) (up rfl))
  | prepared at_ =>
    rw [at_] at story
    cases story with
    | apart down => cases down
    | leased way => exact .opening (way.extend (up rfl))
  | graceOver at_ late =>
    have clock := passed at_
    have settings := settings_untilStep (fresh.afterAll happenings) elapsed
    rw [finds, settings_afterAll] at settings
    rw [at_] at same story
    cases story with
    | apart down => cases down
    | announced way waits =>
      refine .visible (way.extend (up rfl) (other at_ (by decide))) ?_
      -- The clock of the stage has come to the grace, and it has not run ahead of what is counted.
      rw [announcedSince_concat fresh _ way.startInRun, if_pos same.symm, ← settings]
      have time : (Happening.tick elapsed : Happening μ β χ).time = elapsed := rfl
      omega
  | shown at_ =>
    rw [at_] at story
    cases story with
    | apart down => cases down
    | visible way grace =>
      exact .offering (way.extend (up rfl) (other at_ (by decide))) (way.longer grace)
  | silenced at_ =>
    -- Of the way so far, only what lies before the beacon still counts.
    rcases at_ with at_ | at_ | at_ <;> rw [at_] at story
    · cases story with
      | apart down => cases down
      | visible way => exact .leased (way.toLeased.extend (up rfl))
    · cases story with
      | apart down => cases down
      | offering way => exact .leased (way.toLeased.extend (up rfl))
    · cases story with
      | apart down => cases down
      | listening way => exact .leased (way.toLeased.extend (up rfl))
  | clientGone at_ =>
    rw [at_] at story
    cases story with
    | apart down => cases down
    | paired way grace =>
      exact .listening (way.extend (up rfl) (other at_ (by decide))) (way.longer grace)

/-- Each way on from a stage adds its own part to what the link has been through. -/
theorem works {after : Link μ β χ} (story : Story fresh happenings found.stage)
    (finds : (fresh.afterAll happenings).untilStep elapsed = found)
    (ticked : (fresh.afterAll happenings).after (.tick elapsed) = after)
    (same : found.stage = (fresh.afterAll happenings).stage)
    (passed : found.stage = .announced →
      found.elapsed = (fresh.afterAll happenings).elapsed + elapsed)
    (held : found.stage.hasLink = true → found.carrier.isSome = true)
    (work : Works found after) : Story fresh (happenings ++ [.tick elapsed]) after.stage := by
  -- Staying in the stage is one argument for four ways, so it is made first.
  have up {next : Stage} (entered : after.stage = next) (linked : next.hasLink = true) :
      ((fresh.afterAll happenings).after (.tick elapsed)).stage.hasLink = true := by
    rw [ticked, entered, linked]
  have other {stage : Stage} (at_ : found.stage = stage) (unlike : stage ≠ .opening) :=
    quiet_of_finds finds (at_ ▸ unlike)
  have stays (kept : after.stage = found.stage) (clock : after.elapsed = found.elapsed) :
      Story fresh (happenings ++ [.tick elapsed]) after.stage := by
    rw [same] at story
    have story := story.stay (ticked ▸ kept.trans same) (fun at_ => ?_)
      (fun unlike => quiet_of_finds finds (same ▸ unlike))
    · rwa [ticked] at story
    · rw [ticked, clock, passed (same.trans at_)]
      exact Nat.le_refl _
  cases work with
  | rests => exact stays rfl rfl
  | joinPending | channelFailed | nobodyTaken => exact stays rfl rfl
  | passes why => exact story.passes finds (congrArg Link.stage ticked) same passed why
  -- A join that came up begins the story, since it had no access point before.
  | joinSucceeded at_ => exact .joined (.begin (same ▸ by rw [at_]; decide) (up rfl rfl))
  -- The tick that opens the beacon is the latest start from now on.
  | beaconOpened at_ started =>
    rw [at_] at story
    cases story with
    | apart down => cases down
    | opening way =>
      have starts : BeaconStarts found := ⟨at_, held (by rw [at_]; rfl), _, started⟩
      refine .announced (.begin way (finds ▸ starts) (up rfl rfl)) ?_
      -- The clock of the stage starts anew.
      rw [afterAll_concat, ticked]
      exact Nat.zero_le _
  -- Opening the channel leaves the start as it was, and the grace time is over.
  | channelOpened at_ running opened =>
    rw [at_] at story
    cases story with
    | apart down => cases down
    | offering way grace =>
      have opens : ChannelOpens found := ⟨at_, held (by rw [at_]; rfl), running, _, opened⟩
      have quiet := other at_ (by decide) elapsed rfl
      exact .listening (.begin way (finds ▸ opens) (up rfl rfl) quiet) (way.longer grace)
  | clientTaken at_ =>
    rw [at_] at story
    cases story with
    | apart down => cases down
    | listening way grace =>
      exact .paired (way.extend (up rfl rfl) (other at_ (by decide))) (way.longer grace)
  -- Going back to the offering keeps the way up to there.
  | channelGone at_ =>
    rw [at_] at story
    cases story with
    | apart down => cases down
    | listening way grace =>
      exact .offering (way.toAnnounced.extend (up rfl rfl) (other at_ (by decide)))
        (way.longer grace)
  | powerTimedOut | searchImpossible | searchTaken | searchRefused | searchRejected | joinFailed
  | beaconFailed => exact .apart rfl

end Tick

/-- A tick goes on with the story, or the link has no access point any more. -/
theorem tick (story : Story fresh happenings (fresh.afterAll happenings).stage)
    (kinds : (fresh.afterAll happenings).technologies.KindsMatch) (elapsed : Nat) :
    Story fresh (happenings ++ [.tick elapsed])
      ((fresh.afterAll happenings).after (.tick elapsed)).stage := by
  -- A link that is closed or loses its radio has no access point after the tick.
  by_cases closed : (fresh.afterAll happenings).stage = .closed
  · rw [after, tick_closed closed, closed]
    exact .apart rfl
  · by_cases lost : (fresh.afterAll happenings).stage.isUp = true ∧
        (fresh.afterAll happenings).losesRadio = true
    · rw [after, stage_tick_lost kinds lost.1 lost.2]
      exact .apart rfl
    · have same := stage_untilStep (fresh.afterAll happenings) kinds elapsed closed
      rw [if_neg lost] at same
      -- An announced link is up, so that its radio stayed on and its clock went on.
      have passed (at_ : ((fresh.afterAll happenings).untilStep elapsed).stage = .announced) :
          ((fresh.afterAll happenings).untilStep elapsed).elapsed =
            (fresh.afterAll happenings).elapsed + elapsed := by
        rw [at_] at same
        have lit : (fresh.afterAll happenings).losesRadio = false := by
          simpa [← same, Stage.isUp_iff] using lost
        exact (untilStep_lit kinds lit elapsed).2
      have stepped := tick_eq closed elapsed
      rcases step_cases ((fresh.afterAll happenings).untilStep elapsed) with
        ⟨_, _, cutOff⟩ | ⟨held, work⟩
      · rw [after, stepped, cutOff]
        exact .apart rfl
      · rw [after, stepped]
        exact works (same ▸ story) rfl stepped same passed held work

/-- What a link has been through goes with whatever happens to it. -/
theorem after (story : Story fresh happenings (fresh.afterAll happenings).stage)
    (kinds : (fresh.afterAll happenings).technologies.KindsMatch) (last : Happening μ β χ) :
    Story fresh (happenings ++ [last]) ((fresh.afterAll happenings).after last).stage := by
  -- A tick has its own lemma; everything else keeps the stage or brings the link down.
  rcases last.tick_or_still with ⟨elapsed, rfl⟩ | still
  · exact story.tick kinds elapsed
  · rcases still_cases (fresh.afterAll happenings) still with down | ⟨same, clock⟩
    · exact .apart down
    · exact story.stay same (fun _ => by rw [clock]; exact Nat.le_add_right ..)
        fun _ elapsed ticked => absurd ticked (still elapsed)

end Story

/-- A link that some history leads to has been through what its stage asks for. -/
theorem story_afterAll {manager : μ} {announcer : β} {channel : χ} {settings : LinkSettings}
    {fresh : Link μ β χ} (started : Link.start manager announcer channel settings = .ok fresh)
    (happenings : List (Happening μ β χ)) :
    Story fresh happenings (fresh.afterAll happenings).stage := by
  -- By induction on the run from its end: a fresh link has nothing to tell.
  induction happenings using List.reverseRecOn with
  | nil =>
    obtain ⟨_, _, _, _, _, _, rfl⟩ := start_cases started
    exact .apart rfl
  | append_singleton earlier last story =>
    have kinds := ((Reachable.start started).afterAll earlier).radioByStage.kinds
    rw [afterAll_concat]
    exact story.after kinds last

/--
A tick that pairs a link takes a client that waits, with the beacon running and the channel
listening before and after it. Since the link last had no access point, a tick found that the access
point that carries it had leased an address, a later one opened the beacon, none opened it again,
and a still later one opened the channel. Since the beacon was opened, the ticks that began while
the first announcement was out have lasted as long as the settings ask for.

That holds in every run, with failures and with beacon, channel and manager changed from outside.
-/
theorem pairing_follows_announcement [ListensToAccept χ] {manager : μ} {announcer : β} {channel : χ}
    {settings : LinkSettings} {fresh : Link μ β χ}
    (started : Link.start manager announcer channel settings = .ok fresh)
    (happenings : List (Happening μ β χ)) (elapsed : Nat)
    (unpaired : (fresh.afterAll happenings).stage ≠ .paired)
    (paired : ((fresh.afterAll happenings).tick elapsed).stage = .paired) :
    let link := fresh.afterAll happenings
    let found := link.untilStep elapsed
    (∃ peer, (PairingChannel.accept found.channel).1 = .ok (.accepted peer)) ∧
    (Announcer.isRunning found.announcer = true ∧
      PairingChannel.isListening found.channel = true) ∧
    (Announcer.isRunning (link.tick elapsed).announcer = true ∧
      PairingChannel.isListening (link.tick elapsed).channel = true) ∧
    ∃ low lease start listen, Offered fresh happenings low lease start listen ∧
      settings.announceGrace ≤ fresh.announcedSince happenings start := by
  intro link found
  have story := story_afterAll started happenings
  have kinds := ((Reachable.start started).afterAll happenings).radioByStage.kinds
  -- Neither a closed link nor one that has lost its radio comes to be paired by a tick.
  have closed : link.stage ≠ .closed := by
    intro closed
    rw [tick_closed closed, closed] at paired
    cases paired
  have lost : ¬ (link.stage.isUp = true ∧ link.losesRadio = true) := by
    rintro ⟨up, lost⟩
    rw [stage_tick_lost kinds up lost] at paired
    cases paired
  have same : found.stage = link.stage := by
    rw [stage_untilStep link kinds elapsed closed, if_neg lost]
  -- So the tick is the drain, the announcement and the work of the stage it found.
  have ticked : link.tick elapsed = found.step := tick_eq closed elapsed
  have granted : fresh.settings = settings := by
    obtain ⟨_, _, _, _, _, _, rfl⟩ := start_cases started
    rfl
  rw [ticked] at paired ⊢
  rcases step_cases found with ⟨_, _, cutOff⟩ | ⟨_, work⟩
  · rw [cutOff] at paired
    cases paired
  · revert paired work
    generalize found.step = after
    intro paired work
    -- Of all the work there is, only taking a client leads to the pairing.
    cases work with
    | @clientTaken peer channel at_ running accepted =>
      obtain ⟨open_, still⟩ := ListensToAccept.listening accepted
      rw [← same, at_] at story
      cases story with
      | apart down => cases down
      | listening way grace =>
        exact ⟨⟨peer, by rw [accepted]⟩, ⟨running, open_⟩, ⟨running, still⟩, _, _, _, _, way,
          granted ▸ grace⟩
    | rests | joinPending | channelFailed | nobodyTaken =>
      exact absurd (same.symm.trans paired) unpaired
    | passes why => cases why <;> cases paired
    | _ => cases paired

/-- A run that comes to the channel, loses all that it had opened, and comes to it again. -/
def secondAscent : List (Happening ManagerDouble AnnouncerDouble ChannelDouble) :=
  [.setPower true, .tick 100, .tick 100, .tick 100, .tick 100, .tick 100, .tick 2000, .tick 100,
    .tick 100,
    .outside { subscribed := true, queue := some [] } {}
      (({} : ChannelDouble).queueClient ⟨.ofOctets 10 0 0 9, 40000⟩),
    .tick 100, .tick 100, .tick 100, .tick 900, .tick 1200, .tick 100, .tick 100]

/-- What was opened and given its time before does not count: it is done again before a pairing. -/
theorem pairing_follows_announcement_again :
    ∃ fresh,
      Link.start homeManager ({} : AnnouncerDouble) ({} : ChannelDouble) {} = .ok fresh ∧
      (fresh.afterAll secondAscent).stage = .listening ∧
      ((fresh.afterAll secondAscent).tick 100).stage = .paired ∧
      ((fresh.afterAll secondAscent).tick 100).announcer.running = true ∧
      ((fresh.afterAll secondAscent).tick 100).channel.listening = true ∧
      ∃ low lease start listen, Offered fresh secondAscent low lease start listen ∧ 12 ≤ start ∧
        2000 ≤ fresh.announcedSince secondAscent start := by
  refine ⟨_, rfl, rfl, rfl, ?_⟩
  obtain ⟨_, _, ⟨running, open_⟩, low, lease, start, listen, way, grace⟩ :=
    @pairing_follows_announcement _ _ _ _ _ _ _ homeManager ({} : AnnouncerDouble)
      ({} : ChannelDouble) {} _ rfl secondAscent 100 (by decide) (by decide)
  refine ⟨running, open_, low, lease, start, listen, way, ?_, grace⟩
  -- The thirteenth happening opens the beacon, so the last one to do so is not earlier.
  by_contra earlier
  exact way.latest 12 (by omega) ⟨100, rfl, rfl, rfl, _, rfl⟩

end CompanionLink
