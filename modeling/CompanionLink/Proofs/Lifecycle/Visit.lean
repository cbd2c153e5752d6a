import CompanionLink.Proofs.Lifecycle.Handling

/-!
One client's visit, from the tick that takes it until the channel drops it. Whatever happens to the
link meanwhile, the octets handed in reach the reads of the visit in order and in full, and nothing
that was handed in to an earlier client does.
-/

namespace CompanionLink

open FrameReader Link ChannelDouble

/-- A link does something itself, or others do. -/
theorem Happening.own_or_outside {μ β χ : Type} (happening : Happening μ β χ) :
    happening.isOwn = true ∨
      ∃ manager announcer channel, happening = .outside manager announcer channel := by
  -- By cases on the happening.
  cases happening with
  | outside manager announcer channel => exact .inr ⟨manager, announcer, channel, rfl⟩
  | _ => exact .inl rfl

/-- The octets that others hand in to a prepared channel when something happens to its link. -/
def Happening.pushed {μ β : Type} : Happening μ β Deed → Bytes
  | .outside _ _ deed => deed.pushed
  | _ => []

/-- The octets that a happening writes to the client. -/
def Happening.wrote {μ β χ : Type} : Happening μ β χ → Bytes
  | .write bytes => bytes
  | _ => []

namespace Link

section Paired

variable {μ β χ : Type} [PairingChannel χ]

/-- While paired, a link reads through its channel, if there is room for a length. -/
theorem read_paired (link : Link μ β χ) (paired : link.stage = .paired) {buffer : Bytes}
    (room : lengthPrefixSize ≤ buffer.length) :
    link.read buffer = ((PairingChannel.read link.channel buffer).1,
      { link with channel := (PairingChannel.read link.channel buffer).2 }) := by
  -- Neither guard applies.
  rw [read, if_neg (fun other => other paired), if_neg (Nat.not_lt.mpr room)]

/-- While paired, a link refuses to read into less, and takes nothing for it. -/
theorem read_tiny (link : Link μ β χ) (paired : link.stage = .paired) {buffer : Bytes}
    (tiny : buffer.length < lengthPrefixSize) :
    link.read buffer = (⟨0, buffer⟩, { link with status := .fail }) := by
  -- The first guard does not apply, and the second one does.
  rw [read, if_neg (fun other => other paired), if_pos tiny]

/-- While paired, a link writes through its channel. -/
theorem write_paired (link : Link μ β χ) (paired : link.stage = .paired) (bytes : Bytes) :
    link.write bytes = ((PairingChannel.write link.channel bytes).1,
      { link with channel := (PairingChannel.write link.channel bytes).2 }) := by
  rw [write, if_neg fun other => other paired]

end Paired

variable {μ β : Type} [NetworkManager μ] [Announcer β]

/--
A link over a prepared channel after something happened to it. Others may change its manager and its
announcer in any way, and do to the channel what can be done to it.
-/
def undergo (link : Link μ β ChannelDouble) (happening : Happening μ β Deed) :
    Link μ β ChannelDouble :=
  link.after (happening.mapChannel link.channel.afterDeed)

/-- A link over a prepared channel after one thing after another happened to it. -/
def undergoAll (link : Link μ β ChannelDouble) (happenings : List (Happening μ β Deed)) :
    Link μ β ChannelDouble :=
  happenings.foldl undergo link

/-- A run is followed by its parts one after the other. -/
theorem undergoAll_append (link : Link μ β ChannelDouble)
    (first later : List (Happening μ β Deed)) :
    link.undergoAll (first ++ later) = (link.undergoAll first).undergoAll later := by
  -- A run of both parts is a run of the second after the first.
  rw [undergoAll, List.foldl_append]
  rfl

/-- The octets that count as handed in after something happened to a link, given those before. -/
def supplyAfter (link : Link μ β ChannelDouble) (octets : Bytes) (happening : Happening μ β Deed) :
    Bytes :=
  ((link.mapChannel (Supplied.mk · octets)).after
    (happening.mapChannel (Supplied.afterDeed ⟨link.channel, octets⟩))).channel.octets

/--
The octets handed in during a run since the channel was last closed, shut down or left without its
client, behind those that counted before the run.
-/
def supply (link : Link μ β ChannelDouble) (octets : Bytes) : List (Happening μ β Deed) → Bytes
  | [] => octets
  | happening :: later => (link.undergo happening).supply (link.supplyAfter octets happening) later

variable (link : Link μ β ChannelDouble) (octets : Bytes)

/-- Beside the octets that are kept with it, the channel is what becomes of it anyway. -/
theorem supplied_undergo (happening : Happening μ β Deed) :
    ((link.mapChannel (Supplied.mk · octets)).after
      (happening.mapChannel (Supplied.afterDeed ⟨link.channel, octets⟩))).channel =
      ⟨(link.undergo happening).channel, link.supplyAfter octets happening⟩ := by
  -- Without the octets beside it, this is what happens to the link itself.
  have back : (happening.mapChannel (Supplied.afterDeed ⟨link.channel, octets⟩)).mapChannel
      Supplied.channel = happening.mapChannel link.channel.afterDeed := by
    cases happening <;> rfl
  have same := mapChannel_after Supplied.faithful (link.mapChannel (Supplied.mk · octets))
    (happening.mapChannel (Supplied.afterDeed ⟨link.channel, octets⟩))
  rw [back] at same
  have channel : (link.undergo happening).channel = _ := congrArg Link.channel same
  rw [channel, supplyAfter]
  rfl

/-- What others do to the channel, they do to the octets that are kept with it. -/
theorem alters_undergo (manager : μ) (announcer : β) (deed : Deed) :
    Supplied.Alters link.channel octets deed
      (link.undergo (.outside manager announcer deed)).channel
      (link.supplyAfter octets (.outside manager announcer deed)) :=
  Supplied.alters link.channel octets deed

variable {link octets} {happening : Happening μ β Deed}

/-- What lasts for a channel and the octets kept with it lasts through all a link does. -/
theorem supplied_keeps {kept : Supplied ChannelDouble → Prop} (lasts : Lasts kept)
    (before : kept ⟨link.channel, octets⟩) (own : happening.isOwn = true) :
    kept ⟨(link.undergo happening).channel, link.supplyAfter octets happening⟩ := by
  -- The link over the channel with its octets does the same, so that what lasts there is known.
  have owned : (happening.mapChannel (Supplied.afterDeed ⟨link.channel, octets⟩)).isOwn = true := by
    cases happening <;> exact own
  have begun : kept (link.mapChannel (Supplied.mk · octets)).channel := before
  have next := lasts.after owned begun
  rwa [supplied_undergo] at next

/-- Beside the octets that are kept with it, the channel is handled as it is anyway. -/
theorem handles_supplied (own : happening.isOwn = true)
    (noRead : ∀ buffer, happening ≠ .read buffer) (noWrite : ∀ bytes, happening ≠ .write bytes) :
    Handles (⟨link.channel, octets⟩ : Supplied ChannelDouble)
      ⟨(link.undergo happening).channel, link.supplyAfter octets happening⟩ := by
  -- Neither a read nor a write becomes one by the octets beside the channel.
  rw [← supplied_undergo]
  refine handles_after (link.mapChannel (Supplied.mk · octets)) ?_ ?_ ?_
  · cases happening <;> exact own
  -- The kind of a happening is not touched by the view.
  · intro buffer same
    cases happening with
    | read other => exact noRead other rfl
    | _ => cases same
  · intro bytes same
    cases happening with
    | write other => exact noWrite other rfl
    | _ => cases same

/-- Others close the channel at most, and what the link does itself keeps a client in its stage. -/
theorem KeepsPaired.undergo (keeps : link.KeepsPaired) (happening : Happening μ β Deed) :
    (link.undergo happening).KeepsPaired := by
  -- A deed keeps the client or closes the channel, and all else is the link's own.
  cases happening with
  | outside manager announcer deed =>
    cases alters_undergo link [] manager announcer deed with
    | keeps client => exact keeps.of_less rfl (congrArg Option.isSome client).symm.trans
    | closes alone => exact .of_alone alone
  | _ => exact keeps.own rfl

/-- All through a run a client is kept in the stage for it only. -/
theorem KeepsPaired.undergoAll (keeps : link.KeepsPaired) (happenings : List (Happening μ β Deed)) :
    (link.undergoAll happenings).KeepsPaired := by
  -- By induction on the run.
  induction happenings generalizing link with
  | nil => exact keeps
  | cons happening later ih => exact ih (keeps.undergo happening)

/-- What waits for a client that is still to come is what counts as handed in. -/
theorem waiting_undergo
    (waits : link.channel.client = none → link.channel.inbound.queued = octets)
    (alone : (link.undergo happening).channel.client = none) :
    (link.undergo happening).channel.inbound.queued = link.supplyAfter octets happening := by
  -- A link's own doing keeps the two equal, and what others hand in goes to both.
  rcases happening.own_or_outside with own | ⟨manager, announcer, deed, rfl⟩
  · exact supplied_keeps Supplied.lasts_waiting waits own alone
  · cases alters_undergo link octets manager announcer deed with
    | keeps client _ _ queued counts => rw [queued, counts, waits (client ▸ alone)]
    | closes _ drained spent => rw [drained, spent]

/-- Of what counted before a happening, all still counts or nothing does. -/
theorem supplyAfter_cases (link : Link μ β ChannelDouble) (octets : Bytes)
    (happening : Happening μ β Deed) :
    link.supplyAfter octets happening = octets ++ happening.pushed ∨
      link.supplyAfter octets happening = [] := by
  -- What is done by the link keeps the octets or drops them, and a deed may add some.
  rcases happening.own_or_outside with own | ⟨manager, announcer, deed, rfl⟩
  · -- Only others hand anything in.
    have silent : happening.pushed = [] := by
      cases happening with
      | outside => cases own
      | _ => rfl
    rw [silent, List.append_nil]
    exact supplied_keeps (Supplied.lasts_counting octets) (.inl rfl) own
  · cases alters_undergo link octets manager announcer deed with
    | keeps _ _ _ _ counts => exact .inl counts
    | closes _ _ spent => exact .inr spent

/-- With a client that is lost, nothing counts any more. -/
theorem supplyAfter_lost (served : link.channel.client.isSome = true)
    (lost : (link.undergo happening).channel.client = none) (octets : Bytes) :
    link.supplyAfter octets happening = [] := by
  -- A client that was served and is lost takes everything with it, whoever dropped it.
  have here : link.channel.client = none → octets = [] := by
    intro alone
    rw [alone] at served
    cases served
  rcases happening.own_or_outside with own | ⟨manager, announcer, deed, rfl⟩
  · exact supplied_keeps Supplied.lasts_spent here own lost
  -- A deed that drops the client leaves none of its octets.
  · cases alters_undergo link octets manager announcer deed with
    | keeps client =>
      rw [← client, lost] at served
      cases served
    | closes _ _ spent => exact spent

/-- What counts after a run counts on through another one. -/
theorem supply_append (link : Link μ β ChannelDouble) (octets : Bytes)
    (first later : List (Happening μ β Deed)) :
    link.supply octets (first ++ later) =
      (link.undergoAll first).supply (link.supply octets first) later := by
  -- By induction on the first run.
  induction first generalizing link octets with
  | nil => rfl
  | cons happening rest ih => exact ih (link.undergo happening) (link.supplyAfter octets happening)

/-- After a run that ends without a client, what waits is what counts as handed in. -/
theorem waiting_undergoAll (happenings : List (Happening μ β Deed))
    (waits : link.channel.client = none → link.channel.inbound.queued = octets)
    (alone : (link.undergoAll happenings).channel.client = none) :
    (link.undergoAll happenings).channel.inbound.queued = link.supply octets happenings := by
  -- By induction on the run.
  induction happenings generalizing link octets with
  | nil => exact waits alone
  | cons happening later ih => exact ih (waiting_undergo waits) alone

/-- Nothing counts but what was handed in, and of that only the end. -/
theorem supply_suffix (link : Link μ β ChannelDouble) (octets : Bytes)
    (happenings : List (Happening μ β Deed)) :
    link.supply octets happenings <:+ octets ++ happenings.flatMap Happening.pushed := by
  -- What is dropped is always everything so far, so what still counts is an end of it all.
  induction happenings generalizing link octets with
  | nil => exact ⟨[], by simp [supply]⟩
  | cons happening later ih =>
    have rest := ih (link.undergo happening) (link.supplyAfter octets happening)
    rw [supply, List.flatMap_cons, ← List.append_assoc]
    rcases supplyAfter_cases link octets happening with counts | spent
    · rwa [counts] at rest ⊢
    · rw [spent, List.nil_append] at rest
      rw [spent]
      exact rest.trans (List.suffix_append _ _)

/-- Nothing counts that was handed in before a client was lost. -/
theorem supply_lost {before : List (Happening μ β Deed)} {ended : Happening μ β Deed}
    (served : (link.undergoAll before).channel.client.isSome = true)
    (lost : ((link.undergoAll before).undergo ended).channel.client = none) (octets : Bytes)
    (since : List (Happening μ β Deed)) :
    link.supply octets (before ++ ended :: since) <:+ since.flatMap Happening.pushed := by
  -- Counting starts from nothing where the client was lost.
  rw [supply_append, supply, supplyAfter_lost served lost]
  exact supply_suffix _ [] since

end Link

variable {μ β : Type} [NetworkManager μ] [Announcer β]

/--
A visit: what happened since its client was taken, the octets that its reads delivered, and the
buffer that it reads into, which is kept from one read to the next.
-/
inductive Visit (first : Link μ β ChannelDouble) (capacity : Nat) :
    List (Happening μ β Deed) → Bytes → Bytes → Link μ β ChannelDouble → Prop
  | begin {buffer : Bytes} (length : buffer.length = capacity) :
    Visit first capacity [] [] buffer first
  | read {happenings : List (Happening μ β Deed)} {delivered buffer : Bytes}
    {link : Link μ β ChannelDouble} (before : Visit first capacity happenings delivered buffer link)
    (served : (link.read buffer).2.channel.client.isSome = true) :
    Visit first capacity (happenings ++ [.read buffer])
      (delivered ++ (link.read buffer).1.bytes) (link.read buffer).1.buffer (link.read buffer).2
  -- Whatever else happens, reads into other buffers included that have no room for a length.
  | other {happenings : List (Happening μ β Deed)} {delivered buffer : Bytes}
    {link : Link μ β ChannelDouble} (happening : Happening μ β Deed)
    (before : Visit first capacity happenings delivered buffer link)
    (tiny : ∀ small, happening = .read small → small.length < lengthPrefixSize)
    (served : (link.undergo happening).channel.client.isSome = true) :
    Visit first capacity (happenings ++ [happening]) delivered buffer (link.undergo happening)

/-- The reads of a visit have delivered what counts as handed in, but for what is held or waits. -/
structure Serves (capacity : Nat) (owed delivered buffer : Bytes)
    (link : Link μ β ChannelDouble) : Prop where
  /-- A client is kept by a paired link only. -/
  keeps : link.KeepsPaired
  /-- The client is there. -/
  client : link.channel.client.isSome = true
  /-- The buffer has the capacity of the visit. -/
  length : buffer.length = capacity
  /-- The frame in progress fits the buffer. -/
  fits : Fits capacity link.channel.reader
  /-- What is owed was delivered, is held, or waits. -/
  octets : delivered ++ (held link.channel.reader buffer ++ link.channel.inbound.queued) = owed

namespace Serves

variable {link : Link μ β ChannelDouble} {capacity : Nat} {owed delivered buffer : Bytes}

omit [NetworkManager μ] [Announcer β] in
/-- A link that serves a client is paired. -/
theorem paired (serves : Serves capacity owed delivered buffer link) : link.stage = .paired :=
  serves.keeps serves.client

omit [NetworkManager μ] [Announcer β] in
/-- A buffer with the capacity of a visit holds a length. -/
theorem long (serves : Serves capacity owed delivered buffer link)
    (room : lengthPrefixSize ≤ capacity) : lengthPrefixSize ≤ buffer.length := by
  -- The buffer has the capacity of the visit.
  rw [serves.length]
  exact room

/-- A tick that takes a client begins its visit with what waits in the channel already. -/
theorem begin {elapsed : Nat} (keeps : link.KeepsPaired) (free : link.channel.client = none)
    (waits : link.channel.inbound.queued = owed)
    (taken : (link.tick elapsed).channel.client.isSome = true) :
    (link.tick elapsed).channel.written = link.channel.written ∧
      ∀ buffer : Bytes, buffer.length = capacity →
        Serves capacity (link.supplyAfter owed (.tick elapsed)) [] buffer (link.tick elapsed) := by
  -- The tick that takes the client is the only thing done with the channel.
  have handles : Handles (⟨link.channel, owed⟩ : Supplied ChannelDouble)
      ⟨(link.tick elapsed).channel, link.supplyAfter owed (.tick elapsed)⟩ :=
    @handles_supplied _ _ _ _ link owed (.tick elapsed) rfl nofun nofun
  -- Taking a client leaves what waits, and gives the client a new reader.
  obtain ⟨counts, inbound, written, reader⟩ := handles.supplied taken
  have reader : (link.tick elapsed).channel.reader = .framing := by
    rw [free] at reader
    exact reader
  have inbound : (link.tick elapsed).channel.inbound = link.channel.inbound := inbound
  refine ⟨written, fun buffer length => ⟨keeps.tick elapsed, taken, length, ?_, ?_⟩⟩
  · rw [reader]
    exact (ready_framing capacity).fits
  · rw [reader, inbound, waits]
    exact counts.symm

variable {happening : Happening μ β Deed}

/-- Where nothing is read or written, the visit goes on with what it had. -/
theorem of_silent (serves : Serves capacity owed delivered buffer link)
    (served : (link.undergo happening).channel.client.isSome = true)
    (own : happening.isOwn = true) (noRead : ∀ buffer, happening ≠ .read buffer)
    (noWrite : ∀ bytes, happening ≠ .write bytes) :
    Serves capacity (link.supplyAfter owed happening) delivered buffer (link.undergo happening) ∧
      (link.undergo happening).channel.written = link.channel.written := by
  -- A client that is there before and after has kept its reader and what waited.
  obtain ⟨counts, inbound, written, reader⟩ :=
    (handles_supplied own noRead noWrite : Handles ⟨link.channel, owed⟩ _).supplied served
  have reader : (link.undergo happening).channel.reader = link.channel.reader :=
    reader.trans (if_pos serves.client)
  have inbound : (link.undergo happening).channel.inbound = link.channel.inbound := inbound
  refine ⟨⟨serves.keeps.undergo happening, served, serves.length, ?_, ?_⟩, written⟩
  · rw [reader]
    exact serves.fits
  · rw [reader, inbound, serves.octets]
    exact counts.symm

/-- What others do adds to what waits at most, unless it ends the visit. -/
theorem of_deed (serves : Serves capacity owed delivered buffer link) (manager : μ) (announcer : β)
    (deed : Deed)
    (served : (link.undergo (.outside manager announcer deed)).channel.client.isSome = true) :
    Serves capacity (link.supplyAfter owed (.outside manager announcer deed)) delivered buffer
        (link.undergo (.outside manager announcer deed)) ∧
      (link.undergo (.outside manager announcer deed)).channel.written = link.channel.written := by
  -- Either the client is kept, with what was handed in behind all else, or it is closed.
  have keeps := serves.keeps.undergo (.outside manager announcer deed)
  cases alters_undergo link owed manager announcer deed with
  | keeps client reader written queued counts =>
    refine ⟨⟨keeps, served, serves.length, ?_, ?_⟩, written⟩
    · rw [reader]
      exact serves.fits
    -- Octets that were handed in stand behind those that waited.
    · rw [reader, counts, queued, ← serves.octets]
      simp only [List.append_assoc]
  | closes alone =>
    rw [alone] at served
    cases served

/-- A read that is too small for a length takes nothing, and shows in the status alone. -/
theorem read_tiny (serves : Serves capacity owed delivered buffer link) {small : Bytes}
    (tiny : small.length < lengthPrefixSize) :
    link.read small = (⟨0, small⟩, { link with status := .fail }) ∧
      link.supplyAfter owed (.read small) = owed := by
  -- The channel is not asked, so the octets beside it stay as they are too.
  refine ⟨Link.read_tiny link serves.paired tiny, ?_⟩
  have same := Link.read_tiny (link.mapChannel (Supplied.mk · owed)) serves.paired tiny
  exact congrArg (fun outcome => outcome.2.channel.octets) same

/-- A write reaches the client in full, behind what was written before. -/
theorem write (serves : Serves capacity owed delivered buffer link) (bytes : Bytes) :
    link.write bytes = (bytes.length,
        { link with
          channel := { link.channel with written := link.channel.written ++ bytes } }) ∧
      link.supplyAfter owed (.write bytes) = owed := by
  -- The prepared channel takes all octets, with the octets beside it or without.
  have full : PairingChannel.write link.channel bytes = _ :=
    ChannelDouble.write_served serves.client bytes
  constructor
  · rw [write_paired link serves.paired, full]
  -- The same write over the octets kept beside leaves those as they are.
  · have same := write_paired (link.mapChannel (Supplied.mk · owed)) serves.paired bytes
    have counts : link.supplyAfter owed (.write bytes) =
        ((⟨link.channel, owed⟩ : Supplied ChannelDouble).next
          (PairingChannel.write link.channel bytes).2).octets :=
      congrArg (fun outcome => outcome.2.channel.octets) same
    rw [counts, full]
    exact Supplied.octets_next id

/-- A read into the buffer of the visit delivers what comes next. -/
theorem read (serves : Serves capacity owed delivered buffer link)
    (room : lengthPrefixSize ≤ capacity)
    (served : (link.read buffer).2.channel.client.isSome = true) :
    Serves capacity (link.supplyAfter owed (.read buffer))
        (delivered ++ (link.read buffer).1.bytes) (link.read buffer).1.buffer
        (link.read buffer).2 ∧
      (link.read buffer).2.channel.written = link.channel.written := by
  -- A read that keeps its client is one of a framed reader.
  have long := serves.long room
  -- The link reads through its channel, with the octets kept beside it or without.
  have through := read_paired link serves.paired long
  have counted := read_paired (link.mapChannel (Supplied.mk · owed)) serves.paired long
  have keeps : (link.read buffer).2.KeepsPaired := serves.keeps.undergo (.read buffer)
  rw [through] at served keeps ⊢
  have fits : Fits buffer.length link.channel.reader := by rw [serves.length]; exact serves.fits
  have reads := ChannelDouble.readsOn fits long rfl served
  -- Nothing was handed in, so as much is owed as before.
  have counts : link.supplyAfter owed (.read buffer) = owed := by
    have counts : link.supplyAfter owed (.read buffer) =
        ((⟨link.channel, owed⟩ : Supplied ChannelDouble).next
          (PairingChannel.read link.channel buffer).2).octets :=
      congrArg (fun outcome => outcome.2.channel.octets) counted
    rw [counts]
    exact Supplied.octets_next fun _ => served
  refine ⟨⟨keeps, served, reads.length.trans serves.length, ?_, ?_⟩, reads.written⟩
  · rw [← serves.length]
    exact reads.fits
  · rw [counts, ← serves.octets, List.append_assoc]
    exact congrArg (delivered ++ ·) reads.octets

omit [NetworkManager μ] [Announcer β] in
/-- A read that finds the client gone delivers nothing. -/
theorem read_lost (serves : Serves capacity owed delivered buffer link)
    (room : lengthPrefixSize ≤ capacity) (lost : (link.read buffer).2.channel.client = none) :
    (link.read buffer).1.bytes = [] := by
  -- The prepared channel delivers nothing when it drops its client.
  have long := serves.long room
  rw [read_paired link serves.paired long] at lost ⊢
  have nothing : (PairingChannel.read link.channel buffer).1.count = 0 :=
    (ChannelDouble.read_lost serves.client lost).2
  rw [Delivery.bytes, nothing, List.take_zero]

/-- The visit goes on through all that keeps the client and does not read in its stead. -/
theorem undergo (serves : Serves capacity owed delivered buffer link)
    (tiny : ∀ small, happening = .read small → small.length < lengthPrefixSize)
    (served : (link.undergo happening).channel.client.isSome = true) :
    Serves capacity (link.supplyAfter owed happening) delivered buffer (link.undergo happening) ∧
      (link.undergo happening).channel.written = link.channel.written ++ happening.wrote := by
  have keeps := serves.keeps.undergo happening
  -- Reads and writes are known in full; all else leaves the client what it has.
  cases happening with
  | read small =>
    obtain ⟨nothing, counts⟩ := serves.read_tiny (tiny small rfl)
    have after : link.undergo (.read small) = { link with status := .fail } :=
      congrArg Prod.snd nothing
    rw [after, counts]
    exact ⟨⟨serves.keeps, serves.client, serves.length, serves.fits, serves.octets⟩,
      (List.append_nil link.channel.written).symm⟩
  -- The octets written are put behind those written before.
  | write bytes =>
    obtain ⟨full, counts⟩ := serves.write bytes
    have after : link.undergo (.write bytes) = _ := congrArg Prod.snd full
    rw [after, counts]
    exact ⟨⟨serves.keeps, serves.client, serves.length, serves.fits, serves.octets⟩, rfl⟩
  | outside manager announcer deed =>
    obtain ⟨next, written⟩ := serves.of_deed manager announcer deed served
    exact ⟨next, written.trans (List.append_nil _).symm⟩
  | _ =>
    obtain ⟨next, written⟩ := serves.of_silent served rfl nofun nofun
    exact ⟨next, written.trans (List.append_nil _).symm⟩

end Serves

namespace Visit

variable {capacity : Nat} {happenings : List (Happening μ β Deed)} {delivered buffer : Bytes}
variable {link : Link μ β ChannelDouble}

/-- What a visit has come to, if it began with a client who was owed what waited. -/
theorem serves {first : Link μ β ChannelDouble} {owed : Bytes} (room : lengthPrefixSize ≤ capacity)
    (begun : ∀ buffer : Bytes, buffer.length = capacity → Serves capacity owed [] buffer first)
    (visit : Visit first capacity happenings delivered buffer link) :
    link = first.undergoAll happenings ∧
      Serves capacity (first.supply owed happenings) delivered buffer link ∧
      link.channel.written = first.channel.written ++ happenings.flatMap Happening.wrote := by
  -- Each constructor adds one happening at the end of the run.
  have further {happenings : List (Happening μ β Deed)} {link : Link μ β ChannelDouble}
      {happening : Happening μ β Deed} {delivered buffer : Bytes}
      (ran : link = first.undergoAll happenings)
      (written : link.channel.written =
        first.channel.written ++ happenings.flatMap Happening.wrote)
      (next : Serves capacity (link.supplyAfter (first.supply owed happenings) happening)
          delivered buffer (link.undergo happening) ∧
        (link.undergo happening).channel.written = link.channel.written ++ happening.wrote) :
      link.undergo happening = first.undergoAll (happenings ++ [happening]) ∧
        Serves capacity (first.supply owed (happenings ++ [happening])) delivered buffer
          (link.undergo happening) ∧
        (link.undergo happening).channel.written =
          first.channel.written ++ (happenings ++ [happening]).flatMap Happening.wrote := by
    obtain ⟨serves, wrote⟩ := next
    refine ⟨?_, ?_, ?_⟩
    · rw [undergoAll_append, ← ran]
      rfl
    · rw [supply_append, ← ran]
      exact serves
    · rw [wrote, written, List.flatMap_append, List.flatMap_singleton, List.append_assoc]
  induction visit with
  | begin length => exact ⟨rfl, begun _ length, (List.append_nil _).symm⟩
  | read _ served ih =>
    obtain ⟨ran, serves, written⟩ := ih
    obtain ⟨next, same⟩ := serves.read room served
    exact further ran written ⟨next, same.trans (List.append_nil _).symm⟩
  -- What is no read of the visit delivers nothing.
  | other _ _ tiny served ih =>
    obtain ⟨ran, serves, written⟩ := ih
    exact further ran written (serves.undergo tiny served)

/-- What a visit has come to in a run from the start, of which its client's tick is one part. -/
theorem serves_of_start {manager : μ} {announcer : β} {settings : LinkSettings}
    {fresh : Link μ β ChannelDouble}
    (started : Link.start manager announcer {} settings = .ok fresh)
    {earlier : List (Happening μ β Deed)} {elapsed : Nat}
    (free : (fresh.undergoAll earlier).channel.client = none)
    (taken : ((fresh.undergoAll earlier).tick elapsed).channel.client.isSome = true)
    (room : lengthPrefixSize ≤ capacity)
    (visit : Visit ((fresh.undergoAll earlier).tick elapsed) capacity happenings delivered buffer
      link) :
    link = fresh.undergoAll (earlier ++ .tick elapsed :: happenings) ∧
      Serves capacity (fresh.supply [] (earlier ++ .tick elapsed :: happenings)) delivered buffer
        link ∧
      link.channel.written =
        (fresh.undergoAll earlier).channel.written ++ happenings.flatMap Happening.wrote := by
  -- A link that was just started has a channel that was never used.
  have empty : fresh.channel = {} := by
    obtain ⟨_, _, _, _, _, _, rfl⟩ := start_cases started
    rfl
  have keeps : fresh.KeepsPaired := .of_alone (by rw [empty])
  -- What the client finds waiting when it is taken is what counts by then.
  have waits := waiting_undergoAll earlier (fun _ => by rw [empty]) free
  obtain ⟨unwritten, begun⟩ := Serves.begin (keeps.undergoAll earlier) free waits taken
  obtain ⟨ran, serves, written⟩ := visit.serves room begun
  refine ⟨?_, ?_, by rw [written, unwritten]⟩
  · rw [undergoAll_append]
    exact ran
  · rw [supply_append]
    exact serves

end Visit

/--
In every run, all through a visit, what its reads have delivered, what the reader holds and what
waits is together what was handed in since the channel was last closed, shut down or left without
its client, or since it was made. Whatever is written reaches the client in order and in full, and a
read without room for a length takes nothing and shows in the status. Once a client was lost,
nothing that was handed in before belongs to a later visit.
-/
theorem visit_delivers_supply {manager : μ} {announcer : β} {settings : LinkSettings}
    {fresh : Link μ β ChannelDouble}
    (started : Link.start manager announcer {} settings = .ok fresh)
    {earlier happenings : List (Happening μ β Deed)} {elapsed capacity : Nat}
    {delivered buffer : Bytes} {link : Link μ β ChannelDouble}
    (free : (fresh.undergoAll earlier).channel.client = none)
    (taken : ((fresh.undergoAll earlier).tick elapsed).channel.client.isSome = true)
    (room : lengthPrefixSize ≤ capacity)
    (visit : Visit ((fresh.undergoAll earlier).tick elapsed) capacity happenings delivered buffer
      link) :
    let history := earlier ++ .tick elapsed :: happenings
    let owed := fresh.supply [] history
    link = fresh.undergoAll history ∧ link.stage = .paired ∧ buffer.length = capacity ∧
    delivered ++ (held link.channel.reader buffer ++ link.channel.inbound.queued) = owed ∧
    owed <:+ history.flatMap Happening.pushed ∧
    link.channel.written =
      (fresh.undergoAll earlier).channel.written ++ happenings.flatMap Happening.wrote ∧
    (∀ bytes, link.write bytes = (bytes.length,
      { link with
        channel := { link.channel with written := link.channel.written ++ bytes } })) ∧
    (∀ small : Bytes, small.length < lengthPrefixSize →
      link.read small = (⟨0, small⟩, { link with status := .fail })) ∧
    ((link.read buffer).2.channel.client = none → (link.read buffer).1.bytes = []) ∧
    ∀ before ended since, earlier = before ++ ended :: since →
      (fresh.undergoAll before).channel.client.isSome = true →
      ((fresh.undergoAll before).undergo ended).channel.client = none →
      owed <:+ (since ++ .tick elapsed :: happenings).flatMap Happening.pushed := by
  intro history owed
  -- All but the last part is what the visit has come to.
  obtain ⟨ran, serves, written⟩ := visit.serves_of_start started free taken room
  refine ⟨ran, serves.paired, serves.length, serves.octets, supply_suffix fresh [] _, written,
    fun bytes => (serves.write bytes).1, fun small tiny => (serves.read_tiny tiny).1,
    serves.read_lost room, ?_⟩
  intro before ended since split served lost
  -- What counted until the client was lost is dropped with it.
  have whole : earlier ++ .tick elapsed :: happenings =
      before ++ ended :: (since ++ .tick elapsed :: happenings) := by
    rw [split, List.append_assoc, List.cons_append]
  show fresh.supply [] (earlier ++ .tick elapsed :: happenings) <:+ _
  rw [whole]
  exact supply_lost served lost [] _

/-- Others do something to the channel, with the radio and the beacon up. -/
def others (deed : Deed) : Happening ManagerDouble AnnouncerDouble Deed :=
  .outside { subscribed := true, queue := some [] } { running := true } deed

/-- A run in which a client leaves part of a frame behind. -/
def leftBehind : List (Happening ManagerDouble AnnouncerDouble Deed) :=
  [.setPower true, .tick 100, .tick 100, .tick 100, .tick 100, .tick 100, .tick 2000, .tick 100,
    .tick 100, others (.queueClient ⟨.ofOctets 10 0 0 9, 40000⟩), .tick 100,
    others (.pushInbound [3, 0, 1]), .read [0, 0, 0, 0], others (.pushInbound [2, 9])]

/-- What happens until another client can be taken, for whom an octet waits already. -/
def thenNext : List (Happening ManagerDouble AnnouncerDouble Deed) :=
  [.tick 100, others (.queueClient ⟨.ofOctets 10 0 0 8, 40001⟩), others (.pushInbound [1])]

/-- A visit that sends the rest of a frame, with a write and a read that is too small in between. -/
def nextVisit : List (Happening ManagerDouble AnnouncerDouble Deed) :=
  [others (.pushInbound [0, 7, 4]), .read [0, 0, 0, 0], .write [5, 6], .read [9],
    .read [0, 0, 0, 0]]

/-- The second visit delivers the frame that was sent to it, and nothing that was left behind. -/
theorem visit_delivers_supply_again :
    ∃ fresh link,
      Link.start homeManager ({} : AnnouncerDouble) ({} : ChannelDouble) {} = .ok fresh ∧
      let idle := fresh.undergoAll (leftBehind ++ others .close :: thenNext)
      let history := (leftBehind ++ others .close :: thenNext) ++ .tick 100 :: nextVisit
      Visit (idle.tick 100) 4 nextVisit [1, 0, 7] [1, 0, 7, 0] link ∧
      link = fresh.undergoAll history ∧
      fresh.supply [] history = [1, 0, 7, 4] ∧
      [1, 0, 7, 4] <:+ (thenNext ++ .tick 100 :: nextVisit).flatMap Happening.pushed ∧
      link.channel.written = [5, 6] ∧ (link.read [9]).2.status = .fail := by
  -- The visit is built happening by happening, and everything else about the run is evaluated.
  obtain ⟨fresh, started, free, unwritten, link, visit, left, taken, served, lost⟩ : ∃ fresh,
      Link.start homeManager ({} : AnnouncerDouble) ({} : ChannelDouble) {} = .ok fresh ∧
      let idle := fresh.undergoAll (leftBehind ++ others .close :: thenNext)
      idle.channel.client = none ∧ idle.channel.written = [] ∧
      ∃ link, Visit (idle.tick 100) 4 nextVisit [1, 0, 7] [1, 0, 7, 0] link ∧
        held link.channel.reader [1, 0, 7, 0] ++ link.channel.inbound.queued = [4] ∧
        (idle.tick 100).channel.client.isSome = true ∧
        (fresh.undergoAll leftBehind).channel.client.isSome = true ∧
        ((fresh.undergoAll leftBehind).undergo (others .close)).channel.client = none := by
    refine ⟨_, rfl, rfl, rfl, ?_⟩
    show ∃ link, Visit (?first : Bench) _ _ _ _ link ∧ _
    -- The rest of a frame and an octet of the next one are handed in, and the frame is answered.
    have pushed := Visit.other (others (.pushInbound [0, 7, 4]))
      (@Visit.begin ManagerDouble AnnouncerDouble _ _ ?first 4 [0, 0, 0, 0] rfl) nofun rfl
    have begun := Visit.read pushed rfl
    have wrote := Visit.other (.write [5, 6]) begun nofun rfl
    have refused := Visit.other (.read [9]) wrote (by rintro _ ⟨⟩; decide) rfl
    exact ⟨_, Visit.read refused rfl, rfl, rfl, rfl, rfl⟩
  obtain ⟨ran, _, _, octets, _, written, _, tiny, _, fresher⟩ :=
    visit_delivers_supply started free taken (by decide) visit
  rw [left] at octets
  rw [unwritten] at written
  refine ⟨fresh, link, started, visit, ran, octets.symm, ?_, written, ?_⟩
  · have since := fresher leftBehind (others .close) thenNext rfl served lost
    rwa [← octets] at since
  · rw [tiny [9] (by decide)]

end CompanionLink
