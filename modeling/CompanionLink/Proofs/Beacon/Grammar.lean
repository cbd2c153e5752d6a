import CompanionLink.Beacon.Packet
import CompanionLink.Proofs.Text.Cut
import CompanionLink.Proofs.Text.Octets
import Mathlib.Data.List.Forall2
import Mathlib.Data.List.Induction
import Mathlib.Data.List.Perm.Basic
import Mathlib.Data.Set.List

/-!
Which datagrams are announcements, told by their text alone: every line is a field, and of each key
the last line counts. Empty lines, lines with other keys and the order of different keys do not.
-/

namespace CompanionLink

namespace BeaconPacket

/-- The key and the value of a line. -/
abbrev Entry := List Char × List Char

/-- A key has a value by the last of its entries. -/
def LastValue (entries : List Entry) (key value : List Char) : Prop :=
  ∃ before after, entries = before ++ (key, value) :: after ∧ ∀ entry ∈ after, entry.1 ≠ key

/-- The entries of lines, empty lines aside. -/
def HaveEntries (lines : List (List Char)) (entries : List Entry) : Prop :=
  List.Forall₂ (fun line entry => IsField line entry.1 entry.2)
    (lines.filter fun line => !line.isEmpty) entries

/-- A datagram is the text of lines with some entries. -/
def HasEntries (datagram : Bytes) (entries : List Entry) : Prop :=
  ∃ text lines, Bytes.ofText text = datagram ∧ IsCut text.toList lines ∧ HaveEntries lines entries

/-- Entries announce what a packet says. -/
structure Announces (entries : List Entry) (packet : BeaconPacket) : Prop where
  serial : LastValue entries "Serial-Number".toList packet.serial.toList
  name : LastValue entries "Name".toList packet.name.toList
  protocol : LastValue entries "Protocol".toList "EV3".toList
  port : ∃ numeral, LastValue entries "Port".toList numeral ∧ IsNumeral numeral packet.port.toNat

section Values

variable {entries : List Entry} {key value : List Char}

/-- The value by the last entry of a key. -/
def lastValue? (entries : List Entry) (key : List Char) : Option (List Char) :=
  (entries.filter (·.1 = key)).getLast?.map Prod.snd

/-- A further entry counts for its own key only. -/
theorem lastValue?_concat (entries : List Entry) (entry : Entry) (key : List Char) :
    lastValue? (entries ++ [entry]) key =
      if entry.1 = key then some entry.2 else lastValue? entries key := by
  -- The filter by the key either keeps the further entry at the end or leaves it out.
  unfold lastValue?
  rw [List.filter_append]
  split
  · next same => rw [List.filter_cons_of_pos (by simpa using same), List.filter_nil,
      List.getLast?_concat, Option.map_some]
  · next other => rw [List.filter_cons_of_neg (by simpa using other), List.filter_nil,
      List.append_nil]

/-- A further entry gives its key a value, and leaves the other keys theirs. -/
theorem lastValue_concat {entry : Entry} :
    LastValue (entries ++ [entry]) key value ↔
      if entry.1 = key then entry.2 = value else LastValue entries key value := by
  constructor
  -- Behind the last entry of the key there is nothing, or there is the further entry.
  · rintro ⟨before, after, split, others⟩
    rcases after.eq_nil_or_concat with rfl | ⟨after, last, rfl⟩
    · obtain ⟨-, last⟩ := List.append_inj' split rfl
      cases last
      rw [if_pos rfl]
    · -- The entry stands behind the last one of the key, so it has another key.
      rw [List.concat_eq_append] at split others
      rw [← List.cons_append, ← List.append_assoc] at split
      obtain ⟨rfl, last⟩ := List.append_inj' split rfl
      cases last
      rw [if_neg (others _ (List.mem_append_right _ (List.mem_singleton_self _)))]
      exact ⟨before, after, rfl, fun entry listed => others _ (List.mem_append_left _ listed)⟩
  -- The other way round the split of the entries is moved behind or before the further one.
  · intro value
    split at value
    · next same =>
      exact ⟨entries, [], by rw [← same, ← value], nofun⟩
    · next other =>
      obtain ⟨before, after, rfl, others⟩ := value
      refine ⟨before, after ++ [entry], by simp, fun last listed => ?_⟩
      rcases List.mem_append.mp listed with listed | listed
      · exact others last listed
      · rwa [List.mem_singleton.mp listed]

/-- The last entry of a key has the value that is found. -/
theorem lastValue_iff : LastValue entries key value ↔ lastValue? entries key = some value := by
  -- Both sides follow the entries from their end, one entry at a time.
  induction entries using List.reverseRecOn with
  | nil => simp [LastValue, lastValue?]
  | append_singleton entries entry ih =>
    rw [lastValue_concat, lastValue?_concat]
    split
    · exact Option.some_inj.symm
    · exact ih

end Values

/-- The known fields after one more entry. -/
def noted (fields : BeaconFields) (entry : Entry) : BeaconFields :=
  -- Each known key writes its own field, and any other key none.
  if entry.1 = serialKey then { fields with serial := some entry.2 }
  else if entry.1 = portKey then { fields with port := readPort? entry.2 }
  else if entry.1 = nameKey then { fields with name := some entry.2 }
  else if entry.1 = protocolKey then { fields with protocol := some entry.2 }
  else fields

/-- The known fields by the last entries of their keys. -/
def known (entries : List Entry) : BeaconFields where
  serial := lastValue? entries serialKey
  port := (lastValue? entries portKey).bind readPort?
  name := lastValue? entries nameKey
  protocol := lastValue? entries protocolKey

/-- Entries that are noted one by one leave the last of each key. -/
theorem foldl_noted (entries : List Entry) : entries.foldl noted {} = known entries := by
  -- The keys are told apart, so an entry changes the field of its own key only.
  have apart : serialKey ≠ portKey ∧ serialKey ≠ nameKey ∧ serialKey ≠ protocolKey ∧
      portKey ≠ nameKey ∧ portKey ≠ protocolKey ∧ nameKey ≠ protocolKey := by decide
  induction entries using List.reverseRecOn with
  | nil => rfl
  | append_singleton entries entry ih =>
    -- Which of the four keys the entry has decides the field that it writes.
    rw [List.foldl_append, ih]
    show noted (known entries) entry = _
    simp only [noted, known, lastValue?_concat]
    split
    · next serial => simp only [serial, apart, if_false]
    · split
      · next port => simp only [port, apart, if_false, Option.bind_some]
      · split
        · next name => simp only [name, apart, if_false]
        · split
          · next protocol => simp only
          · rfl

/-- Whether a line is empty or a field. -/
def sound (line : List Char) : Bool := line.isEmpty || (cutField? line).isSome

/-- What lines announce: nothing if one of them spoils the datagram. -/
def readLines? (lines : List (List Char)) : Option BeaconPacket :=
  if lines.all sound then ofFields? (known (lines.filterMap cutField?)) else none

/-- Lines are read one by one, if none of them spoils the datagram. -/
theorem foldlM_readLine? (lines : List (List Char)) (fields : BeaconFields) :
    (lines.filter fun line => !line.isEmpty).foldlM readLine? fields =
      if lines.all sound then some ((lines.filterMap cutField?).foldl noted fields) else none := by
  -- An empty line is skipped before it is read, so only the others can spoil anything.
  induction lines generalizing fields with
  | nil => rfl
  | cons line later ih =>
    cases line with
    | nil => exact ih fields
    | cons c rest =>
      have read : readLine? fields (c :: rest) = (cutField? (c :: rest)).map (noted fields) := rfl
      rw [List.filter_cons_of_pos rfl, List.foldlM_cons, read, List.all_cons]
      -- A line without a field spoils the datagram, and any other is noted.
      cases cut : cutField? (c :: rest) with
      | none => simp [sound, cut]
      | some entry => simp [sound, cut, ih]

/-- A text is read by its lines. -/
theorem ofText?_eq (text : List Char) : ofText? text = readLines? (cutLines text) := by
  -- A text is cut, read line by line, and judged by the fields that are known then.
  unfold ofText? readLines?
  rw [foldlM_readLine?, foldl_noted]
  split <;> rfl

/-- Lines have entries if none of them spoils the datagram: those that are cut from them. -/
theorem haveEntries_iff {lines : List (List Char)} {entries : List Entry} :
    HaveEntries lines entries ↔ lines.all sound = true ∧ lines.filterMap cutField? = entries := by
  -- An empty line has no entry and spoils nothing; any other line is its entry, or spoils all.
  unfold HaveEntries
  induction lines generalizing entries with
  | nil => simp [List.forall₂_nil_left_iff, eq_comm]
  | cons line later ih =>
    cases line with
    | nil => exact ih
    | cons c rest =>
      rw [List.filter_cons_of_pos rfl, List.forall₂_cons_left_iff, List.all_cons,
        Bool.and_eq_true]
      constructor
      -- A field is what is cut from its line, so the entry is the first one that is cut.
      · rintro ⟨entry, others, field, behind, rfl⟩
        have cut := isField_iff.mp field
        obtain ⟨all, same⟩ := ih.mp behind
        exact ⟨⟨Option.isSome_iff_exists.mpr ⟨entry, cut⟩, all⟩,
          by rw [List.filterMap_cons_some cut, same]⟩
      -- What is cut from a line makes it a field.
      · rintro ⟨⟨field, all⟩, rfl⟩
        obtain ⟨entry, cut⟩ := Option.isSome_iff_exists.mp field
        rw [List.filterMap_cons_some cut]
        exact ⟨entry, _, isField_iff.mpr cut, ih.mpr ⟨all, rfl⟩, rfl⟩

/-- A number that fits is read as a port. -/
theorem readPort?_iff {numeral : List Char} {port : UInt16} :
    readPort? numeral = some port ↔ IsNumeral numeral port.toNat := by
  -- A numeral is read as its number first, and the number has to fit a port then.
  rw [isNumeral_iff, readPort?]
  cases readDecimal? numeral with
  | none => simp
  | some n =>
    rw [Option.bind_some, Option.some_inj]
    constructor
    · intro fits
      split at fits
      · next small =>
        rw [← Option.some.inj fits]
        exact (UInt16.toNat_ofNat_of_lt small).symm
      · cases fits
    -- A port is a number that fits.
    · rintro rfl
      rw [if_pos port.toNat_lt]
      exact congrArg some (UInt16.ofNat_toNat ..)

/-- A text is made of characters exactly if they are its own. -/
theorem ofList_eq_iff {characters : List Char} {text : String} :
    String.ofList characters = text ↔ characters = text.toList := by
  -- A text and its characters are translated into each other without a loss.
  constructor
  · rintro rfl
    exact String.toList_ofList.symm
  · rintro rfl
    exact String.ofList_toList

/-- The known fields make a packet if none is missing and the protocol is the known one. -/
theorem ofFields?_iff {fields : BeaconFields} {packet : BeaconPacket} :
    ofFields? fields = some packet ↔
      fields.serial = some packet.serial.toList ∧ fields.name = some packet.name.toList ∧
        fields.protocol = some beaconProtocol ∧ fields.port = some packet.port := by
  rcases fields with ⟨_ | serial, _ | port, _ | name, _ | protocol⟩
  -- With all four fields known, only the protocol can still be wrong.
  case some.some.some.some =>
    rcases packet with ⟨serial', port', name'⟩
    simp only [ofFields?, Option.some_inj]
    split
    · next known => simp [ofList_eq_iff, known, and_left_comm, and_comm]
    · next other => simp [other]
  -- With a field missing, neither side holds.
  all_goals simp [ofFields?]

/-- The known fields make a packet that the entries announce. -/
theorem announces_iff {entries : List Entry} {packet : BeaconPacket} :
    Announces entries packet ↔ ofFields? (known entries) = some packet := by
  -- The keys of the grammar are those that the reader knows, spelled out.
  have names : "Serial-Number".toList = serialKey ∧ "Name".toList = nameKey ∧
      "Protocol".toList = protocolKey ∧ "EV3".toList = beaconProtocol ∧
      "Port".toList = portKey := by decide
  -- The port is the one value that is read as a number.
  have port : (∃ numeral, LastValue entries "Port".toList numeral ∧
      IsNumeral numeral packet.port.toNat) ↔ (known entries).port = some packet.port := by
    simp only [names, lastValue_iff, ← readPort?_iff, known, Option.bind_eq_some_iff]
  rw [ofFields?_iff, ← port]
  constructor
  · rintro ⟨serial, name, protocol, port⟩
    simp only [names, lastValue_iff] at serial name protocol
    exact ⟨serial, name, protocol, port⟩
  · rintro ⟨serial, name, protocol, port⟩
    refine ⟨?_, ?_, ?_, port⟩
    all_goals
      simp only [names, lastValue_iff]
      assumption

/-- What is read of a datagram is what the entries of its lines announce. -/
theorem parse?_iff {datagram : Bytes} {packet : BeaconPacket} :
    parse? datagram = some packet ↔
      ∃ entries, HasEntries datagram entries ∧ Announces entries packet := by
  -- Each stage of reading has its own law; put together they are the grammar.
  simp only [parse?, Option.bind_eq_some_iff, Bytes.toText?_eq_some_iff, ofText?_eq, readLines?,
    announces_iff, HasEntries, isCut_iff, haveEntries_iff]
  constructor
  -- What is read has lines without a fault, which have entries then.
  · rintro ⟨text, spelled, read⟩
    split at read
    · next all => exact ⟨_, ⟨text, _, spelled, rfl, all, rfl⟩, read⟩
    · cases read
  -- Entries are had only by lines without a fault, which are read.
  · rintro ⟨_, ⟨text, _, spelled, rfl, all, rfl⟩, read⟩
    exact ⟨text, spelled, by rw [if_pos all, read]⟩

section Cuts

variable {lines others : List (List Char)} {key : List Char}

/-- The key that is cut from a line. -/
def keyOf? (line : List Char) : Option (List Char) := (cutField? line).map Prod.fst

/-- The keys that an announcement needs. -/
def knownKeys : List (List Char) :=
  ["Serial-Number".toList, "Port".toList, "Name".toList, "Protocol".toList]

/-- The entries of a key are those of the lines that have it. -/
theorem filter_filterMap_cutField? (lines : List (List Char)) (key : List Char) :
    (lines.filterMap cutField?).filter (·.1 = key) =
      (lines.filter (keyOf? · = some key)).filterMap cutField? := by
  -- Each line is filtered by its key either before it is cut or after.
  rw [List.filter_filterMap, List.filterMap_filter]
  refine List.filterMap_congr fun line _ => ?_
  unfold keyOf?
  cases cutField? line with
  | none => simp
  | some entry => simp [Option.filter]

/-- Lines are read alike if they are equally sound and the same lines have each known key. -/
theorem readLines?_congr (sound : lines.all sound = others.all sound)
    (same : ∀ key ∈ knownKeys,
      lines.filter (keyOf? · = some key) = others.filter (keyOf? · = some key)) :
    readLines? lines = readLines? others := by
  -- Of the lines of a key only the last one counts, and those are the same ones here.
  have value (key : List Char) (listed : key ∈ knownKeys) :
      lastValue? (lines.filterMap cutField?) key = lastValue? (others.filterMap cutField?) key := by
    rw [lastValue?, lastValue?, filter_filterMap_cutField?, filter_filterMap_cutField?,
      same key listed]
  -- The reader asks for the four known keys and for no other.
  have serial := value serialKey (by decide)
  have port := value portKey (by decide)
  have name := value nameKey (by decide)
  have protocol := value protocolKey (by decide)
  rw [readLines?, readLines?, sound, known, known, serial, port, name, protocol]

end Cuts

section Lines

open Bytes (octets)

variable {lines : List Bytes} {line : Bytes} {characters key : List Char}

/-- The octets that separate the lines of a datagram. -/
def lineOctets : Bytes := [13, 10]

/-- A datagram of lines with a separator between each two. -/
def ofLines (lines : List Bytes) : Bytes := lineOctets.intercalate lines

/-- A line is a text that has a key. -/
def HasKey (key : List Char) (line : Bytes) : Prop :=
  ∃ characters value, octets characters = line ∧ IsField characters key value

/-- A line that neither spoils a datagram nor adds to it. -/
structure Idle (line : Bytes) : Prop where
  unbroken : ¬ lineOctets <:+: line
  unknown : line = [] ∨ ∃ key, HasKey key line ∧ key ∉ knownKeys

/-- Lines that are texts. -/
def Spelled (lines : List Bytes) : Prop := ∃ texts, List.map octets texts = lines

/-- Lines are texts if each of them is. -/
theorem spelled_iff : Spelled lines ↔ ∀ line ∈ lines, ∃ characters, octets characters = line := by
  -- A list of texts is chosen by choosing a text for each line.
  have texts := Set.ext_iff.mp (Set.range_list_map octets) lines
  simp only [Set.mem_range, Set.mem_ofPred_eq] at texts
  exact texts

/-- Lines that are texts make the text of all of them. -/
theorem ofLines_octets (texts : List (List Char)) :
    ofLines (texts.map octets) = octets (lineEnd.intercalate texts) := by
  -- Encoding goes over the separators between the lines, which are plain characters.
  have ends : octets lineEnd = lineOctets := rfl
  unfold ofLines
  induction texts with
  | nil => rfl
  | cons first later ih =>
    cases later with
    | nil => simp
    | cons =>
      rw [List.intercalate_cons_cons, Bytes.octets_append, Bytes.octets_append, ends, ← ih]
      exact List.intercalate_cons_cons

/-- A datagram that is a text is made of lines that are. -/
theorem spelled_of_ofLines (spelled : octets characters = ofLines lines) : Spelled lines := by
  -- A separator is made of octets that end every character, so no character spans one.
  induction lines generalizing characters with
  | nil => exact ⟨[], rfl⟩
  | cons line later ih =>
    cases later with
    | nil =>
      rw [ofLines, List.intercalate_singleton] at spelled
      exact ⟨[characters], congrArg ([·]) spelled⟩
    | cons next later =>
      have joined : ofLines (line :: next :: later) =
          line ++ 13 :: 10 :: ofLines (next :: later) := by
        rw [ofLines, List.intercalate_cons_cons, List.append_assoc]
        rfl
      rw [joined] at spelled
      -- The carriage return ends the text of the line, and a line feed stands behind it.
      obtain ⟨first, _, behind, rfl, rfl, rest⟩ := Bytes.exists_split_octets (by decide) spelled
      have feed : octets behind = [] ++ 10 :: ofLines (next :: later) := rest
      obtain ⟨_, _, others, rfl, -, rest⟩ := Bytes.exists_split_octets (by decide) feed
      obtain ⟨texts, same⟩ := ih rest
      exact ⟨first :: texts, congrArg (octets first :: ·) same⟩

/-- A datagram of texts is read by what they are cut into. -/
theorem parse?_octets (texts : List (List Char)) :
    parse? (ofLines (texts.map octets)) = readLines? (texts.flatMap cutLines) := by
  -- The text of all the lines is cut again at every separator that stands in it.
  rw [ofLines_octets, parse?, Bytes.toText?_octets, Option.bind_some, String.toList_ofList,
    ofText?_eq]
  cases texts with
  | nil => rfl
  | cons first later => rw [cutLines_intercalate (List.cons_ne_nil first later)]

/-- A datagram with a line that is no text is not read. -/
theorem parse?_unspelled (unspelled : ¬ Spelled lines) : parse? (ofLines lines) = none := by
  -- A datagram that is a text would give each of its lines a text.
  unfold parse?
  cases spelled : Bytes.toText? (ofLines lines) with
  | none => rfl
  | some text =>
    have same := Bytes.toText?_eq_some_iff.mp spelled
    rw [← String.ofList_toList (s := text), Bytes.ofText_ofList] at same
    exact absurd (spelled_of_ofLines same) unspelled

/-- The key of a text is the one that is cut from it. -/
theorem hasKey_octets : HasKey key (octets characters) ↔ keyOf? characters = some key := by
  -- Octets spell one text only, so the text of the line is the one that is cut.
  simp [HasKey, keyOf?, isField_iff, Bytes.octets_injective.eq_iff]

/-- Lines without a separator spell texts that are not cut any further. -/
theorem flatMap_cutLines_octets {texts : List (List Char)}
    (unbroken : ∀ line ∈ texts.map octets, ¬ lineOctets <:+: line) :
    texts.flatMap cutLines = texts := by
  refine flatMap_cutLines_unbroken fun characters listed inside => ?_
  -- A separator in a text would be one in its octets.
  refine unbroken _ (List.mem_map_of_mem listed) ?_
  obtain ⟨before, after, rfl⟩ := inside
  have ends : octets lineEnd = lineOctets := rfl
  exact ⟨octets before, octets after, by rw [Bytes.octets_append, Bytes.octets_append, ends]⟩

/-- A line has one key only. -/
theorem HasKey.unique {other : List Char} (has : HasKey key line) (found : HasKey other line) :
    key = other := by
  -- The line spells one text, and one key is cut from it.
  have ⟨characters, _, spelled, _⟩ := has
  subst spelled
  exact Option.some.inj ((hasKey_octets.mp has).symm.trans (hasKey_octets.mp found))

/-- A line is decoded and cut to find out its key. -/
instance (key : List Char) (line : Bytes) : Decidable (HasKey key line) :=
  decidable_of_iff ((Bytes.toText? line).bind (keyOf? ·.toList) = some key) (by
    constructor
    -- What is found is the key of the text that the line spells.
    · intro found
      obtain ⟨text, spelled, has⟩ := Option.bind_eq_some_iff.mp found
      rw [← Bytes.toText?_eq_some_iff.mp spelled, ← String.ofList_toList (s := text),
        Bytes.ofText_ofList]
      exact hasKey_octets.mpr has
    -- A line with the key is the text that it is decoded to.
    · intro has
      have ⟨characters, _, spelled, _⟩ := has
      subst spelled
      rw [Bytes.toText?_octets, Option.bind_some, String.toList_ofList]
      exact hasKey_octets.mp has)

/-- What an idle line spells is sound, and has none of the known keys. -/
theorem Idle.reads (idle : Idle (octets characters)) :
    sound characters = true ∧ ∀ key ∈ knownKeys, keyOf? characters ≠ some key := by
  -- An empty line has no key, and a field has one, which is not a known one.
  rcases idle.unknown with empty | ⟨other, has, unlisted⟩
  · obtain rfl := Bytes.octets_injective (empty.trans Bytes.octets_nil.symm)
    exact ⟨rfl, by simp [keyOf?, cutField?]⟩
  · have cut := hasKey_octets.mp has
    refine ⟨?_, fun key listed same => unlisted ?_⟩
    · obtain ⟨field, found, -⟩ := Option.map_eq_some_iff.mp cut
      simp [sound, found]
    · rwa [Option.some.inj (cut.symm.trans same)]

/-- An idle line is a text. -/
theorem Idle.spelled (idle : Idle line) : ∃ characters, Bytes.octets characters = line := by
  -- An empty line spells nothing, and a line with a key is a text.
  rcases idle.unknown with rfl | ⟨_, ⟨characters, _, same, _⟩, _⟩
  · exact ⟨[], rfl⟩
  · exact ⟨characters, same⟩

/-- Idle lines may be put anywhere into a datagram. -/
theorem parse?_insert {before inserted after : List Bytes} (idle : ∀ line ∈ inserted, Idle line) :
    parse? (ofLines (before ++ inserted ++ after)) = parse? (ofLines (before ++ after)) := by
  -- Whether all lines are texts is settled first, since otherwise nothing is read.
  have texts : Spelled inserted := spelled_iff.mpr fun line listed => (idle line listed).spelled
  by_cases spelled : Spelled (before ++ after)
  -- The idle lines are sound, and of the known keys they have none.
  · obtain ⟨texts', joined⟩ := spelled
    obtain ⟨front, back, rfl, rfl, rfl⟩ := List.map_eq_append_iff.mp joined
    obtain ⟨middle, rfl⟩ := texts
    have pieces := flatMap_cutLines_octets fun line listed => (idle line listed).unbroken
    have reads (characters : List Char) (among : characters ∈ middle) :=
      (idle _ (List.mem_map_of_mem among)).reads
    have all : middle.all sound = true :=
      List.all_eq_true.mpr fun characters among => (reads characters among).1
    simp only [← List.map_append, parse?_octets, List.flatMap_append, pieces]
    refine readLines?_congr (by simp only [List.all_append, all, Bool.and_true]) ?_
    intro key listed
    -- So no line of a known key comes from among the idle ones.
    have none : middle.filter (keyOf? · = some key) = [] := by
      refine List.filter_eq_nil_iff.mpr fun characters among => ?_
      simpa using (reads characters among).2 key listed
    simp only [List.filter_append, none, List.append_nil]
  · -- A line that is no text spoils the datagram with the idle lines and without.
    have still : ¬ Spelled (before ++ inserted ++ after) := by
      simp only [spelled_iff, List.forall_mem_append] at spelled ⊢
      exact fun all => spelled ⟨all.1.1, all.2⟩
    rw [parse?_unspelled spelled, parse?_unspelled still]

/-- The lines of a datagram may be permuted, if lines with the same key keep their order. -/
theorem parse?_permute {others : List Bytes} (unbroken : ∀ line ∈ lines, ¬ lineOctets <:+: line)
    (permuted : lines.Perm others)
    (ordered : ∀ key, lines.filter (HasKey key ·) = others.filter (HasKey key ·)) :
    parse? (ofLines lines) = parse? (ofLines others) := by
  -- Permuted lines are texts together, and otherwise neither datagram is read.
  have texts : Spelled lines ↔ Spelled others := by
    simp only [spelled_iff, permuted.mem_iff]
  by_cases spelled : Spelled lines
  · have unbroken' : ∀ line ∈ others, ¬ lineOctets <:+: line :=
      fun line listed => unbroken line (permuted.mem_iff.mpr listed)
    obtain ⟨others, rfl⟩ := texts.mp spelled
    obtain ⟨lines, rfl⟩ := spelled
    -- Different texts have different octets, so the texts are permuted as their lines are.
    have permuted := (List.map_perm_map_iff Bytes.octets_injective).mp permuted
    rw [parse?_octets, parse?_octets, flatMap_cutLines_octets unbroken,
      flatMap_cutLines_octets unbroken']
    refine readLines?_congr permuted.all_eq fun key _ => ?_
    -- The order of the lines of a key is that of their texts.
    have ordered := ordered key
    rw [List.filter_map, List.filter_map] at ordered
    have same := Bytes.octets_injective.list_map ordered
    simpa only [Function.comp_def, hasKey_octets] using same
  · rw [parse?_unspelled spelled, parse?_unspelled (mt texts.mpr spelled)]

end Lines

/--
A datagram is read exactly if it is the text of lines whose last entries announce a packet, and as
that packet. Idle lines do not change what is read, nor does the order of different keys.
-/
theorem announcements_follow_grammar :
    (∀ datagram packet, parse? datagram = some packet ↔
      ∃ entries, HasEntries datagram entries ∧ Announces entries packet) ∧
    (∀ before inserted after, (∀ line ∈ inserted, Idle line) →
      parse? (ofLines (before ++ inserted ++ after)) = parse? (ofLines (before ++ after))) ∧
    ∀ lines others, (∀ line ∈ lines, ¬ lineOctets <:+: line) → lines.Perm others →
      (∀ key, lines.filter (HasKey key ·) = others.filter (HasKey key ·)) →
      parse? (ofLines lines) = parse? (ofLines others) :=
  -- Each part is a law of its own above.
  ⟨fun _ _ => parse?_iff, fun _ _ _ => parse?_insert, fun _ _ => parse?_permute⟩

/-- A line with a port that is no number. -/
def portless : Bytes := .ofText "Port: none"

/-- A line with a serial number. -/
def numbered : Bytes := .ofText "Serial-Number: 0016"

/-- The other lines of an announcement, with a port that is a number. -/
def remaining : List Bytes := ["Name: A: \rB", "Protocol: EV3", "Port: +65535"].map Bytes.ofText

/-- The last port counts, with idle lines between the others and with the first two swapped. -/
theorem last_port_counts :
    (∃ entries, HasEntries (ofLines (portless :: numbered :: remaining)) entries ∧
      Announces entries ⟨"0016", 65535, "A: \rB"⟩) ∧
    parse? (ofLines ([portless, numbered] ++ [[], Bytes.ofText "Port : 1"] ++ remaining)) =
      some ⟨"0016", 65535, "A: \rB"⟩ ∧
    parse? (ofLines (numbered :: portless :: remaining)) = some ⟨"0016", 65535, "A: \rB"⟩ := by
  have read : parse? (ofLines (portless :: numbered :: remaining)) =
      some ⟨"0016", 65535, "A: \rB"⟩ := by decide +kernel
  -- One inserted line is empty, the other one has a key that is nearly that of the port.
  have idle : ∀ line ∈ [[], Bytes.ofText "Port : 1"], Idle line := by
    have foreign : HasKey "Port ".toList (.ofText "Port : 1") := by decide +kernel
    simp only [List.forall_mem_cons]
    exact ⟨⟨by decide +kernel, .inl rfl⟩,
      ⟨by decide +kernel, .inr ⟨_, foreign, by decide⟩⟩, nofun⟩
  have unbroken : ∀ line ∈ portless :: numbered :: remaining, ¬ lineOctets <:+: line := by
    decide +kernel
  -- The lines that are swapped have different keys, so under each key nothing moves.
  have swapped (key : List Char) : (portless :: numbered :: remaining).filter (HasKey key ·) =
      (numbered :: portless :: remaining).filter (HasKey key ·) := by
    have port : HasKey portKey portless := by decide +kernel
    have serial : HasKey serialKey numbered := by decide +kernel
    by_cases has : HasKey key portless
    · have other : ¬ HasKey key numbered := by
        rw [has.unique port]
        exact fun found => absurd (found.unique serial) (by decide)
      simp [has, other]
    · simp [List.filter_cons, has]
  refine ⟨(announcements_follow_grammar.1 _ _).mp read, ?_, ?_⟩
  · exact (announcements_follow_grammar.2.1 [portless, numbered] _ remaining idle).trans read
  · exact (announcements_follow_grammar.2.2 _ _ unbroken (.swap ..) swapped).symm.trans read

end BeaconPacket

end CompanionLink
