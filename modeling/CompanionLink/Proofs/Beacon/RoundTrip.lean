import CompanionLink.Beacon.Packet
import CompanionLink.Proofs.Text.Cut
import CompanionLink.Proofs.Text.Octets

/-!
Announcements are read back as they were written, whatever the serial number and the name hold: a
text on one line can neither end its line nor move the boundary of a field.
-/

namespace CompanionLink

namespace BeaconPacket

/-- A flattened text ends no line. -/
theorem flatten_plain (text : List Char) : '\r' ∉ flatten text ∧ '\n' ∉ flatten text := by
  -- Whatever would end a line was made a space, which does not.
  constructor
  · intro listed
    obtain ⟨c, _, same⟩ := List.mem_map.mp listed
    split at same
    · exact absurd same (by decide)
    -- A character that was kept is none of the two.
    · next other => exact other (.inl same)
  · intro listed
    obtain ⟨c, _, same⟩ := List.mem_map.mp listed
    split at same
    · exact absurd same (by decide)
    · next other => exact other (.inr same)

/-- A text that ends no line is flat already. -/
theorem flatten_eq_self {text : List Char} (plain : ∀ c ∈ text, c ≠ '\r' ∧ c ≠ '\n') :
    flatten text = text := by
  -- Flattening goes character by character, and here it changes none of them.
  refine (List.map_congr_left fun c listed => ?_).trans (List.map_id text)
  rw [if_neg (not_or.mpr (plain c listed))]
  rfl

/-- Flattening twice is flattening once. -/
theorem flatten_flatten (text : List Char) : flatten (flatten text) = flatten text := by
  -- After the first time there is nothing left to change.
  obtain ⟨carriage, feed⟩ := flatten_plain text
  refine flatten_eq_self fun c listed => ⟨?_, ?_⟩
  · rintro rfl
    exact carriage listed
  · rintro rfl
    exact feed listed

/-- A line of a datagram without the separator that ends it. -/
def field (entry : List Char × List Char) : List Char := entry.1 ++ ':' :: ' ' :: entry.2

/-- The entries of a datagram: the key and the value of each of its lines. -/
def entries (packet : BeaconPacket) : List (List Char × List Char) :=
  [(serialKey, flatten packet.serial.toList), (portKey, Nat.toDigits 10 packet.port.toNat),
    (nameKey, flatten packet.name.toList), (protocolKey, beaconProtocol)]

/-- Lines as they stand in a datagram. -/
def lines (entries : List (List Char × List Char)) : List Char :=
  entries.flatMap fun entry => line entry.1 entry.2

/-- The text of a datagram is its entries, line by line. -/
theorem text_eq_lines (packet : BeaconPacket) : packet.text = lines packet.entries := by
  -- Both are the same four lines, one by one or as a list.
  simp [text, lines, entries]

/-- No character of an entry ends a line. -/
def Flat (entry : List Char × List Char) : Prop := '\r' ∉ field entry ∧ '\n' ∉ field entry

/-- What is no digit does not occur among the digits of a number. -/
theorem not_mem_toDigits {c : Char} (other : c.isDigit = false) (n : Nat) :
    c ∉ Nat.toDigits 10 n := by
  -- A digit is what a character among the digits would be.
  intro listed
  rw [Nat.isDigit_of_mem_toDigits (by decide) (by decide) listed] at other
  cases other

/-- An entry is flat if its key and its value are. -/
theorem flat_of_parts {key value : List Char} (key_plain : '\r' ∉ key ∧ '\n' ∉ key)
    (value_plain : '\r' ∉ value ∧ '\n' ∉ value) : Flat (key, value) := by
  -- The colon and the space between key and value end no line.
  simp [Flat, field, key_plain, value_plain]

/-- Every entry of a datagram is flat. -/
theorem entries_flat (packet : BeaconPacket) : ∀ entry ∈ packet.entries, Flat entry := by
  -- The two texts are flattened, and the rest is digits and fixed words.
  have digits : '\r' ∉ Nat.toDigits 10 packet.port.toNat ∧
      '\n' ∉ Nat.toDigits 10 packet.port.toNat :=
    ⟨not_mem_toDigits (by decide) _, not_mem_toDigits (by decide) _⟩
  simp only [entries, List.forall_mem_cons]
  exact ⟨flat_of_parts (by decide) (flatten_plain _), flat_of_parts (by decide) digits,
    flat_of_parts (by decide) (flatten_plain _), flat_of_parts (by decide) (by decide), by simp⟩

/-- Flat lines are cut apart where they were put together. -/
theorem cutLines_lines {entries : List (List Char × List Char)}
    (flat : ∀ entry ∈ entries, Flat entry) :
    cutLines (lines entries) = entries.map field ++ [[]] := by
  -- A flat entry has no separator inside, so the first one stands right behind it.
  induction entries with
  | nil => rfl
  | cons entry later ih =>
    rw [List.forall_mem_cons] at flat
    have shape : lines (entry :: later) = field entry ++ '\r' :: '\n' :: lines later := by
      simp [lines, line, field]
    rw [shape, cutLines_line flat.1.1, ih flat.2, List.map_cons, List.cons_append]

/-- The octets of flat lines are those of the lines, each ended by one carriage return and feed. -/
theorem octets_lines (entries : List (List Char × List Char)) :
    Bytes.ofText (String.ofList (lines entries)) =
      (entries.map fun entry => (field entry).flatMap String.utf8EncodeChar).flatMap
        (· ++ [13, 10]) := by
  -- The separator is two plain characters, and every line carries one at its end.
  rw [Bytes.ofText_ofList]
  induction entries with
  | nil => rfl
  | cons entry later ih =>
    have ends : ['\r', '\n'].flatMap String.utf8EncodeChar = [13, 10] := by decide
    have shape : lines (entry :: later) = field entry ++ ['\r', '\n'] ++ lines later := by
      simp [lines, line, field]
    rw [shape, List.flatMap_append, List.flatMap_append, ih, ends, List.map_cons,
      List.flatMap_cons]

/-- The octets of a flat entry hold neither a carriage return nor a line feed. -/
theorem octets_flat {entry : List Char × List Char} (flat : Flat entry) :
    13 ∉ (field entry).flatMap String.utf8EncodeChar ∧
      10 ∉ (field entry).flatMap String.utf8EncodeChar :=
  -- An octet of that value stands for that character and nothing else.
  ⟨Bytes.not_mem_octets (by decide) (by decide) flat.1,
    Bytes.not_mem_octets (by decide) (by decide) flat.2⟩

/-- A line of a datagram is read as its key and value. -/
theorem readLine?_field (fields : BeaconFields) {key : List Char} (plain : ':' ∉ key)
    (value : List Char) :
    readLine? fields (field (key, value)) =
      some (if key = serialKey then { fields with serial := some value }
        else if key = portKey then { fields with port := readPort? value }
        else if key = nameKey then { fields with name := some value }
        else if key = protocolKey then { fields with protocol := some value }
        else fields) := by
  -- The first colon of the line is the one behind the key.
  rw [readLine?, field, cutField?_append plain]
  rfl

/-- A port is read back from its digits. -/
theorem readPort?_toDigits (port : UInt16) :
    readPort? (Nat.toDigits 10 port.toNat) = some port := by
  -- The number fits, since it came from a port.
  rw [readPort?, readDecimal?_toDigits, Option.bind_some, if_pos port.toNat_lt]
  exact congrArg some (UInt16.ofNat_toNat ..)

/-- The packet with every carriage return and line feed of its texts made a space. -/
def flattened (packet : BeaconPacket) : BeaconPacket where
  serial := .ofList (flatten packet.serial.toList)
  port := packet.port
  name := .ofList (flatten packet.name.toList)

/-- Read line by line, the entries of a datagram give the flattened packet. -/
theorem readLines_entries (packet : BeaconPacket) :
    ((packet.entries.map field).foldlM readLine? {}).bind ofFields? = some packet.flattened := by
  -- No key holds a colon, so each line is cut where its key ends.
  have plain : ':' ∉ serialKey ∧ ':' ∉ portKey ∧ ':' ∉ nameKey ∧ ':' ∉ protocolKey := by decide
  obtain ⟨serial, port, name, protocol⟩ := plain
  -- The keys are told apart, so every line sets the field that it is meant for.
  have apart : portKey ≠ serialKey ∧ nameKey ≠ serialKey ∧ nameKey ≠ portKey ∧
      protocolKey ≠ serialKey ∧ protocolKey ≠ portKey ∧ protocolKey ≠ nameKey := by decide
  simp only [entries, List.map_cons, List.map_nil, List.foldlM_cons, List.foldlM_nil,
    readLine?_field _ serial, readLine?_field _ port, readLine?_field _ name,
    readLine?_field _ protocol, apart, if_true, if_false, Option.bind_eq_bind, Option.bind_some,
    readPort?_toDigits]
  rfl

/-- The text of a datagram is read as the flattened packet. -/
theorem ofText?_text (packet : BeaconPacket) : ofText? packet.text = some packet.flattened := by
  -- The piece behind the last separator is empty and does not count.
  have cut : (cutLines packet.text).filter (fun line => !line.isEmpty) =
      packet.entries.map field := by
    rw [text_eq_lines, cutLines_lines packet.entries_flat]
    rfl
  rw [ofText?, cut, readLines_entries]

/-- The octets of a datagram are read as the flattened packet. -/
theorem parse?_encode (packet : BeaconPacket) : parse? packet.encode = some packet.flattened := by
  -- Decoding undoes the encoding, and reading undoes the text.
  rw [parse?, encode, Bytes.toText?_ofText, Option.bind_some, String.toList_ofList, ofText?_text]

/-- A flattened packet is written as the packet was. -/
theorem encode_flattened (packet : BeaconPacket) : packet.flattened.encode = packet.encode := by
  -- Only the text depends on the packet, and it is flattened already.
  have same : packet.flattened.text = packet.text := by
    simp only [text, flattened, String.toList_ofList, flatten_flatten]
  rw [encode, encode, same]

/-- A packet whose texts end no line is its own flattened one. -/
theorem flattened_eq_self {packet : BeaconPacket}
    (plain : ∀ c ∈ packet.serial.toList ++ packet.name.toList, c ≠ '\r' ∧ c ≠ '\n') :
    packet.flattened = packet := by
  -- Both texts are flat, so flattening leaves them as they are.
  have serial := flatten_eq_self fun c listed => plain c (List.mem_append_left _ listed)
  have name := flatten_eq_self fun c listed => plain c (List.mem_append_right _ listed)
  simp only [flattened, serial, name, String.ofList_toList]

/--
A datagram is read back as the packet that it was written from, with every carriage return and
line feed of the serial number and the name made a space.

It is four lines, each ended by a carriage return and a line feed, and holds neither anywhere else.
What was read is written as before, and a packet without either is read back as it is.
-/
theorem read_back (packet : BeaconPacket) :
    let plain (text : String) : String := text.map fun c => if c = '\r' ∨ c = '\n' then ' ' else c
    let heard : BeaconPacket := ⟨plain packet.serial, packet.port, plain packet.name⟩
    parse? packet.encode = some heard ∧
    (∃ lines : List Bytes, lines.length = 4 ∧ (∀ line ∈ lines, 13 ∉ line ∧ 10 ∉ line) ∧
      packet.encode = lines.flatMap (· ++ [13, 10])) ∧
    heard.encode = packet.encode ∧
    ((∀ c ∈ packet.serial.toList ++ packet.name.toList, c ≠ '\r' ∧ c ≠ '\n') →
      parse? packet.encode = some packet) := by
  intro plain heard
  -- Mapping over the text is flattening its characters.
  have flat : heard = packet.flattened := by
    simp [heard, plain, flattened, flatten, ← String.toList_map]
  rw [flat]
  refine ⟨parse?_encode packet, ?_, encode_flattened packet, fun unbroken => ?_⟩
  -- The lines are the entries, none of which holds a separator.
  · refine ⟨packet.entries.map fun entry => (field entry).flatMap String.utf8EncodeChar, rfl,
      ?_, ?_⟩
    · intro line listed
      obtain ⟨entry, member, rfl⟩ := List.mem_map.mp listed
      exact octets_flat (packet.entries_flat entry member)
    · rw [encode, text_eq_lines, octets_lines]
  · rw [parse?_encode, flattened_eq_self unbroken]

/-- A name that holds a whole line of its own, and a serial number that holds a separator. -/
def hostile : BeaconPacket := ⟨"A: B\rC", 5555, "evil\r\nPort: 1"⟩

/-- A name of several scripts with a separator in it. -/
def plainNamed : BeaconPacket := ⟨"0016535D7E2D", 6000, "Küche: 台所"⟩

/-- A line hidden in a name stays part of the name, and a plain packet comes back as it is. -/
theorem read_back_hostile :
    parse? hostile.encode = some ⟨"A: B C", 5555, "evil  Port: 1"⟩ ∧
    (∀ c ∈ plainNamed.serial.toList ++ plainNamed.name.toList, c ≠ '\r' ∧ c ≠ '\n') ∧
    parse? plainNamed.encode = some plainNamed := by
  -- Texts are compared by their characters.
  have spaced (text spaced : String)
      (same : text.toList.map (fun c => if c = '\r' ∨ c = '\n' then ' ' else c) = spaced.toList) :
      text.map (fun c => if c = '\r' ∨ c = '\n' then ' ' else c) = spaced :=
    String.toList_inj.mp ((String.toList_map ..).trans same)
  have unbroken : ∀ c ∈ plainNamed.serial.toList ++ plainNamed.name.toList,
      c ≠ '\r' ∧ c ≠ '\n' := by simp [plainNamed]
  refine ⟨?_, unbroken, (read_back plainNamed).2.2.2 unbroken⟩
  rw [← spaced hostile.serial "A: B C" (by decide),
    ← spaced hostile.name "evil  Port: 1" (by decide)]
  exact (read_back hostile).1

end BeaconPacket

end CompanionLink
