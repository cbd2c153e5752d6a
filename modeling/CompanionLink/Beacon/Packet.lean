import CompanionLink.Bytes
import CompanionLink.Text.Cut

/-!
The datagram by which the device announces itself: a serial number, a port and a name, one
`Key: value` line for each, and a last line that names the protocol.
-/

namespace CompanionLink

/-- The port that announcements are sent to. -/
def beaconPort : UInt16 := 3015

/-- The port of the pairing channel. -/
def pairingPort : UInt16 := 5555

/-- The time between two announcements, in milliseconds. -/
def beaconInterval : Nat := 5000

/-- The protocol that the last line names. -/
def beaconProtocol : List Char := ['E', 'V', '3']

/-- What one announcement says. -/
structure BeaconPacket where
  serial : String
  port : UInt16
  name : String
deriving DecidableEq, Repr, Inhabited

/-- The values of the known lines read so far, the last line of each key counting. -/
structure BeaconFields where
  serial : Option (List Char) := none
  port : Option UInt16 := none
  name : Option (List Char) := none
  protocol : Option (List Char) := none
deriving DecidableEq, Repr, Inhabited

namespace BeaconPacket

/-- The key of the line with the serial number. -/
def serialKey : List Char := ['S', 'e', 'r', 'i', 'a', 'l', '-', 'N', 'u', 'm', 'b', 'e', 'r']

/-- The key of the line with the port. -/
def portKey : List Char := ['P', 'o', 'r', 't']

/-- The key of the line with the name. -/
def nameKey : List Char := ['N', 'a', 'm', 'e']

/-- The key of the line with the protocol. -/
def protocolKey : List Char := ['P', 'r', 'o', 't', 'o', 'c', 'o', 'l']

/-- A text on one line: each carriage return and each line feed becomes a space. -/
def flatten (text : List Char) : List Char :=
  text.map fun c => if c = '\r' ∨ c = '\n' then ' ' else c

/-- One line of a datagram. -/
def line (key value : List Char) : List Char := key ++ ':' :: ' ' :: value ++ ['\r', '\n']

/-- The text of a datagram. -/
def text (packet : BeaconPacket) : List Char :=
  line serialKey (flatten packet.serial.toList) ++
  line portKey (Nat.toDigits 10 packet.port.toNat) ++
  line nameKey (flatten packet.name.toList) ++
  line protocolKey beaconProtocol

/-- The octets of a datagram. -/
def encode (packet : BeaconPacket) : Bytes := .ofText (String.ofList packet.text)

/-- Reads a port number, which has to fit in sixteen bits. -/
def readPort? (value : List Char) : Option UInt16 :=
  -- A number that is too great is no port, and not one that wraps around.
  (readDecimal? value).bind fun port => if port < UInt16.size then some port.toUInt16 else none

/-- Takes one more line; a line without a field separator spoils the datagram. -/
def readLine? (fields : BeaconFields) (line : List Char) : Option BeaconFields :=
  -- A key that comes a second time takes the place of the first, and unknown keys do not count.
  (cutField? line).map fun (key, value) =>
    if key = serialKey then { fields with serial := some value }
    else if key = portKey then { fields with port := readPort? value }
    else if key = nameKey then { fields with name := some value }
    else if key = protocolKey then { fields with protocol := some value }
    else fields

/-- What the fields of a datagram announce, if none is missing and the protocol is the known one. -/
def ofFields? (fields : BeaconFields) : Option BeaconPacket :=
  match fields.protocol, fields.serial, fields.port, fields.name with
  -- All four fields have to be there, whatever their order was.
  | some protocol, some serial, some port, some name =>
    if protocol = beaconProtocol then some ⟨.ofList serial, port, .ofList name⟩ else none
  | _, _, _, _ => none

/-- Reads the text of a datagram; empty lines do not count. -/
def ofText? (text : List Char) : Option BeaconPacket :=
  -- The datagram ends with a line end, so that the last line is empty.
  (((cutLines text).filter fun line => !line.isEmpty).foldlM readLine? {}).bind ofFields?

/-- Reads the octets of a datagram. -/
def parse? (datagram : Bytes) : Option BeaconPacket :=
  (Bytes.toText? datagram).bind fun text => ofText? text.toList

end BeaconPacket

end CompanionLink
