import CompanionLink.Text.Cut

/-! Internet addresses in dotted form, socket addresses, and directed broadcast. -/

namespace CompanionLink

/-- A 32-bit internet address. -/
structure Ipv4Address where
  /-- The address as a big-endian number. -/
  bits : UInt32
deriving DecidableEq, Repr, Inhabited

namespace Ipv4Address

/-- The address with the given four octets, first octet first. -/
def ofOctets (a b c d : UInt8) : Ipv4Address :=
  ⟨a.toUInt32 <<< 24 ||| b.toUInt32 <<< 16 ||| c.toUInt32 <<< 8 ||| d.toUInt32⟩

/-- The address of the local link's broadcast, all octets 255. -/
def limitedBroadcast : Ipv4Address := ⟨0xFFFFFFFF⟩

/-- The dotted form of an address. -/
def toText (address : Ipv4Address) : String :=
  let octet (shift : UInt32) : String := toString ((address.bits >>> shift) &&& 0xFF).toNat
  octet 24 ++ "." ++ octet 16 ++ "." ++ octet 8 ++ "." ++ octet 0

/-- One octet of a dotted form: one to three digits, at most 255, no needless leading zero. -/
def octet? (digits : List Char) : Option UInt8 :=
  if digits.isEmpty || digits.length > 3 || !digits.all Char.isDigit then none
  -- A leading zero could be taken for the mark of another base.
  else if digits.head? = some '0' && digits.length > 1 then none
  else if decimalValue digits > 255 then none
  else some (decimalValue digits).toUInt8

/-- Reads a dotted form of exactly four octets. -/
def ofText? (text : String) : Option Ipv4Address :=
  -- Fewer or more than four octets are no address.
  match (text.toList.splitOn '.').map octet? with
  | [some a, some b, some c, some d] => some (ofOctets a b c d)
  | _ => none

/-- The address with every host bit of its subnet set. -/
def directedBroadcast (address netmask : Ipv4Address) : Ipv4Address :=
  -- Bits that the netmask leaves to the host are all set.
  ⟨address.bits ||| ~~~ netmask.bits⟩

end Ipv4Address

/-- An internet address and a port on it. -/
structure SocketAddress where
  address : Ipv4Address
  port : UInt16
deriving DecidableEq, Repr, Inhabited

namespace SocketAddress

/-- The form `address:port`. -/
def toText (socket : SocketAddress) : String :=
  socket.address.toText ++ ":" ++ toString socket.port.toNat

/-- Reads the form `address:port`. -/
def ofText? (text : String) : Option SocketAddress :=
  match text.toList.splitOn ':' with
  | [host, port] => do
    let address ← Ipv4Address.ofText? (String.ofList host)
    if port.isEmpty || !port.all Char.isDigit then none
    else if decimalValue port < UInt16.size then some ⟨address, (decimalValue port).toUInt16⟩
    else none
  | _ => none

end SocketAddress

end CompanionLink
