import CompanionLink.Beacon.Transmitter
import CompanionLink.FileStore
import CompanionLink.Text.Blank
import CompanionLink.Text.Cut

/-! The serial number and the name of the device, read from two files at every question. -/

namespace CompanionLink

/-- Where the device's identity is kept, and what stands for it where it is missing. -/
structure IdentityFiles where
  serialPath : String
  namePath : String
  serialFallback : String
  nameFallback : String
deriving DecidableEq, Repr, Inhabited

namespace IdentityFiles

/-- The first line of a file without the blanks around it, unless that leaves nothing. -/
def firstLineOf (files : FileStore) (path : String) : Option String :=
  match files.readText path with
  | .error _ => none
  | .ok text =>
    -- Only the first line counts; a blank one is no identity.
    let line := trimBlanks (firstLine text.toList)
    if line.isEmpty then none else some (String.ofList line)

/-- A hardware address as a serial number: without its colons, its letters upper case. -/
def normalizeSerial (line : String) : String :=
  String.ofList ((line.toList.filter (· != ':')).map Char.toUpper)

/-- The serial number. -/
def serialNumber (identity : IdentityFiles) (files : FileStore) : String :=
  match firstLineOf files identity.serialPath with
  | some line => normalizeSerial line
  | none => identity.serialFallback

/-- The name. -/
def friendlyName (identity : IdentityFiles) (files : FileStore) : String :=
  (firstLineOf files identity.namePath).getD identity.nameFallback

end IdentityFiles

/-- An identity kept in files, together with the files as they are. -/
structure StoredIdentity where
  identity : IdentityFiles
  files : FileStore
deriving DecidableEq, Repr, Inhabited

/-- Files are read at every question, so a changed name is announced next. -/
instance : DeviceIdentity StoredIdentity where
  serialNumber stored := stored.identity.serialNumber stored.files
  friendlyName stored := stored.identity.friendlyName stored.files

/-- An identity that is given outright. -/
structure GivenIdentity where
  serial : String
  name : String
deriving DecidableEq, Repr, Inhabited

/-- What is given is the identity. -/
instance : DeviceIdentity GivenIdentity where
  serialNumber given := given.serial
  friendlyName given := given.name

end CompanionLink
