import CompanionLink.Manager

/-!
The access points in the manager's order, and a version that tells readers whether the list
changed. The directory never sorts; it follows the manager's batches of changes.
-/

namespace CompanionLink

/-- Why a request about a listed access point failed. -/
inductive DirectoryError where
  | indexOutOfRange (index count : Nat)
  | manager (error : ManagerError)
deriving DecidableEq, Repr, Inhabited

/-- The text of a directory error. -/
def DirectoryError.message : DirectoryError → String
  | .indexOutOfRange index count =>
    "service index " ++ toString index ++ " out of range (directory holds " ++ toString count ++ ")"
  | .manager error => error.message

/-- The listed access points and the version of the list. -/
structure Directory where
  entries : List AccessPoint := []
  /-- Advances with every change; zero stands for a list never fetched. -/
  version : UInt32 := 0
deriving DecidableEq, Repr, Inhabited

/-- The list under construction while a batch is applied. -/
structure Relisting where
  /-- The old entries that the batch has not mentioned so far. -/
  old : List AccessPoint
  /-- The new list so far. -/
  listed : List AccessPoint := []
  /-- Whether anything changed so far. -/
  touched : Bool := false
deriving DecidableEq, Repr, Inhabited

namespace Directory

/-- The name shown for an index outside the list. -/
def noName : String := "None"

/-- How many access points are listed. -/
def count (directory : Directory) : Nat := directory.entries.length

/-- The name at an index. -/
def name (directory : Directory) (index : Nat) : String :=
  match directory.entries[index]? with
  | some point => point.name
  | none => noName

/-- The flags at an index, none outside the list. -/
def flags (directory : Directory) (index : Nat) : Flags :=
  match directory.entries[index]? with
  | some point => point.flags
  | none => {}

/-- The index of the first access point with a name. -/
def indexOf (directory : Directory) (name : String) : Option Nat :=
  directory.entries.findIdx? fun point => point.name == name

/-- The lease at an index. -/
def lease (directory : Directory) (index : Nat) : Option Lease :=
  directory.entries[index]?.bind fun point => point.lease

/-- The hardware address at an index. -/
def mac (directory : Directory) (index : Nat) : Option String :=
  directory.entries[index]?.bind fun point => point.mac

/-- The access point that the manager names so. -/
def find (directory : Directory) (id : String) : Option AccessPoint :=
  directory.entries.find? fun point => point.id == id

/-- The index of the first access point whose link is up. -/
def connectedIndex (directory : Directory) : Option Nat :=
  directory.entries.findIdx? AccessPoint.isConnected

/-- The first access point whose link is up. -/
def firstConnected (directory : Directory) : Option AccessPoint :=
  directory.entries.find? AccessPoint.isConnected

/-- The lease of the first access point whose link is up and that gave one. -/
def connectedLease (directory : Directory) : Option Lease :=
  -- An access point that is connected without a lease is passed over.
  (directory.entries.filter AccessPoint.isConnected).findSome? fun point => point.lease

/-- The version after a change: it passes over zero when it wraps. -/
def nextVersion (version : UInt32) : UInt32 :=
  -- Zero is kept for a list that was never fetched.
  if version = 0xFFFFFFFF then 1 else version + 1

/-- A list in place of the old one, under the next version. -/
def replaced (directory : Directory) (entries : List AccessPoint) : Directory :=
  { entries, version := nextVersion directory.version }

/-- Drops the first access point that has an identity. -/
def dropId (entries : List AccessPoint) (id : String) : List AccessPoint :=
  entries.eraseP fun point => point.id == id

/-- Drops the removed access points and tells whether there was one. -/
def dropRemoved (entries : List AccessPoint) : List String → Bool × List AccessPoint
  | [] => (false, entries)
  | id :: later =>
    -- An identity that is not listed removes nothing, which is no error.
    let known := entries.any fun point => point.id == id
    let (dropped, entries) := dropRemoved (dropId entries id) later
    (known || dropped, entries)

/-- Applies properties to the first listed access point that has an identity. -/
def mergeInto (listed : List AccessPoint) (report : Report) : Bool × List AccessPoint :=
  match listed with
  | [] => (false, [])
  | point :: later =>
    -- The rest of the list is not searched for a second one.
    if point.id == report.id then
      let (changed, point) := point.applyAll report.properties
      (changed, point :: later)
    else
      let (changed, later) := mergeInto later report
      (changed, point :: later)

/--
Lists one reported access point: merged if the batch named it before, moved over from the old
entries if it was there, and new otherwise.
-/
def relist (relisting : Relisting) (report : Report) : Relisting :=
  if relisting.listed.any fun point => point.id == report.id then
    let (changed, listed) := mergeInto relisting.listed report
    { relisting with listed, touched := relisting.touched || changed }
  else
    match relisting.old.find? fun point => point.id == report.id with
    -- It keeps what it was not reported anew.
    | some point =>
      let (changed, point) := point.applyAll report.properties
      { old := dropId relisting.old report.id
        listed := relisting.listed ++ [point]
        touched := relisting.touched || changed }
    -- A new entry is a change whatever it reports.
    | none =>
      let (_, point) := AccessPoint.applyAll { id := report.id } report.properties
      { relisting with listed := relisting.listed ++ [point], touched := true }

/-- The list after a batch, and whether a step on the way counted as a change. -/
def afterBatch (entries : List AccessPoint) (changed : List Report) (removed : List String) :
    Bool × List AccessPoint :=
  let (dropped, entries) := dropRemoved entries removed
  if changed.isEmpty then (dropped, entries)
  else
    -- What the batch did not mention goes with the old list.
    let relisting := changed.foldl relist { old := entries, touched := dropped }
    (relisting.touched || !relisting.old.isEmpty, relisting.listed)

/--
Applies a batch of changes: removals first, then, if any access point is reported, a new list in
the manager's order. Tells whether anything changed, and advances the version once if so.
-/
def applyChanges (directory : Directory) (changed : List Report) (removed : List String) :
    Bool × Directory :=
  let (touched, entries) := afterBatch directory.entries changed removed
  -- The same access points in another order are a change for whoever reads by index.
  let reordered := entries.map AccessPoint.id != directory.entries.map AccessPoint.id
  if touched || reordered then (true, directory.replaced entries)
  else (false, { directory with entries })

/-- Applies one property to the access point with an identity and tells whether that changed it. -/
def applyProperty (directory : Directory) (id : String) (property : Property) : Bool × Directory :=
  -- A property of an access point that is not listed has nowhere to go.
  let (changed, entries) := mergeInto directory.entries ⟨id, [property]⟩
  if changed then (true, directory.replaced entries) else (false, { directory with entries })

/-- Forgets every access point, which is a change unless there was none. -/
def clear (directory : Directory) : Directory :=
  if directory.entries.isEmpty then directory else directory.replaced []

/-- The request to join the access point at an index. -/
def joinRequest (directory : Directory) (index : Nat) : Except DirectoryError (Option Request) :=
  match directory.entries[index]? with
  | some point => .ok (some (.join point.id))
  | none => .error (.indexOutOfRange index directory.count)

/-- The request to forget the credentials of the access point at an index. -/
def forgetRequest (directory : Directory) (index : Nat) : Except DirectoryError (Option Request) :=
  match directory.entries[index]? with
  | some point => .ok (some (.forget point.id))
  | none => .error (.indexOutOfRange index directory.count)

/-- The request to move an access point before the one ahead of it; none for the first. -/
def moveUpRequest (directory : Directory) (index : Nat) : Except DirectoryError (Option Request) :=
  match directory.entries[index]? with
  | none => .error (.indexOutOfRange index directory.count)
  | some point =>
    -- The first one has nowhere to go, which is no error.
    if index = 0 then .ok none
    else
      .ok (directory.entries[index - 1]?.map fun anchor => .moveBefore point.id anchor.id)

/-- The request to move an access point behind the one after it; none for the last. -/
def moveDownRequest (directory : Directory) (index : Nat) :
    Except DirectoryError (Option Request) :=
  match directory.entries[index]? with
  | none => .error (.indexOutOfRange index directory.count)
  | some point =>
    -- The last one has nobody behind it, which is no error.
    .ok (directory.entries[index + 1]?.map fun anchor => .moveAfter point.id anchor.id)

variable {μ : Type} [NetworkManager μ]

/-- Hands a request to the manager, if there is one to make. -/
def submit (manager : μ) :
    Except DirectoryError (Option Request) → Except DirectoryError Unit × μ
  | .error error => (.error error, manager)
  -- What needs no request is done.
  | .ok none => (.ok (), manager)
  | .ok (some request) =>
    match NetworkManager.submit manager request with
    | (.ok (), manager) => (.ok (), manager)
    | (.error error, manager) => (.error (.manager error), manager)

end Directory

end CompanionLink
