import CompanionLink.Bytes

/-! Named files, read whole as text. -/

namespace CompanionLink

/-- What a path leads to. -/
inductive FileEntry where
  | directory
  | file (contents : Bytes)
deriving DecidableEq, Repr, Inhabited

/-- The files of a device by their paths. -/
structure FileStore where
  entries : List (String × FileEntry) := []
deriving DecidableEq, Repr, Inhabited

/-- Why a file could not be read as text. -/
inductive ReadFault where
  /-- Nothing has the path. -/
  | notFound
  /-- The path leads to no file, or to one that holds no text. -/
  | unreadable
deriving DecidableEq, Repr, Inhabited

namespace FileStore

/-- Puts an entry at a path, in place of one that was there. -/
def put (files : FileStore) (path : String) (entry : FileEntry) : FileStore :=
  ⟨(path, entry) :: files.entries.filter fun (other, _) => other != path⟩

/-- Removes what is at a path. -/
def remove (files : FileStore) (path : String) : FileStore :=
  ⟨files.entries.filter fun (other, _) => other != path⟩

/-- The text of the file at a path. -/
def readText (files : FileStore) (path : String) : Except ReadFault String :=
  match files.entries.lookup path with
  | none => .error .notFound
  | some .directory => .error .unreadable
  | some (.file contents) =>
    -- Octets that spell no text are as good as none.
    match Bytes.toText? contents with
    | some text => .ok text
    | none => .error .unreadable

end FileStore

end CompanionLink
