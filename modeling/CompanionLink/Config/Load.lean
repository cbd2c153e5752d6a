import CompanionLink.Config.Reader

/-! Where the configuration is looked for, and what a device's files make of it. -/

namespace CompanionLink

/-- Why there is no configuration. -/
inductive ConfigError where
  /-- Neither directory that could hold it is known. -/
  | noDirectory
  /-- The file at a path is there but cannot be read. -/
  | unreadable (path : String)
  /-- The file holds no configuration. -/
  | malformed
deriving DecidableEq, Repr, Inhabited

/-- The text of a configuration error, without what the system has to say about it. -/
def ConfigError.message : ConfigError → String
  | .noDirectory => "could not determine platform config directory"
  | .unreadable path => "I/O error accessing config at " ++ path
  | .malformed => "failed to parse config TOML"

/-- The directories that an environment names. -/
structure Environment where
  /-- The directory of all configuration. -/
  configHome : Option String := none
  /-- The user's own directory. -/
  home : Option String := none
deriving DecidableEq, Repr, Inhabited

/-- A relative path inside a directory; the empty directory adds nothing. -/
def joinPath (directory name : String) : String :=
  if directory.isEmpty || directory.endsWith "/" then directory ++ name
  else directory ++ "/" ++ name

namespace Environment

/-- The directory of the configuration. -/
def configDirectory (environment : Environment) : Except ConfigError String :=
  match environment.configHome, environment.home with
  -- The directory for all configuration goes before the user's own.
  | some directory, _ => .ok (joinPath directory "brickwifi")
  | none, some home => .ok (joinPath (joinPath home ".config") "brickwifi")
  | none, none => .error .noDirectory

/-- The path of the configuration file. -/
def configPath (environment : Environment) : Except ConfigError String :=
  environment.configDirectory.map fun directory => joinPath directory "config.toml"

end Environment

namespace Config

/-- Loads the configuration from a path; a missing file gives the default. -/
def loadFrom (files : FileStore) (path : String) : Except ConfigError Config :=
  match files.readText path with
  -- A device that was never configured runs with the default.
  | .error .notFound => .ok {}
  | .error .unreadable => .error (.unreadable path)
  | .ok document =>
    match ofText? document with
    | some config => .ok config
    | none => .error .malformed

/-- Loads the configuration from where the environment says. -/
def load (environment : Environment) (files : FileStore) : Except ConfigError Config :=
  environment.configPath.bind (loadFrom files)

end Config

end CompanionLink
