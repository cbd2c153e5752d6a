import CompanionLink.Config.Load

/-! The options of the daemon, the configuration that they choose, and why it does not run. -/

namespace CompanionLink

/-- What the command line asks for. -/
structure Options where
  /-- The path of the configuration, where it is not the environment's. -/
  configPath : Option String := none
  /-- Whether everything is logged, whatever the configuration says. -/
  debug : Bool := false
deriving DecidableEq, Repr, Inhabited

/-- Why the daemon stopped before it ran. -/
inductive StartupError where
  /-- The configuration at a given path, or else at the environment's, could not be loaded. -/
  | config (given : Option String) (cause : ConfigError)
  /-- There is no network manager to drive. -/
  | noManager
deriving DecidableEq, Repr, Inhabited

/-- The text of a startup error. -/
def StartupError.message : StartupError → String
  | .config given cause =>
    -- The path is named only if it was given.
    let attempt := match given with
      | some path => "loading config from " ++ path
      | none => "loading default config"
    attempt ++ "\n\nCaused by:\n    " ++ cause.message
  | .noManager =>
    "brickwifid was built without a network manager backend (enable the `connman` feature)"

namespace Options

/-- The text in front of a path that is part of its option. -/
def configMark : String := "--config="

/-- Chooses a configuration; a second choice is not accepted. -/
def chooseConfig? (options : Options) (path : String) : Option Options :=
  if options.configPath.isSome then none else some { options with configPath := some path }

/-- Adds arguments in any order. An unknown argument, or an option given twice, is not accepted. -/
def addAll? (options : Options) : List String → Option Options
  | [] => some options
  -- The path is an argument of its own.
  | "--config" :: path :: later => do (← options.chooseConfig? path).addAll? later
  | "--debug" :: later =>
    if options.debug then none else addAll? { options with debug := true } later
  -- It may also stand behind the option's mark, in one argument with it.
  | argument :: later => do
    if argument.startsWith configMark then
      let path := argument.toList.drop configMark.length
      (← options.chooseConfig? (String.ofList path)).addAll? later
    else none

/-- The path that the configuration is loaded from. -/
def path (options : Options) (environment : Environment) : Except ConfigError String :=
  match options.configPath with
  | some path => .ok path
  | none => environment.configPath

/-- Loads the chosen configuration. -/
def load (options : Options) (environment : Environment) (files : FileStore) :
    Except StartupError Config :=
  match (options.path environment).bind (Config.loadFrom files) with
  | .error cause => .error (.config options.configPath cause)
  | .ok config =>
    -- The option wins over the level in the file.
    .ok (if options.debug then
      { config with daemon := { config.daemon with logLevel := "debug" } } else config)

/-- Why the daemon stops: the configuration's fault, and without one the missing manager. -/
def outcome (options : Options) (environment : Environment) (files : FileStore) : StartupError :=
  match options.load environment files with
  | .error fault => fault
  | .ok _ => .noManager

end Options

end CompanionLink
