import CompanionLink.CommandLine

/-! The daemon's entry point: it reads arguments, environment and file, and tells why it stops. -/

namespace CompanionLink

/-- The store that holds what is at one path of the machine. -/
def FileStore.ofMachine (path : String) : IO FileStore := do
  try
    let contents ← IO.FS.readBinFile path
    return FileStore.put {} path (.file contents.data.toList)
  catch
    | .noFileOrDirectory .. => return {}
    -- Whatever else is there cannot be read, as a directory cannot.
    | _ => return FileStore.put {} path .directory

/-- Loads the configuration that the options choose and reports why the daemon cannot go on. -/
def Options.report (options : Options) : IO UInt32 := do
  let inherited ← IO.getEnv "BRICKWIFI_CONFIG"
  let options := { options with configPath := options.configPath.or inherited }
  let environment : Environment := ⟨← IO.getEnv "XDG_CONFIG_HOME", ← IO.getEnv "HOME"⟩
  let files ← match options.path environment with
    | .ok path => FileStore.ofMachine path
    | .error _ => pure {}
  IO.eprintln ("Error: " ++ (options.outcome environment files).message)
  return 1

end CompanionLink

/-- The daemon's main program. -/
def main (arguments : List String) : IO UInt32 :=
  match CompanionLink.Options.addAll? {} arguments with
  | some options => options.report
  | none => do
    IO.eprintln "Usage: brickwifid [OPTIONS]"
    return 2
