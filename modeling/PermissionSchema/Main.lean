import PermissionSchema.CommandLine.Program

/-!
# The executable

Reads what a run may look at, calls `Program.run`, and prints what it leaves behind. Files are read
before the run, so that the run itself is a plain function.
-/

namespace PermissionSchema.Executable

/-- What stands at a path now. -/
def entryAt (path : String) : IO FileEntry := do
  try
    return .file (← IO.FS.readBinFile path)
  catch
    | .noFileOrDirectory .. => return .missing
    | .inappropriateType _ 21 _ => return .directory
    | .inappropriateType .. => return .missing
    | .permissionDenied _ code details => return .locked s!"{details} (os error {code})"
    | failure => return .locked (toString failure)

/-- The file system as it is now at the given paths. -/
def filesAt (paths : List String) : IO Files := do
  let entries ← paths.mapM fun path => return (path, ← entryAt path)
  return fun path => (entries.lookup path).getD .missing

def environment : IO Environment := do
  return {
    config := ← IO.getEnv "OPLT_CONFIG"
    verbose := ← IO.getEnv "OPLT_VERBOSE"
    noColor := ← IO.getEnv "OPLT_NO_COLOR"
    logFilter := ← IO.getEnv "RUST_LOG" }

/-- The directory for configuration files is set by an absolute path, or stands in the home
    directory. -/
def directories : IO SearchDirectories := do
  let home := (← IO.getEnv "HOME").filter (· != "")
  let system := (← IO.getEnv "XDG_CONFIG_HOME").filter (·.startsWith "/")
  return { home, system := system <|> home.map (· ++ "/.config") }

/-- The paths that a run may look at. -/
def pathsOf (directories : SearchDirectories) (invocation : Invocation) : List String :=
  let named := match invocation.command with
    | .lex file .. => [file]
    | .check paths _ => paths
  let settings := match invocation.config with
    | some path => [path]
    | none => directories.candidates
  settings ++ named

end PermissionSchema.Executable

open PermissionSchema Executable in
def main (arguments : List String) : IO UInt32 := do
  let environment ← environment
  let directories ← directories
  let paths := match Invocation.read environment arguments with
    | .ok invocation => pathsOf directories invocation
    | .error _ => []
  let machine : Machine :=
    { files := ← filesAt paths, directories, processors := 1, schedule := .inOrder }
  let outcome := Program.run machine environment arguments .toml
  for event in outcome.log do
    IO.eprintln event.line
  IO.print outcome.stdout
  IO.eprint outcome.stderr
  return outcome.status.toUInt32
