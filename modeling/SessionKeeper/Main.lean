import SessionKeeper.Launcher.Program

/-!
# The command line

The program with the arguments, the environment and the files of its process. It has no means to
open sockets or to bind libraries: its network refuses every dial, and no file holds a client
library.
-/

namespace SessionKeeper

open Launcher

/-- A network that refuses every dial. -/
def silence : Socket.Network where
  lookup host := if host.isEmpty then .unknown else .found
  dial _ := .refused

/-- Why the system refuses something. -/
def reasonOf : IO.Error → String
  | .noFileOrDirectory _ code details => s!"{details} (os error {code})"
  | .inappropriateType _ code details => s!"{details} (os error {code})"
  | .permissionDenied _ code details => s!"{details} (os error {code})"
  | e => e.toString

/-- What is found at a path; a settings file is made where nothing is. -/
def visit (path : String) : IO Place := do
  try
    return { found := .file (← IO.FS.readBinFile path).toList }
  catch
    | .noFileOrDirectory .. =>
      try
        IO.FS.writeFile path ({} : Settings).print
        return { found := .nothing }
      catch e => return { found := .nothing, refusal := some (reasonOf e) }
    | .inappropriateType .. => return { found := .directory }
    | e => return { found := .nothing, refusal := some (reasonOf e) }

/-- The variables of the environment that count. -/
def surroundings : IO Environment := do
  return {
    host := ← IO.getEnv "XIANGQI_HOST"
    port := ← IO.getEnv "XIANGQI_PORT"
    logFilter := ← IO.getEnv "RUST_LOG" }

/-- How the program ends with its arguments. -/
def conclude (args : List CommandLine.Argument) : IO Exit := do
  match CommandLine.read args with
  | .error r => return refused r
  | .ok a =>
    match startWith a (← surroundings) (← visit a.configPath) fun _ => .nothing with
    | .error exit => return exit
    | .ok s => return s.run silence { closed := true }

end SessionKeeper

open SessionKeeper in
def main (args : List String) : IO UInt32 := do
  let exit ← conclude (args.map fun a => a.toList.map some)
  for e in exit.errors do
    for line in e.lines exit.jsonLogs LogSource.target do
      IO.eprintln line
  IO.print exit.output
  return exit.code.toUInt32
