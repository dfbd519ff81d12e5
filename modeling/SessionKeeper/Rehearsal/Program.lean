import SessionKeeper.Rehearsal.Directory
import SessionKeeper.Rehearsal.Socket

/-!
# Rehearsals of the program

The program runs in a directory of its own, on a closed loopback interface and with no client
library. Its input ends at once.
-/

namespace SessionKeeper.Rehearsal

open Launcher

/-- A run of the program, and the settings file that it makes. -/
def runProgram (args : List CommandLine.Argument) (e : Environment) (file : Option (List UInt8)) :
    Exit × Option String :=
  let exit := match start args e (placeAt file) (libraryAt file) with
    | .error exit => exit
    | .ok s => s.run (loopback false .absent) { closed := true }
  let made := match CommandLine.read args with
    | .error _ => none
    | .ok a => if makesSettings file a.configPath then some ({} : Settings).print else none
  (exit, made)

end SessionKeeper.Rehearsal
