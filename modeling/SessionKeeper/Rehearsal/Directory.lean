import SessionKeeper.Launcher.Program

/-!
# The directory of a rehearsal

A program runs in a directory with nothing but its settings file in it, if that is there. `placeAt`
follows a path from there, or from the root of all directories, and tells what a program finds at
its end: names have a greatest length and so have paths, and what is no directory has nothing in it.
`libraryAt` tells the same of the path of a client library.
-/

namespace SessionKeeper.Rehearsal

open Launcher

def settingsName : String := "launcher.toml"

/-- Directories that lie right below the root. -/
def usualDirectories : List String :=
  ["bin", "dev", "etc", "home", "lib", "opt", "proc", "root", "run", "sys", "tmp", "usr", "var"]

/-- Where a path leads. -/
inductive Spot
  | home
  | root
  /-- A directory of which nothing else is known. -/
  | elsewhere
  | file (content : List UInt8)
  deriving DecidableEq, Repr

/-- Why the system refuses a path. -/
inductive PathFault
  | missing
  | notDirectory
  | isDirectory
  | tooLong
  deriving DecidableEq, Repr

def PathFault.message : PathFault → String
  | missing => "No such file or directory (os error 2)"
  | notDirectory => "Not a directory (os error 20)"
  | isDirectory => "Is a directory (os error 21)"
  | tooLong => "File name too long (os error 36)"

/-- The greatest number of bytes of a name, and one more than that of a path. -/
def nameLimit : Nat := 255

def pathLimit : Nat := 4096

def bytesOf (s : String) : Nat := (Text.Utf8.encode s).length

/-- What a name leads to from a spot: nothing if nothing has the name there. -/
def Spot.enter (settings : Option (List UInt8)) (name : String) :
    Spot → Except PathFault (Option Spot)
  | .file _ => .error .notDirectory
  | spot =>
    if nameLimit < bytesOf name then .error .tooLong
    else if name = "." then .ok (some spot)
    else
      match spot with
      | .home =>
        if name = ".." then .ok (some .elsewhere)
        else if name = settingsName then .ok (settings.map .file)
        else .ok none
      | .root =>
        if name = ".." then .ok (some .root)
        else if usualDirectories.contains name then .ok (some .elsewhere)
        else .ok none
      | _ => if name = ".." then .ok (some .elsewhere) else .ok none

/-- Follows names from a spot. At the end of the path nothing may be there; then `none` is the
answer, with the spot in which it could be made and its name. -/
def Spot.follow (settings : Option (List UInt8)) (spot : Spot) :
    List String → Except PathFault (Spot ⊕ Spot × String)
  | [] => .ok (.inl spot)
  | name :: rest =>
    match spot.enter settings name, rest with
    | .error f, _ => .error f
    | .ok (some next), rest => next.follow settings rest
    | .ok none, [] => .ok (.inr (spot, name))
    | .ok none, _ => .error .missing

/-- Where a path leads, and whether only a directory may be there. -/
def lead (settings : Option (List UInt8)) (path : String) :
    Except PathFault (Spot ⊕ Spot × String) :=
  let names := (path.splitOn "/").filter fun p => p != ""
  if path.isEmpty then .error .missing
  else if pathLimit ≤ bytesOf path then .error .tooLong
  else if !path.startsWith "/" then Spot.home.follow settings names
  else if names = ["dev", "null"] then .ok (.inl (.file []))
  else Spot.root.follow settings names

/-- What is found at a path. A path that ends with a slash is for directories alone, which a program
does not make. -/
def placeAt (settings : Option (List UInt8)) (path : String) : Place :=
  match lead settings path, path.endsWith "/" with
  | .error f, _ => { found := .nothing, refusal := some f.message }
  | .ok (.inl (.file content)), false => { found := .file content }
  | .ok (.inl (.file _)), true | .ok (.inr _), true =>
    { found := .nothing, refusal := some PathFault.isDirectory.message }
  | .ok (.inl _), _ => { found := .directory }
  | .ok (.inr _), false => { found := .nothing }

/-- The number of bytes that a shared object begins with at least. -/
def objectHeader : Nat := 64

/-- What a program finds at a path that is to be that of a client library. A path without a slash is
looked for where the libraries of the system are, and there is none; the settings file is no shared
object. -/
def libraryAt (settings : Option (List UInt8)) (path : String) : Library.Content :=
  match (placeAt settings path).found with
  | .nothing => .nothing
  | found =>
    if !path.contains '/' then
      .unloadable "cannot open shared object file: No such file or directory"
    else
      match found with
      | .file content =>
        .unloadable
          (if content.length < objectHeader then "file too short" else "invalid ELF header")
      | _ => .unloadable "cannot read file data: Is a directory"

/-- Whether a program that is given a path makes the settings file of the directory. -/
def makesSettings (settings : Option (List UInt8)) (path : String) : Bool :=
  !path.endsWith "/" &&
    match lead settings path with
    | .ok (.inr (.home, name)) => name = settingsName
    | _ => false

end SessionKeeper.Rehearsal
