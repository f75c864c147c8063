import SwaggerSdk.CommandLine.Texts

/-!
# The program

The command line on the files of the system.
-/

namespace SwaggerSdk

def FileError.ofSystem : IO.Error → FileError
  | .noFileOrDirectory _ _ _ => .notFound
  | .alreadyExists _ _ _ => .alreadyExists
  | .inappropriateType _ 20 _ => .notDirectory
  | .inappropriateType _ 21 _ => .isDirectory
  | failure => .other failure.toString

def attempt {α : Type} (action : IO α) : IO (Except FileError α) := do
  match ← action.toBaseIO with
  | .ok value => return .ok value
  | .error failure => return .error (.ofSystem failure)

def readSystemText (path : String) : IO (Except FileError String) := do
  match ← attempt (IO.FS.readBinFile path) with
  | .error cause => return .error cause
  | .ok octets =>
    match String.fromUTF8? octets with
    | some text => return .ok text
    | none => return .error .notText

/-- The files of the system. What can be opened is present, and a directory is what cannot be read as a
file for that reason. -/
def systemAccess : FileAccess IO where
  readText := readSystemText
  isPresent path := do
    match ← attempt (IO.FS.Handle.mk path .read) with
    | .error .notFound | .error .notDirectory => return false
    | _ => return true
  isDirectory path := do
    match ← readSystemText path with
    | .error .isDirectory => return true
    | _ => return false
  makeDirectory path := attempt (IO.FS.createDir path)
  writeText path text := attempt (IO.FS.writeFile path text)

end SwaggerSdk

def main (arguments : List String) : IO UInt32 := do
  let workingDirectory ← IO.currentDir
  let outcome ← SwaggerSdk.CommandLine.run SwaggerSdk.systemAccess
    (SwaggerSdk.surroundings workingDirectory.toString) arguments
  IO.print outcome.output
  IO.eprint outcome.errors
  return outcome.exitCode.toUInt32
