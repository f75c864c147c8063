import SwaggerSdk.Files.Tree

/-!
# Access to files

What the program needs of a file system, in whatever monad that takes place. A file tree that changes from
step to step is one.
-/

namespace SwaggerSdk

structure FileAccess (m : Type → Type) where
  readText : String → m (Except FileError String)
  isPresent : String → m Bool
  isDirectory : String → m Bool
  makeDirectory : String → m (Except FileError Unit)
  writeText (path text : String) : m (Except FileError Unit)

namespace FileAccess

variable {m : Type → Type} [Monad m] (files : FileAccess m)

/-- Makes the first of the directories, whose parents are the others; one that is there already is as
good. -/
def makeFirst : List String → m (Except FileError Unit)
  | [] => return .error (.other "failed to create whole tree")
  | path :: parents => do
    if path.isEmpty then return .ok ()
    match ← files.makeDirectory path with
    | .ok () => return .ok ()
    -- a parent is made only if the directory cannot be made without it
    | .error .notFound =>
      match ← makeFirst parents with
      | .error cause => return .error cause
      | .ok () =>
        match ← files.makeDirectory path with
        | .ok () => return .ok ()
        | .error cause => return if ← files.isDirectory path then .ok () else .error cause
    | .error cause => return if ← files.isDirectory path then .ok () else .error cause

def makeDirectories (path : String) : m (Except FileError Unit) :=
  files.makeFirst (Path.ancestors path)

end FileAccess

namespace FileTree

def update (step : FileTree → Except FileError FileTree) : StateM FileTree (Except FileError Unit) :=
  modifyGet fun tree =>
    match step tree with
    | .ok tree => (.ok (), tree)
    | .error cause => (.error cause, tree)

def access : FileAccess (StateM FileTree) where
  readText path := return (← get).readText path
  isPresent path := return (← get).isPresent path
  isDirectory path := return (← get).isDirectory path
  makeDirectory path := update (·.makeDirectory path)
  writeText path text := update (·.writeText path text)

end FileTree

end SwaggerSdk
