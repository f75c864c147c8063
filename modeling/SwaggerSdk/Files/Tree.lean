import SwaggerSdk.Files.Path
import SwaggerSdk.Table

/-!
# File trees

Files and directories by their address, the list of names that lead there from the root. A path is a Unicode text. It
is followed name by name, and every name but the last has to lead to a directory.

Symbolic and hard links, permissions and partial writes are not modelled: a place has one address, a step fails only for
what the path says or the tree holds, and a file is written in full or not at all.
-/

namespace SwaggerSdk

/-- Why a file cannot be read or written. -/
inductive FileError where
  | notFound
  | alreadyExists
  | notDirectory
  | isDirectory
  | nameTooLong
  | nulInPath
  | notText
  | other (message : String)
  deriving DecidableEq, Repr, Inhabited

def FileError.message : FileError → String
  | notFound => "No such file or directory (os error 2)"
  | alreadyExists => "File exists (os error 17)"
  | notDirectory => "Not a directory (os error 20)"
  | isDirectory => "Is a directory (os error 21)"
  | nameTooLong => "File name too long (os error 36)"
  | nulInPath => "file name contained an unexpected NUL byte"
  | notText => "stream did not contain valid UTF-8"
  | other message => message

inductive Node where
  | directory
  | file (content : ByteArray)
  deriving Inhabited

instance : DecidableEq Node
  | .directory, .directory => isTrue rfl
  | .directory, .file _ | .file _, .directory => isFalse nofun
  | .file content, .file content' =>
    match ByteArray.instDecidableEq content content' with
    | isTrue same => isTrue (same ▸ rfl)
    | isFalse different => isFalse fun same => different (Node.file.inj same)

/-- The names that lead from the root to a place. -/
abbrev Address := List (List Char)

structure FileTree where
  nodes : Table Address Node
  workingDirectory : Address

namespace FileTree

def nameLimit : Nat := 255

def pathLimit : Nat := 4095

def octetCount (name : List Char) : Nat := name.foldr (fun c count => c.utf8Size + count) 0

def node? (tree : FileTree) (address : Address) : Option Node :=
  -- the root is always there
  if address.isEmpty then some .directory else tree.nodes.get? address

def follow (address : Address) (name : List Char) : Address :=
  if Path.isIdle name then address
  else if name == ['.', '.'] then address.dropLast
  else address ++ [name]

/-- Follows names from an address; only the last of them may lead to nothing. -/
def descend (tree : FileTree) : Address → Address → Except FileError Address
  | address, [] => .ok address
  | address, name :: names =>
    match tree.node? address with
    | none => .error .notFound
    | some (.file _) => .error .notDirectory
    | some .directory =>
      if nameLimit < octetCount name then .error .nameTooLong
      else tree.descend (follow address name) names

def checkPath (path : String) : Except FileError Unit :=
  if path.contains '\x00' then .error .nulInPath
  else if path.isEmpty then .error .notFound
  else if pathLimit < path.utf8ByteSize then .error .nameTooLong
  else .ok ()

def locate (tree : FileTree) (path : String) : Except FileError Address := do
  checkPath path
  tree.descend (if Path.isAbsolute path then [] else tree.workingDirectory) (Path.names path.toList)

def find (tree : FileTree) (path : String) : Except FileError Node := do
  match tree.node? (← tree.locate path) with
  | some node => return node
  | none => throw .notFound

def isPresent (tree : FileTree) (path : String) : Bool :=
  match tree.find path with
  | .ok _ => true
  | .error _ => false

def isDirectory (tree : FileTree) (path : String) : Bool :=
  match tree.find path with
  | .ok .directory => true
  | _ => false

def readText (tree : FileTree) (path : String) : Except FileError String := do
  match ← tree.find path with
  | .directory => throw .isDirectory
  | .file content =>
    match String.fromUTF8? content with
    | some text => return text
    | none => throw .notText

def set (tree : FileTree) (address : Address) (node : Node) : FileTree :=
  { tree with nodes := tree.nodes.insert address node }

def writeText (tree : FileTree) (path text : String) : Except FileError FileTree := do
  let address ← tree.locate path
  match tree.node? address with
  | some .directory => throw .isDirectory
  | _ => return tree.set address (.file text.toUTF8)

def withoutSlashes (path : String) : String :=
  String.ofList (Text.stripEnd (· == '/') path.toList)

def makeDirectory (tree : FileTree) (path : String) : Except FileError FileTree := do
  checkPath path
  -- slashes at the end count for the limit only
  let bare := withoutSlashes path
  let address ← tree.locate (if bare.isEmpty then path else bare)
  match tree.node? address with
  | some _ => throw .alreadyExists
  | none => return tree.set address .directory

end FileTree

end SwaggerSdk
