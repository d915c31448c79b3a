import SchemaServer.SortedMap
import SchemaServer.Text.Utf8

/-! # File trees

Files and directories as data, with the operations that installing a file needs.  A place is the
list of names from the root; an operation fails for the reasons a file system gives.  There are no
links: each file has one name, and each directory one place. -/

namespace SchemaServer

inductive FileFault where
  | notFound
  | permissionDenied
  | alreadyExists
  | notDirectory
  | isDirectory
  | nameTooLong
  | nulInName
  | nulInProgram
deriving DecidableEq, Repr

def FileFault.message : FileFault → String
  | .notFound => "No such file or directory (os error 2)"
  | .permissionDenied => "Permission denied (os error 13)"
  | .alreadyExists => "File exists (os error 17)"
  | .notDirectory => "Not a directory (os error 20)"
  | .isDirectory => "Is a directory (os error 21)"
  | .nameTooLong => "File name too long (os error 36)"
  | .nulInName => "file name contained an unexpected NUL byte"
  | .nulInProgram => "nul byte found in provided data"

/-- A file with its bytes, or a directory with its entries. -/
inductive FileTree where
  | file (content : List UInt8)
  | directory (entries : List (String × FileTree))
deriving Inhabited

namespace FileTree

def empty : FileTree := .directory []

def find : List String → FileTree → Except FileFault FileTree
  | [], t => .ok t
  | _ :: _, .file _ => .error .notDirectory
  | name :: path, .directory entries =>
    match SortedMap.lookup name entries with
    | some t => find path t
    | none => .error .notFound

/-- Put something else at a place; `change` gets what stands there now.  The directory above it has
    to be there. -/
def alter (change : Option FileTree → Except FileFault FileTree) :
    List String → FileTree → Except FileFault FileTree
  | [], t => change (some t)
  | _ :: _, .file _ => .error .notDirectory
  | [name], .directory entries => do
    return .directory (SortedMap.insertEntry name (← change (SortedMap.lookup name entries)) entries)
  | name :: path, .directory entries =>
    match SortedMap.lookup name entries with
    | some t => do return .directory (SortedMap.insertEntry name (← alter change path t) entries)
    | none => .error .notFound

def remove : List String → FileTree → FileTree
  | [], t => t
  | _ :: _, .file content => .file content
  | [name], .directory entries => .directory (entries.filter (·.1 ≠ name))
  | name :: path, .directory entries =>
    match SortedMap.lookup name entries with
    | some t => .directory (SortedMap.insertEntry name (remove path t) entries)
    | none => .directory entries

def bytesAt (path : List String) (t : FileTree) : Except FileFault (List UInt8) := do
  match ← find path t with
  | .file content => return content
  | .directory _ => throw .isDirectory

/-- The text of a file, if its bytes are those of one. -/
def textAt? (path : List String) (t : FileTree) : Option String :=
  (bytesAt path t).toOption.bind fun content => (Utf8.decode content).toOption

/-- Write a whole file, new or in place of one. -/
def putBytes (path : List String) (content : List UInt8) (t : FileTree) :
    Except FileFault FileTree :=
  alter (fun
    | none | some (.file _) => .ok (.file content)
    | some (.directory _) => .error .isDirectory) path t

def putContent (path : List String) (text : String) (t : FileTree) : Except FileFault FileTree :=
  putBytes path (Utf8.encode text) t

/-- Move a file to another place, over a file that stands there. -/
def moveFile (source target : List String) (t : FileTree) : Except FileFault FileTree := do
  let content ← bytesAt source t
  putBytes target content (remove source t)

mutual

def files : FileTree → List (List String × List UInt8)
  | .file content => [([], content)]
  | .directory entries => entryFiles entries

def entryFiles : List (String × FileTree) → List (List String × List UInt8)
  | [] => []
  | (name, t) :: rest => (files t).map (fun (path, content) => (name :: path, content)) ++ entryFiles rest

end

end FileTree

end SchemaServer
