import SchemaServer.Bundled
import SchemaServer.FileTree.Walk

/-! # Installing the reference file

`install` writes the bundled text into a directory, unless it is there already.  The text is written
under another name and then renamed, so that nobody ever reads a part of it.  A name in the directory
is of use only if its whole path is not too long, which `fits` tells. -/

namespace SchemaServer

def installedName : String := "std.teo"

/-- The name under which the file is written first; `process` tells servers apart that install at
    the same time. -/
def stagingName (process : String) : String := installedName ++ "." ++ process

/-- How an installation went: its outcome, and the trees after each step. -/
structure Installation where
  outcome : Except FileFault Unit
  history : List FileTree

def Installation.result (i : Installation) (t : FileTree) : FileTree := i.history.getLast?.getD t

def isInstalled (directory : List FileTree.Step) (t : FileTree) : Bool :=
  match t.locate directory with
  | .ok place => t.textAt? (place ++ [installedName]) == some bundledText
  | .error _ => false

def writeBundled (process : String) (place : List String) (made : FileTree) : Installation :=
  let target := place ++ [installedName]
  let staging := place ++ [stagingName process]
  match made.putContent staging bundledText with
  | .error fault => ⟨.error fault, [made]⟩
  | .ok staged =>
    match staged.moveFile staging target with
    | .error fault => ⟨.error fault, [made, staged]⟩
    | .ok installed => ⟨.ok (), [made, staged, installed]⟩

def install (fits : String → Bool) (process : String) (directory : List FileTree.Step)
    (t : FileTree) : Installation :=
  if fits installedName && isInstalled directory t then ⟨.ok (), []⟩
  else
    match t.makeDirectories directory.reverse with
    | (.error fault, made) => ⟨.error fault, [made]⟩
    | (.ok (), made) =>
      -- That the name is too long is found only when it is opened, so the directories stay.
      if !fits (stagingName process) then ⟨.error .nameTooLong, [made]⟩
      else
        match made.locate directory with
        | .error fault => ⟨.error fault, [made]⟩
        | .ok place => writeBundled process place made

end SchemaServer
