import SchemaServer.CommandLine.Parse
import SchemaServer.Install
import SchemaServer.Server.Basic
import SchemaServer.Text.Plain
import SchemaServer.Text.Split

/-! # Starting the program

From a command line to a running server, or to what the program prints instead: first the place of
the standard library is settled, installing the bundled file if no other one is given, and then the
analyzer is started. -/

namespace SchemaServer.Launch

structure Surroundings where
  environment : CommandLine.Environment
  temporary : String
  /-- What tells this process from others. -/
  process : String
  /-- Where paths start that do not start at the root. -/
  workingDirectory : String
  search : List String
  isProgram : List String → Bool

inductive Fault where
  | files (fault : FileFault)
  | analyzer (program : String) (fault : FileFault)
deriving DecidableEq, Repr

def Fault.message : Fault → String
  | .files fault => "IO error: " ++ fault.message
  | .analyzer program fault => "Failed to start analyzer " ++ program ++ ": " ++ fault.message

def Fault.cause : Fault → FileFault
  | .files fault | .analyzer _ fault => fault

def Fault.report (f : Fault) : String :=
  "Error: " ++ f.message ++ "\n\nCaused by:\n    " ++ f.cause.message ++ "\n"

/-! ## Paths -/

def joinPath (directory name : String) : String :=
  if directory.isEmpty || directory.endsWith "/" then directory ++ name
  else directory ++ "/" ++ name

def maxPath : Nat := 4095

def stepsOf (path : String) : List FileTree.Step :=
  (Text.splitOn (· == '/') path.toList).filterMap fun part =>
    FileTree.Step.ofPart? (String.ofList part)

/-- The steps of a path from the root; a path that does not start there starts in the working
    directory. -/
def steps (around : Surroundings) (path : String) : List FileTree.Step :=
  if path.startsWith "/" then stepsOf path else stepsOf (joinPath around.workingDirectory path)

def pathFault? (path : String) : Option FileFault :=
  if path.toList.contains '\x00' then some .nulInName
  else if maxPath < path.utf8ByteSize then some .nameTooLong
  else none

def installDirectory (temporary : String) : String :=
  joinPath temporary (Protocol.serverName ++ "-" ++ Protocol.serverVersion)

def installation (around : Surroundings) (directory : String) (t : FileTree) : Installation :=
  match pathFault? directory with
  | some fault => ⟨.error fault, []⟩
  | none =>
    install (fun name => (joinPath directory name).utf8ByteSize ≤ maxPath) around.process
      (steps around directory) t

/-- Install the reference file into a directory: its path, and the tree that is left. -/
def installInto (around : Surroundings) (directory : String) (t : FileTree) :
    Except Fault String × FileTree :=
  let i := installation around directory t
  match i.outcome with
  | .ok () => (.ok (joinPath directory installedName), i.result t)
  | .error fault => (.error (.files fault), i.result t)

def resolveStdPath (around : Surroundings) (stdPath? : Option String) (t : FileTree) :
    Except Fault String × FileTree :=
  match stdPath? with
  | some path => (.ok path, t)
  | none => installInto around (installDirectory around.temporary) t

/-! ## Programs -/

/-- Whether the program at a path can be run.  A path with a slash at its end is one of a
    directory. -/
def checkPath (around : Surroundings) (t : FileTree) (path : String) : Except FileFault Unit := do
  if maxPath < path.utf8ByteSize then throw .nameTooLong
  let place ← t.locate (steps around path)
  match ← t.find place with
  | .directory _ => throw .permissionDenied
  | .file _ =>
    if path.endsWith "/" then throw .notDirectory
    else if around.isProgram place then return ()
    else throw .permissionDenied

/-- Look for a program in some directories; one that cannot be run is passed over, but remembered. -/
def searchProgram (around : Surroundings) (t : FileTree) (name : String) (denied : Bool) :
    List String → Except FileFault Unit
  | [] => .error (if denied then .permissionDenied else .notFound)
  | directory :: rest =>
    match checkPath around t (joinPath directory name) with
    | .ok () => .ok ()
    | .error .permissionDenied => searchProgram around t name true rest
    | .error _ => searchProgram around t name denied rest

/-- Whether a program can be run: a name with a slash is a path, any other is looked for. -/
def checkProgram (around : Surroundings) (t : FileTree) (program : String) :
    Except FileFault Unit :=
  if program.contains '\x00' then .error .nulInProgram
  else if program = "" then .error .notFound
  else if program.contains '/' then checkPath around t program
  else if FileTree.maxName < program.utf8ByteSize then .error .nameTooLong
  else searchProgram around t program false around.search

/-! ## Starting -/

inductive Start where
  | ended (code : Nat) (output errors : String)
  | serving (server : Server) (analyzer : String) (arguments : List String)

def start (around : Surroundings) (arguments : List String) (t : FileTree) : Start × FileTree :=
  match CommandLine.parse around.environment arguments with
  | .showHelp => (.ended 0 (Text.plain (CommandLine.helpText around.environment)) "", t)
  | .showVersion => (.ended 0 CommandLine.versionText "", t)
  | .refused fault => (.ended 2 "" (Text.plain fault.message), t)
  | .run options =>
    match resolveStdPath around options.stdPath? t with
    | (.error fault, t) => (.ended 1 "" fault.report, t)
    | (.ok stdPath, t) =>
      match checkProgram around t options.analyzer with
      | .error fault => (.ended 1 "" (Fault.analyzer options.analyzer fault).report, t)
      | .ok () =>
        (.serving (.start stdPath options.formatting) options.analyzer options.arguments, t)

end SchemaServer.Launch
