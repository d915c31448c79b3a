import SchemaServer.Protocol.Negotiation

/-! # What the command line can say

The parameters of the program, how they are written, and the help text. -/

namespace SchemaServer.CommandLine

inductive Parameter where
  | analyzer
  | analyzerArg
  | stdPath
  | enableFormatting
  | stdio
  | clientProcessId
  | help
  | version
deriving DecidableEq, Repr

namespace Parameter

def all : List Parameter :=
  [.analyzer, .analyzerArg, .stdPath, .enableFormatting, .stdio, .clientProcessId, .help, .version]

def name : Parameter → String
  | .analyzer => "analyzer"
  | .analyzerArg => "analyzer-arg"
  | .stdPath => "std-path"
  | .enableFormatting => "enable-formatting"
  | .stdio => "stdio"
  | .clientProcessId => "clientProcessId"
  | .help => "help"
  | .version => "version"

def valueName? : Parameter → Option String
  | .analyzer => some "ANALYZER"
  | .analyzerArg => some "ARG"
  | .stdPath => some "STD_PATH"
  | .clientProcessId => some "PID"
  | .enableFormatting | .stdio | .help | .version => none

def takesValue (p : Parameter) : Bool := p.valueName?.isSome

/-- The environment variable that stands in for a parameter. -/
def environmentName? : Parameter → Option String
  | .analyzer => some "TEO_ANALYZER"
  | .stdPath => some "TEO_STD_PATH"
  | _ => none

def display (p : Parameter) : String :=
  match p.valueName? with
  | some value => "--" ++ p.name ++ " <" ++ value ++ ">"
  | none => "--" ++ p.name

def ofName? (name : String) : Option Parameter := all.find? (·.name == name)

def about : Parameter → String
  | .analyzer => "Analyzer executable to run"
  | .analyzerArg => "Extra argument for the analyzer (can be specified multiple times)"
  | .stdPath => "Standard library reference file that built-in definitions open (defaults to an " ++
      "installed copy of the bundled file)"
  | .enableFormatting => "Answer formatting requests with analyzer output"
  | .stdio => "Communicate over stdio (the only transport; accepted for editor compatibility)"
  | .clientProcessId => "Process id of the client (accepted for editor compatibility)"
  | .help => "Print help"
  | .version => "Print version"

end Parameter

def defaultAnalyzer : String := "teo-analyzer"

abbrev Environment : Type := String → Option String

def padded (width : Nat) (s : String) : String :=
  s ++ String.ofList (List.replicate (width - s.length) ' ')

def helpColumn : Nat := 31

/-- The line of a parameter in the help text; a value with line ends goes on in the same column. -/
def helpLine (environment : Environment) (p : Parameter) : String :=
  let short := match p with
    | .help => "  -h, "
    | .version => "  -V, "
    | _ => "      "
  let variableNote := match p.environmentName? with
    | some name => " [env: " ++ name ++ "=" ++ (environment name).getD "" ++ "]"
    | none => ""
  let fallback := if p = .analyzer then " [default: " ++ defaultAnalyzer ++ "]" else ""
  let notes := (p.about ++ variableNote ++ fallback).replace "\n" ("\n" ++ padded helpColumn "")
  padded helpColumn (short ++ p.display) ++ notes

def programName : String := Protocol.serverName

def usage : String := "Usage: " ++ programName ++ " [OPTIONS]"

/-- How the program is called with some parameters; in general if there are none. -/
def usageWith (parameters : List Parameter) : String :=
  if parameters.isEmpty then usage
  else "Usage: " ++ programName ++ " " ++
    String.intercalate " " (parameters.eraseDups.map Parameter.display)

/-- The parameters that say what to do, as opposed to those that ask for a text. -/
def ordinary : List Parameter := Parameter.all.filter fun p => p ≠ .help && p ≠ .version

/-- How the program is called with a parameter: next to others, any of the ordinary ones may stand
    there. -/
def usageOf (p : Parameter) (others : Bool) : String :=
  if others then
    "Usage: " ++ programName ++ " " ++ (if ordinary.contains p then "" else p.display ++ " ") ++
      "<" ++ String.intercalate "|" (ordinary.map Parameter.display) ++ ">"
  else usageWith [p]

def helpText (environment : Environment) : String :=
  String.intercalate "\n" (["Language server for Teo schema files", "", usage, "", "Options:"] ++
    Parameter.all.map (helpLine environment)) ++ "\n"

def versionText : String := programName ++ " " ++ Protocol.serverVersion ++ "\n"

end SchemaServer.CommandLine
