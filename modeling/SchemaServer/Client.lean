import SchemaServer.Json.Basic
import SchemaServer.Report

/-! # The editor

What a session tells the editor and asks of it. -/

namespace SchemaServer.Client

inductive LogLevel where
  | error
  | info
deriving DecidableEq, Repr

def LogLevel.code : LogLevel → Nat
  | .error => 1
  | .info => 3

inductive Call where
  /-- Show these problems for a document, in place of those shown before. -/
  | publish (uri : String) (diagnostics : List Diagnostic) (version : Option Int)
  /-- Report changes of the configuration from now on. -/
  | registerConfiguration
  | fetchSettings (uri : String)
  | externalTypesChanged
  | log (level : LogLevel) (message : String)
deriving DecidableEq, Repr

inductive Fetched where
  | failed
  | answered (value : Option Json)

/-- What the editor answers: whether it registered, the settings, and nothing to what it was only
    told. -/
abbrev Call.Answer : Call → Type
  | .registerConfiguration => Bool
  | .fetchSettings _ => Fetched
  | .publish .. | .externalTypesChanged | .log .. => Unit

end SchemaServer.Client
