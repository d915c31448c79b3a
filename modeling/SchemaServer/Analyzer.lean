import SchemaServer.Contract
import SchemaServer.Json.Fault
import SchemaServer.Snapshot

/-! # The analyzer

The program that knows the schema language is not part of this library: the server puts calls to it
and gets answers.  A call names a document by its path and, but for an eviction, carries the texts of
all open documents. -/

namespace SchemaServer

inductive Operation where
  | lint
  | findDefinitions
  | completionItems
  | removeCachedSchema
  | formatDocument
deriving DecidableEq, Repr

def Operation.name : Operation → String
  | .lint => "lint"
  | .findDefinitions => "find_definitions"
  | .completionItems => "completion_items"
  | .removeCachedSchema => "remove_cached_schema"
  | .formatDocument => "format_document"

namespace Analyzer

inductive Call where
  | lint (path : String) (files : Snapshot)
  | findDefinitions (path : String) (files : Snapshot) (position : AnalyzerPosition)
  | completionItems (path : String) (files : Snapshot) (position : AnalyzerPosition)
  | removeCachedSchema (path : String)
  | formatDocument (path : String) (files : Snapshot)

namespace Call

def operation : Call → Operation
  | .lint .. => .lint
  | .findDefinitions .. => .findDefinitions
  | .completionItems .. => .completionItems
  | .removeCachedSchema .. => .removeCachedSchema
  | .formatDocument .. => .formatDocument

def path : Call → String
  | .lint path _ | .findDefinitions path _ _ | .completionItems path _ _
  | .removeCachedSchema path | .formatDocument path _ => path

def files? : Call → Option Snapshot
  | .lint _ files | .findDefinitions _ files _ | .completionItems _ files _
  | .formatDocument _ files => some files
  | .removeCachedSchema _ => none

def position? : Call → Option AnalyzerPosition
  | .findDefinitions _ _ position | .completionItems _ _ position => some position
  | .lint .. | .removeCachedSchema .. | .formatDocument .. => none

/-- What a call gives back when it succeeds: the problems as a text in JSON, definitions and
    completions as trees, the laid out text. -/
abbrev Answer : Call → Type
  | .lint .. | .formatDocument .. => String
  | .findDefinitions .. | .completionItems .. => Json
  | .removeCachedSchema .. => Unit

end Call

inductive Failure where
  /-- The analyzer could not be reached, or reported a failure. -/
  | failed (operation : Operation) (reason : String)
  /-- The analyzer answered, but not in the form it has to. -/
  | malformed (operation : Operation) (fault : Json.Fault)
deriving DecidableEq, Repr

def Failure.operation : Failure → Operation
  | .failed operation _ | .malformed operation _ => operation

def Failure.message : Failure → String
  | .failed operation reason => "analyzer " ++ operation.name ++ " failed: " ++ reason
  | .malformed operation fault =>
    "analyzer returned malformed output for " ++ operation.name ++ ": " ++ fault.message

abbrev Outcome (α : Type) : Type := Except Failure α

def decoded {α : Type} (operation : Operation) : Except Json.Fault α → Outcome α
  | .ok value => .ok value
  | .error fault => .error (.malformed operation fault)

end Analyzer

end SchemaServer
