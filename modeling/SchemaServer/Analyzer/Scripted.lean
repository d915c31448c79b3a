import SchemaServer.Analyzer

/-! # A scripted analyzer

An analyzer that gives fixed answers and records every call, for trying out a session without the
schema language.  A call is recorded before it fails. -/

namespace SchemaServer.Analyzer

/-- Fixed answers, and the calls made so far. -/
structure Scripted where
  lint : String := "[]"
  definitions : Json := .array []
  completions : Json := .array []
  format : String := ""
  /-- If set, every call fails for this reason. -/
  failure? : Option String := none
  calls : List Call := []

namespace Scripted

def reply (s : Scripted) : (call : Call) → call.Answer
  | .lint .. => s.lint
  | .findDefinitions .. => s.definitions
  | .completionItems .. => s.completions
  | .removeCachedSchema .. => ()
  | .formatDocument .. => s.format

def answer (call : Call) : StateM Scripted (Outcome call.Answer) := do
  let s ← get
  set { s with calls := s.calls ++ [call] }
  match s.failure? with
  | some reason => return .error (.failed call.operation reason)
  | none => return .ok (s.reply call)

def lintedPaths (s : Scripted) : List String :=
  (s.calls.filter (·.operation = .lint)).map Call.path

def evictedPaths (s : Scripted) : List String :=
  (s.calls.filter (·.operation = .removeCachedSchema)).map Call.path

end Scripted

def Call.toJson (c : Call) : Json :=
  let files := match c.files? with
    | some files => [("files", files.toJson)]
    | none => []
  let position := match c.position? with
    | some position => [("position", position.toJson)]
    | none => []
  .ofFields ([("call", .text c.operation.name), ("path", .text c.path)] ++ files ++ position)

end SchemaServer.Analyzer
