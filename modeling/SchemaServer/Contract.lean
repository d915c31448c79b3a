import SchemaServer.Position

/-! # What the analyzer answers

The records in which an analyzer reports problems (`LintItem`), targets of a definition
(`DefinitionItem`) and completions (`CompletionEntry`), each with its JSON form. -/

namespace SchemaServer

inductive Severity where
  | error
  | warning
deriving DecidableEq, Repr, Inhabited

namespace Severity

def name : Severity → String
  | .error => "error"
  | .warning => "warning"

def code : Severity → Nat
  | .error => 1
  | .warning => 2

def shape : Json.Shape Severity := .choice [("error", .error), ("warning", .warning)]

def toJson (s : Severity) : Json := .text s.name

end Severity

structure LintItem where
  severity : Severity
  /-- The path of the file. -/
  source : String
  message : String
  span : Span
deriving DecidableEq, Repr

namespace LintItem

def shape : Json.Shape LintItem :=
  (Json.Shape.record "LintItem" <|
    .required "type" Severity.shape <| .required "source" .text <| .required "message" .text <|
    .required "span" Span.shape .nil).map
    fun (severity, source, message, span, ()) => ⟨severity, source, message, span⟩

def toJson (i : LintItem) : Json :=
  .object [("message", .text i.message), ("source", .text i.source), ("span", i.span.toJson),
    ("type", i.severity.toJson)]

end LintItem

structure DefinitionItem where
  path : String
  /-- The whole definition. -/
  target : Span
  /-- The defined name. -/
  identifier : Span
  /-- The name that was asked about. -/
  selection : Span
deriving DecidableEq, Repr

namespace DefinitionItem

def shape : Json.Shape DefinitionItem :=
  (Json.Shape.record "DefinitionItem" <|
    .required "path" .text <| .required "target_span" Span.shape <|
    .required "identifier_span" Span.shape <| .required "selection_span" Span.shape .nil).map
    fun (path, target, identifier, selection, ()) => ⟨path, target, identifier, selection⟩

def toJson (i : DefinitionItem) : Json :=
  .object [("identifier_span", i.identifier.toJson), ("path", .text i.path),
    ("selection_span", i.selection.toJson), ("target_span", i.target.toJson)]

end DefinitionItem

structure CompletionEntry where
  label : String
  namespacePath : Option String
  documentation : Option String
  detail : Option String
deriving DecidableEq, Repr

namespace CompletionEntry

/-- The JSON form of a proposal; all but its label may be left out. -/
def shape : Json.Shape CompletionEntry :=
  (Json.Shape.record "CompletionEntry" <|
    .required "label" .text <| .defaulted "namespace_path" (.optional .text) none <|
    .defaulted "documentation" (.optional .text) none <|
    .defaulted "detail" (.optional .text) none .nil).map
    fun (label, namespacePath, documentation, detail, ()) =>
      ⟨label, namespacePath, documentation, detail⟩

def toJson (e : CompletionEntry) : Json :=
  .object [("detail", .ofText? e.detail), ("documentation", .ofText? e.documentation),
    ("label", .text e.label), ("namespace_path", .ofText? e.namespacePath)]

end CompletionEntry

end SchemaServer
