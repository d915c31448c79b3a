import SchemaServer.Contract

/-! # What a session reports

Problems, definition targets and completions in editor coordinates, as a session hands them on. -/

namespace SchemaServer

structure Diagnostic where
  range : Range
  severity : Severity
  message : String
deriving DecidableEq, Repr

namespace Diagnostic

def ofItem (i : LintItem) : Diagnostic := ⟨i.span.toRange, i.severity, i.message⟩

def shape : Json.Shape Diagnostic :=
  (Json.Shape.record "Diagnostic" <|
    .required "range" Range.shape <| .required "severity" Severity.shape <|
    .required "message" .text .nil).map
    fun (range, severity, message, ()) => ⟨range, severity, message⟩

def toJson (d : Diagnostic) : Json :=
  .object [("message", .text d.message), ("range", d.range.toJson),
    ("severity", d.severity.toJson)]

end Diagnostic

structure DefinitionLink where
  targetPath : String
  /-- The whole definition. -/
  target : Range
  /-- The defined name. -/
  selection : Range
  /-- The name that was asked about. -/
  origin : Range
deriving DecidableEq, Repr

namespace DefinitionLink

def shape : Json.Shape DefinitionLink :=
  (Json.Shape.record "DefinitionLink" <|
    .required "target_path" .text <| .required "target_range" Range.shape <|
    .required "target_selection_range" Range.shape <|
    .required "origin_selection_range" Range.shape .nil).map
    fun (targetPath, target, selection, origin, ()) => ⟨targetPath, target, selection, origin⟩

def toJson (l : DefinitionLink) : Json :=
  .object [("origin_selection_range", l.origin.toJson), ("target_path", .text l.targetPath),
    ("target_range", l.target.toJson), ("target_selection_range", l.selection.toJson)]

end DefinitionLink

structure CompletionItem where
  label : String
  namespacePath : Option String
  documentation : Option String
  detail : Option String
deriving DecidableEq, Repr

namespace CompletionItem

def ofLabel (label : String) : CompletionItem := ⟨label, none, none, none⟩

def ofEntry (e : CompletionEntry) : CompletionItem :=
  ⟨e.label, e.namespacePath, e.documentation, e.detail⟩

/-- The JSON form of a completion; given as a list it has all its fields. -/
def shape : Json.Shape CompletionItem :=
  (Json.Shape.record "CompletionItem" <|
    .required "label" .text <| .keyed "namespace_path" (.optional .text) none <|
    .keyed "documentation" (.optional .text) none <|
    .keyed "detail" (.optional .text) none .nil).map
    fun (label, namespacePath, documentation, detail, ()) =>
      ⟨label, namespacePath, documentation, detail⟩

def toJson (i : CompletionItem) : Json :=
  .object [("detail", .ofText? i.detail), ("documentation", .ofText? i.documentation),
    ("label", .text i.label), ("namespace_path", .ofText? i.namespacePath)]

end CompletionItem

end SchemaServer
