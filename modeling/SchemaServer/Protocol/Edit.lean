import SchemaServer.Protocol.Record

/-! # Texts, edits and places

The normal forms of what completions, code actions and hints are made of: texts with markup, edits
of a document or of the whole workspace, commands, and places in documents. -/

namespace SchemaServer.Protocol

open Json (Shape)

/-! ## Texts with markup -/

def markupKindForm : Shape Json := nameForm ["plaintext", "markdown"]

def markupForm : Shape Json :=
  normalRecord "MarkupContent" [.always "kind" markupKindForm, .always "value" textForm]

/-- Text with or without markup; `name` says what it is for. -/
def describedForm (name : String) : Shape Json := union name [textForm, markupForm]

def documentationForm : Shape Json := describedForm "Documentation"

/-! ## Places -/

def documentForm : Shape Json := normalRecord "TextDocumentIdentifier" [.always "uri" urlForm]

def locationForm : Shape Json :=
  normalRecord "Location" [.always "uri" urlForm, .always "range" rangeForm]

def shownDiagnosticForm : Shape Json :=
  normalRecord "Diagnostic" [.always "range" rangeForm, .sometimes "severity" integerForm,
    .sometimes "code" token,
    .sometimes "codeDescription" (normalRecord "CodeDescription" [.always "href" urlForm]),
    .sometimes "source" textForm, .always "message" textForm,
    .sometimes "relatedInformation" (listForm (normalRecord "DiagnosticRelatedInformation"
      [.always "location" locationForm, .always "message" textForm])),
    .sometimes "tags" (listForm integerForm), .sometimes "data" .any]

/-! ## Edits of a document -/

def editForm : Shape Json :=
  normalRecord "TextEdit" [.always "range" rangeForm, .always "newText" textForm]

/-- The edit of a completion: one stretch of text, or one to insert at and one to replace. -/
def completionEditForm : Shape Json :=
  union "CompletionTextEdit" [editForm, normalRecord "InsertReplaceEdit"
    [.always "newText" textForm, .always "insert" rangeForm, .always "replace" rangeForm]]

def commandForm : Shape Json :=
  normalRecord "Command" [.always "title" textForm, .always "command" textForm,
    .sometimes "arguments" (listForm .any)]

/-! ## Edits of the workspace -/

def documentEditForm : Shape Json :=
  normalRecord "TextDocumentEdit"
    [.always "textDocument" (normalRecord "OptionalVersionedTextDocumentIdentifier"
      [.always "uri" urlForm, .sometimes "version" integerForm]),
      .always "edits" (listForm editForm)]

/-- The kinds of change to a file, and the fields of each. -/
def fileChanges : List (String × String × List Member) :=
  [("create", "CreateFile", [.always "uri" urlForm,
      .sometimes "options" (normalRecord "CreateFileOptions"
        [.sometimes "overwrite" booleanForm, .sometimes "ignoreIfExists" booleanForm]),
      .sometimes "annotationId" textForm]),
    ("rename", "RenameFile", [.always "oldUri" urlForm, .always "newUri" urlForm,
      .sometimes "options" (normalRecord "RenameFileOptions"
        [.sometimes "overwrite" booleanForm, .sometimes "ignoreIfExists" booleanForm]),
      .sometimes "annotationId" textForm]),
    ("delete", "DeleteFile", [.always "uri" urlForm,
      .sometimes "options" (normalRecord "DeleteFileOptions"
        [.sometimes "recursive" booleanForm, .sometimes "ignoreIfNotExists" booleanForm,
          .sometimes "annotationId" textForm])])]

/-- The kind of change that a tag names, by its name or its number. -/
def fileChange? : Json → Option (String × String × List Member)
  | .text name => fileChanges.find? (·.1 == name)
  | .number (.int i) => if 0 ≤ i then fileChanges[i.toNat]? else none
  | _ => none

/-- A change to a file: an object whose kind is one of its fields, or a list that starts with it. -/
def fileChangeForm : Shape Json :=
  .ofTree fun value => do
    let (tag, rest) ← match value with
      | .object fields => match (Json.object fields).field? "kind" with
        | some tag => .ok (tag, .object (fields.filter (·.1 != "kind")))
        | none => .error (.missingField "kind")
      | .array (tag :: rest) => .ok (tag, .array rest)
      | value => Json.unexpected value "internally tagged enum ResourceOp"
    match fileChange? tag with
    | some (_, name, members) => (normalRecord name members).ofJson rest
    | none => .error (.noVariant "ResourceOp")

def documentChangesForm : Shape Json :=
  union "DocumentChanges" [listForm documentEditForm,
    listForm (union "DocumentChangeOperation" [fileChangeForm, documentEditForm])]

def changesForm : Shape Json :=
  (Shape.optional (mapForm "map" urlForm (listForm editForm))).map fun changes => changes.getD .null

def workspaceEditForm : Shape Json :=
  normalRecord "WorkspaceEdit" [.lenient "changes" changesForm,
    .sometimes "documentChanges" documentChangesForm,
    .sometimes "changeAnnotations" (mapForm "a map" textForm (normalRecord "ChangeAnnotation"
      [.always "label" textForm, .sometimes "needsConfirmation" booleanForm,
        .sometimes "description" textForm]))]

end SchemaServer.Protocol
