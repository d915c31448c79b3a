import SchemaServer.Protocol.Edit

/-! # Parameters of the editor's messages

The shapes of the parameters that the server reads.  Parameters that name a document and a place
among other fields are objects only; the rest may also be lists of their fields in order. -/

namespace SchemaServer.Protocol

open Json (Shape Fields Fault)

/-! ## Notifications -/

def initializedParams : Shape Unit := .record "InitializedParams" .nil

def openedParams : Shape (String × Int × String) :=
  (Shape.record "DidOpenTextDocumentParams" <|
    .required "textDocument" (Shape.record "TextDocumentItem" <|
      .required "uri" url <| .required "languageId" .text <| .required "version" integer32 <|
      .required "text" .text .nil) .nil).map
    fun ((uri, _, version, content, ()), ()) => (uri, version, content)

/-- The texts that a document had in turn: its URI, version and those texts. -/
def changedParams : Shape (String × Int × List String) :=
  (Shape.record "DidChangeTextDocumentParams" <|
    .required "textDocument" (Shape.record "VersionedTextDocumentIdentifier" <|
      .required "uri" url <| .required "version" integer32 .nil) <|
    .required "contentChanges" (.list <| Shape.record "TextDocumentContentChangeEvent" <|
      .optional "range" Range.shape <| .optional "rangeLength" Json.word32 <|
      .required "text" .text .nil) .nil).map
    fun ((uri, version, ()), changes, ()) =>
      (uri, version, changes.map fun (_, _, content, ()) => content)

def closedParams : Shape String :=
  (Shape.record "DidCloseTextDocumentParams" (.required "textDocument" textDocument .nil)).map
    Prod.fst

def configurationChangedParams : Shape Json :=
  (Shape.record "DidChangeConfigurationParams" (.required "settings" .any .nil)).map Prod.fst

/-- Changed files; which ones does not matter. -/
def watchedFilesParams : Shape Unit :=
  (Shape.record "DidChangeWatchedFilesParams" <|
    .required "changes" (.list <| Shape.record "FileEvent" <|
      .required "uri" url <| .required "type" integer32 .nil) .nil).map fun _ => ()

def cancelParams : Shape Json :=
  (Shape.record "CancelParams" (.required "id" token .nil)).map Prod.fst

/-! ## Requests about a place -/

def objectOnly {α : Type} (name : String) (read : List (String × Json) → Except Fault α) : Shape α :=
  .ofTree fun
    | .object members => read members
    | value => Json.unexpected value (Json.recordTitle name)

inductive Shared where
  | place
  | progress
  | parts
deriving DecidableEq, Repr

def Shared.check (members : List (String × Json)) : Shared → Except Fault Unit
  | .place => do let _ ← documentPosition.ofMembers members
  | .progress => do let _ ← workDone.ofMembers members
  | .parts => do let _ ← partialResult.ofMembers members

/-- Parameters with fields of their own and, read after them, shared ones. -/
def sharing {α : Type} (name : String) (own : List (String × Json) → Except Fault α)
    (shared : List Shared) : Shape α :=
  objectOnly name fun members => do
    let a ← own members
    shared.forM (Shared.check members)
    return a

/-- A document and a place, next to the tokens for progress and, if `partly`, for parts of a
    result. -/
def placeParams (name : String) (partly : Bool) : Shape (String × Position) :=
  sharing name (fun members => do
    let (uri, position, ()) ← documentPosition.ofMembers members
    return (uri, position)) (if partly then [.progress, .parts] else [.progress])

def definitionParams : Shape (String × Position) := placeParams "GotoDefinitionParams" true

def completionContext :=
  Shape.record "CompletionContext" <|
    .required "triggerKind" integer32 <| .optional "triggerCharacter" .text .nil

def completionParams : Shape (String × Position) :=
  objectOnly "CompletionParams" fun members => do
    let _ ← (Fields.optional "context" completionContext .nil).ofMembers members
    (placeParams "CompletionParams" true).ofJson (.object members)

/-! ## Formatting -/

def knownOptions : List String :=
  ["tabSize", "insertSpaces", "trimTrailingWhitespace", "insertFinalNewline", "trimFinalNewlines"]

def freeOption : Shape Json :=
  union "FormattingProperty" [boolean.map .bool, integer32.map .int, Shape.text.map .text]

/-- Layout options.  The server leaves layout to the analyzer and only checks them. -/
def formattingOptions : Shape Unit :=
  objectOnly "FormattingOptions" fun members => do
    let known := Fields.required "tabSize" Json.word32 <| .required "insertSpaces" boolean <|
      .optional "trimTrailingWhitespace" boolean <| .optional "insertFinalNewline" boolean <|
      .optional "trimFinalNewlines" boolean .nil
    let _ ← known.ofMembers members
    let free := members.filter fun (key, _) => !knownOptions.contains key
    let _ ← free.mapM fun (_, value) => freeOption.ofJson value
    return ()

def formattingParams : Shape String :=
  sharing "DocumentFormattingParams" (fun members => do
    let own := Fields.required "textDocument" textDocument <|
      .required "options" formattingOptions .nil
    let (uri, _, ()) ← own.ofMembers members
    return uri) [.progress]

def codeActionParams : Shape Json :=
  sharing "CodeActionParams" (normalMembers [.always "textDocument" documentForm,
    .always "range" rangeForm,
    .always "context" (normalRecord "CodeActionContext"
      [.always "diagnostics" (listForm shownDiagnosticForm),
        .sometimes "only" (listForm textForm), .sometimes "triggerKind" integerForm])])
    [.progress, .parts]

end SchemaServer.Protocol
