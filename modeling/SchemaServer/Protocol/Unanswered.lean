import SchemaServer.Protocol.Params

/-! # Requests without an answer

Editors may send many requests that the server has no answer to.  It says so only after it has read
their parameters: `unansweredParams?` gives their form for each of these methods. -/

namespace SchemaServer.Protocol

open Json (Shape)

/-! ## Calls and types -/

/-- A function or a type in a hierarchy; `tags` is the form of its tags. -/
def hierarchyItemForm (name : String) (tags : Shape Json) : Shape Json :=
  normalRecord name [.always "name" textForm, .always "kind" integerForm, .sometimes "tags" tags,
    .sometimes "detail" textForm, .always "uri" urlForm, .always "range" rangeForm,
    .always "selectionRange" rangeForm, .sometimes "data" .any]

def callItemForm : Shape Json := hierarchyItemForm "CallHierarchyItem" (listForm integerForm)

def typeItemForm : Shape Json := hierarchyItemForm "TypeHierarchyItem" integerForm

/-! ## Help with parameters -/

/-- A parameter by its text, or by where it stands in the text of a function. -/
def parameterLabelForm : Shape Json :=
  union "ParameterLabel" [textForm, (Shape.pair countForm countForm).map fun (a, b) => .array [a, b]]

def signatureHelpForm : Shape Json :=
  normalRecord "SignatureHelp"
    [.always "signatures" (listForm (normalRecord "SignatureInformation"
      [.always "label" textForm, .sometimes "documentation" documentationForm,
        .sometimes "parameters" (listForm (normalRecord "ParameterInformation"
          [.always "label" parameterLabelForm, .sometimes "documentation" documentationForm])),
        .sometimes "activeParameter" countForm])),
      .sometimes "activeSignature" countForm, .sometimes "activeParameter" countForm]

def signatureContextForm : Shape Json :=
  normalRecord "SignatureHelpContext" [.always "triggerKind" integerForm,
    .sometimes "triggerCharacter" textForm, .always "isRetrigger" booleanForm,
    .sometimes "activeSignatureHelp" signatureHelpForm]

/-! ## Things to be completed later -/

def documentLinkForm : Shape Json :=
  normalRecord "DocumentLink" [.always "range" rangeForm, .sometimes "target" urlForm,
    .sometimes "tooltip" textForm, .sometimes "data" .any]

def codeLensForm : Shape Json :=
  normalRecord "CodeLens" [.always "range" rangeForm, .sometimes "command" commandForm,
    .sometimes "data" .any]

def inlayHintForm : Shape Json :=
  normalRecord "InlayHint" [.always "position" positionForm,
    .always "label" (union "InlayHintLabel" [textForm, listForm (normalRecord "InlayHintLabelPart"
      [.always "value" textForm,
        .sometimes "tooltip" (describedForm "InlayHintLabelPartTooltip"),
        .sometimes "location" locationForm, .sometimes "command" commandForm])]),
    .sometimes "kind" integerForm, .sometimes "textEdits" (listForm editForm),
    .sometimes "tooltip" (describedForm "InlayHintTooltip"), .sometimes "paddingLeft" booleanForm,
    .sometimes "paddingRight" booleanForm, .sometimes "data" .any]

def codeActionForm : Shape Json :=
  normalRecord "CodeAction" [.always "title" textForm, .sometimes "kind" textForm,
    .sometimes "diagnostics" (listForm shownDiagnosticForm), .sometimes "edit" workspaceEditForm,
    .sometimes "command" commandForm, .sometimes "isPreferred" booleanForm,
    .sometimes "disabled" (normalRecord "CodeActionDisabled" [.always "reason" textForm]),
    .sometimes "data" .any]

def workspaceSymbolForm : Shape Json :=
  normalRecord "WorkspaceSymbol" [.always "name" textForm, .always "kind" integerForm,
    .sometimes "tags" (listForm integerForm), .sometimes "containerName" textForm,
    .always "location" (union "OneOf" [locationForm,
      normalRecord "WorkspaceLocation" [.always "uri" urlForm]]),
    .sometimes "data" .any]

def colorForm : Shape Json :=
  normalRecord "Color" [.always "red" numberForm, .always "green" numberForm,
    .always "blue" numberForm, .always "alpha" numberForm]

/-! ## Parameters by method -/

def optionsMember : Member := .always "options" (formattingOptions.map fun () => .null)

def documentMember : Member := .always "textDocument" documentForm

def rangeMember : Member := .always "range" rangeForm

def bothTokens : List Shared := [.progress, .parts]

def unansweredPlace? : String → Option (Shape Json)
  | "textDocument/hover" => some (only "HoverParams" [.place, .progress])
  | "textDocument/declaration" | "textDocument/typeDefinition" | "textDocument/implementation" =>
    some (only "GotoDefinitionParams" (.place :: bothTokens))
  | "textDocument/documentHighlight" => some (only "DocumentHighlightParams" (.place :: bothTokens))
  | "textDocument/moniker" => some (only "MonikerParams" (.place :: bothTokens))
  | "textDocument/linkedEditingRange" => some (only "LinkedEditingRangeParams" [.place, .progress])
  | "textDocument/prepareCallHierarchy" =>
    some (only "CallHierarchyPrepareParams" [.place, .progress])
  | "textDocument/prepareTypeHierarchy" =>
    some (only "TypeHierarchyPrepareParams" [.place, .progress])
  | "textDocument/references" =>
    some (sharing "ReferenceParams" (normalMembers [.always "context"
      (normalRecord "ReferenceContext" [.always "includeDeclaration" booleanForm])])
      (.place :: bothTokens))
  | "textDocument/rename" =>
    some (sharing "RenameParams" (normalMembers [.always "newName" textForm]) [.place, .progress])
  | "textDocument/signatureHelp" =>
    some (sharing "SignatureHelpParams"
      (normalMembers [.sometimes "context" signatureContextForm]) [.place, .progress])
  | "textDocument/onTypeFormatting" =>
    some (sharing "DocumentOnTypeFormattingParams"
      (normalMembers [.always "ch" textForm, optionsMember]) [.place])
  | "textDocument/prepareRename" =>
    some (normalRecord "TextDocumentPositionParams"
      [documentMember, .always "position" positionForm])
  | _ => none
where
  only (name : String) (shared : List Shared) : Shape Json := sharing name (normalMembers []) shared

def unansweredDocument? : String → Option (Shape Json)
  | "textDocument/codeLens" => some (document "CodeLensParams" [] bothTokens)
  | "textDocument/foldingRange" => some (document "FoldingRangeParams" [] bothTokens)
  | "textDocument/documentSymbol" => some (document "DocumentSymbolParams" [] bothTokens)
  | "textDocument/documentLink" => some (document "DocumentLinkParams" [] bothTokens)
  | "textDocument/documentColor" => some (document "DocumentColorParams" [] bothTokens)
  | "textDocument/semanticTokens/full" => some (document "SemanticTokensParams" [] bothTokens)
  | "textDocument/semanticTokens/full/delta" =>
    some (document "SemanticTokensDeltaParams" [.always "previousResultId" textForm] bothTokens)
  | "textDocument/semanticTokens/range" =>
    some (document "SemanticTokensRangeParams" [rangeMember] bothTokens)
  | "textDocument/selectionRange" =>
    some (document "SelectionRangeParams" [.always "positions" (listForm positionForm)] bothTokens)
  | "textDocument/inlineValue" =>
    some (document "InlineValueParams" [rangeMember,
      .always "context" (normalRecord "InlineValueContext"
        [.always "frameId" integerForm, .always "stoppedLocation" rangeForm])] [.progress])
  | "textDocument/inlayHint" => some (document "InlayHintParams" [rangeMember] [.progress])
  | "textDocument/diagnostic" =>
    some (document "DocumentDiagnosticParams"
      [.sometimes "identifier" textForm, .sometimes "previousResultId" textForm] bothTokens)
  | "textDocument/colorPresentation" =>
    some (document "ColorPresentationParams" [.always "color" colorForm, rangeMember] bothTokens)
  | "textDocument/rangeFormatting" =>
    some (document "DocumentRangeFormattingParams" [rangeMember, optionsMember] [.progress])
  | "textDocument/willSaveWaitUntil" =>
    some (normalRecord "WillSaveTextDocumentParams"
      [documentMember, .always "reason" integerForm])
  | _ => none
where
  document (name : String) (own : List Member) (shared : List Shared) : Shape Json :=
    sharing name (normalMembers (documentMember :: own)) shared

def unansweredWorkspace? : String → Option (Shape Json)
  | "workspace/symbol" =>
    some (sharing "WorkspaceSymbolParams" (normalMembers [.always "query" textForm]) bothTokens)
  | "workspace/diagnostic" =>
    some (sharing "WorkspaceDiagnosticParams" (normalMembers [.sometimes "identifier" textForm,
      .always "previousResultIds" (listForm (normalRecord "PreviousResultId"
        [.always "uri" urlForm, .always "value" textForm]))]) bothTokens)
  | "workspace/executeCommand" =>
    some (sharing "ExecuteCommandParams" (normalMembers [.always "command" textForm,
      .lenient "arguments" (listForm .any)]) [.progress])
  | "workspace/willCreateFiles" => some (files "CreateFilesParams" "FileCreate" ["uri"])
  | "workspace/willRenameFiles" => some (files "RenameFilesParams" "FileRename" ["oldUri", "newUri"])
  | "workspace/willDeleteFiles" => some (files "DeleteFilesParams" "FileDelete" ["uri"])
  | _ => none
where
  files (name item : String) (keys : List String) : Shape Json :=
    normalRecord name [.always "files" (listForm
      (normalRecord item (keys.map fun key => .always key textForm)))]

/-- The parameters of requests about something that the server sent before. -/
def unansweredItem? : String → Option (Shape Json)
  | "callHierarchy/incomingCalls" => some (item "CallHierarchyIncomingCallsParams" callItemForm)
  | "callHierarchy/outgoingCalls" => some (item "CallHierarchyOutgoingCallsParams" callItemForm)
  | "typeHierarchy/supertypes" => some (item "TypeHierarchySupertypesParams" typeItemForm)
  | "typeHierarchy/subtypes" => some (item "TypeHierarchySubtypesParams" typeItemForm)
  | "documentLink/resolve" => some documentLinkForm
  | "codeLens/resolve" => some codeLensForm
  | "inlayHint/resolve" => some inlayHintForm
  | "codeAction/resolve" => some codeActionForm
  | "workspaceSymbol/resolve" => some workspaceSymbolForm
  | _ => none
where
  item (name : String) (form : Shape Json) : Shape Json :=
    sharing name (normalMembers [.always "item" form]) bothTokens

/-- The parameters of a request that the server has no answer to. -/
def unansweredParams? (method : String) : Option (Shape Json) :=
  (unansweredPlace? method).or <| (unansweredDocument? method).or <|
    (unansweredWorkspace? method).or (unansweredItem? method)

end SchemaServer.Protocol
