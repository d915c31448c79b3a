import SchemaServer.Protocol.Edit

/-! # What editors can do

The normal forms of the capabilities that the server checks and does not use.  Most of them say
whether the editor can be told later which documents are of interest, and which values of a kind it
knows. -/

namespace SchemaServer.Protocol

open Json (Shape)

/-! ## Recurring parts -/

def flagMember (key : String) : Member := .sometimes key booleanForm

/-- The field that says whether the editor can be told later which documents are of interest. -/
def dynamicMember : Member := flagMember "dynamicRegistration"

def flagsForm (name : String) (keys : List String) : Shape Json :=
  normalRecord name (keys.map flagMember)

/-- A capability that says no more than whether it can be registered later. -/
def registrableForm : Shape Json :=
  normalRecord "DynamicRegistrationClientCapabilities" [dynamicMember]

/-- A capability that says no more than whether the editor asks again on request. -/
def refreshForm (name : String) : Shape Json := flagsForm name ["refreshSupport"]

def laterForm (name : String) : Shape Json :=
  normalRecord name [.always "properties" (listForm textForm)]

/-- The tags that the editor knows; older editors give a truth value instead. -/
def tagsForm : Shape Json :=
  .ofTree fun
    | .null => .ok .null
    | .bool b => .ok (.bool b)
    | value => (normalRecord "TagSupport" [.always "valueSet" (listForm integerForm)]).ofJson value

def tagsMember : Member := .lenient "tagSupport" tagsForm

def symbolKindsForm : Shape Json :=
  normalRecord "SymbolKindCapability" [.sometimes "valueSet" (listForm integerForm)]

def markupKindsForm : Shape Json := listForm markupKindForm

/-! ## The workspace -/

def workspaceEditCapability : Shape Json :=
  normalRecord "WorkspaceEditClientCapabilities" [flagMember "documentChanges",
    .sometimes "resourceOperations" (listForm (nameForm ["create", "rename", "delete"])),
    .sometimes "failureHandling"
      (nameForm ["abort", "transactional", "textOnlyTransactional", "undo"]),
    flagMember "normalizesLineEndings",
    .sometimes "changeAnnotationSupport"
      (flagsForm "ChangeAnnotationWorkspaceEditClientCapabilities" ["groupsOnLabel"])]

def watchedFilesCapability : Shape Json :=
  flagsForm "DidChangeWatchedFilesClientCapabilities"
    ["dynamicRegistration", "relativePatternSupport"]

def workspaceSymbolCapability : Shape Json :=
  normalRecord "WorkspaceSymbolClientCapabilities" [dynamicMember,
    .sometimes "symbolKind" symbolKindsForm, tagsMember,
    .sometimes "resolveSupport" (laterForm "WorkspaceSymbolResolveSupportCapability")]

def fileOperationsCapability : Shape Json :=
  flagsForm "WorkspaceFileOperationsClientCapabilities" ["dynamicRegistration", "didCreate",
    "willCreate", "didRename", "willRename", "didDelete", "willDelete"]

/-! ## Documents -/

def synchronizationCapability : Shape Json :=
  flagsForm "TextDocumentSyncClientCapabilities"
    ["dynamicRegistration", "willSave", "willSaveWaitUntil", "didSave"]

def completionItemCapability : Shape Json :=
  normalRecord "CompletionItemCapability" [flagMember "snippetSupport",
    flagMember "commitCharactersSupport", .sometimes "documentationFormat" markupKindsForm,
    flagMember "deprecatedSupport", flagMember "preselectSupport", tagsMember,
    flagMember "insertReplaceSupport",
    .sometimes "resolveSupport" (laterForm "CompletionItemCapabilityResolveSupport"),
    .sometimes "insertTextModeSupport" (normalRecord "InsertTextModeSupport"
      [.always "valueSet" (listForm integerForm)]),
    flagMember "labelDetailsSupport"]

def completionCapability : Shape Json :=
  normalRecord "CompletionClientCapabilities" [dynamicMember,
    .sometimes "completionItem" completionItemCapability,
    .sometimes "completionItemKind" (normalRecord "CompletionItemKindCapability"
      [.sometimes "valueSet" (listForm integerForm)]),
    flagMember "contextSupport", .sometimes "insertTextMode" integerForm,
    .sometimes "completionList" (normalRecord "CompletionListCapability"
      [.sometimes "itemDefaults" (listForm textForm)])]

def hoverCapability : Shape Json :=
  normalRecord "HoverClientCapabilities"
    [dynamicMember, .sometimes "contentFormat" markupKindsForm]

def signatureHelpCapability : Shape Json :=
  normalRecord "SignatureHelpClientCapabilities" [dynamicMember,
    .sometimes "signatureInformation" (normalRecord "SignatureInformationSettings"
      [.sometimes "documentationFormat" markupKindsForm,
        .sometimes "parameterInformation"
          (flagsForm "ParameterInformationSettings" ["labelOffsetSupport"]),
        flagMember "activeParameterSupport"]),
    flagMember "contextSupport"]

def documentSymbolCapability : Shape Json :=
  normalRecord "DocumentSymbolClientCapabilities" [dynamicMember,
    .sometimes "symbolKind" symbolKindsForm, flagMember "hierarchicalDocumentSymbolSupport",
    tagsMember]

def gotoCapability : Shape Json :=
  flagsForm "GotoCapability" ["dynamicRegistration", "linkSupport"]

def documentLinkCapability : Shape Json :=
  flagsForm "DocumentLinkClientCapabilities" ["dynamicRegistration", "tooltipSupport"]

def renameCapability : Shape Json :=
  normalRecord "RenameClientCapabilities" [dynamicMember, flagMember "prepareSupport",
    .sometimes "prepareSupportDefaultBehavior" integerForm, flagMember "honorsChangeAnnotations"]

def foldingRangeCapability : Shape Json :=
  normalRecord "FoldingRangeClientCapabilities" [dynamicMember,
    .sometimes "rangeLimit" countForm, flagMember "lineFoldingOnly",
    .sometimes "foldingRangeKind" (normalRecord "FoldingRangeKindCapability"
      [.sometimes "valueSet" (listForm (nameForm ["comment", "imports", "region"]))]),
    .sometimes "foldingRange" (flagsForm "FoldingRangeCapability" ["collapsedText"])]

def selectionRangeCapability : Shape Json :=
  normalRecord "SelectionRangeClientCapabilities" [dynamicMember]

/-- Whether the editor asks for the tokens of a whole document: a truth value, or an object that says
    whether it takes changes. -/
def fullTokensForm : Shape Json :=
  union "SemanticTokensFullOptions" [booleanForm, .ofTree fun
    | .object fields => normalMembers [flagMember "delta"] fields
    | value => Json.unexpected value "struct variant SemanticTokensFullOptions::Delta"]

def semanticTokensCapability : Shape Json :=
  normalRecord "SemanticTokensClientCapabilities" [dynamicMember,
    .always "requests" (normalRecord "SemanticTokensClientCapabilitiesRequests"
      [flagMember "range", .sometimes "full" fullTokensForm]),
    .always "tokenTypes" (listForm textForm), .always "tokenModifiers" (listForm textForm),
    .always "formats" (listForm textForm), flagMember "overlappingTokenSupport",
    flagMember "multilineTokenSupport", flagMember "serverCancelSupport",
    flagMember "augmentsSyntaxTokens"]

def inlayHintCapability : Shape Json :=
  normalRecord "InlayHintClientCapabilities" [dynamicMember,
    .sometimes "resolveSupport" (laterForm "InlayHintResolveClientCapabilities")]

def diagnosticCapability : Shape Json :=
  flagsForm "DiagnosticClientCapabilities" ["dynamicRegistration", "relatedDocumentSupport"]

/-! ## Windows and the rest -/

def windowCapability : Shape Json :=
  normalRecord "WindowClientCapabilities" [flagMember "workDoneProgress",
    .sometimes "showMessage" (normalRecord "ShowMessageRequestClientCapabilities"
      [.sometimes "messageActionItem"
        (flagsForm "MessageActionItemCapabilities" ["additionalPropertiesSupport"])]),
    .sometimes "showDocument" (normalRecord "ShowDocumentClientCapabilities"
      [.always "support" booleanForm])]

def generalCapability : Shape Json :=
  normalRecord "GeneralClientCapabilities"
    [.sometimes "regularExpressions" (normalRecord "RegularExpressionsClientCapabilities"
      [.always "engine" textForm, .sometimes "version" textForm]),
      .sometimes "markdown" (normalRecord "MarkdownClientCapabilities"
        [.always "parser" textForm, .sometimes "version" textForm,
          .sometimes "allowedTags" (listForm textForm)]),
      .sometimes "staleRequestSupport" (normalRecord "StaleRequestSupportClientCapabilities"
        [.always "cancel" booleanForm,
          .always "retryOnContentModified" (listForm textForm)]),
      .sometimes "positionEncodings" (listForm textForm)]

end SchemaServer.Protocol
