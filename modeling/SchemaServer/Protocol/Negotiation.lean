import SchemaServer.Protocol.Capability
import SchemaServer.Session

/-! # Agreeing on capabilities

What the editor says it can do, as far as the server looks at it, and what the server says in
return. -/

namespace SchemaServer.Protocol

open Json (Shape Fields)

/-! ## What the editor says -/

def dynamicRegistration : Shape Bool :=
  (Shape.record "DynamicRegistrationClientCapabilities" <|
    .optional "dynamicRegistration" boolean .nil).map fun (flag, ()) => flag.getD false

/-- What the editor can do with a workspace: report changes of its configuration, have folders, say
    which settings hold. -/
def workspaceCapabilities : Shape (Bool × Bool × Bool) :=
  (Shape.record "WorkspaceClientCapabilities" <|
    .optional "applyEdit" boolean <| .optional "workspaceEdit" workspaceEditCapability <|
    .optional "didChangeConfiguration" dynamicRegistration <|
    .optional "didChangeWatchedFiles" watchedFilesCapability <|
    .optional "symbol" workspaceSymbolCapability <| .optional "executeCommand" registrableForm <|
    .optional "workspaceFolders" boolean <| .optional "configuration" boolean <|
    .optional "semanticTokens" (refreshForm "SemanticTokensWorkspaceClientCapabilities") <|
    .optional "codeLens" (refreshForm "CodeLensWorkspaceClientCapabilities") <|
    .optional "fileOperations" fileOperationsCapability <|
    .optional "inlineValue" (refreshForm "InlineValueWorkspaceClientCapabilities") <|
    .optional "inlayHint" (refreshForm "InlayHintWorkspaceClientCapabilities") <|
    .optional "diagnostic" (refreshForm "DiagnosticWorkspaceClientCapabilities") .nil).map
    fun (_, _, dynamic, _, _, _, folders, configuration, _) =>
      (dynamic.getD false, folders.getD false, configuration.getD false)

def codeActionKinds :=
  Shape.record "CodeActionKindLiteralSupport" (.required "valueSet" (.list .text) .nil)

def codeActionCapabilities : Shape Bool :=
  (Shape.record "CodeActionClientCapabilities" <|
    .optional "dynamicRegistration" boolean <|
    .optional "codeActionLiteralSupport"
      (Shape.record "CodeActionLiteralSupport" (.required "codeActionKind" codeActionKinds .nil)) <|
    .optional "isPreferredSupport" boolean <| .optional "disabledSupport" boolean <|
    .optional "dataSupport" boolean <|
    .optional "resolveSupport" (laterForm "CodeActionCapabilityResolveSupport") <|
    .optional "honorsChangeAnnotations" boolean .nil).map
    fun (_, literals, _) => literals.isSome

def publishCapabilities : Shape Bool :=
  (Shape.record "PublishDiagnosticsClientCapabilities" <|
    .optional "relatedInformation" boolean <| .defaulted "tagSupport" tagsForm .null <|
    .optional "versionSupport" boolean <| .optional "codeDescriptionSupport" boolean <|
    .optional "dataSupport" boolean .nil).map
    fun (related, _) => related.getD false

/-- What the editor can do with a document: take code actions as literals, show places related to a
    problem. -/
def textDocumentCapabilities : Shape (Bool × Bool) :=
  (Shape.record "TextDocumentClientCapabilities" <|
    .optional "synchronization" synchronizationCapability <|
    .optional "completion" completionCapability <| .optional "hover" hoverCapability <|
    .optional "signatureHelp" signatureHelpCapability <| .optional "references" registrableForm <|
    .optional "documentHighlight" registrableForm <|
    .optional "documentSymbol" documentSymbolCapability <|
    .optional "formatting" registrableForm <| .optional "rangeFormatting" registrableForm <|
    .optional "onTypeFormatting" registrableForm <| .optional "declaration" gotoCapability <|
    .optional "definition" gotoCapability <| .optional "typeDefinition" gotoCapability <|
    .optional "implementation" gotoCapability <| .optional "codeAction" codeActionCapabilities <|
    .optional "codeLens" registrableForm <| .optional "documentLink" documentLinkCapability <|
    .optional "colorProvider" registrableForm <| .optional "rename" renameCapability <|
    .optional "publishDiagnostics" publishCapabilities <|
    .optional "foldingRange" foldingRangeCapability <|
    .optional "selectionRange" selectionRangeCapability <|
    .optional "linkedEditingRange" registrableForm <| .optional "callHierarchy" registrableForm <|
    .optional "semanticTokens" semanticTokensCapability <| .optional "moniker" registrableForm <|
    .optional "typeHierarchy" registrableForm <| .optional "inlineValue" registrableForm <|
    .optional "inlayHint" inlayHintCapability <|
    .optional "diagnostic" diagnosticCapability .nil).map
    fun (_, _, _, _, _, _, _, _, _, _, _, _, _, _, action, _, _, _, _, publish, _) =>
      (action.getD false, publish.getD false)

def clientCapabilities : Shape Capabilities :=
  (Shape.record "ClientCapabilities" <|
    .optional "workspace" workspaceCapabilities <|
    .optional "textDocument" textDocumentCapabilities <|
    .optional "window" windowCapability <| .optional "general" generalCapability <|
    .optional "experimental" .any .nil).map
    fun (workspace, document, _) =>
      let (dynamic, folders, configuration) := workspace.getD (false, false, false)
      let (literals, related) := document.getD (false, false)
      { workspaceConfiguration := configuration
        dynamicConfiguration := dynamic
        workspaceFolders := folders
        codeActionLiterals := literals
        relatedInformation := related }

def connectParams : Shape Capabilities :=
  (Shape.record "InitializeParams" <|
    .optional "processId" Json.word32 <| .optional "rootPath" .text <|
    .defaulted "rootUri" (.optional url) none <| .optional "initializationOptions" .any <|
    .required "capabilities" clientCapabilities <|
    .defaulted "trace" (.optional (.choice [("off", ()), ("messages", ()), ("verbose", ())])) none <|
    .optional "workspaceFolders" (.list <| Shape.record "WorkspaceFolder" <|
      .required "uri" url <| .required "name" .text .nil) <|
    .optional "clientInfo" (Shape.record "ClientInfo" <|
      .required "name" .text <| .optional "version" .text .nil) <|
    .optional "locale" .text .nil).map
    fun (_, _, _, _, capabilities, _) => capabilities

/-! ## What the server says -/

def triggerCharacters : List String := ["@", "\"", ".", "$", ":"]

/-- The number by which editors know that every change carries the whole text. -/
def fullSync : Nat := 1

def serverCapabilities (capabilities : Capabilities) (formatting : Bool) : Json :=
  let whenSet (flag : Bool) (key : String) (value : Json) : List (String × Json) :=
    if flag then [(key, value)] else []
  .ofFields ([("textDocumentSync", .nat fullSync), ("definitionProvider", .bool true),
      ("completionProvider", .ofFields [("resolveProvider", .bool true),
        ("triggerCharacters", .array (triggerCharacters.map .text))])] ++
    whenSet formatting "documentFormattingProvider" (.bool true) ++
    whenSet capabilities.codeActionLiterals "codeActionProvider" (.bool true) ++
    whenSet capabilities.workspaceFolders "workspace" (.ofFields [("workspaceFolders",
      .ofFields [("supported", .bool true), ("changeNotifications", .bool true)])]))

def serverName : String := "teo-lsp"

def serverVersion : String := "0.1.0"

def connectResult (capabilities : Capabilities) (formatting : Bool) : Json :=
  .ofFields [("capabilities", serverCapabilities capabilities formatting),
    ("serverInfo", .ofFields [("name", .text serverName), ("version", .text serverVersion)])]

end SchemaServer.Protocol
