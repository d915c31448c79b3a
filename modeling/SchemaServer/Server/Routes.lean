import SchemaServer.Protocol.Completion
import SchemaServer.Protocol.Negotiation
import SchemaServer.Protocol.Params
import SchemaServer.Protocol.Unanswered
import SchemaServer.Rpc

/-! # What the server does with a message

`route?` says for every method of an open connection how its parameters are read and what follows:
an event for the session, or an answer that needs no session. -/

namespace SchemaServer.Server

open Json (Shape)
open Protocol
open Session (Event)

inductive Route where
  /-- A notification, and the event it may be for the session. -/
  | notice (params : Shape (Option Event))
  | query (params : Shape Event)
  | answer (params : Shape (Except Rpc.Error Json))

/-- A request that the server has no answer to, once its parameters have been read. -/
def Route.lacking (params : Shape Json) : Route :=
  .answer (params.map fun _ => .error Rpc.Error.methodNotFound)

def Route.ignored : Route := .notice (Shape.any.map fun _ => none)

/-- The event of a change: the last text counts, and no text is no change. -/
def changeEvent (uri : String) (version : Int) (texts : List String) : Option Event :=
  texts.getLast?.map fun content => .changed uri content version

def noticeRoute? : String → Option Route
  | "initialized" => some (.notice (initializedParams.map fun _ => some .initialized))
  | "textDocument/didOpen" => some (.notice (openedParams.map fun (uri, version, content) =>
      some (.opened uri content version)))
  | "textDocument/didChange" => some (.notice (changedParams.map fun (uri, version, texts) =>
      changeEvent uri version texts))
  | "textDocument/didClose" => some (.notice (closedParams.map fun uri => some (.closed uri)))
  | "workspace/didChangeConfiguration" =>
    some (.notice (configurationChangedParams.map fun settings =>
      some (.configurationChanged settings)))
  | "workspace/didChangeWatchedFiles" =>
    some (.notice (watchedFilesParams.map fun _ => some .watchedFilesChanged))
  | "workspace/didChangeWorkspaceFolders" | "textDocument/willSave" | "textDocument/didSave"
  | "workspace/didCreateFiles" | "workspace/didRenameFiles" | "workspace/didDeleteFiles" =>
    some .ignored
  | _ => none

def queryRoute? (formatting : Bool) : String → Option Route
  | "textDocument/definition" =>
    some (.query (definitionParams.map fun (uri, position) => .definition uri position))
  | "textDocument/completion" =>
    some (.query (completionParams.map fun (uri, position) => .completion uri position))
  | "textDocument/formatting" =>
    if formatting then some (.query (formattingParams.map fun uri => .format uri))
    else some (.answer (formattingParams.map fun _ => .ok .null))
  | "completionItem/resolve" => some (.answer (completionForm.map fun item => .ok item))
  | "textDocument/codeAction" => some (.answer (codeActionParams.map fun _ => .ok .null))
  | _ => none

def lackingRoute? (method : String) : Option Route := (unansweredParams? method).map Route.lacking

def route? (formatting : Bool) (method : String) : Option Route :=
  ((noticeRoute? method).or (queryRoute? formatting method)).or (lackingRoute? method)

def readParams {α : Type} (shape : Shape α) : Option Json → Except Rpc.Error α
  | none => .error (.invalidParams "Missing params field")
  | some params =>
    match shape.ofJson params with
    | .ok value => .ok value
    | .error fault => .error (.invalidParams fault.message)

end SchemaServer.Server
