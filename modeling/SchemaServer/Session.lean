import SchemaServer.Gateway
import SchemaServer.Settings
import SchemaServer.Url.Parse

/-! # Sessions

A session holds the open documents, what the editor can do and the settings in force.  It handles
one event at a time, with all the questions the event leads to; `Session.handle` is the program of
an event.  URIs are in their written form throughout. -/

namespace SchemaServer

structure Capabilities where
  workspaceConfiguration : Bool := false
  dynamicConfiguration : Bool := false
  workspaceFolders : Bool := false
  codeActionLiterals : Bool := false
  relatedInformation : Bool := false
deriving DecidableEq, Repr, Inhabited

/-- A laid out text and the end of the text it replaces. -/
structure Formatted where
  text : String
  stop : Position
deriving DecidableEq, Repr

namespace Session

inductive Event where
  | connected (capabilities : Capabilities)
  | initialized
  | opened (uri text : String) (version : Int)
  | changed (uri text : String) (version : Int)
  | closed (uri : String)
  | configurationChanged (settings : Json)
  | watchedFilesChanged
  | definition (uri : String) (position : Position)
  | completion (uri : String) (position : Position)
  | format (uri : String)

abbrev Event.Reply : Event → Type
  | .definition .. => Analyzer.Outcome (List DefinitionLink)
  | .completion .. => Analyzer.Outcome (List CompletionItem)
  | .format .. => Analyzer.Outcome (Option Formatted)
  | .connected _ | .initialized | .opened .. | .changed .. | .closed _
  | .configurationChanged _ | .watchedFilesChanged => Unit

end Session

structure Session where
  stdPath : String
  store : Store := .empty
  capabilities? : Option Capabilities := none
  /-- The settings of all documents when the editor cannot be asked. -/
  globalSettings : Settings := .default

namespace Session

def capabilities (s : Session) : Capabilities := s.capabilities?.getD {}

def tell (call : Client.Call) (s : Session) : Program Session := do
  let _ ← Program.callClient call
  return s

/-- The settings of a document.  They are fetched from an editor that can be asked, and kept. -/
def documentSettings (uri : String) (s : Session) : Program (Settings × Session) :=
  if s.capabilities.workspaceConfiguration then
    match s.store.settings? uri with
    | some settings => return (settings, s)
    | none => do
      let settings := match ← Program.callClient (.fetchSettings uri) with
        | .failed => Settings.default
        | .answered value => Settings.ofAnswer value
      return (settings, { s with store := s.store.keepSettings uri settings })
  else return (s.globalSettings, s)

def validateAndPublish (uri : String) (s : Session) : Program Session := do
  let (settings, s) ← s.documentSettings uri
  let version := (s.store.get? uri).bind Document.version
  match ← Gateway.validate uri s.store with
  | .ok diagnostics =>
    s.tell (.publish uri (diagnostics.take settings.maxProblems) version)
  | .error failure =>
    -- The problems that are shown stay: to show none would say that there are none.
    s.tell (.log .error ("Validation of " ++ uri ++ " failed: " ++ failure.message))

def validateAll : List String → Session → Program Session
  | [], s => return s
  | uri :: uris, s => do validateAll uris (← s.validateAndPublish uri)

def initialized (s : Session) : Program Session := do
  if s.capabilities.dynamicConfiguration then
    let _ ← Program.callClient .registerConfiguration
  s.tell (.log .info "Teo language server initialized")

/-- A document was closed: the analyzer forgets it and its problems are no longer shown. -/
def close (uri : String) (s : Session) : Program Session :=
  if s.store.contains uri then do
    let _ ← Gateway.removeCachedSchema uri
    { s with store := s.store.close uri }.tell (.publish uri [] none)
  else return s

/-- The configuration was changed: the settings kept so far no longer hold, and every document is
    validated again under the URL that its URI reads as.  A URI that is no URL is passed over. -/
def changeConfiguration (settings : Json) (s : Session) : Program Session := do
  let s ← s.tell (.log .info "Configuration changed.")
  let s :=
    if s.capabilities.workspaceConfiguration then { s with store := s.store.forgetSettings }
    else { s with
      globalSettings := Settings.ofAnswer (settings.field? Settings.configurationSection) }
  validateAll (s.store.uris.filterMap Url.reread?) s

def format (uri : String) (s : Session) : Program (Analyzer.Outcome (Option Formatted)) :=
  match s.store.get? uri with
  | none => return .ok none
  | some document => do
    let answer ← Gateway.formatDocument uri s.store
    return answer.map fun text => some ⟨text, document.endPosition⟩

def handle (s : Session) : (event : Event) → Program (event.Reply × Session)
  | .connected capabilities =>
    -- What the editor said first stands.
    return ((), { s with capabilities? := s.capabilities?.or (some capabilities) })
  | .initialized => return ((), ← s.initialized)
  | .opened uri text version =>
    return ((), ← { s with store := s.store.openDocument uri text version }.validateAndPublish uri)
  | .changed uri text version =>
    return ((), ← { s with store := s.store.update uri text version }.validateAndPublish uri)
  | .closed uri => return ((), ← s.close uri)
  | .configurationChanged settings => return ((), ← s.changeConfiguration settings)
  | .watchedFilesChanged => return ((), ← s.tell .externalTypesChanged)
  | .definition uri position =>
    return (← Gateway.findDefinitions s.stdPath uri position s.store, s)
  | .completion uri position => return (← Gateway.completionItems uri position s.store, s)
  | .format uri => return (← s.format uri, s)

def handleAll : List Event → Session → Program Session
  | [], s => return s
  | event :: events, s => do
    let (_, s) ← s.handle event
    handleAll events s

end Session

end SchemaServer
