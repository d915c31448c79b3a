import SchemaServer.Client
import SchemaServer.Session
import SchemaServer.Url.Parse

/-! # What the editor gets

The trees in which problems, links, completions and edits go to the editor.  What is not known is
left out rather than null. -/

namespace SchemaServer.Protocol

def diagnosticSource : String := "teo"

def diagnostic (d : Diagnostic) : Json :=
  .ofFields [("message", .text d.message), ("range", d.range.toJson),
    ("severity", .nat d.severity.code), ("source", .text diagnosticSource)]

/-- A link, unless its target is no path that the editor could open. -/
def definitionLink? (l : DefinitionLink) : Option Json :=
  (Url.ofPath? l.targetPath).map fun target =>
    .ofFields [("originSelectionRange", l.origin.toJson), ("targetRange", l.target.toJson),
      ("targetSelectionRange", l.selection.toJson), ("targetUri", .text target.text)]

def optionalField (key : String) : Option Json → List (String × Json)
  | some value => [(key, value)]
  | none => []

def completionItem (i : CompletionItem) : Json :=
  .ofFields ([("label", .text i.label)] ++
    optionalField "labelDetails"
      (i.namespacePath.map fun path => .ofFields [("description", .text path)]) ++
    optionalField "documentation" (i.documentation.map .text) ++
    optionalField "detail" (i.detail.map .text))

def definitionResult (links : List DefinitionLink) : Json := .array (links.filterMap definitionLink?)

def completionResult (items : List CompletionItem) : Json := .array (items.map completionItem)

/-- The edit that replaces a whole text, or null if the document is not open. -/
def formatResult : Option Formatted → Json
  | none => .null
  | some f =>
    .array [.ofFields [("newText", .text f.text),
      ("range", (Range.mk Position.origin f.stop).toJson)]]

/-! ## What a session says -/

def publishParams (uri : String) (diagnostics : List Diagnostic) (version : Option Int) : Json :=
  .ofFields ([("uri", .text uri), ("diagnostics", .array (diagnostics.map diagnostic))] ++
    optionalField "version" (version.map .int))

def logParams (level : Client.LogLevel) (message : String) : Json :=
  .ofFields [("type", .nat level.code), ("message", .text message)]

def registrationId : String := "teo-did-change-configuration"

def registerParams : Json :=
  .ofFields [("registrations", .array [.ofFields [("id", .text registrationId),
    ("method", .text "workspace/didChangeConfiguration")]])]

def configurationParams (uri : String) : Json :=
  .ofFields [("items", .array [.ofFields [("scopeUri", .text uri),
    ("section", .text Settings.configurationSection)]])]

/-- How a fetch of settings went, by the value the editor answered: the last of a list. -/
def fetchedOf : Json → Client.Fetched
  | .array values => .answered values.getLast?
  | _ => .failed

end SchemaServer.Protocol
