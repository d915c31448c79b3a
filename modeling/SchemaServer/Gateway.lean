import SchemaServer.Json.Parse
import SchemaServer.Json.Tree
import SchemaServer.Program
import SchemaServer.Report

/-! # Asking the analyzer

Each operation puts one call to the analyzer, about the path of a document and with the texts of all
open documents, and reads the answer into editor coordinates.  An answer that cannot be read is a
failure, never an empty result. -/

namespace SchemaServer.Gateway

open Analyzer (Outcome decoded)

/-- The path by which the analyzer names the standard library. -/
def builtinPath : String := "(builtin)std.teo"

/-- The path of a file the analyzer named; `stdPath` is where the standard library can be read. -/
def resolvePath (stdPath path : String) : String := if path = builtinPath then stdPath else path

def linkOf (stdPath : String) (i : DefinitionItem) : DefinitionLink where
  targetPath := resolvePath stdPath i.path
  target := i.target.toRange
  selection := i.identifier.toRange
  origin := i.selection.toRange

def diagnosticsOf (path source : String) : Outcome (List Diagnostic) := do
  let items ← decoded .lint ((Json.Shape.list LintItem.shape).parse source)
  return (items.filter (·.source = path)).map Diagnostic.ofItem

def linksOf (stdPath : String) (answer : Json) : Outcome (List DefinitionLink) := do
  let items ← decoded .findDefinitions ((Json.Shape.list DefinitionItem.shape).ofJson answer)
  return items.map (linkOf stdPath)

def completionsOf (answer : Json) : Outcome (List CompletionItem) := do
  let entries ← decoded .completionItems ((Json.Shape.list CompletionEntry.shape).ofJson answer)
  return entries.map CompletionItem.ofEntry

/-- The problems of a document; problems the analyzer reports for other files are left out. -/
def validate (uri : String) (store : Store) : Program (Outcome (List Diagnostic)) := do
  let answer ← Program.callAnalyzer (.lint (pathOfUri uri) (.capture store))
  return answer >>= diagnosticsOf (pathOfUri uri)

def findDefinitions (stdPath uri : String) (position : Position) (store : Store) :
    Program (Outcome (List DefinitionLink)) := do
  let answer ← Program.callAnalyzer
    (.findDefinitions (pathOfUri uri) (.capture store) position.toAnalyzer)
  return answer >>= linksOf stdPath

def completionItems (uri : String) (position : Position) (store : Store) :
    Program (Outcome (List CompletionItem)) := do
  let answer ← Program.callAnalyzer
    (.completionItems (pathOfUri uri) (.capture store) position.toAnalyzer)
  return answer >>= completionsOf

def removeCachedSchema (uri : String) : Program (Outcome Unit) :=
  Program.callAnalyzer (.removeCachedSchema (pathOfUri uri))

def formatDocument (uri : String) (store : Store) : Program (Outcome String) :=
  Program.callAnalyzer (.formatDocument (pathOfUri uri) (.capture store))

end SchemaServer.Gateway
