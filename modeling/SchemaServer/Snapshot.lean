import SchemaServer.Path
import SchemaServer.Store

/-! # Snapshots

The texts of all open documents at one moment, by path, as the analyzer gets them.  Where two
documents share a path, the one with the greater URI is taken. -/

namespace SchemaServer

/-- The texts of the open documents, by path. -/
structure Snapshot where
  files : SortedMap String

namespace Snapshot

def capture (s : Store) : Snapshot :=
  ⟨.ofList (s.documents.values.map fun d => (pathOfUri d.uri, d.text))⟩

def get? (s : Snapshot) (path : String) : Option String := s.files.get? path

def toJson (s : Snapshot) : Json :=
  .object (s.files.entries.map fun (path, text) => (path, .text text))

end Snapshot

end SchemaServer
