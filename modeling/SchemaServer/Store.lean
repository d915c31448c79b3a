import SchemaServer.Document
import SchemaServer.Settings
import SchemaServer.SortedMap

/-! # The store of open documents

The documents that are open, by URI, and the settings fetched for them.  Settings are kept only for
documents that are open, and closing a document forgets them. -/

namespace SchemaServer

structure Store where
  documents : SortedMap Document
  fetched : SortedMap Settings

namespace Store

def empty : Store := ⟨∅, ∅⟩

instance : Inhabited Store := ⟨empty⟩

/-- Open a document, in place of an open one with the same URI. -/
def openDocument (s : Store) (uri text : String) (version : Int) : Store :=
  { s with documents := s.documents.insert uri ⟨uri, text, some version⟩ }

/-- Give a document a new text and version; one that is not open is opened. -/
def update (s : Store) (uri text : String) (version : Int) : Store :=
  match s.documents.get? uri with
  | some d => { s with documents := s.documents.insert uri { d with text, version := some version } }
  | none => s.openDocument uri text version

def get? (s : Store) (uri : String) : Option Document := s.documents.get? uri

def contains (s : Store) (uri : String) : Bool := s.documents.contains uri

/-- Close a document, and say whether there was one to close. -/
def closing (s : Store) (uri : String) : Bool × Store :=
  let (closed?, documents) := s.documents.remove uri
  (closed?.isSome, ⟨documents, s.fetched.erase uri⟩)

def close (s : Store) (uri : String) : Store := (s.closing uri).2

def uris (s : Store) : List String := s.documents.keys

def settings? (s : Store) (uri : String) : Option Settings := s.fetched.get? uri

/-- Keep settings for a document, if it is open. -/
def keepSettings (s : Store) (uri : String) (settings : Settings) : Store :=
  if s.contains uri then { s with fetched := s.fetched.insert uri settings } else s

def forgetSettings (s : Store) : Store := { s with fetched := ∅ }

end Store

end SchemaServer
