import SchemaServer.Json.Tree
import SchemaServer.Json.Words

/-! # Settings

What a user may set: how many problems are shown for one document. -/

namespace SchemaServer

structure Settings where
  maxProblems : Nat := 1000
deriving DecidableEq, Repr, Inhabited

namespace Settings

/-- The section of the editor's configuration that holds the settings. -/
def configurationSection : String := "teo"

def default : Settings := {}

def shape : Json.Shape Settings :=
  (Json.Shape.record "ServerSettings" <|
    .defaulted "maxNumberOfProblems" Json.wordSize (UInt64.ofNat default.maxProblems) .nil).map
    fun (maxProblems, ()) => ⟨maxProblems.toNat⟩

def toJson (s : Settings) : Json := .object [("maxNumberOfProblems", .nat s.maxProblems)]

/-- The settings an editor sent: the default for nothing, for null and for anything that cannot be
    read. -/
def ofAnswer : Option Json → Settings
  | none | some .null => default
  | some value =>
    match shape.ofJson value with
    | .ok settings => settings
    | .error _ => default

end Settings

end SchemaServer
