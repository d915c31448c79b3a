import SchemaServer.Position
import SchemaServer.Text.Split
import SchemaServer.Text.Utf16

/-! # Documents

An open document: its URI, its text and its version.  `endPosition` is the place after its last
character, as an editor counts it. -/

namespace SchemaServer

structure Document where
  uri : String
  text : String
  version : Option Int
deriving DecidableEq, Repr, Inhabited

/-- The number as a word, or the greatest word. -/
def saturate (n : Nat) : UInt32 := if n < 4294967296 then UInt32.ofNat n else word32Max

/-- The number of lines that end before the end of a text. -/
def lineBreaks (cs : List Char) : Nat := (Text.splitOn (· == '\n') cs).length - 1

theorem lineBreaks_eq_count (cs : List Char) : lineBreaks cs = cs.count '\n' := by
  rw [lineBreaks, Text.length_splitOn, Nat.add_sub_cancel, List.count]

def lastLine (cs : List Char) : List Char := (cs.reverse.takeWhile (· ≠ '\n')).reverse

def textEnd (cs : List Char) : Position :=
  ⟨saturate (lineBreaks cs), saturate (Text.units (lastLine cs))⟩

def Document.endPosition (d : Document) : Position := textEnd d.text.toList

end SchemaServer
