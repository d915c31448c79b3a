import SchemaServer.Text.Split
import SchemaServer.Url.Domain.Direction
import SchemaServer.Url.Domain.Joiners
import SchemaServer.Url.Domain.Spelling
import SchemaServer.Url.Punycode

/-! # Host names

`Domain.written?` brings the name of a host into its one written form, which is in ASCII: each label
is respelled, checked, and written in ASCII digits if it has other characters.  A label that is
already written so stays as it is, and is checked by the characters it stands for. -/

namespace SchemaServer.Url.Domain

def denied (c : Char) : Bool :=
  c.toNat ≤ 0x20 || c.toNat == 0x7F ||
    ['%', '#', '/', ':', '<', '>', '?', '@', '[', '\\', ']', '^', '|'].contains c

def isAscii (c : Char) : Bool := c.toNat < 0x80

structure Label where
  chars : List Char
  written : List Char
deriving DecidableEq, Repr

/-- How long a label may be that is read from ASCII digits. -/
def maxCoded : Nat := 2000

/-- How long a label may be that is written in ASCII digits. -/
def maxPlain : Nat := 1000

/-- The characters that ASCII digits stand for; they have to be in their one spelling. -/
def readCoded? (coded : List Char) : Option (List Char) := do
  if !coded.all isAscii || coded.isEmpty || coded.getLast? == some '-' || maxCoded < coded.length then
    none
  let chars ← Punycode.decode? coded
  if isRespelled chars && !chars.contains '.' then some chars else none

def Label.read? (label : List Char) : Option Label :=
  if Punycode.marker.isPrefixOf label then
    (readCoded? (label.drop Punycode.marker.length)).map (⟨·, label⟩)
  else if label.all isAscii then some ⟨label, label⟩
  else if maxPlain < label.length then none
  else some ⟨label, Punycode.encode label⟩

def Label.fits (l : Label) : Bool :=
  !l.chars.any denied && !l.chars.head?.any marks.contains && joinersFit [] l.chars

def written? (name : List Char) : Option (List Char) := do
  let labels ← (Text.splitOn (· == '.') (← respell? name)).mapM Label.read?
  let turning := labels.any (·.chars.any fun c => (directionOf c).turns)
  if labels.all Label.fits && (!turning || labels.all (inOrder ·.chars)) then
    some (List.intercalate ['.'] (labels.map Label.written))
  else none

end SchemaServer.Url.Domain
