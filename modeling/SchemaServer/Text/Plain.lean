/-! # Texts without control sequences

Terminals take some characters as commands: most controls, and the sequences that an escape
character starts.  `plain` gives the text that is left when all of them are dropped; blanks, line ends
and everything outside ASCII stay. -/

namespace SchemaServer.Text

inductive Sequence where
  | outside
  | escape
  /-- In a sequence that ends with the next letter or digit. -/
  | short
  /-- In a sequence with parameters, which ends with a letter. -/
  | command
  | deviceHead
  /-- In a string that ends with a string terminator. -/
  | string
  /-- In a string that ends with a bell or a new sequence. -/
  | title
deriving DecidableEq, Repr

def isBlankControl (c : Char) : Bool := c == '\t' || c == '\n' || c == '\x0c' || c == '\r'

def Sequence.afterEscape (c : Char) : Sequence :=
  if c = '[' then .command
  else if c = ']' then .title
  else if c = 'P' then .deviceHead
  else if c = 'X' ∨ c = '^' ∨ c = '_' then .string
  else if c < '0' then .short
  else .outside

/-- Whether a string ends inside a character: one of its bytes is the string terminator. -/
def endsString (c : Char) : Bool := (String.utf8EncodeChar c).contains 0x9C

def Sequence.after (s : Sequence) (c : Char) : Sequence :=
  if c = '\x18' ∨ c = '\x1a' then .outside
  else if c = '\x1b' then .escape
  else if c = '\x7f' then s
  else
    match s with
    | .outside => .outside
    | .escape => if c < ' ' ∨ '\x7f' < c then s else .afterEscape c
    | .short => if c < '0' ∨ '\x7f' < c then s else .outside
    | .command => if c < '@' ∨ '\x7f' < c then s else .outside
    | .deviceHead => if c = ':' ∨ ('@' ≤ c ∧ c < '\x7f') then .string else s
    | .string => if endsString c then .outside else s
    | .title => if c = '\x07' then .outside else s

/-- Whether blanks and line ends inside a sequence are kept; they also end it. -/
def Sequence.keepsBlanks : Sequence → Bool
  | .escape | .short | .command => true
  | .outside | .deviceHead | .string | .title => false

def plainFrom : Sequence → List Char → List Char
  | _, [] => []
  | .outside, c :: cs =>
    if (' ' ≤ c && c != '\x7f') || isBlankControl c then c :: plainFrom .outside cs
    else plainFrom (Sequence.outside.after c) cs
  | s, c :: cs =>
    if s.keepsBlanks && isBlankControl c then c :: plainFrom .outside cs
    else plainFrom (s.after c) cs

def plain (text : String) : String := String.ofList (plainFrom .outside text.toList)

end SchemaServer.Text
