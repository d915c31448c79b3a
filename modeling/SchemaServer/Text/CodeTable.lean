import SchemaServer.Text.Split

/-! # Tables of code points

The properties of characters come as long tables.  Here a table is a text whose entries stand
between blanks or line ends, all numbers in hexadecimal: `41-5a` is a range of code points,
`100-12e/2` every second one of a range, and what follows an equals sign belongs to the entry, as in
`41-5a=61` or `bc=31+2044+34`. -/

namespace SchemaServer.Text

/-- Every `step`-th code point from `first` to `last`, and the numbers that belong to them. -/
structure CodeRange where
  first : Nat
  last : Nat
  step : Nat
  numbers : List Nat
deriving DecidableEq, Repr

/-- A table of code points, its entries in the order of their first code points. -/
abbrev CodeTable : Type := List CodeRange

def hexNumber (digits : List Char) : Nat :=
  digits.foldl (fun n c => 16 * n + (if c.isDigit then c.toNat - 48 else c.toNat - 87)) 0

def CodeRange.ofWord (word : List Char) : CodeRange :=
  let keys := word.takeWhile (· ≠ '=')
  let numbers := (word.dropWhile (· ≠ '=')).drop 1
  let bounds := (splitOn (· == '-') (keys.takeWhile (· ≠ '/'))).map hexNumber
  let step := (keys.dropWhile (· ≠ '/')).drop 1
  { first := bounds.headD 0
    last := bounds.getLastD 0
    step := if step.isEmpty then 1 else hexNumber step
    numbers := if numbers.isEmpty then [] else (splitOn (· == '+') numbers).map hexNumber }

def CodeRange.covers (r : CodeRange) (code : Nat) : Bool :=
  r.first ≤ code && code ≤ r.last && (code - r.first) % r.step == 0

namespace CodeTable

def ofText (source : String) : CodeTable :=
  ((splitOn Char.isWhitespace source.toList).filter (!·.isEmpty)).map CodeRange.ofWord

/-- The entry that covers a code point; entries that start after it are not looked at. -/
def entry? (code : Nat) : CodeTable → Option CodeRange
  | [] => none
  | r :: rest =>
    if code < r.first then none else if r.covers code then some r else entry? code rest

def contains (t : CodeTable) (c : Char) : Bool := (t.entry? c.toNat).isSome

def number? (t : CodeTable) (c : Char) : Option Nat :=
  (t.entry? c.toNat).bind (·.numbers.head?)

/-- The characters that a character goes to: the numbers of an entry belong to its first code point,
    and move on with the others. -/
def image? (t : CodeTable) (c : Char) : Option (List Char) :=
  (t.entry? c.toNat).map fun r =>
    r.numbers.map fun n => Char.ofNat (n + (c.toNat - r.first))

end CodeTable

end SchemaServer.Text
