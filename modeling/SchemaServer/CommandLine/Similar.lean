import SchemaServer.Double

/-! # Similar words

How alike two words are: the share of characters they have in common, each near its place in the
other word, less half of those that stand in another order. -/

namespace SchemaServer.CommandLine

/-- Take the first free character that equals `c` and stands in the window of positions
    `low ≤ j < high`. -/
def takeMatch (c : Char) (low high : Nat) : (j : Nat) → List (Char × Bool) →
    Option (List (Char × Bool))
  | _, [] => none
  | j, (d, taken) :: rest =>
    if high ≤ j then none
    else if low ≤ j && c == d && !taken then some ((d, true) :: rest)
    else (takeMatch c low high (j + 1) rest).map ((d, taken) :: ·)

/-- The characters of a word that have a partner in another word, and that word with the partners
    marked. -/
def matchAll (reach : Nat) : (i : Nat) → List Char → List (Char × Bool) →
    List Char × List (Char × Bool)
  | _, [], other => ([], other)
  | i, c :: rest, other =>
    match takeMatch c (i - reach) (i + reach + 1) 0 other with
    | some other =>
      let (found, other) := matchAll reach (i + 1) rest other
      (c :: found, other)
    | none => matchAll reach (i + 1) rest other

def share (n d : Nat) : Double := (Double.ofRatio n d).getD .zero

/-- How alike two words are, from zero to one: the mean of three shares. -/
def similarity (a b : List Char) : Double :=
  let reach := max a.length b.length / 2 - 1
  let (found, marked) := matchAll reach 0 a (b.map (·, false))
  let partners := (marked.filter (·.2)).map Prod.fst
  let m := found.length
  let swapped := ((found.zip partners).filter fun (c, d) => c != d).length / 2
  if m = 0 then .zero
  else
    let sum := do
      let both ← (share m a.length).add (share m b.length)
      let all ← both.add (share (m - swapped) m)
      all.div (share 3 1)
    sum.getD .zero

def enough : Double := share 7 10

/-- The word most like a given one, if it is alike enough; of equals the last. -/
def mostSimilar (word : String) (words : List String) : Option String :=
  let close := words.filterMap fun w =>
    let s := similarity word.toList w.toList
    if s.atMost enough then none else some (w, s)
  (close.foldl (fun best candidate =>
    match best with
    | some (w, s) => if s.atMost candidate.2 then some candidate else some (w, s)
    | none => some candidate) none).map Prod.fst

end SchemaServer.CommandLine
