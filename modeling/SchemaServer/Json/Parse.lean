import SchemaServer.Json.Scan
import SchemaServer.Json.Shape

/-! # Reading texts by shape

`Shape.parse` reads a JSON text straight into the type its shape describes.  Everything is checked in
reading order, so the first fault of the text is the one reported, whether the text is no JSON there
or has the wrong shape; what a record leaves out is noticed at its closing brace, and a value under a
key that the record does not know is only stepped over.  Brackets may nest `maxDepth` deep. -/

namespace SchemaServer.Json

def maxDepth : Nat := 127

/-- The fault of a text whose next value should have been something else.  The text starts with that
    value, and a fault inside it comes first. -/
def mismatch (expected : String) : List Char → Fault
  | [] => .endInValue
  | 'n' :: rest => ofWord (skipWord ['u', 'l', 'l'] rest) .null
  | 't' :: rest => ofWord (skipWord ['r', 'u', 'e'] rest) (.boolean true)
  | 'f' :: rest => ofWord (skipWord ['a', 'l', 's', 'e'] rest) (.boolean false)
  | '"' :: rest =>
    match readQuoted rest with
    | .ok (s, _) => .wrongType (.text s) expected
    | .error fault => fault
  | '[' :: _ => .wrongType .sequence expected
  | '\x7b' :: _ => .wrongType .map expected
  | c :: rest =>
    if c = '-' ∨ isDigit c then
      match readNumber (c :: rest) with
      | .ok (n, _) => .wrongType (.number n) expected
      | .error fault => fault
    else .expectedValue
where
  ofWord : Except Fault (List Char) → Found → Fault
    | .ok _, found => .wrongType found expected
    | .error fault, _ => fault

/-! ## Lists and objects -/

/-- Read the elements of a list up to its end, which stays.  Every element takes a character, so the
    length of the text is enough `fuel`. -/
def readItems {α : Type} (item : List Char → Except Fault (α × List Char)) :
    (fuel : Nat) → (first : Bool) → List Char → Except Fault (List α × List Char)
  | 0, _, _ => .error .endInList
  | fuel + 1, first, cs => do
    let (more, cs) ← nextItem first cs
    if more then
      let (a, cs) ← item cs
      let (as, cs) ← readItems item fuel false cs
      return (a :: as, cs)
    else return ([], cs)

/-- Read the members of an object through its end.  `member` reads what follows a key.  Every member
    takes a character, so the length of the text is enough `fuel`. -/
def readMembers {σ : Type} (member : String → σ → List Char → Except Fault (σ × List Char)) :
    (fuel : Nat) → (first : Bool) → σ → List Char → Except Fault (σ × List Char)
  | 0, _, _, _ => .error .endInObject
  | fuel + 1, first, s, cs => do
    match ← nextKey first cs with
    | (none, cs) => return (s, cs)
    | (some key, cs) =>
      let (s, cs) ← member key s cs
      readMembers member fuel false s cs

def readList {α : Type} (item : List Char → Except Fault (α × List Char)) (cs : List Char) :
    Except Fault (List α × List Char) := do
  let (as, cs) ← readItems item (cs.length + 1) true cs
  return (as, ← endList cs)

/-! ## Any value -/

/-- Read any value, the values inside it by `inner`; without `inner` no bracket may open. -/
def readAnyBy (inner : Option (List Char → Except Fault (Json × List Char))) (cs : List Char) :
    Except Fault (Json × List Char) :=
  match skipBlank cs with
  | [] => .error .endInValue
  | 'n' :: rest => do return (.null, ← skipWord ['u', 'l', 'l'] rest)
  | 't' :: rest => do return (.bool true, ← skipWord ['r', 'u', 'e'] rest)
  | 'f' :: rest => do return (.bool false, ← skipWord ['a', 'l', 's', 'e'] rest)
  | '"' :: rest => do
    let (s, rest) ← readQuoted rest
    return (.text s, rest)
  | '[' :: rest =>
    match inner with
    | none => .error .tooDeep
    | some inner => do
      let (items, rest) ← readList inner rest
      return (.array items, rest)
  | '\x7b' :: rest =>
    match inner with
    | none => .error .tooDeep
    | some inner => do
      let member (key : String) (fields : List (String × Json)) (cs : List Char) := do
        let (value, cs) ← inner (← skipColon cs)
        return (SortedMap.insertEntry key value fields, cs)
      let (fields, rest) ← readMembers member (rest.length + 1) true [] rest
      return (.object fields, rest)
  | c :: rest =>
    if c = '-' ∨ isDigit c then do
      let (n, rest) ← readNumber (c :: rest)
      return (.number n, rest)
    else .error .expectedValue

/-- Read any value whose brackets nest at most `depth` deep; of a repeated key the last value
    stays. -/
def readAny : (depth : Nat) → List Char → Except Fault (Json × List Char)
  | 0 => readAnyBy none
  | depth + 1 => readAnyBy (some (readAny depth))

/-! ## A value of a shape -/

def deeper {α : Type} (depth : Nat) (read : Nat → Except Fault α) : Except Fault α :=
  match depth with
  | 0 => .error .tooDeep
  | depth + 1 => read depth

/-- Read the name of a choice: a text, or an object that holds nothing but that name with null. -/
def readChoice {α : Type} (cases : List (String × α)) (depth : Nat) (cs : List Char) :
    Except Fault (α × List Char) :=
  match skipBlank cs with
  | [] => .error .endInValue
  | '"' :: rest => do
    let (name, rest) ← readQuoted rest
    return (← pickCase cases name, rest)
  | '\x7b' :: rest =>
    deeper depth fun _ =>
      match skipBlank rest with
      | '"' :: rest => do
        let (name, rest) ← readQuoted rest
        let value ← pickCase cases name
        match skipBlank (← skipColon rest) with
        | 'n' :: rest =>
          match skipBlank (← skipWord ['u', 'l', 'l'] rest) with
          | '\x7d' :: rest => return (value, rest)
          | [] => .error .endInObject
          | _ => .error .expectedValue
        | rest => .error (mismatch "unit" rest)
      | [] => .error .endInObject
      | '\x7d' :: _ => .error .expectedValue
      | _ => .error .keyNotText
  | _ => .error .expectedValue

mutual

def Shape.read : {α : Type} → Shape α → (depth : Nat) → List Char → Except Fault (α × List Char)
  | _, .any, depth, cs => readAny depth cs
  | _, .text, _, cs =>
    match skipBlank cs with
    | '"' :: rest => readQuoted rest
    | cs => .error (mismatch "a string" cs)
  | _, .integer kind, _, cs =>
    match skipBlank cs with
    | [] => .error .endInValue
    | c :: rest =>
      if c = '-' ∨ isDigit c then do
        let (n, rest) ← readNumber (c :: rest)
        return (← kind.check n, rest)
      else .error (mismatch kind.label (c :: rest))
  | _, .optional item, depth, cs =>
    match skipBlank cs with
    | 'n' :: rest => do return (none, ← skipWord ['u', 'l', 'l'] rest)
    | cs => do
      let (a, cs) ← item.read depth cs
      return (some a, cs)
  | _, .list item, depth, cs =>
    match skipBlank cs with
    | '[' :: rest => deeper depth fun depth => readList (item.read depth) rest
    | cs => .error (mismatch "a sequence" cs)
  | _, .pair first second, depth, cs =>
    match skipBlank cs with
    | '[' :: rest => deeper depth fun depth => do
      let (more, rest) ← nextItem true rest
      if !more then throw (.wrongLength 0 pairTitle)
      let (a, rest) ← first.read depth rest
      let (more, rest) ← nextItem false rest
      if !more then throw (.wrongLength 1 pairTitle)
      let (b, rest) ← second.read depth rest
      return ((a, b), ← endList rest)
    | cs => .error (mismatch pairTitle cs)
  | _, .choice cases, depth, cs => readChoice cases depth cs
  | _, .record name fields, depth, cs =>
    match skipBlank cs with
    | '[' :: rest => deeper depth fun depth => do
      let (r, rest) ← fields.readItems depth (recordLength name fields.size) 0 true rest
      return (r, ← endList rest)
    | '\x7b' :: rest => deeper depth fun depth => do
      let (slots, rest) ←
        readMembers (fields.readMember depth) (rest.length + 1) true fields.none rest
      return (← fields.finish slots, rest)
    | cs => .error (mismatch (recordTitle name) cs)
  | _, .refine base check, depth, cs => do
    let (a, cs) ← base.read depth cs
    return (← check a, cs)

/-- Read what follows a key of a record: its colon and its value.  A known key may stand only
    once. -/
def Fields.readMember : {σ ρ : Type} → Fields σ ρ → (depth : Nat) → String → σ → List Char →
    Except Fault (σ × List Char)
  -- Nobody knows the key, so its value has to be well-formed and no more.
  | _, _, .nil, _, _, (), cs => do return ((), ← skipValue (← skipColon cs))
  | _, _, .cons key shape _ rest, depth, key', (slot, slots), cs =>
    if key = key' then
      if slot.isSome then .error (.repeatedField key)
      else do
        let (value, cs) ← shape.read depth (← skipColon cs)
        return ((some value, slots), cs)
    else do
      let (slots, cs) ← rest.readMember depth key' slots cs
      return ((slot, slots), cs)

/-- Read the fields of a record from the elements of a list, the first of which is number `index`.
    The list may leave out fields that have a default. -/
def Fields.readItems : {σ ρ : Type} → Fields σ ρ → (depth : Nat) → (expected : String) →
    (index : Nat) → (first : Bool) → List Char → Except Fault (ρ × List Char)
  | _, _, .nil, _, _, _, _, cs => .ok ((), cs)
  | _, _, .cons _ shape absent rest, depth, expected, index, first, cs => do
    let (more, cs) ← nextItem first cs
    if more then
      let (value, cs) ← shape.read depth cs
      let (values, cs) ← rest.readItems depth expected (index + 1) false cs
      return ((value, values), cs)
    else
      match absent with
      | .defaulted value =>
        let (values, cs) ← rest.readItems depth expected (index + 1) first cs
        return ((value, values), cs)
      | _ => .error (.wrongLength index expected)

end

def endText {α : Type} : α × List Char → Except Fault α
  | (a, cs) => if (skipBlank cs).isEmpty then .ok a else .error .trailingCharacters

def Shape.parse {α : Type} (shape : Shape α) (source : String) : Except Fault α := do
  endText (← shape.read maxDepth source.toList)

def parse (source : String) : Except Fault Json := Shape.any.parse source

end SchemaServer.Json
