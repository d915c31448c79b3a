import SchemaServer.Json.Number

/-! # Scanning JSON texts

The pieces that every reader of JSON text is made of: blanks, the words `null`, `true` and `false`,
quoted texts, separators, and stepping over a value nobody asks for.  A scanner takes the characters
that are left and gives back those left after it. -/

namespace SchemaServer.Json

def isBlank (c : Char) : Bool := c == ' ' || c == '\t' || c == '\n' || c == '\r'

def skipBlank (cs : List Char) : List Char := cs.dropWhile isBlank

def skipWord : List Char → List Char → Except Fault (List Char)
  | [], cs => .ok cs
  | _ :: _, [] => .error .endInValue
  | w :: ws, c :: cs => if c = w then skipWord ws cs else .error .expectedWord

/-! ## Quoted texts

One character at a time, with a state that says what the characters before it have begun. -/

def hexValue? (c : Char) : Option Nat :=
  if isDigit c then some (digitValue c)
  else if 'a' ≤ c && c ≤ 'f' then some (c.toNat - 'a'.toNat + 10)
  else if 'A' ≤ c && c ≤ 'F' then some (c.toNat - 'A'.toNat + 10)
  else none

def letterEscape? (c : Char) : Option Char :=
  if c = '"' ∨ c = '\\' ∨ c = '/' then some c
  else if c = 'b' then some '\x08'
  else if c = 'f' then some '\x0c'
  else if c = 'n' then some '\n'
  else if c = 'r' then some '\r'
  else if c = 't' then some '\t'
  else none

def isHighSurrogate (unit : Nat) : Bool := 0xD800 ≤ unit && unit ≤ 0xDBFF

def isLowSurrogate (unit : Nat) : Bool := 0xDC00 ≤ unit && unit ≤ 0xDFFF

def pairedChar (high low : Nat) : Char :=
  Char.ofNat ((high - 0xD800) * 0x400 + (low - 0xDC00) + 0x10000)

inductive Escape where
  | plain
  | letter
  /-- A hexadecimal escape, of which `count` digits have been read; `high` is the first half of a
      surrogate pair that it should close. -/
  | hex (high : Option Nat) (count value : Nat)
  /-- The first half of a surrogate pair has been read, and its other half should follow. -/
  | pair (high : Nat)
  /-- The other half has begun with a backslash. -/
  | pairLetter (high : Nat)

/-- The fault of a hexadecimal escape that goes on with `cs` after `count` digits: four bytes must
    stand there. -/
def hexFault (count : Nat) (cs : List Char) : Fault :=
  if 4 ≤ cs.foldl (fun n c => n + c.utf8Size) count then .invalidEscape else .endInText

def readQuotedFrom : Escape → List Char → Except Fault (List Char × List Char)
  | .hex _ count _, [] => .error (hexFault count [])
  | _, [] => .error .endInText
  | .plain, c :: cs =>
    if c = '"' then .ok ([], cs)
    else if c = '\\' then readQuotedFrom .letter cs
    else if c.toNat < 0x20 then .error .controlCharacter
    else do
      let (content, rest) ← readQuotedFrom .plain cs
      return (c :: content, rest)
  | .letter, c :: cs =>
    if c = 'u' then readQuotedFrom (.hex none 0 0) cs
    else
      match letterEscape? c with
      | some d => do
        let (content, rest) ← readQuotedFrom .plain cs
        return (d :: content, rest)
      | none => .error .invalidEscape
  | .hex high count value, c :: cs =>
    match hexValue? c with
    | none => .error (hexFault count (c :: cs))
    | some digit =>
      let value := value * 16 + digit
      if count < 3 then readQuotedFrom (.hex high (count + 1) value) cs
      else
        match high with
        | none =>
          if isLowSurrogate value then .error .loneSurrogate
          else if isHighSurrogate value then readQuotedFrom (.pair value) cs
          else do
            let (content, rest) ← readQuotedFrom .plain cs
            return (Char.ofNat value :: content, rest)
        | some high =>
          if isLowSurrogate value then do
            let (content, rest) ← readQuotedFrom .plain cs
            return (pairedChar high value :: content, rest)
          else .error .loneSurrogate
  | .pair high, c :: cs =>
    if c = '\\' then readQuotedFrom (.pairLetter high) cs else .error .unfinishedEscape
  | .pairLetter high, c :: cs =>
    if c = 'u' then readQuotedFrom (.hex (some high) 0 0) cs else .error .unfinishedEscape

def readQuoted (cs : List Char) : Except Fault (String × List Char) := do
  let (content, rest) ← readQuotedFrom .plain cs
  return (String.ofList content, rest)

/-- Step over a quoted text after its opening quote; halves of surrogate pairs may stand alone. -/
def skipQuotedFrom : Escape → List Char → Except Fault (List Char)
  | .hex _ count _, [] => .error (hexFault count [])
  | _, [] => .error .endInText
  | .letter, c :: cs =>
    if c = 'u' then skipQuotedFrom (.hex none 0 0) cs
    else if (letterEscape? c).isSome then skipQuotedFrom .plain cs
    else .error .invalidEscape
  | .hex high count value, c :: cs =>
    if (hexValue? c).isNone then .error (hexFault count (c :: cs))
    else if count < 3 then skipQuotedFrom (.hex high (count + 1) value) cs
    else skipQuotedFrom .plain cs
  | _, c :: cs =>
    if c = '"' then .ok cs
    else if c = '\\' then skipQuotedFrom .letter cs
    else if c.toNat < 0x20 then .error .controlCharacter
    else skipQuotedFrom .plain cs

/-! ## Separators -/

def skipColon (cs : List Char) : Except Fault (List Char) :=
  match skipBlank cs with
  | ':' :: rest => .ok rest
  | [] => .error .endInObject
  | _ => .error .expectedColon

/-- Whether another element follows in a list, and the text from it on; `first` says that none has
    been read yet. -/
def nextItem (first : Bool) (cs : List Char) : Except Fault (Bool × List Char) :=
  match skipBlank cs with
  | [] => .error .endInList
  | ']' :: rest => .ok (false, ']' :: rest)
  | c :: rest =>
    if first then .ok (true, c :: rest)
    else if c = ',' then
      match skipBlank rest with
      | [] => .error .endInValue
      | ']' :: _ => .error .trailingComma
      | cs => .ok (true, cs)
    else .error .expectedListEnd

def endList (cs : List Char) : Except Fault (List Char) :=
  match skipBlank cs with
  | [] => .error .endInList
  | ']' :: rest => .ok rest
  | ',' :: rest =>
    match skipBlank rest with
    | ']' :: _ => .error .trailingComma
    | _ => .error .trailingCharacters
  | _ => .error .trailingCharacters

/-- The next key of an object and the text after it, or nothing at the object's end, with the text
    after that; `first` says that no key has been read yet. -/
def nextKey (first : Bool) (cs : List Char) : Except Fault (Option String × List Char) :=
  let key (cs : List Char) : Except Fault (Option String × List Char) := do
    let (k, rest) ← readQuoted cs
    return (some k, rest)
  match skipBlank cs with
  | [] => .error .endInObject
  | '\x7d' :: rest => .ok (none, rest)
  | c :: rest =>
    if first then
      if c = '"' then key rest else .error .keyNotText
    else if c = ',' then
      match skipBlank rest with
      | [] => .error .endInValue
      | '"' :: rest => key rest
      | '\x7d' :: _ => .error .trailingComma
      | _ => .error .keyNotText
    else .error .expectedObjectEnd

/-! ## Values that nobody asks for

Stepping over a value keeps the brackets that are open on a stack, so that it may nest to any
depth. -/

inductive Bracket where
  | list
  | object
deriving DecidableEq

inductive Expecting where
  | value
  | key
  /-- The end of the innermost bracket, or a comma. -/
  | next

/-- Step over one token after another until every bracket is closed again.  Each step takes at
    least one character or goes on from a value to what follows it, so `fuel` of twice the length of
    the text is enough. -/
def skipTokens : (fuel : Nat) → List Bracket → Expecting → List Char → Except Fault (List Char)
  | 0, _, _, _ => .error .endInValue
  | fuel + 1, open', .value, cs =>
    match skipBlank cs with
    | [] => .error .endInValue
    | 'n' :: rest => do skipTokens fuel open' .next (← skipWord ['u', 'l', 'l'] rest)
    | 't' :: rest => do skipTokens fuel open' .next (← skipWord ['r', 'u', 'e'] rest)
    | 'f' :: rest => do skipTokens fuel open' .next (← skipWord ['a', 'l', 's', 'e'] rest)
    | '"' :: rest => do skipTokens fuel open' .next (← skipQuotedFrom .plain rest)
    | '[' :: rest =>
      match skipBlank rest with
      | [] => .error .endInList
      | ']' :: rest => skipTokens fuel open' .next rest
      | rest => skipTokens fuel (.list :: open') .value rest
    | '\x7b' :: rest =>
      match skipBlank rest with
      | [] => .error .endInObject
      | '\x7d' :: rest => skipTokens fuel open' .next rest
      | rest => skipTokens fuel (.object :: open') .key rest
    | c :: rest =>
      if c = '-' ∨ isDigit c then do skipTokens fuel open' .next (← skipNumber (c :: rest))
      else .error .expectedValue
  | fuel + 1, open', .key, cs =>
    match skipBlank cs with
    | [] => .error .endInObject
    | '"' :: rest => do
      let rest ← skipQuotedFrom .plain rest
      skipTokens fuel open' .value (← skipColon rest)
    | _ => .error .keyNotText
  | _ + 1, [], .next, cs => .ok cs
  | fuel + 1, .list :: open', .next, cs =>
    match skipBlank cs with
    | [] => .error .endInList
    | ']' :: rest => skipTokens fuel open' .next rest
    | ',' :: rest => skipTokens fuel (.list :: open') .value rest
    | _ => .error .expectedListEnd
  | fuel + 1, .object :: open', .next, cs =>
    match skipBlank cs with
    | [] => .error .endInObject
    | '\x7d' :: rest => skipTokens fuel open' .next rest
    | ',' :: rest => skipTokens fuel (.object :: open') .key rest
    | _ => .error .expectedObjectEnd

def skipValue (cs : List Char) : Except Fault (List Char) :=
  skipTokens (2 * cs.length + 2) [] .value cs

end SchemaServer.Json
