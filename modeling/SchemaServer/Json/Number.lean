import SchemaServer.Json.Fault

/-! # Reading a numeral

A numeral is an optional minus sign, digits without a leading zero, an optional fraction and an
optional exponent.  A numeral with neither fraction nor exponent that fits a signed or an unsigned
64-bit word is an integer, except `-0`; every other numeral is a `Double`, whose significand is cut
off where it would leave an unsigned word. -/

namespace SchemaServer.Json

def isDigit (c : Char) : Bool := '0' ≤ c && c ≤ '9'

def digitValue (c : Char) : Nat := c.toNat - '0'.toNat

def wordMax : Nat := 18446744073709551615

/-- Append digits to a significand for as long as it stays a word: the significand, and how many
    digits it took. -/
def takeDigits (significand : Nat) : List Char → Nat × Nat
  | [] => (significand, 0)
  | d :: ds =>
    let next := significand * 10 + digitValue d
    if wordMax < next then (significand, 0)
    else
      let (s, n) := takeDigits next ds
      (s, n + 1)

/-- A significand with a power of ten, on the way to a number. -/
structure Decimal where
  negative : Bool
  significand : Nat
  exponent : Int

def Decimal.toNumber (d : Decimal) : Except Fault Number :=
  match Double.ofDecimal d.significand d.exponent with
  | some x => .ok (.double (x.withSign d.negative))
  | none => .error .numberOutOfRange

/-- The greatest exponent that is still counted. -/
def exponentMax : Nat := 2147483647

def exponentSign : List Char → Bool × List Char
  | '+' :: rest => (false, rest)
  | '-' :: rest => (true, rest)
  | cs => (false, cs)

def readExponent (d : Decimal) (cs : List Char) : Except Fault (Number × List Char) :=
  let (down, cs) := exponentSign cs
  match cs with
  | [] => .error .endInValue
  | c :: _ =>
    if isDigit c then
      let digits := cs.takeWhile isDigit
      let rest := cs.dropWhile isDigit
      let e := digits.foldl (fun n d => n * 10 + digitValue d) 0
      -- Past this point the value is zero or too large, whatever the digits say.
      if exponentMax < e then
        if d.significand ≠ 0 ∧ !down then .error .numberOutOfRange
        else .ok (.double (Double.zero.withSign d.negative), rest)
      else do
        let e : Int := if down then d.exponent - e else d.exponent + e
        return (← { d with exponent := e }.toNumber, rest)
    else .error .invalidNumber

def readTail (d : Decimal) (cs : List Char) : Except Fault (Number × List Char) :=
  match cs with
  | 'e' :: rest | 'E' :: rest => readExponent d rest
  | cs => do return (← d.toNumber, cs)

def readFraction (d : Decimal) (cs : List Char) : Except Fault (Number × List Char) :=
  match cs.takeWhile isDigit with
  | [] => .error (if cs.isEmpty then .endInValue else .invalidNumber)
  | digits =>
    let (s, used) := takeDigits d.significand digits
    readTail { d with significand := s, exponent := d.exponent - used } (cs.dropWhile isDigit)

def ofDigits (negative : Bool) (significand : Nat) : Except Fault Number :=
  if !negative then .ok (.int significand)
  -- Minus zero is no integer.
  else if significand = 0 ∨ 9223372036854775808 < significand then
    Decimal.toNumber { negative, significand, exponent := 0 }
  else .ok (.int (-significand))

def readMagnitude (negative : Bool) (cs : List Char) : Except Fault (Number × List Char) :=
  let digits := cs.takeWhile isDigit
  let rest := cs.dropWhile isDigit
  match digits with
  | [] => .error (if cs.isEmpty then .endInValue else .invalidNumber)
  | d :: ds =>
    if d = '0' ∧ !ds.isEmpty then .error .invalidNumber
    else
      let (significand, used) := takeDigits 0 digits
      let dropped := digits.length - used
      let decimal : Decimal := { negative, significand, exponent := dropped }
      match rest with
      | '.' :: rest => readFraction decimal rest
      | 'e' :: rest | 'E' :: rest => readExponent decimal rest
      | rest => do
        let n ← if dropped = 0 then ofDigits negative significand else decimal.toNumber
        return (n, rest)

def readNumber (cs : List Char) : Except Fault (Number × List Char) :=
  match cs with
  | '-' :: rest => readMagnitude true rest
  | cs => readMagnitude false cs

def skipExponent (cs : List Char) : Except Fault (List Char) :=
  let (_, cs) := exponentSign cs
  match cs with
  | c :: _ => if isDigit c then .ok (cs.dropWhile isDigit) else .error .invalidNumber
  | [] => .error .invalidNumber

def skipTail (cs : List Char) : Except Fault (List Char) :=
  match cs with
  | 'e' :: rest | 'E' :: rest => skipExponent rest
  | cs => .ok cs

def skipMagnitude (cs : List Char) : Except Fault (List Char) :=
  match cs.takeWhile isDigit with
  | [] => .error .invalidNumber
  | d :: ds =>
    if d = '0' ∧ !ds.isEmpty then .error .invalidNumber
    else
      match cs.dropWhile isDigit with
      | '.' :: rest =>
        if (rest.takeWhile isDigit).isEmpty then .error .invalidNumber
        else skipTail (rest.dropWhile isDigit)
      | rest => skipTail rest

/-- Step over a numeral without asking for its value: only its form is checked. -/
def skipNumber (cs : List Char) : Except Fault (List Char) :=
  match cs with
  | '-' :: rest => skipMagnitude rest
  | cs => skipMagnitude cs

end SchemaServer.Json
