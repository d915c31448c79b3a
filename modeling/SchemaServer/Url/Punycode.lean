/-! # Labels of host names in ASCII

A label with characters outside ASCII is written with its ASCII characters first and, after a
hyphen, the others in increasing order as differences in base 36, where the place values adapt to the
differences seen so far.  `encode` writes a label, `decode?` reads one back. -/

namespace SchemaServer.Url.Punycode

def digit (d : Nat) : Char := if d < 26 then Char.ofNat (97 + d) else Char.ofNat (22 + d)

/-- How much a place may hold before the next one is needed. -/
def threshold (place bias : Nat) : Nat := min 26 (max 1 (place - bias))

/-- Bring a difference into range, counting the places that takes.  Every step divides by 35, so the
    number of bits is enough `fuel`. -/
def settle : (fuel : Nat) → Nat → Nat → Nat × Nat
  | 0, delta, k => (delta, k)
  | fuel + 1, delta, k => if 455 < delta then settle fuel (delta / 35) (k + 36) else (delta, k)

def adapt (delta count : Nat) (first : Bool) : Nat :=
  let delta := if first then delta / 700 else delta / 2
  let delta := delta + delta / count
  let (delta, k) := settle (delta.log2 + 1) delta 0
  k + 36 * delta / (delta + 38)

/-- The digits of a difference.  Every place divides by at least ten, so the number of bits is enough
    `fuel`. -/
def digits : (fuel : Nat) → (bias place q : Nat) → List Char
  | 0, _, _, q => [digit q]
  | fuel + 1, bias, place, q =>
    let t := threshold place bias
    if q < t then [digit q]
    else digit (t + (q - t) % (36 - t)) :: digits fuel bias (place + 36) ((q - t) / (36 - t))

structure State where
  out : List Char
  delta : Nat
  bias : Nat
  written : Nat

/-- Count over the characters of a label, writing the difference at each one that equals `point`. -/
def scan (basic point : Nat) (s : State) (c : Char) : State :=
  if c.toNat < point then { s with delta := s.delta + 1 }
  else if c.toNat = point then
    { out := s.out ++ digits (s.delta.log2 + 1) s.bias 36 s.delta
      delta := 0
      bias := adapt s.delta (s.written + 1) (s.written == basic)
      written := s.written + 1 }
  else s

/-- Write all characters outside ASCII, smallest first; `next` is the least code point left. -/
def writeAll (label : List Char) (basic : Nat) : List Nat → (next : Nat) → State → State
  | [], _, s => s
  | point :: points, next, s =>
    let s := { s with delta := s.delta + (point - next) * (s.written + 1) }
    let s := label.foldl (scan basic point) s
    writeAll label basic points (point + 1) { s with delta := s.delta + 1 }

def marker : List Char := ['x', 'n', '-', '-']

def encode (label : List Char) : List Char :=
  let basic := label.filter fun c => c.toNat < 0x80
  let points := ((label.map Char.toNat).filter (0x80 ≤ ·)).mergeSort.eraseDups
  if points.isEmpty then label
  else
    let start : State := { out := [], delta := 0, bias := 72, written := basic.length }
    let coded := (writeAll label basic.length points 128 start).out
    marker ++ basic ++ (if basic.isEmpty then [] else ['-']) ++ coded

/-! ## Reading -/

def digitValue? (c : Char) : Option Nat :=
  if 'a' ≤ c ∧ c ≤ 'z' then some (c.toNat - 97)
  else if '0' ≤ c ∧ c ≤ '9' then some (c.toNat - 22)
  else none

def limit : Nat := 0xFFFFFFFF

structure Reading where
  label : List Char
  point : Nat := 128
  start : Nat := 0
  bias : Nat := 72
  /-- The difference that is being read, added to its start. -/
  sum : Nat := 0
  weight : Nat := 1
  place : Nat := 36

/-- Take a finished difference: it gives the next code point and where its character stands. -/
def Reading.finish (r : Reading) (sum : Nat) : Option Reading :=
  let count := r.label.length + 1
  let point := r.point + sum / count
  if point.isValidChar then
    some
      { label := r.label.insertIdx (sum % count) (Char.ofNat point)
        point
        start := sum % count + 1
        bias := adapt (sum - r.start) count (r.start == 0)
        sum := sum % count + 1 }
  else none

def Reading.next (r : Reading) (c : Char) : Option Reading := do
  let d ← digitValue? c
  let sum := r.sum + d * r.weight
  let t := threshold r.place r.bias
  if limit < sum then none
  else if d < t then r.finish sum
  else if limit < r.weight * (36 - t) then none
  else some { r with sum, weight := r.weight * (36 - t), place := r.place + 36 }

/-- The label that a text without its marker stands for: what precedes the last hyphen are its ASCII
    characters, unless nothing does. -/
def decode? (coded : List Char) : Option (List Char) := do
  let digits := (coded.reverse.takeWhile (· ≠ '-')).reverse
  let basic := coded.take (coded.length - digits.length - 1)
  let digits := if basic.isEmpty then coded else digits
  let r ← digits.foldlM Reading.next { label := basic : Reading }
  if r.place = 36 then some r.label else none

end SchemaServer.Url.Punycode
