import SchemaServer.Json.Scan
import SchemaServer.Url.Domain.Name
import SchemaServer.Url.Percent

/-! # Hosts

The host of a URL: a domain name, a numeric address, or, for a scheme without rules of its own, any
text without delimiters. -/

namespace SchemaServer.Url

open Text (splitOn)

inductive Fault where
  | noScheme
  | emptyHost
  | badDomain
  | badDomainCharacter
  | badIpv4
  | badIpv6
  | badPort
deriving DecidableEq, Repr

def Fault.message : Fault → String
  | .noScheme => "relative URL without a base"
  | .emptyHost => "empty host"
  | .badDomain => "invalid international domain name"
  | .badDomainCharacter => "invalid domain character"
  | .badIpv4 => "invalid IPv4 address"
  | .badIpv6 => "invalid IPv6 address"
  | .badPort => "invalid port number"

/-! ## Numeric addresses of four bytes -/

def numeral? (base : Nat) (cs : List Char) : Option Nat :=
  cs.foldlM (fun n c => do
    let d ← Json.hexValue? c
    if d < base then some (n * base + d) else none) 0

/-- One number of a four-byte address: decimal, octal after a zero, hexadecimal after `0x`. -/
def ipv4Number? (cs : List Char) : Option Nat :=
  match cs with
  | [] => none
  | '0' :: 'x' :: rest | '0' :: 'X' :: rest => numeral? 16 rest
  | '0' :: c :: rest => numeral? 8 (c :: rest)
  | cs => numeral? 10 cs

/-- Whether the last part of a domain is a number, so that the whole has to be an address. -/
def endsInNumber (domain : List Char) : Bool :=
  let parts := (splitOn (· == '.') domain).reverse
  let last := match parts with
    -- One point at the end does not count.
    | [] :: last :: _ => last
    | last :: _ => last
    | [] => []
  !last.isEmpty && (last.all Json.isDigit || (ipv4Number? last).isSome)

def ipv4? (domain : List Char) : Option Nat := do
  let parts := splitOn (· == '.') domain
  let parts := if parts.getLast? == some [] then parts.dropLast else parts
  if 4 < parts.length then none
  let numbers ← parts.mapM ipv4Number?
  let last ← numbers.getLast?
  let front := numbers.dropLast
  -- The last number fills the bytes that the others leave.
  if Nat.pow 256 (4 - front.length) ≤ last || front.any (255 < ·) then none
  else
    let places := front.zipIdx.map fun (n, i) => n * Nat.pow 256 (3 - i)
    some (places.foldl (· + ·) last)

def ipv4Text (address : Nat) : List Char :=
  let byte (i : Nat) : List Char := Nat.toDigits 10 (address / Nat.pow 256 i % 256)
  byte 3 ++ ['.'] ++ byte 2 ++ ['.'] ++ byte 1 ++ ['.'] ++ byte 0

/-! ## Numeric addresses of eight pieces -/

def ipv6Piece? (cs : List Char) : Option Nat :=
  if cs.isEmpty || 4 < cs.length then none else numeral? 16 cs

def ipv6Byte? (cs : List Char) : Option Nat :=
  match cs with
  | [] => none
  | ['0'] => some 0
  | '0' :: _ => none
  | cs => do
    let n ← numeral? 10 cs
    if n ≤ 255 then some n else none

/-- The pieces between colons; the last of them may be four decimal bytes, which make two. -/
def ipv6Pieces? : List (List Char) → Option (List Nat)
  | [] => some []
  | [last] =>
    if last.contains '.' then
      match (splitOn (· == '.') last).mapM ipv6Byte? with
      | some [a, b, c, d] => some [a * 256 + b, c * 256 + d]
      | _ => none
    else return [← ipv6Piece? last]
  | piece :: rest => do return (← ipv6Piece? piece) :: (← ipv6Pieces? rest)

def splitGap : List Char → Option (List Char × List Char)
  | ':' :: ':' :: rest => some ([], rest)
  | c :: rest => (splitGap rest).map fun (a, b) => (c :: a, b)
  | [] => none

def ipv6Part? (cs : List Char) : Option (List Nat) :=
  if cs.isEmpty then some [] else ipv6Pieces? (splitOn (· == ':') cs)

/-- The eight pieces of an address; a gap of two colons stands for pieces that are zero. -/
def ipv6? (cs : List Char) : Option (List Nat) :=
  match splitGap cs with
  | none => do
    let pieces ← ipv6Part? cs
    if pieces.length = 8 then some pieces else none
  | some (before, after) => do
    -- Decimal bytes stand at the end only, and a gap is for at least one piece.
    if before.contains '.' then none
    let front ← ipv6Part? before
    let back ← ipv6Part? after
    if front.length + back.length ≤ 7 then
      some (front ++ List.replicate (8 - front.length - back.length) 0 ++ back)
    else none

def longestZeros (pieces : List Nat) : Nat × Nat :=
  let runs := (List.range pieces.length).map fun i =>
    (i, ((pieces.drop i).takeWhile (· == 0)).length)
  runs.foldl (fun best run => if best.2 < run.2 then run else best) (0, 0)

def piecesText : List Nat → List Char
  | [] => []
  | [p] => Nat.toDigits 16 p
  | p :: rest => Nat.toDigits 16 p ++ ':' :: piecesText rest

/-- An address of eight pieces, the longest run of at least two zeros as a gap. -/
def ipv6Text (pieces : List Nat) : List Char :=
  let (start, length) := longestZeros pieces
  if 2 ≤ length then
    piecesText (pieces.take start) ++ [':', ':'] ++ piecesText (pieces.drop (start + length))
  else piecesText pieces

/-! ## Hosts -/

def deniedInHost (c : Char) : Bool :=
  ['\x00', '\t', '\n', '\r', ' ', '#', '/', ':', '<', '>', '?', '@', '[', '\\', ']', '^',
    '|'].contains c

def bracketed (cs : List Char) : Except Fault (List Char) :=
  match cs.getLast? with
  | some ']' =>
    match ipv6? (cs.drop 1).dropLast with
    | some pieces => .ok ('[' :: ipv6Text pieces ++ [']'])
    | none => .error .badIpv6
  | _ => .error .badIpv6

def domain (cs : List Char) : Except Fault (List Char) :=
  match Utf8.decode (percentDecode (String.ofList cs)) with
  | .error _ => .error .badDomain
  | .ok decoded =>
    match Domain.written? decoded.toList with
    | none => .error .badDomain
    | some [] => .error .emptyHost
    | some ascii => .ok ascii

def specialHost (cs : List Char) : Except Fault (List Char) :=
  if cs.head? == some '[' then bracketed cs
  else do
    let name ← domain cs
    if endsInNumber name then
      match ipv4? name with
      | some address => .ok (ipv4Text address)
      | none => .error .badIpv4
    else .ok name

def opaqueHost (cs : List Char) : Except Fault (List Char) :=
  if cs.head? == some '[' then bracketed cs
  else if cs.any deniedInHost then .error .badDomainCharacter
  else .ok (percentEncode codedControl cs)

end SchemaServer.Url
