import SchemaServer.Text.Utf8

/-! # Percent codes

Parts of a URL write some characters as the percent codes of their UTF-8 bytes.  Which ones depends
on the part; no part lets a control character or a character outside ASCII stand for itself. -/

namespace SchemaServer.Url

def hexDigit (n : Nat) : Char := if n < 10 then Char.ofNat (48 + n) else Char.ofNat (55 + n)

def percentByte (b : UInt8) : List Char := ['%', hexDigit (b.toNat / 16), hexDigit (b.toNat % 16)]

def percentChar (c : Char) : List Char := (String.utf8EncodeChar c).flatMap percentByte

def percentEncode (coded : Char → Bool) (cs : List Char) : List Char :=
  cs.flatMap fun c => if coded c then percentChar c else [c]

/-! ## Which characters a part writes as codes -/

def codedControl (c : Char) : Bool := c.toNat < 0x20 || 0x7F ≤ c.toNat

def codedFragment (c : Char) : Bool :=
  codedControl c || c == ' ' || c == '"' || c == '<' || c == '>' || c == '\x60'

def codedPath (c : Char) : Bool :=
  codedFragment c || c == '#' || c == '?' || c == '\x7b' || c == '\x7d'

def codedUser (c : Char) : Bool :=
  codedPath c || c == '/' || c == ':' || c == ';' || c == '=' || c == '@' || c == '[' ||
    c == '\\' || c == ']' || c == '^' || c == '|'

def codedQuery (c : Char) : Bool :=
  codedControl c || c == ' ' || c == '"' || c == '#' || c == '<' || c == '>'

def codedSpecialQuery (c : Char) : Bool := codedQuery c || c == '\''

/-! ## Reading codes -/

def hexByte? (b : UInt8) : Option Nat :=
  if 48 ≤ b && b ≤ 57 then some (b.toNat - 48)
  else if 65 ≤ b && b ≤ 70 then some (b.toNat - 55)
  else if 97 ≤ b && b ≤ 102 then some (b.toNat - 87)
  else none

/-- The bytes with every percent code read; a percent sign without two digits stands for itself. -/
def percentDecodeBytes : List UInt8 → List UInt8
  | [] => []
  | b :: rest =>
    if b = 37 then
      match rest with
      | x :: y :: rest' =>
        match hexByte? x, hexByte? y with
        | some high, some low => UInt8.ofNat (high * 16 + low) :: percentDecodeBytes rest'
        | _, _ => b :: percentDecodeBytes (x :: y :: rest')
      | rest => b :: percentDecodeBytes rest
    else b :: percentDecodeBytes rest

def percentDecode (source : String) : List UInt8 := percentDecodeBytes (Utf8.encode source)

end SchemaServer.Url
