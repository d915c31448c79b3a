import SchemaServer.Double
import SchemaServer.SortedMap

/-! # JSON values

The tree of a JSON text.  An integer in the range of a signed or unsigned 64-bit word stays an
integer; any other number is a `Double`.  The fields of an object stand in increasing order of
their keys when the tree comes from a text or from `Json.ofFields`. -/

namespace SchemaServer

inductive Number where
  /-- An integer of the word range `-2 ^ 63 … 2 ^ 64 - 1`. -/
  | int (value : Int)
  | double (value : Double)
deriving DecidableEq, Repr, Inhabited

inductive Json where
  | null
  | bool (value : Bool)
  | number (value : Number)
  | text (value : String)
  | array (items : List Json)
  | object (fields : List (String × Json))
deriving Repr, Inhabited, BEq

def Number.text : Number → String
  | .int i => toString i
  | .double d => d.text

namespace Json

def int (value : Int) : Json := .number (.int value)

def nat (value : Nat) : Json := .int value

/-- The object with these fields, in increasing order of their keys; the last field of a key
    stays. -/
def ofFields (fields : List (String × Json)) : Json := .object (SortedMap.ofList fields).entries

/-- A text, or null for none. -/
def ofText? : Option String → Json
  | some s => .text s
  | none => .null

def field? (key : String) : Json → Option Json
  | .object fields => SortedMap.lookup key fields
  | _ => none

def isNull : Json → Bool
  | .null => true
  | _ => false

end Json

end SchemaServer
