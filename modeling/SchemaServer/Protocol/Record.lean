import SchemaServer.Protocol.Leaf

/-! # Records in normal form

Some records of the editor are only checked, or sent back as they are.  Their normal form is a tree
again: what the record does not know is dropped, and so are fields that are null. -/

namespace SchemaServer.Protocol

open Json (Shape Fault)

inductive Presence where
  | always
  /-- In a record given with its keys; null is the same as absent. -/
  | sometimes
  /-- In either form of a record. -/
  | lenient
deriving DecidableEq, Repr

structure Member where
  key : String
  presence : Presence
  form : Shape Json

def Member.always (key : String) (form : Shape Json) : Member := ⟨key, .always, form⟩

def Member.sometimes (key : String) (form : Shape Json) : Member := ⟨key, .sometimes, form⟩

def Member.lenient (key : String) (form : Shape Json) : Member := ⟨key, .lenient, form⟩

/-- The normal form of the value of a field; nothing for a null that may be left out. -/
def Member.normal (m : Member) (value : Json) : Except Fault (List (String × Json)) :=
  if value.isNull && m.presence = .sometimes then .ok []
  else do
    let form ← m.form.ofJson value
    return if form.isNull && m.presence = .lenient then [] else [(m.key, form)]

def normalItems (expected : String) (length : Nat) :
    List Member → (index : Nat) → List Json → Except Fault (List (String × Json))
  | [], _, [] => .ok []
  | [], _, _ :: _ => .error (.wrongLength length "fewer elements in array")
  | m :: members, index, [] =>
    if m.presence = .lenient then normalItems expected length members (index + 1) []
    else .error (.wrongLength index expected)
  | m :: members, index, value :: values => do
    let first ← m.normal value
    return first ++ (← normalItems expected length members (index + 1) values)

def normalFields (members : List Member) : List (String × Json) →
    Except Fault (List (String × Json))
  | [] => .ok []
  | (key, value) :: rest => do
    let first ← match members.find? (·.key == key) with
      | some m => m.normal value
      | none => .ok []
    return first ++ (← normalFields members rest)

/-- The normal form of an object of which only some fields are looked at. -/
def normalMembers (members : List Member) (fields : List (String × Json)) : Except Fault Json := do
  let normal ← normalFields members fields
  match members.find? fun m => m.presence = .always && fields.all (·.1 != m.key) with
  | some missing => .error (.missingField missing.key)
  | none => return .ofFields normal

def normalRecord (name : String) (members : List Member) : Shape Json :=
  .ofTree fun
    | .object fields => normalMembers members fields
    | .array items => do
      return .ofFields (← normalItems (Json.recordLength name members.length) items.length
        members 0 items)
    | value => Json.unexpected value (Json.recordTitle name)

/-! ## Single values and lists -/

def textForm : Shape Json := Shape.text.map .text

def booleanForm : Shape Json := boolean.map .bool

def integerForm : Shape Json := integer32.map .int

def countForm : Shape Json := (Shape.integer .u32).map .int

def numberForm : Shape Json :=
  .ofTree fun
    | .number n => .ok (.number n)
    | value => Json.unexpected value "f32"

def urlForm : Shape Json := url.map .text

def positionForm : Shape Json := Position.shape.map Position.toJson

def rangeForm : Shape Json := Range.shape.map Range.toJson

def nameForm (names : List String) : Shape Json :=
  .choice (names.map fun name => (name, .text name))

def listForm (item : Shape Json) : Shape Json := (Shape.list item).map .array

/-- An object with keys of one kind and values of another; `expected` says what it is in words. -/
def mapForm (expected : String) (key value : Shape Json) : Shape Json :=
  .ofTree fun
    | .object fields => do
      return .ofFields (← fields.mapM fun (k, v) => do
        let _ ← key.ofJson (.text k)
        return (k, ← value.ofJson v))
    | value => Json.unexpected value expected

end SchemaServer.Protocol
