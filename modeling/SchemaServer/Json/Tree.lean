import SchemaServer.Json.Shape

/-! # Reading trees by shape

`Shape.ofJson` reads a JSON tree into the type its shape describes.  The fields of an object are
visited in the order of the tree, and what a record leaves out is noticed only after all of them. -/

namespace SchemaServer.Json

def unexpected {α : Type} (value : Json) (expected : String) : Except Fault α :=
  .error (.wrongType value.found expected)

/-- Refuse elements that are left over; the list had `length` elements. -/
def endItems {α : Type} (length : Nat) : α × List Json → Except Fault α
  | (a, []) => .ok a
  | (_, _ :: _) => .error (.wrongLength length "fewer elements in array")

/-- Read the name of a choice: a text, or an object that holds nothing but that name with null. -/
def choiceOfJson {α : Type} (cases : List (String × α)) : Json → Except Fault α
  | .text name => pickCase cases name
  | .object [(name, payload)] => do
    let value ← pickCase cases name
    match payload with
    | .null => return value
    | payload => unexpected payload "unit"
  | .object _ => .error (.wrongValue .map "map with a single key")
  | value => unexpected value "string or map"

mutual

def Shape.ofJson : {α : Type} → Shape α → Json → Except Fault α
  | _, .any, value => .ok value
  | _, .text, .text s => .ok s
  | _, .text, value => unexpected value "a string"
  | _, .integer kind, .number n => kind.check n
  | _, .integer kind, value => unexpected value kind.label
  | _, .optional _, .null => .ok none
  | _, .optional item, value => some <$> item.ofJson value
  | _, .list item, .array items => items.mapM item.ofJson
  | _, .list _, value => unexpected value "a sequence"
  | _, .pair _ _, .array [] => .error (.wrongLength 0 pairTitle)
  | _, .pair first _, .array [a] => do
    let _ ← first.ofJson a
    .error (.wrongLength 1 pairTitle)
  | _, .pair first second, .array (a :: b :: rest) => do
    let x ← first.ofJson a
    let y ← second.ofJson b
    endItems (rest.length + 2) ((x, y), rest)
  | _, .pair _ _, value => unexpected value pairTitle
  | _, .choice cases, value => choiceOfJson cases value
  | _, .record name fields, .array items => do
    endItems items.length (← fields.ofItems (recordLength name fields.size) 0 items)
  | _, .record _ fields, .object members => do
    fields.finish (← members.foldlM (fun slots (key, value) => fields.ofMember key value slots)
      fields.none)
  | _, .record name _, value => unexpected value (recordTitle name)
  | _, .refine base check, value => do check (← base.ofJson value)

/-- Read the value of a key; a key that the record does not know is ignored. -/
def Fields.ofMember : {σ ρ : Type} → Fields σ ρ → String → Json → σ → Except Fault σ
  | _, _, .nil, _, _, () => .ok ()
  | _, _, .cons key shape _ rest, key', value, (slot, slots) =>
    if key = key' then
      if slot.isSome then .error (.repeatedField key)
      else do return (some (← shape.ofJson value), slots)
    else do return (slot, ← rest.ofMember key' value slots)

/-- Read the fields of a record from the elements of a list, the first of which is number
    `index`. -/
def Fields.ofItems : {σ ρ : Type} → Fields σ ρ → (expected : String) → (index : Nat) →
    List Json → Except Fault (ρ × List Json)
  | _, _, .nil, _, _, items => .ok ((), items)
  | _, _, .cons _ shape _ rest, expected, index, item :: items => do
    let value ← shape.ofJson item
    let (values, items) ← rest.ofItems expected (index + 1) items
    return ((value, values), items)
  | _, _, .cons _ _ absent rest, expected, index, [] =>
    match absent with
    | .defaulted value => do
      let (values, items) ← rest.ofItems expected (index + 1) []
      return ((value, values), items)
    | _ => .error (.wrongLength index expected)

end

end SchemaServer.Json
