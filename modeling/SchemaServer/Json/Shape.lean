import SchemaServer.Json.Fault

/-! # Shapes

A `Shape α` describes the JSON form of the type `α`: which kind of value it takes and, for a record,
the fields in order, each with its own shape and with what an absent field means.  One description
serves two readers, one of texts (`Shape.parse`) and one of trees (`Shape.ofJson`). -/

namespace SchemaServer.Json

inductive IntKind where
  | i32
  | i64
  | u32
  | u64
  | usize
deriving DecidableEq, Repr

namespace IntKind

def min : IntKind → Int
  | .i32 => -2147483648
  | .i64 => -9223372036854775808
  | .u32 | .u64 | .usize => 0

def max : IntKind → Int
  | .i32 => 2147483647
  | .i64 => 9223372036854775807
  | .u32 => 4294967295
  | .u64 | .usize => 18446744073709551615

def label : IntKind → String
  | .i32 => "i32"
  | .i64 => "i64"
  | .u32 => "u32"
  | .u64 => "u64"
  | .usize => "usize"

def check (kind : IntKind) : Number → Except Fault Int
  | .int i =>
    if kind.min ≤ i ∧ i ≤ kind.max then .ok i
    else .error (.wrongValue (.number (.int i)) kind.label)
  | .double d => .error (.wrongType (.number (.double d)) kind.label)

end IntKind

inductive Absent (α : Type) where
  | required
  /-- The field has this value, but only in a record given with its keys. -/
  | keyed (value : α)
  | defaulted (value : α)

mutual

inductive Shape : Type → Type 1 where
  | any : Shape Json
  | text : Shape String
  | integer (kind : IntKind) : Shape Int
  /-- A value, or null for none. -/
  | optional {α : Type} (item : Shape α) : Shape (Option α)
  | list {α : Type} (item : Shape α) : Shape (List α)
  | pair {α β : Type} (first : Shape α) (second : Shape β) : Shape (α × β)
  /-- One of some names, as a text or as the only key of an object whose value is null. -/
  | choice {α : Type} (cases : List (String × α)) : Shape α
  /-- A record, with its keys or as the list of its fields in order. -/
  | record {σ ρ : Type} (name : String) (fields : Fields σ ρ) : Shape ρ
  | refine {α β : Type} (base : Shape α) (check : α → Except Fault β) : Shape β

/-- The fields of a record in order.  `σ` holds the fields read so far, `ρ` all of them. -/
inductive Fields : Type → Type → Type 1 where
  | nil : Fields Unit Unit
  | cons {α σ ρ : Type} (key : String) (shape : Shape α) (absent : Absent α) (rest : Fields σ ρ) :
      Fields (Option α × σ) (α × ρ)

end

def Shape.map {α β : Type} (shape : Shape α) (f : α → β) : Shape β :=
  .refine shape fun a => .ok (f a)

namespace Fields

variable {α σ ρ : Type}

def none : {σ ρ : Type} → Fields σ ρ → σ
  | _, _, .nil => ()
  | _, _, .cons _ _ _ rest => (Option.none, rest.none)

def size : {σ ρ : Type} → Fields σ ρ → Nat
  | _, _, .nil => 0
  | _, _, .cons _ _ _ rest => rest.size + 1

/-- The record of the fields read from an object; the first absent field that is required is
    missing. -/
def finish : {σ ρ : Type} → Fields σ ρ → σ → Except Fault ρ
  | _, _, .nil, () => .ok ()
  | _, _, .cons key _ absent rest, (slot, slots) => do
    let value ← match slot, absent with
      | some value, _ => .ok value
      | Option.none, .required => .error (.missingField key)
      | Option.none, .keyed value | Option.none, .defaulted value => .ok value
    return (value, ← rest.finish slots)

end Fields

def recordTitle (name : String) : String := "struct " ++ name

def recordLength (name : String) (size : Nat) : String :=
  recordTitle name ++ " with " ++ toString size ++ (if size = 1 then " element" else " elements")

def pairTitle : String := "a tuple of size 2"

def choiceNames {α : Type} (cases : List (String × α)) : List String := cases.map Prod.fst

def pickCase {α : Type} (cases : List (String × α)) (name : String) : Except Fault α :=
  match cases.find? (·.1 == name) with
  | some (_, value) => .ok value
  | none => .error (.unknownVariant name (choiceNames cases))

end SchemaServer.Json
