import SchemaServer.Json.Shape

/-! # Machine words in shapes

Shapes and trees of fixed-width integers, and short forms for the fields of a record. -/

namespace SchemaServer.Json

def word32 : Shape UInt32 := (Shape.integer .u32).map fun i => UInt32.ofNat i.toNat

/-- An unsigned 64-bit word that measures sizes and offsets. -/
def wordSize : Shape UInt64 := (Shape.integer .usize).map fun i => UInt64.ofNat i.toNat

def ofWord32 (w : UInt32) : Json := .nat w.toNat

def ofWord64 (w : UInt64) : Json := .nat w.toNat

namespace Fields

variable {α σ ρ : Type}

def required (key : String) (shape : Shape α) (rest : Fields σ ρ) :
    Fields (Option α × σ) (α × ρ) :=
  .cons key shape .required rest

def defaulted (key : String) (shape : Shape α) (value : α) (rest : Fields σ ρ) :
    Fields (Option α × σ) (α × ρ) :=
  .cons key shape (.defaulted value) rest

/-- A field that may be left out of a record given with its keys. -/
def keyed (key : String) (shape : Shape α) (value : α) (rest : Fields σ ρ) :
    Fields (Option α × σ) (α × ρ) :=
  .cons key shape (.keyed value) rest

end Fields

end SchemaServer.Json
