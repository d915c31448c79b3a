/-! # Lengths in UTF-16 units

Editors count the characters of a line in UTF-16 code units: one for a character of the basic
plane, two for any other. -/

namespace SchemaServer.Text

def charUnits (c : Char) : Nat := if c.toNat < 0x10000 then 1 else 2

def units : List Char → Nat
  | [] => 0
  | c :: cs => charUnits c + units cs

@[simp]
theorem units_nil : units [] = 0 := rfl

@[simp]
theorem units_cons (c : Char) (cs : List Char) : units (c :: cs) = charUnits c + units cs := rfl

@[simp]
theorem units_append (a b : List Char) : units (a ++ b) = units a + units b := by
  induction a with
  | nil => simp
  | cons c a ih => simp [ih, Nat.add_assoc]

end SchemaServer.Text
