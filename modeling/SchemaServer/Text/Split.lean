/-! # Cutting texts -/

namespace SchemaServer.Text

/-- A list cut at every character of a class. -/
def splitOn (cut : Char → Bool) : List Char → List (List Char)
  | [] => [[]]
  | c :: cs =>
    if cut c then [] :: splitOn cut cs
    else
      match splitOn cut cs with
      | [] => [[c]]
      | first :: rest => (c :: first) :: rest

theorem splitOn_ne_nil (cut : Char → Bool) (cs : List Char) : splitOn cut cs ≠ [] := by
  fun_cases splitOn cut cs <;> simp_all

theorem length_splitOn (cut : Char → Bool) (cs : List Char) :
    (splitOn cut cs).length = cs.countP cut + 1 := by
  fun_induction splitOn cut cs with
  | case1 => rfl
  | case2 c cs isCut ih => simp [ih, isCut]
  | case3 c cs _ none _ => exact absurd none (splitOn_ne_nil cut cs)
  | case4 c cs inside first rest parts ih =>
    rw [parts] at ih
    simpa [inside] using ih

end SchemaServer.Text
