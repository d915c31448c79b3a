import SchemaServer.Document

/-! # Ends of texts

Where a text ends is counted twice: its line breaks are counted from the front, and the units of its
last line from the last line break on.  Both counts are taken part by part: breaks add up, and the
last line of two texts is the second one's, continued backwards into the first one only if no break
comes before (`lastLine_append`).  A count that has no word is given as the greatest word, and sums
may be cut there early or late (`saturate_add`). -/

namespace SchemaServer

open Text (charUnits units units_append)

/-! ## Counts as words -/

/-- The sum, or the greatest word if the sum has none. -/
def saturatingAdd (a b : UInt32) : UInt32 := UInt32.ofNat (min (a.toNat + b.toNat) 4294967295)

theorem toNat_saturate {n : Nat} (fits : n < 4294967296) : (saturate n).toNat = n := by
  rw [saturate, if_pos fits]
  exact UInt32.toNat_ofNat_of_lt' fits

theorem toNat_saturate_eq_min (n : Nat) : (saturate n).toNat = min n 4294967295 := by
  by_cases fits : n < 4294967296
  · rw [toNat_saturate fits]
    omega
  · rw [saturate, if_neg fits, Nat.min_eq_right (by omega)]
    rfl

theorem toNat_saturatingAdd (a b : UInt32) :
    (saturatingAdd a b).toNat = min (a.toNat + b.toNat) 4294967295 :=
  UInt32.toNat_ofNat_of_lt' (Nat.lt_of_le_of_lt (Nat.min_le_right ..) (by decide))

theorem saturate_add (m n : Nat) : saturate (m + n) = saturatingAdd (saturate m) (saturate n) := by
  apply UInt32.toNat_inj.1
  simp only [toNat_saturatingAdd, toNat_saturate_eq_min]
  omega

/-! ## The last line -/

theorem lastLine_append_of_unbroken (first : List Char) {second : List Char}
    (unbroken : '\n' ∉ second) : lastLine (first ++ second) = lastLine first ++ second := by
  have kept : ∀ c ∈ second.reverse, decide (c ≠ '\n') = true := by
    intro c member
    simp only [decide_eq_true_eq]
    rintro rfl
    exact unbroken (List.mem_reverse.1 member)
  rw [lastLine, lastLine, List.reverse_append, List.takeWhile_append_of_pos kept]
  simp

theorem lastLine_eq_self {cs : List Char} (unbroken : '\n' ∉ cs) : lastLine cs = cs :=
  lastLine_append_of_unbroken [] unbroken

theorem lastLine_append_newline (before cs : List Char) :
    lastLine (before ++ '\n' :: cs) = lastLine cs := by
  simp only [lastLine, List.reverse_append, List.reverse_cons, List.append_assoc]
  rw [List.takeWhile_append]
  split
  next all =>
    have whole := List.takeWhile_prefix (fun c => decide (c ≠ '\n')) (l := cs.reverse)
    rw [whole.eq_of_length all]
    simp
  next => rfl

theorem lastLine_append (first second : List Char) :
    lastLine (first ++ second) =
      if '\n' ∈ second then lastLine second else lastLine first ++ second := by
  by_cases broken : '\n' ∈ second
  · obtain ⟨early, late, rfl⟩ := List.append_of_mem broken
    rw [if_pos broken, ← List.append_assoc, lastLine_append_newline, lastLine_append_newline]
  · rw [if_neg broken, lastLine_append_of_unbroken first broken]

/-! ## Two texts, one after the other -/

theorem textEnd_append (first second : List Char) :
    textEnd (first ++ second) =
      if '\n' ∈ second then
        ⟨saturatingAdd (textEnd first).line (textEnd second).line, (textEnd second).character⟩
      else
        ⟨(textEnd first).line,
          saturatingAdd (textEnd first).character (textEnd second).character⟩ := by
  have line : saturate (lineBreaks (first ++ second)) =
      saturatingAdd (saturate (lineBreaks first)) (saturate (lineBreaks second)) := by
    simp only [lineBreaks_eq_count, List.count_append, saturate_add]
  by_cases broken : '\n' ∈ second
  · simp only [textEnd, line, lastLine_append, broken, if_true]
  · have same : saturate (lineBreaks (first ++ second)) = saturate (lineBreaks first) := by
      simp only [lineBreaks_eq_count, List.count_append, List.count_eq_zero.2 broken, Nat.add_zero]
    simp only [textEnd, same, lastLine_append, lastLine_eq_self broken, broken, if_false,
      units_append, saturate_add]

theorem textEnd_singleton (c : Char) :
    textEnd [c] =
      if c = '\n' then ⟨1, 0⟩ else if c.toNat ≤ 0xFFFF then ⟨0, 1⟩ else ⟨0, 2⟩ := by
  by_cases broken : c = '\n'
  · subst broken
    rfl
  · have unbroken : '\n' ∉ [c] := by simpa using Ne.symm broken
    have single : units [c] = if c.toNat ≤ 0xFFFF then 1 else 2 := by
      simp only [Text.units_cons, Text.units_nil, charUnits]
      split <;> split <;> omega
    rw [textEnd, lineBreaks_eq_count, List.count_eq_zero.2 unbroken, lastLine_eq_self unbroken, single,
      if_neg broken]
    split <;> rfl

/-- The end of a text that is put together from two comes from the ends of the two: lines add up, and
    characters do if the second text has no line break, else they are those of the second.  Together
    with the ends of the empty text and of single characters this gives the end of every text. -/
theorem Document.endPosition_compositional :
    (∀ (first second : Document) (uri : String) (version : Option Int),
      (Document.mk uri (first.text ++ second.text) version).endPosition =
        if '\n' ∈ second.text.toList then
          ⟨saturatingAdd first.endPosition.line second.endPosition.line,
            second.endPosition.character⟩
        else
          ⟨first.endPosition.line,
            saturatingAdd first.endPosition.character second.endPosition.character⟩) ∧
    (∀ (uri : String) (version : Option Int), (Document.mk uri "" version).endPosition = ⟨0, 0⟩) ∧
    ∀ (uri : String) (version : Option Int) (c : Char),
      (Document.mk uri (String.singleton c) version).endPosition =
        if c = '\n' then ⟨1, 0⟩ else if c.toNat ≤ 0xFFFF then ⟨0, 1⟩ else ⟨0, 2⟩ := by
  refine ⟨?_, ?_, ?_⟩
  · intro first second uri version
    rw [endPosition, String.toList_append]
    exact textEnd_append first.text.toList second.text.toList
  · intro uri version
    rfl
  · intro uri version c
    rw [endPosition, String.toList_singleton]
    exact textEnd_singleton c

example : (Document.mk "a" "ab\ncdé" none).endPosition = ⟨1, 3⟩ := by decide

end SchemaServer
