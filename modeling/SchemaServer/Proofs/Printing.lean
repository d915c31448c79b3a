import SchemaServer.Json.Print
import SchemaServer.Proofs.Ordered
import SchemaServer.Proofs.Readers

/-! # What is written can be read

A tree is written with its fields in the order in which they stand, so what is read back in order is
the tree itself, whatever its texts and keys contain (`parseOrdered_print`).  Two things limit this.
Brackets may nest only so deep, and a number has to be an integer of the word range: a `Double` is
not written with all its digits.  `writable` says both.

Quoted texts and numerals come first, then lists and objects around any elements, and
`readOrdered_chars` puts them together by induction on the tree. -/

namespace SchemaServer.Json

variable {depth fuel : Nat} {cs rest : List Char}

/-! ## Quoted texts -/

theorem hexValue?_digitChar : ∀ n < 16, hexValue? n.digitChar = some n := by decide

/-- Reading the escape of a character is reading the character. -/
theorem readQuotedFrom_escapedChar (c : Char) (cs : List Char) :
    readQuotedFrom .plain (escapedChar c ++ cs) =
      (readQuotedFrom .plain cs).map fun read => (c :: read.1, read.2) := by
  have letter : ∀ d, d ≠ 'u' → letterEscape? d = some c →
      readQuotedFrom .plain ('\\' :: d :: cs) =
        (readQuotedFrom .plain cs).map fun read => (c :: read.1, read.2) := by
    intro d other escapes
    rw [readQuotedFrom, if_neg (by decide), if_pos rfl, readQuotedFrom, if_neg other, escapes]
    cases readQuotedFrom .plain cs <;> rfl
  unfold escapedChar
  split
  next same =>
    subst same
    exact letter '"' (by decide) (by decide)
  split
  next same =>
    subst same
    exact letter '\\' (by decide) (by decide)
  split
  next same =>
    subst same
    exact letter 'b' (by decide) (by decide)
  split
  next same =>
    subst same
    exact letter 'f' (by decide) (by decide)
  split
  next same =>
    subst same
    exact letter 'n' (by decide) (by decide)
  split
  next same =>
    subst same
    exact letter 'r' (by decide) (by decide)
  split
  next same =>
    subst same
    exact letter 't' (by decide) (by decide)
  split
  next control =>
    have zero : hexValue? '0' = some 0 := by decide
    have high := hexValue?_digitChar (c.toNat / 16) (by omega)
    have low := hexValue?_digitChar (c.toNat % 16) (by omega)
    have unit : (((0 * 16 + 0) * 16 + 0) * 16 + c.toNat / 16) * 16 + c.toNat % 16 = c.toNat := by omega
    have apart : isLowSurrogate c.toNat = false ∧ isHighSurrogate c.toNat = false := by
      simp only [isLowSurrogate, isHighSurrogate, Bool.and_eq_false_iff, decide_eq_false_iff_not]
      omega
    simp only [List.cons_append, List.nil_append, readQuotedFrom, zero, high, low, unit, apart,
      Char.ofNat_toNat]
    cases readQuotedFrom .plain cs <;> rfl
  next quote backslash _ _ _ _ _ printable =>
    rw [List.singleton_append, readQuotedFrom, if_neg quote, if_neg backslash, if_neg printable]
    cases readQuotedFrom .plain cs <;> rfl

theorem readQuoted_escaped (s : String) (rest : List Char) :
    readQuoted (s.toList.flatMap escapedChar ++ '"' :: rest) = .ok (s, rest) := by
  have content : ∀ cs,
      readQuotedFrom .plain (cs.flatMap escapedChar ++ '"' :: rest) = .ok (cs, rest) := by
    intro cs
    induction cs with
    | nil => rfl
    | cons c cs ih =>
      rw [List.flatMap_cons, List.append_assoc, readQuotedFrom_escapedChar, ih]
      rfl
  rw [readQuoted, content]
  show Except.ok (String.ofList s.toList, rest) = _
  rw [String.ofList_toList]

/-! ## Numerals -/

/-- The text goes on in a way that no numeral does. -/
def Stops (rest : List Char) : Prop :=
  ∀ c ∈ rest.head?, isDigit c = false ∧ c ≠ '.' ∧ c ≠ 'e' ∧ c ≠ 'E'

theorem isDigit_of_mem_toDigits {n : Nat} {c : Char} (member : c ∈ Nat.toDigits 10 n) :
    isDigit c = true := by
  have digit := Nat.isDigit_of_mem_toDigits (by decide) (by decide) member
  simpa [Char.isDigit, isDigit, Char.le_def] using digit

theorem le_ofDigitChars (significand : Nat) (digits : List Char) :
    significand ≤ Nat.ofDigitChars 10 digits significand := by
  induction digits generalizing significand with
  | nil => exact Nat.le_refl _
  | cons d ds ih =>
    refine Nat.le_trans ?_ (ih (10 * significand + (d.toNat - '0'.toNat)))
    omega

theorem takeDigits_eq {significand : Nat} {digits : List Char}
    (fits : Nat.ofDigitChars 10 digits significand ≤ wordMax) :
    takeDigits significand digits = (Nat.ofDigitChars 10 digits significand, digits.length) := by
  induction digits generalizing significand with
  | nil => rfl
  | cons d ds ih =>
    have next : significand * 10 + digitValue d = 10 * significand + (d.toNat - '0'.toNat) := by
      rw [digitValue, Nat.mul_comm]
    have value : Nat.ofDigitChars 10 (d :: ds) significand =
        Nat.ofDigitChars 10 ds (significand * 10 + digitValue d) := by rw [next]; rfl
    rw [value] at fits ⊢
    have small := (le_ofDigitChars _ ds).trans fits
    rw [takeDigits, if_neg (Nat.not_lt.2 small), ih fits]
    rfl

/-- A numeral has no leading zero. -/
theorem head_toDigits_ne_zero {n : Nat} (positive : 0 < n) :
    (Nat.toDigits 10 n).head? ≠ some '0' := by
  induction n using Nat.strongRecOn with
  | ind n ih =>
    rw [Nat.toDigits_eq_if (by decide)]
    split
    next small =>
      have digits : ∀ n < 10, 0 < n → n.digitChar ≠ '0' := by decide
      simpa using digits n small positive
    next large =>
      have shorter := ih (n / 10) (by omega) (by omega)
      cases front : Nat.toDigits 10 (n / 10) with
      | nil => exact absurd front Nat.toDigits_ne_nil
      | cons d ds =>
        rw [front] at shorter
        simpa using shorter

theorem readMagnitude_toDigits {n : Nat} (negative : Bool) (fits : n ≤ wordMax) (stops : Stops rest) :
    readMagnitude negative (Nat.toDigits 10 n ++ rest) =
      (ofDigits negative n).map fun number => (number, rest) := by
  have all : ∀ c ∈ Nat.toDigits 10 n, isDigit c = true := fun _ => isDigit_of_mem_toDigits
  have ends : rest.takeWhile isDigit = [] ∧ rest.dropWhile isDigit = rest := by
    cases rest with
    | nil => exact ⟨rfl, rfl⟩
    | cons c rest =>
      have other := (stops c rfl).1
      simp [other]
  have digits : (Nat.toDigits 10 n ++ rest).takeWhile isDigit = Nat.toDigits 10 n := by
    rw [List.takeWhile_append_of_pos all, ends.1, List.append_nil]
  have left : (Nat.toDigits 10 n ++ rest).dropWhile isDigit = rest := by
    rw [List.dropWhile_append_of_pos all, ends.2]
  have value : takeDigits 0 (Nat.toDigits 10 n) = (n, (Nat.toDigits 10 n).length) := by
    rw [takeDigits_eq (by rwa [Nat.ofDigitChars_ten_toDigits]), Nat.ofDigitChars_ten_toDigits]
  rw [readMagnitude, digits, left]
  cases form : Nat.toDigits 10 n with
  | nil => exact absurd form Nat.toDigits_ne_nil
  | cons d ds =>
    -- The reader refuses a leading zero unless it is the whole numeral.
    have leads : ¬(d = '0' ∧ (!ds.isEmpty) = true) := by
      rintro ⟨rfl, more⟩
      cases n with
      | zero =>
        cases form
        cases more
      | succ n => exact head_toDigits_ne_zero (Nat.succ_pos n) (form ▸ rfl)
    rw [form] at value
    dsimp only
    rw [if_neg leads, value]
    dsimp only
    rw [Nat.sub_self]
    cases rest with
    | nil => cases ofDigits negative n <;> rfl
    | cons c rest =>
      obtain ⟨-, point, small, capital⟩ := stops c rfl
      split
      next same => exact absurd (List.cons.inj same).1 point
      next same => exact absurd (List.cons.inj same).1 small
      next same => exact absurd (List.cons.inj same).1 capital
      next =>
        rw [if_pos rfl]
        cases ofDigits negative n <;> rfl

theorem toDigits_cons (n : Nat) :
    ∃ d digits, Nat.toDigits 10 n = d :: digits ∧ isDigit d = true := by
  cases form : Nat.toDigits 10 n with
  | nil => exact absurd form Nat.toDigits_ne_nil
  | cons d digits => exact ⟨d, digits, rfl, isDigit_of_mem_toDigits (form ▸ List.mem_cons_self)⟩

theorem toList_toString_ofNat (n : Nat) : (toString (Int.ofNat n)).toList = Nat.toDigits 10 n := by
  show (toString n).toList = _
  rw [Nat.toString_eq_ofList_toDigits, String.toList_ofList]

theorem toList_toString_negSucc (n : Nat) :
    (toString (Int.negSucc n)).toList = '-' :: Nat.toDigits 10 (n + 1) := by
  show ("-" ++ toString (n + 1)).toList = _
  rw [Nat.toString_eq_ofList_toDigits, String.toList_append, String.toList_ofList,
    String.toList_ofList]
  rfl

/-- A numeral starts with its sign or with a digit. -/
theorem toString_int_cons (i : Int) :
    ∃ c digits, (toString i).toList = c :: digits ∧ (c = '-' ∨ isDigit c = true) := by
  cases i with
  | ofNat n =>
    obtain ⟨d, digits, form, digit⟩ := toDigits_cons n
    exact ⟨d, digits, (toList_toString_ofNat n).trans form, .inr digit⟩
  | negSucc n => exact ⟨'-', _, toList_toString_negSucc n, .inl rfl⟩

theorem readNumber_toString {i : Int} (lower : -9223372036854775808 ≤ i)
    (upper : i ≤ 18446744073709551615) (stops : Stops rest) :
    readNumber ((toString i).toList ++ rest) = .ok (.int i, rest) := by
  cases i with
  | ofNat n =>
    have small : n ≤ wordMax := by
      have := Int.ofNat_eq_natCast n
      unfold wordMax
      omega
    rw [toList_toString_ofNat, readNumber, readMagnitude_toDigits false small stops]
    · rfl
    · intro inside start
      obtain ⟨d, digits, form, digit⟩ := toDigits_cons n
      rw [form, List.cons_append] at start
      cases start
      cases digit
  | negSucc n =>
    have small : n + 1 ≤ wordMax ∧ n + 1 ≤ 9223372036854775808 := by
      unfold wordMax
      omega
    have value : ofDigits true (n + 1) = .ok (.int (Int.negSucc n)) := by
      rw [ofDigits, if_neg (by decide), if_neg (by omega)]
      rfl
    rw [toList_toString_negSucc, List.cons_append, readNumber,
      readMagnitude_toDigits true small.1 stops, value]
    rfl

/-! ## Lists and objects -/

/-- The text starts as a value does, so that it can follow a bracket or a comma. -/
def Begins (cs : List Char) : Prop := ∃ c rest, cs = c :: rest ∧ isBlank c = false ∧ c ≠ ']'

theorem Begins.append (begins : Begins cs) (rest : List Char) : Begins (cs ++ rest) := by
  obtain ⟨c, more, rfl, visible, other⟩ := begins
  exact ⟨c, more ++ rest, rfl, visible, other⟩

theorem skipBlank_of_visible {c : Char} (visible : isBlank c = false) (cs : List Char) :
    skipBlank (c :: cs) = c :: cs :=
  List.dropWhile_cons_of_neg (by simp [visible])

theorem nextItem_of_begins (begins : Begins cs) :
    nextItem true cs = .ok (true, cs) ∧ nextItem false (',' :: cs) = .ok (true, cs) := by
  obtain ⟨c, rest, rfl, visible, other⟩ := begins
  constructor
  · rw [nextItem, skipBlank_of_visible visible]
    split
    next same => cases same
    next same => exact absurd (List.cons.inj same).1 other
    next same =>
      cases same
      rfl
  · rw [nextItem, skipBlank_of_visible (by decide)]
    split
    next same => cases same
    next same => cases same
    next same =>
      cases same
      rw [if_neg Bool.false_ne_true, if_pos rfl, skipBlank_of_visible visible]
      split
      next same => cases same
      next same => exact absurd (List.cons.inj same).1 other
      next => rfl

/-- Texts with a comma between each two. -/
def separated {α : Type} (write : α → List Char) : List α → List Char
  | [] => []
  | a :: later => write a ++ later.flatMap fun a => ',' :: write a

theorem itemChars_eq (items : List Json) : itemChars items = separated chars items := by
  induction items with
  | nil => rw [itemChars, separated]
  | cons item items ih =>
    cases items with
    | nil => rw [itemChars, separated, List.flatMap_nil, List.append_nil]
    | cons next items =>
      rw [itemChars, ih, separated, separated, List.flatMap_cons, List.cons_append]
      intro same
      cases same

/-- A field with its key. -/
def fieldText (field : String × Json) : List Char := quote field.1 ++ ':' :: field.2.chars

theorem fieldChars_eq (fields : List (String × Json)) :
    fieldChars fields = separated fieldText fields := by
  induction fields with
  | nil => rw [fieldChars, separated]
  | cons field fields ih =>
    cases fields with
    | nil => rw [fieldChars, separated, List.flatMap_nil, List.append_nil, fieldText]
    | cons next fields =>
      rw [fieldChars, ih, separated, separated, List.flatMap_cons, List.cons_append]
      · rfl
      · intro same
        cases same

/-- A separated list is no shorter than the number of its elements, with what closes it. -/
theorem length_le_length_separated {α : Type} (write : α → List Char) (values : List α)
    (c : Char) (rest : List Char) :
    values.length ≤ (separated write values ++ c :: rest).length := by
  have commas : ∀ values : List α,
      values.length ≤ (values.flatMap fun a => ',' :: write a).length := by
    intro values
    induction values with
    | nil => exact Nat.le_refl _
    | cons value values ih =>
      rw [List.flatMap_cons, List.length_append, List.length_cons, List.length_cons]
      omega
  cases values with
  | nil => exact Nat.zero_le _
  | cons value values =>
    have later := commas values
    rw [separated, List.length_append, List.length_append, List.length_cons, List.length_cons]
    omega

theorem stops_comma (rest : List Char) : Stops (',' :: rest) := by
  rintro c ⟨⟩
  decide

theorem stops_bracket (rest : List Char) : Stops (']' :: rest) := by
  rintro c ⟨⟩
  decide

theorem stops_brace (rest : List Char) : Stops ('\x7d' :: rest) := by
  rintro c ⟨⟩
  decide

theorem stops_nil : Stops [] := by
  rintro c ⟨⟩

/-- After an element come a comma and the next one, or the end. -/
theorem stops_later {α : Type} (write : α → List Char) (values : List α) (ends : Stops rest) :
    Stops ((values.flatMap fun a => ',' :: write a) ++ rest) := by
  cases values with
  | nil => exact ends
  | cons value values => exact stops_comma _

section
variable {α : Type} {item : List Char → Except Fault (α × List Char)} {write : α → List Char}
  {values : List α}

theorem readItems_later (enough : values.length < fuel)
    (begins : ∀ a ∈ values, Begins (write a))
    (each : ∀ a ∈ values, ∀ rest, Stops rest → item (write a ++ rest) = .ok (a, rest)) :
    readItems item fuel false ((values.flatMap fun a => ',' :: write a) ++ ']' :: rest) =
      .ok (values, ']' :: rest) := by
  -- Each round of the loop takes one comma and one element.
  induction values generalizing fuel with
  | nil =>
    cases fuel with
    | zero => cases enough
    | succ fuel => rfl
  | cons value values ih =>
    cases fuel with
    | zero => cases enough
    | succ fuel =>
      have next := (nextItem_of_begins ((begins value List.mem_cons_self).append
        ((values.flatMap fun a => ',' :: write a) ++ ']' :: rest))).2
      have head := each value List.mem_cons_self _ (stops_later write values (stops_bracket rest))
      have tail := ih (Nat.lt_of_succ_lt_succ enough)
        (fun a member => begins a (List.mem_cons_of_mem _ member))
        (fun a member => each a (List.mem_cons_of_mem _ member))
      rw [List.flatMap_cons, List.append_assoc, List.cons_append]
      exact readItems_of_item next head tail

theorem readItems_separated (enough : values.length ≤ fuel)
    (begins : ∀ a ∈ values, Begins (write a))
    (each : ∀ a ∈ values, ∀ rest, Stops rest → item (write a ++ rest) = .ok (a, rest)) :
    readItems item (fuel + 1) true (separated write values ++ ']' :: rest) =
      .ok (values, ']' :: rest) := by
  cases values with
  | nil => rfl
  | cons value values =>
    have next := (nextItem_of_begins ((begins value List.mem_cons_self).append
      ((values.flatMap fun a => ',' :: write a) ++ ']' :: rest))).1
    have head := each value List.mem_cons_self _ (stops_later write values (stops_bracket rest))
    rw [separated, List.append_assoc]
    refine readItems_of_item next head (readItems_later enough ?_ ?_)
    · exact fun a member => begins a (List.mem_cons_of_mem _ member)
    · exact fun a member => each a (List.mem_cons_of_mem _ member)

end

theorem quote_append (s : String) (rest : List Char) :
    quote s ++ rest = '"' :: (s.toList.flatMap escapedChar ++ '"' :: rest) := by
  simp [quote]

theorem nextKey_quote (key : String) (rest : List Char) :
    nextKey true (quote key ++ rest) = .ok (some key, rest) ∧
      nextKey false (',' :: (quote key ++ rest)) = .ok (some key, rest) := by
  rw [quote_append]
  refine ⟨nextKey_of_quote rfl (readQuoted_escaped key rest), ?_⟩
  show (readQuoted _ >>= _) = _
  rw [readQuoted_escaped]
  rfl

theorem fieldText_append (field : String × Json) (rest : List Char) :
    fieldText field ++ rest = quote field.1 ++ ':' :: (field.2.chars ++ rest) := by
  rw [fieldText, List.append_assoc, List.cons_append]

section
variable {inner : List Char → Except Fault (Json × List Char)} {early fields : List (String × Json)}

theorem readNext_colon {field : String × Json} (early : List (String × Json))
    (each : inner (field.2.chars ++ rest) = .ok (field.2, rest)) :
    readNext inner field.1 early (':' :: (field.2.chars ++ rest)) = .ok (early ++ [field], rest) := by
  show (inner _ >>= _) = _
  rw [each]
  rfl

theorem readMembers_later (enough : fields.length < fuel)
    (each : ∀ field ∈ fields, ∀ rest, Stops rest →
      inner (field.2.chars ++ rest) = .ok (field.2, rest)) :
    readMembers (readNext inner) fuel false early
        ((fields.flatMap fun field => ',' :: fieldText field) ++ '\x7d' :: rest) =
      .ok (early ++ fields, rest) := by
  induction fields generalizing fuel early with
  | nil =>
    cases fuel with
    | zero => cases enough
    | succ fuel =>
      rw [List.append_nil]
      rfl
  | cons field fields ih =>
    cases fuel with
    | zero => cases enough
    | succ fuel =>
      have head := readNext_colon early
        (each field List.mem_cons_self _ (stops_later fieldText fields (stops_brace rest)))
      rw [List.flatMap_cons, List.append_assoc, List.cons_append, fieldText_append,
        List.append_cons early]
      exact readMembers_of_member (nextKey_quote _ _).2 head (ih (Nat.lt_of_succ_lt_succ enough)
        fun field member => each field (List.mem_cons_of_mem _ member))

theorem readMembers_separated (enough : fields.length ≤ fuel)
    (each : ∀ field ∈ fields, ∀ rest, Stops rest →
      inner (field.2.chars ++ rest) = .ok (field.2, rest)) :
    readMembers (readNext inner) (fuel + 1) true [] (separated fieldText fields ++ '\x7d' :: rest) =
      .ok (fields, rest) := by
  cases fields with
  | nil => rfl
  | cons field fields =>
    have head := readNext_colon []
      (each field List.mem_cons_self _ (stops_later fieldText fields (stops_brace rest)))
    rw [separated, List.append_assoc, fieldText_append]
    exact readMembers_of_member (nextKey_quote _ _).1 head
      (readMembers_later enough fun field member => each field (List.mem_cons_of_mem _ member))

end

/-! ## Trees -/

/-- The tree can be written so that nothing is lost: its numbers are integers of the word range, and
    its brackets nest at most `depth` deep. -/
inductive Writable : (depth : Nat) → Json → Prop where
  | null {depth : Nat} : Writable depth .null
  | bool {depth : Nat} (value : Bool) : Writable depth (.bool value)
  | int {depth : Nat} {i : Int} (lower : -9223372036854775808 ≤ i)
      (upper : i ≤ 18446744073709551615) : Writable depth (.int i)
  | text {depth : Nat} (content : String) : Writable depth (.text content)
  | array {depth : Nat} {items : List Json} (each : ∀ item ∈ items, Writable depth item) :
      Writable (depth + 1) (.array items)
  | object {depth : Nat} {fields : List (String × Json)}
      (each : ∀ field ∈ fields, Writable depth field.2) : Writable (depth + 1) (.object fields)

theorem begins_of_sign {c : Char} (sign : c = '-' ∨ isDigit c = true) (cs : List Char) :
    Begins (c :: cs) := by
  refine ⟨c, cs, rfl, ?_, ?_⟩
  · rw [Bool.eq_false_iff]
    intro blank
    simp only [isBlank, Bool.or_eq_true, beq_iff_eq] at blank
    obtain ((rfl | rfl) | rfl) | rfl := blank <;> simp [isDigit] at sign
  · rintro rfl
    simp [isDigit] at sign

theorem Writable.begins {value : Json} (writable : Writable depth value) : Begins value.chars := by
  cases writable with
  | null => exact ⟨_, _, by rw [chars], by decide, by decide⟩
  | bool value => cases value <;> exact ⟨_, _, by rw [chars], by decide, by decide⟩
  | @int _ i lower upper =>
    obtain ⟨c, digits, form, sign⟩ := toString_int_cons i
    rw [Json.int, chars, Number.text, form]
    exact begins_of_sign sign digits
  | text content => exact ⟨_, _, by rw [chars, quote]; rfl, by decide, by decide⟩
  | array each => exact ⟨_, _, by rw [chars]; rfl, by decide, by decide⟩
  | object each => exact ⟨_, _, by rw [chars]; rfl, by decide, by decide⟩

theorem readOrdered_flat (list : ∀ inside, skipBlank cs ≠ '[' :: inside)
    (object : ∀ inside, skipBlank cs ≠ '\x7b' :: inside) : readOrdered depth cs = readAny 0 cs := by
  cases depth with
  | zero => rw [readOrdered]
  | succ depth =>
    rw [readOrdered]
    split
    next inside start => exact absurd start (list inside)
    next inside start => exact absurd start (object inside)
    next => rfl

/-- A numeral starts like no other value. -/
theorem not_mem_of_sign {c : Char} (sign : c = '-' ∨ isDigit c = true) :
    c ∉ ['n', 't', 'f', '"', '[', '\x7b'] := by
  intro listed
  simp only [List.mem_cons, List.not_mem_nil, or_false] at listed
  obtain rfl | rfl | rfl | rfl | rfl | rfl := listed <;> simp [isDigit] at sign

theorem readOrdered_of_sign {c : Char} {more : List Char} {n : Number}
    (sign : c = '-' ∨ isDigit c = true) (numeral : readNumber (c :: more) = .ok (n, rest)) :
    readOrdered depth (c :: more) = .ok (.number n, rest) := by
  have other := not_mem_of_sign sign
  have visible : skipBlank (c :: more) = c :: more := by
    obtain ⟨_, _, same, visible, -⟩ := begins_of_sign sign more
    cases same
    exact skipBlank_of_visible visible more
  rw [readOrdered_flat, readAny, readAnyBy, visible]
  · split
    case h_1 same => cases same
    case h_2 same | h_3 same | h_4 same | h_5 same | h_6 same | h_7 same =>
      cases same
      exact absurd (by decide) other
    case h_8 same =>
      cases same
      rw [if_pos sign, numeral]
      rfl
  · intro inside start
    cases visible.symm.trans start
    exact absurd (by decide) other
  · intro inside start
    cases visible.symm.trans start
    exact absurd (by decide) other

theorem readOrdered_chars {value : Json} (writable : Writable depth value) (stops : Stops rest) :
    readOrdered depth (value.chars ++ rest) = .ok (value, rest) := by
  induction writable generalizing rest with
  | null =>
    rw [chars, readOrdered_flat (by rintro _ ⟨⟩) (by rintro _ ⟨⟩)]
    rfl
  | bool value =>
    cases value with
    | true =>
      rw [chars, readOrdered_flat (by rintro _ ⟨⟩) (by rintro _ ⟨⟩)]
      rfl
    | false =>
      rw [chars, readOrdered_flat (by rintro _ ⟨⟩) (by rintro _ ⟨⟩)]
      rfl
  | @int _ i lower upper =>
    obtain ⟨c, digits, form, sign⟩ := toString_int_cons i
    have numeral := readNumber_toString lower upper stops
    rw [Json.int, chars, Number.text]
    rw [form, List.cons_append] at numeral ⊢
    exact readOrdered_of_sign sign numeral
  | text content =>
    rw [chars, quote_append, readOrdered_flat (by rintro _ ⟨⟩) (by rintro _ ⟨⟩)]
    show (readQuoted _ >>= _) = _
    rw [readQuoted_escaped]
    rfl
  | @array depth items writable each =>
    rw [chars, itemChars_eq, List.cons_append, List.cons_append, List.append_assoc,
      List.singleton_append]
    show (readList (readOrdered depth) _ >>= _) = _
    rw [readList, readItems_separated (length_le_length_separated chars items ']' rest)
      (fun item member => (writable item member).begins)
      (fun item member rest stops => each item member stops)]
    rfl
  | @object depth fields writable each =>
    rw [chars, fieldChars_eq, List.cons_append, List.cons_append, List.append_assoc,
      List.singleton_append]
    show (readMembers (readNext (readOrdered depth)) _ true [] _ >>= _) = _
    rw [readMembers_separated (length_le_length_separated fieldText fields '\x7d' rest)
      (fun field member rest stops => each field member stops)]
    rfl

theorem parseOrdered_print {value : Json} (writable : Writable maxDepth value) :
    parseOrdered value.print = .ok value := by
  have read := readOrdered_chars writable stops_nil
  rw [List.append_nil] at read
  rw [parseOrdered, print, String.toList_ofList, read]
  rfl

/-! ## Other arrangements

Only the order of its fields keeps a tree from being the sorted one, if it repeats no key. -/

theorem Writable.of_sorted {value tree : Json} (writable : Writable depth value)
    (same : tree.sorted = value) (distinct : tree.unrepeated = true) : Writable depth tree := by
  induction writable generalizing tree with
  | null =>
    rw [eq_null_of_sorted same]
    exact .null
  | bool value =>
    cases tree with
    | bool _ => exact .bool _
    | null | number _ | text _ | array _ | object _ => cases same
  | int lower upper =>
    cases tree with
    | number _ =>
      cases same
      exact .int lower upper
    | null | bool _ | text _ | array _ | object _ => cases same
  | text content =>
    cases tree with
    | text _ => exact .text _
    | null | bool _ | number _ | array _ | object _ => cases same
  | array writable each =>
    cases tree with
    | array items =>
      rw [sorted, sortedItems_eq] at same
      cases same
      rw [unrepeated, unrepeatedItems_eq, List.all_eq_true] at distinct
      exact .array fun item member =>
        each item.sorted (List.mem_map_of_mem member) rfl (distinct item member)
    | null | bool _ | number _ | text _ | object _ => cases same
  | object writable each =>
    cases tree with
    | object fields =>
      rw [sorted] at same
      cases same
      obtain ⟨keys, values⟩ := unrepeated_object_iff.1 distinct
      refine .object fun field member => ?_
      -- No key hides another, so the sorted object still has this field.
      have listed := SortedMap.mem_of_lookup (lookup_placed_of_mem keys member)
      exact each _ listed rfl (values field member)
    | null | bool _ | number _ | text _ | array _ => cases same

/-- The tree can be written, and its fields are in order. -/
structure Neat (depth : Nat) (value : Json) : Prop where
  writable : Writable depth value
  sorted : value.sorted = value

namespace Neat

variable {value : Json}

theorem null : Neat depth .null := ⟨.null, by rw [Json.sorted]⟩

theorem text (content : String) : Neat depth (.text content) := ⟨.text content, by rw [Json.sorted]⟩

theorem ofText? (content : Option String) : Neat depth (.ofText? content) := by
  cases content with
  | none => exact null
  | some content => exact text content

theorem nat {n : Nat} (fits : n ≤ 18446744073709551615) : Neat depth (.nat n) := by
  refine ⟨.int ?_ ?_, by rw [Json.nat, Json.int, Json.sorted]⟩ <;> omega

theorem array {items : List Json} (each : ∀ item ∈ items, Neat depth item) :
    Neat (depth + 1) (.array items) :=
  ⟨.array fun item member => (each item member).writable,
    sorted_array fun item member => (each item member).sorted⟩

theorem object {fields : List (String × Json)} (keys : List String)
    (named : fields.map Prod.fst = keys) (increasing : keys.Pairwise (· < ·))
    (each : ∀ field ∈ fields, Neat depth field.2) : Neat (depth + 1) (.object fields) := by
  subst named
  exact ⟨.object fun field member => (each field member).writable,
    sorted_object (List.pairwise_map.1 increasing) fun field member => (each field member).sorted⟩

theorem increasing {fields : List (String × Json)} (neat : Neat depth (.object fields)) :
    fields.Pairwise fun a b => a.1 < b.1 := by
  have same := neat.sorted
  rw [Json.sorted, ofFields] at same
  injection same with same
  rw [← same]
  exact (SortedMap.ofList (sortedFields fields)).sorted

theorem unrepeated (neat : Neat depth value) : value.unrepeated = true := by
  rw [← neat.sorted]
  exact unrepeated_sorted value

end Neat

end SchemaServer.Json
