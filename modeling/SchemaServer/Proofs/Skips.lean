import Mathlib.Data.List.DropRight
import SchemaServer.Json.Parse
import SchemaServer.Proofs.Outcomes

/-! # What is read can be stepped over

A value under a key that nobody asks for is stepped over, by a loop of its own that looks at tokens
and builds nothing.  Wherever the reader of values finds a value, the loop stops at the same place.

* `Spelled` lists what a value at the front of a text can be, and `spelled_of_readAny` says that the
  reader finds nothing else.
* `skipQuotedFrom_of_readQuotedFrom` and `skipNumber_of_readNumber` are the two scanners that are not
  shared.
* `skipValue_of_readAny` is the result.  The loop runs on fuel, so the number of its steps is counted
  along: it takes a character at every step. -/

namespace SchemaServer.Json

variable {depth : Nat} {cs cs' rest : List Char} {first : Bool}

/-! ## Separators -/

theorem skipBlank_skipBlank (cs : List Char) : skipBlank (skipBlank cs) = skipBlank cs :=
  List.dropWhile_idempotent isBlank cs

theorem length_skipBlank_le (cs : List Char) : (skipBlank cs).length ≤ cs.length :=
  (List.dropWhile_suffix isBlank).length_le

theorem length_lt_of_skipBlank {c : Char} (start : skipBlank cs = c :: rest) :
    rest.length < cs.length := by
  have shorter := length_skipBlank_le cs
  rw [start, List.length_cons] at shorter
  omega

/-- A text that a scanner left without blanks in front stays as it is. -/
theorem skipBlank_of_skipBlank {c : Char} (start : skipBlank cs = c :: rest) :
    skipBlank (c :: rest) = c :: rest := by
  rw [← start, skipBlank_skipBlank]

theorem skipColon_eq_ok (colon : skipColon cs = .ok rest) : skipBlank cs = ':' :: rest := by
  unfold skipColon at colon
  split at colon
  next start =>
    cases colon
    exact start
  next => cases colon
  next => cases colon

theorem endList_eq_ok (ended : endList cs = .ok rest) : skipBlank cs = ']' :: rest := by
  unfold endList at ended
  split at ended
  next => cases ended
  next start =>
    cases ended
    exact start
  next => split at ended <;> cases ended
  next => cases ended

theorem nextItem_eq_last (last : nextItem first cs = .ok (false, cs')) :
    ∃ rest, skipBlank cs = ']' :: rest ∧ cs' = ']' :: rest := by
  unfold nextItem at last
  split at last
  next => cases last
  next start =>
    cases last
    exact ⟨_, start, rfl⟩
  next =>
    split at last
    · cases last
    · split at last
      · split at last <;> cases last
      · cases last

theorem nextItem_eq_first (more : nextItem true cs = .ok (true, cs')) :
    ∃ c rest, skipBlank cs = c :: rest ∧ c ≠ ']' ∧ cs' = c :: rest := by
  unfold nextItem at more
  split at more
  next => cases more
  next => cases more
  next c rest notEnd start =>
    cases more
    refine ⟨c, rest, start, ?_, rfl⟩
    rintro rfl
    exact notEnd rfl

theorem nextItem_eq_next (more : nextItem false cs = .ok (true, cs')) :
    ∃ rest, skipBlank cs = ',' :: rest ∧ skipBlank rest = cs' := by
  unfold nextItem at more
  split at more
  next => cases more
  next => cases more
  next c rest notEnd start =>
    rw [if_neg Bool.false_ne_true] at more
    split at more
    next comma =>
      subst comma
      split at more
      · cases more
      · cases more
      · cases more
        exact ⟨rest, start, rfl⟩
    next => cases more

theorem nextKey_eq_last (last : nextKey first cs = .ok (none, rest)) :
    skipBlank cs = '\x7d' :: rest := by
  unfold nextKey at last
  dsimp only at last
  split at last
  next => cases last
  next start =>
    cases last
    exact start
  next =>
    split at last
    · split at last
      · obtain ⟨_, _, done⟩ := exists_of_bind_eq_ok last
        cases done
      · cases last
    · split at last
      · split at last
        · cases last
        · obtain ⟨_, _, done⟩ := exists_of_bind_eq_ok last
          cases done
        · cases last
        · cases last
      · cases last

theorem nextKey_eq_first {key : String} (more : nextKey true cs = .ok (some key, rest)) :
    ∃ inside, skipBlank cs = '"' :: inside ∧ readQuoted inside = .ok (key, rest) := by
  unfold nextKey at more
  dsimp only at more
  split at more
  next => cases more
  next => cases more
  next c inside notEnd start =>
    rw [if_pos rfl] at more
    split at more
    next quote =>
      subst quote
      obtain ⟨⟨found, left⟩, quoted, done⟩ := exists_of_bind_eq_ok more
      cases done
      exact ⟨inside, start, quoted⟩
    next => cases more

theorem nextKey_eq_next {key : String} (more : nextKey false cs = .ok (some key, rest)) :
    ∃ after inside, skipBlank cs = ',' :: after ∧ skipBlank after = '"' :: inside ∧
      readQuoted inside = .ok (key, rest) := by
  unfold nextKey at more
  dsimp only at more
  split at more
  next => cases more
  next => cases more
  next c after notEnd start =>
    rw [if_neg Bool.false_ne_true] at more
    split at more
    next comma =>
      subst comma
      split at more
      next => cases more
      next inside begins =>
        obtain ⟨⟨found, left⟩, quoted, done⟩ := exists_of_bind_eq_ok more
        cases done
        exact ⟨after, inside, start, begins, quoted⟩
      next => cases more
      next => cases more
    next => cases more

/-! ## Lists and objects, one step at a time -/

theorem readItems_cases {α : Type} {item : List Char → Except Fault (α × List Char)} {fuel : Nat}
    {values : List α} (read : readItems item fuel first cs = .ok (values, rest)) :
    ∃ less, fuel = less + 1 ∧
      ((nextItem first cs = .ok (false, rest) ∧ values = []) ∨
        ∃ cs₁ value cs₂ later, nextItem first cs = .ok (true, cs₁) ∧ item cs₁ = .ok (value, cs₂) ∧
          readItems item less false cs₂ = .ok (later, rest) ∧ values = value :: later) := by
  cases fuel with
  | zero => cases read
  | succ less =>
    refine ⟨less, rfl, ?_⟩
    rw [readItems] at read
    obtain ⟨⟨more, cs₁⟩, next, read⟩ := exists_of_bind_eq_ok read
    cases more with
    | false =>
      cases read
      exact .inl ⟨next, rfl⟩
    | true =>
      obtain ⟨⟨value, cs₂⟩, head, read⟩ := exists_of_bind_eq_ok read
      obtain ⟨⟨later, cs₃⟩, tail, read⟩ := exists_of_bind_eq_ok read
      cases read
      exact .inr ⟨cs₁, value, cs₂, later, next, head, tail, rfl⟩

theorem readMembers_cases {σ : Type} {fuel : Nat} {s s' : σ}
    {member : String → σ → List Char → Except Fault (σ × List Char)}
    (read : readMembers member fuel first s cs = .ok (s', rest)) :
    ∃ less, fuel = less + 1 ∧
      ((nextKey first cs = .ok (none, rest) ∧ s' = s) ∨
        ∃ key cs₁ s₁ cs₂, nextKey first cs = .ok (some key, cs₁) ∧
          member key s cs₁ = .ok (s₁, cs₂) ∧ readMembers member less false s₁ cs₂ = .ok (s', rest)) := by
  cases fuel with
  | zero => cases read
  | succ less =>
    refine ⟨less, rfl, ?_⟩
    rw [readMembers] at read
    obtain ⟨⟨key?, cs₁⟩, next, read⟩ := exists_of_bind_eq_ok read
    cases key? with
    | none =>
      cases read
      exact .inl ⟨next, rfl⟩
    | some key =>
      obtain ⟨⟨s₁, cs₂⟩, head, read⟩ := exists_of_bind_eq_ok read
      exact .inr ⟨key, cs₁, s₁, cs₂, next, head, read⟩

section
variable {α σ : Type} {item : List Char → Except Fault (α × List Char)} {fuel : Nat}
  {member : String → σ → List Char → Except Fault (σ × List Char)} {cs₁ cs₂ : List Char}

theorem readItems_of_end (last : nextItem first cs = .ok (false, rest)) :
    readItems item (fuel + 1) first cs = .ok ([], rest) := by
  rw [readItems, last]
  rfl

theorem readItems_of_item {value : α} {later : List α}
    (next : nextItem first cs = .ok (true, cs₁)) (head : item cs₁ = .ok (value, cs₂))
    (tail : readItems item fuel false cs₂ = .ok (later, rest)) :
    readItems item (fuel + 1) first cs = .ok (value :: later, rest) := by
  rw [readItems, next]
  show (item cs₁ >>= _) = _
  rw [head]
  show (readItems item fuel false cs₂ >>= _) = _
  rw [tail]
  rfl

theorem readMembers_of_end {s : σ} (last : nextKey first cs = .ok (none, rest)) :
    readMembers member (fuel + 1) first s cs = .ok (s, rest) := by
  rw [readMembers, last]
  rfl

theorem readMembers_of_member {key : String} {s s₁ s' : σ}
    (next : nextKey first cs = .ok (some key, cs₁)) (head : member key s cs₁ = .ok (s₁, cs₂))
    (tail : readMembers member fuel false s₁ cs₂ = .ok (s', rest)) :
    readMembers member (fuel + 1) first s cs = .ok (s', rest) := by
  rw [readMembers, next]
  show (member key s cs₁ >>= _) = _
  rw [head]
  exact tail

end

/-! ## What a value can be -/

/-- Read what follows a key of an object, and keep the value under that key. -/
def readEntry (depth : Nat) (key : String) (fields : List (String × Json)) (cs : List Char) :
    Except Fault (List (String × Json) × List Char) := do
  let (value, cs) ← readAny depth (← skipColon cs)
  return (SortedMap.insertEntry key value fields, cs)

theorem readEntry_eq_ok {key : String} {fields fields' : List (String × Json)}
    (read : readEntry depth key fields cs = .ok (fields', rest)) :
    ∃ cs₁ value, skipColon cs = .ok cs₁ ∧ readAny depth cs₁ = .ok (value, rest) ∧
      fields' = SortedMap.insertEntry key value fields := by
  obtain ⟨cs₁, colon, read⟩ := exists_of_bind_eq_ok read
  obtain ⟨⟨value, cs₂⟩, inner, read⟩ := exists_of_bind_eq_ok read
  cases read
  exact ⟨cs₁, value, colon, inner, rfl⟩

/-- The text starts with this value, whose brackets nest at most so deep, and goes on with the
    rest. -/
inductive Spelled : Nat → List Char → Json → List Char → Prop where
  | null {depth : Nat} {cs word rest : List Char} (start : skipBlank cs = 'n' :: word)
      (spelled : skipWord ['u', 'l', 'l'] word = .ok rest) : Spelled depth cs .null rest
  | true {depth : Nat} {cs word rest : List Char} (start : skipBlank cs = 't' :: word)
      (spelled : skipWord ['r', 'u', 'e'] word = .ok rest) : Spelled depth cs (.bool true) rest
  | false {depth : Nat} {cs word rest : List Char} (start : skipBlank cs = 'f' :: word)
      (spelled : skipWord ['a', 'l', 's', 'e'] word = .ok rest) :
      Spelled depth cs (.bool false) rest
  | text {depth : Nat} {cs inside rest : List Char} {content : String}
      (start : skipBlank cs = '"' :: inside) (quoted : readQuoted inside = .ok (content, rest)) :
      Spelled depth cs (.text content) rest
  | number {depth : Nat} {cs more rest : List Char} {c : Char} {n : Number}
      (start : skipBlank cs = c :: more) (sign : c = '-' ∨ isDigit c = true)
      (numeral : readNumber (c :: more) = .ok (n, rest)) : Spelled depth cs (.number n) rest
  | array {depth : Nat} {cs inside rest : List Char} {items : List Json}
      (start : skipBlank cs = '[' :: inside)
      (listed : readList (readAny depth) inside = .ok (items, rest)) :
      Spelled (depth + 1) cs (.array items) rest
  | object {depth : Nat} {cs inside rest : List Char} {fields : List (String × Json)}
      (start : skipBlank cs = '\x7b' :: inside)
      (members : readMembers (readEntry depth) (inside.length + 1) Bool.true [] inside =
        .ok (fields, rest)) : Spelled (depth + 1) cs (.object fields) rest

theorem spelled_of_readAny {value : Json} (read : readAny depth cs = .ok (value, rest)) :
    Spelled depth cs value rest := by
  have step : readAny depth cs =
      readAnyBy (match depth with | 0 => none | depth + 1 => some (readAny depth)) cs := by
    cases depth <;> rfl
  rw [step] at read
  unfold readAnyBy at read
  split at read
  next => cases read
  next word start =>
    obtain ⟨left, spelled, done⟩ := exists_of_bind_eq_ok read
    cases done
    exact .null start spelled
  next word start =>
    obtain ⟨left, spelled, done⟩ := exists_of_bind_eq_ok read
    cases done
    exact .true start spelled
  next word start =>
    obtain ⟨left, spelled, done⟩ := exists_of_bind_eq_ok read
    cases done
    exact .false start spelled
  next inside start =>
    obtain ⟨⟨content, left⟩, quoted, done⟩ := exists_of_bind_eq_ok read
    cases done
    exact .text start quoted
  next inside start =>
    cases depth with
    | zero => cases read
    | succ depth =>
      obtain ⟨⟨items, left⟩, listed, done⟩ := exists_of_bind_eq_ok read
      cases done
      exact .array start listed
  next inside start =>
    cases depth with
    | zero => cases read
    | succ depth =>
      obtain ⟨⟨fields, left⟩, members, done⟩ := exists_of_bind_eq_ok read
      cases done
      exact .object start members
  next c more _ _ _ _ _ _ start =>
    split at read
    next sign =>
      obtain ⟨⟨n, left⟩, numeral, done⟩ := exists_of_bind_eq_ok read
      cases done
      exact .number start sign numeral
    next => cases read

/-! ## Words, quoted texts and numerals -/

theorem length_skipWord_le {word : List Char} (spelled : skipWord word cs = .ok rest) :
    rest.length ≤ cs.length := by
  induction word generalizing cs with
  | nil =>
    cases spelled
    exact Nat.le_refl _
  | cons w word ih =>
    cases cs with
    | nil => cases spelled
    | cons c cs =>
      rw [skipWord] at spelled
      split at spelled
      · have shorter := ih spelled
        rw [List.length_cons]
        omega
      · cases spelled

/-- What stepping over a quoted text has begun when reading it has begun this.  The half of a
    surrogate pair does not make it wait for the other half. -/
inductive Keeps : Escape → Escape → Prop where
  | plain : Keeps .plain .plain
  | letter : Keeps .letter .letter
  | hex (high high' : Option Nat) (count value value' : Nat) :
      Keeps (.hex high count value) (.hex high' count value')
  | pair (high : Nat) : Keeps (.pair high) .plain
  | pairLetter (high : Nat) : Keeps (.pairLetter high) .letter

theorem skipQuotedFrom_plain (c : Char) (cs : List Char) :
    skipQuotedFrom .plain (c :: cs) =
      if c = '"' then .ok cs
      else if c = '\\' then skipQuotedFrom .letter cs
      else if c.toNat < 0x20 then .error .controlCharacter
      else skipQuotedFrom .plain cs := rfl

theorem skipQuotedFrom_of_readQuotedFrom {begun kept : Escape} {content : List Char}
    (keeps : Keeps begun kept) (read : readQuotedFrom begun cs = .ok (content, rest)) :
    skipQuotedFrom kept cs = .ok rest ∧ rest.length < cs.length := by
  induction cs generalizing begun kept content with
  | nil => cases keeps <;> cases read
  | cons c cs ih =>
    have later : ∀ {begun kept : Escape} {content : List Char}, Keeps begun kept →
        readQuotedFrom begun cs = .ok (content, rest) →
        skipQuotedFrom kept cs = .ok rest ∧ rest.length < (c :: cs).length := by
      intro begun kept content keeps read
      obtain ⟨skipped, shorter⟩ := ih keeps read
      rw [List.length_cons]
      exact ⟨skipped, by omega⟩
    -- A character of the content has been read, and the next one starts afresh.
    have afresh : ∀ {d : Char} {content : List Char},
        (readQuotedFrom .plain cs >>= fun found => pure (d :: found.1, found.2)) =
          .ok (content, rest) →
        skipQuotedFrom .plain cs = .ok rest ∧ rest.length < (c :: cs).length := by
      intro d content read
      obtain ⟨⟨inside, left⟩, inner, done⟩ := exists_of_bind_eq_ok read
      cases done
      exact later .plain inner
    cases keeps with
    | plain =>
      rw [readQuotedFrom] at read
      rw [skipQuotedFrom_plain]
      split at read
      next ends =>
        cases read
        rw [if_pos ends]
        exact ⟨rfl, by simp⟩
      next goes =>
        rw [if_neg goes]
        split at read
        next escape =>
          rw [if_pos escape]
          exact later .letter read
        next ordinary =>
          rw [if_neg ordinary]
          split at read
          next => cases read
          next printable =>
            rw [if_neg printable]
            exact afresh read
    | letter =>
      rw [readQuotedFrom] at read
      rw [skipQuotedFrom]
      split at read
      next coded =>
        rw [if_pos coded]
        exact later (.hex ..) read
      next short =>
        rw [if_neg short]
        split at read
        next d known =>
          rw [if_pos (by simp [known])]
          exact afresh read
        next => cases read
    | hex high high' count value value' =>
      rw [readQuotedFrom] at read
      rw [skipQuotedFrom]
      split at read
      next => cases read
      next digit known =>
        rw [if_neg (by simp [known])]
        dsimp only at read
        split at read
        next fewer =>
          rw [if_pos fewer]
          exact later (.hex ..) read
        next complete =>
          rw [if_neg complete]
          -- Read, the last digit may leave half a pair; stepped over, it always ends the escape.
          cases high with
          | none =>
            dsimp only at read
            split at read
            · cases read
            · split at read
              · exact later (.pair _) read
              · exact afresh read
          | some high =>
            dsimp only at read
            split at read
            · exact afresh read
            · cases read
    | pair high =>
      rw [readQuotedFrom] at read
      split at read
      next escape =>
        subst escape
        exact later (.pairLetter high) read
      next => cases read
    | pairLetter high =>
      rw [readQuotedFrom] at read
      split at read
      next coded =>
        subst coded
        exact later (.hex ..) read
      next => cases read

theorem skipQuoted_of_readQuoted {content : String} (read : readQuoted cs = .ok (content, rest)) :
    skipQuotedFrom .plain cs = .ok rest ∧ rest.length < cs.length := by
  obtain ⟨⟨inside, left⟩, read, done⟩ := exists_of_bind_eq_ok read
  cases done
  exact skipQuotedFrom_of_readQuotedFrom .plain read

theorem length_exponentSign_le (cs : List Char) : (exponentSign cs).2.length ≤ cs.length := by
  unfold exponentSign
  split <;> simp

theorem skipExponent_of_readExponent {d : Decimal} {n : Number}
    (read : readExponent d cs = .ok (n, rest)) :
    skipExponent cs = .ok rest ∧ rest.length ≤ cs.length := by
  unfold readExponent at read
  unfold skipExponent
  have shorter := length_exponentSign_le cs
  generalize exponentSign cs = signed at read shorter ⊢
  obtain ⟨down, tail⟩ := signed
  cases tail with
  | nil => cases read
  | cons c tail =>
    dsimp only at read ⊢
    split at read
    next digit =>
      have dropped := (List.dropWhile_suffix (l := c :: tail) isDigit).length_le
      have same : rest = (c :: tail).dropWhile isDigit := by
        split at read
        · split at read
          · cases read
          · cases read
            rfl
        · obtain ⟨number, -, done⟩ := exists_of_bind_eq_ok read
          cases done
          rfl
      rw [if_pos digit, same]
      exact ⟨rfl, Nat.le_trans dropped shorter⟩
    next => cases read

theorem skipTail_of_readTail {d : Decimal} {n : Number} (read : readTail d cs = .ok (n, rest)) :
    skipTail cs = .ok rest ∧ rest.length ≤ cs.length := by
  unfold readTail at read
  unfold skipTail
  split at read
  next =>
    obtain ⟨skipped, shorter⟩ := skipExponent_of_readExponent read
    exact ⟨skipped, by rw [List.length_cons]; omega⟩
  next =>
    obtain ⟨skipped, shorter⟩ := skipExponent_of_readExponent read
    exact ⟨skipped, by rw [List.length_cons]; omega⟩
  next =>
    obtain ⟨number, -, done⟩ := exists_of_bind_eq_ok read
    cases done
    exact ⟨rfl, Nat.le_refl _⟩

theorem skipTail_of_readFraction {d : Decimal} {n : Number}
    (read : readFraction d cs = .ok (n, rest)) :
    (cs.takeWhile isDigit).isEmpty = false ∧ skipTail (cs.dropWhile isDigit) = .ok rest ∧
      rest.length ≤ cs.length := by
  unfold readFraction at read
  split at read
  next => cases read
  next digits present =>
    obtain ⟨skipped, tail⟩ := skipTail_of_readTail read
    have dropped := (List.dropWhile_suffix (l := cs) isDigit).length_le
    refine ⟨?_, skipped, by omega⟩
    rw [List.isEmpty_eq_false_iff]
    exact present

theorem skipMagnitude_of_readMagnitude {negative : Bool} {n : Number}
    (read : readMagnitude negative cs = .ok (n, rest)) :
    skipMagnitude cs = .ok rest ∧ rest.length < cs.length := by
  unfold readMagnitude at read
  unfold skipMagnitude
  dsimp only at read
  split at read
  next => cases read
  next d ds digits =>
    -- There is a digit, so what follows the digits is shorter than the whole.
    have shorter : (cs.dropWhile isDigit).length < cs.length := by
      have whole := List.takeWhile_append_dropWhile (p := isDigit) (l := cs)
      have lengths := congrArg List.length whole
      rw [digits, List.length_append, List.length_cons] at lengths
      omega
    split at read
    next => cases read
    next plain =>
      rw [if_neg plain]
      split at read
      next point dotted =>
        obtain ⟨present, skipped, tail⟩ := skipTail_of_readFraction read
        rw [dotted, List.length_cons] at shorter
        rw [dotted]
        show (if (point.takeWhile isDigit).isEmpty = true then _ else skipTail _) = _ ∧ _
        rw [present, if_neg Bool.false_ne_true]
        exact ⟨skipped, by omega⟩
      next marked exponent =>
        obtain ⟨skipped, tail⟩ := skipExponent_of_readExponent read
        rw [exponent, List.length_cons] at shorter
        rw [exponent]
        exact ⟨skipped, by omega⟩
      next marked exponent =>
        obtain ⟨skipped, tail⟩ := skipExponent_of_readExponent read
        rw [exponent, List.length_cons] at shorter
        rw [exponent]
        exact ⟨skipped, by omega⟩
      next left notPoint notSmall notCapital =>
        have same : rest = cs.dropWhile isDigit := by
          split at read
          · obtain ⟨number, -, done⟩ := exists_of_bind_eq_ok read
            cases done
            rfl
          · obtain ⟨number, -, done⟩ := exists_of_bind_eq_ok read
            cases done
            rfl
        rw [same]
        refine ⟨?_, shorter⟩
        split
        next dotted => exact absurd dotted (notPoint _)
        next =>
          unfold skipTail
          split
          next exponent => exact absurd exponent (notSmall _)
          next exponent => exact absurd exponent (notCapital _)
          next => rfl

theorem skipNumber_of_readNumber {n : Number} (read : readNumber cs = .ok (n, rest)) :
    skipNumber cs = .ok rest ∧ rest.length < cs.length := by
  unfold readNumber at read
  unfold skipNumber
  split at read
  next =>
    obtain ⟨skipped, shorter⟩ := skipMagnitude_of_readMagnitude read
    exact ⟨skipped, by rw [List.length_cons]; omega⟩
  next => exact skipMagnitude_of_readMagnitude read

/-! ## Tokens -/

/-- The loop over tokens comes from one place of the text to a later one in no more steps than there
    are characters between them. -/
def Reaches (a b : List Bracket × Expecting × List Char) : Prop :=
  ∃ steps, steps + b.2.2.length ≤ a.2.2.length ∧
    ∀ fuel, skipTokens (fuel + steps) a.1 a.2.1 a.2.2 = skipTokens fuel b.1 b.2.1 b.2.2

theorem Reaches.trans {a b c : List Bracket × Expecting × List Char} (early : Reaches a b)
    (late : Reaches b c) : Reaches a c := by
  obtain ⟨m, short, step⟩ := early
  obtain ⟨n, shorter, more⟩ := late
  refine ⟨n + m, by omega, ?_⟩
  intro fuel
  rw [← Nat.add_assoc, step, more]

section
variable {brackets brackets' : List Bracket} {expecting expecting' : Expecting}
  {inside word after : List Char}

/-- Blanks before a token make no difference.  Behind the whole value the loop has ended and leaves
    them in place. -/
theorem skipTokens_skipBlank {fuel : Nat} (within : (brackets, expecting) ≠ ([], .next)) :
    skipTokens fuel brackets expecting (skipBlank cs) = skipTokens fuel brackets expecting cs := by
  cases fuel with
  | zero => rfl
  | succ fuel =>
    match brackets, expecting with
    | _, .value | _, .key | .list :: _, .next | .object :: _, .next =>
      rw [skipTokens, skipTokens, skipBlank_skipBlank]
    | [], .next => exact absurd rfl within

/-- A place is reached from the blanks before a token if it is reached from the token. -/
theorem Reaches.of_blank {a : List Bracket × Expecting × List Char} (start : skipBlank cs = word)
    (within : (brackets, expecting) ≠ ([], .next)) (later : Reaches (brackets, expecting, word) a) :
    Reaches (brackets, expecting, cs) a := by
  subst start
  have blank : Reaches (brackets, expecting, cs) (brackets, expecting, skipBlank cs) :=
    ⟨0, by simpa using length_skipBlank_le cs, fun _ => (skipTokens_skipBlank within).symm⟩
  exact blank.trans later

theorem reaches_of_step (shorter : rest.length < cs.length)
    (step : ∀ fuel, skipTokens (fuel + 1) brackets expecting cs =
      skipTokens fuel brackets' expecting' rest) :
    Reaches (brackets, expecting, cs) (brackets', expecting', rest) :=
  ⟨1, by dsimp only; omega, step⟩

/-- A step that scans a part of the text goes on behind that part. -/
theorem reaches_of_scan {scan : Except Fault (List Char)} (scanned : scan = .ok rest)
    (shorter : rest.length < cs.length)
    (step : ∀ fuel, skipTokens (fuel + 1) brackets expecting cs =
      scan >>= skipTokens fuel brackets' expecting') :
    Reaches (brackets, expecting, cs) (brackets', expecting', rest) := by
  refine reaches_of_step shorter fun fuel => ?_
  rw [step, scanned]
  rfl

theorem reaches_key {key : String} (start : skipBlank cs = '"' :: inside)
    (quoted : readQuoted inside = .ok (key, after)) (colon : skipColon after = .ok rest) :
    Reaches (brackets, .key, cs) (brackets, .value, rest) := by
  obtain ⟨skipped, short⟩ := skipQuoted_of_readQuoted quoted
  have shorter := length_lt_of_skipBlank (skipColon_eq_ok colon)
  refine .of_blank start nofun
    (reaches_of_step (Nat.lt_succ_of_lt (shorter.trans short)) fun fuel => ?_)
  show (skipQuotedFrom .plain inside >>= fun rest =>
    skipColon rest >>= skipTokens fuel brackets .value) = _
  rw [skipped]
  show (skipColon after >>= skipTokens fuel brackets .value) = _
  rw [colon]
  rfl

theorem reaches_number {c : Char} {n : Number} (start : skipBlank cs = c :: word)
    (sign : c = '-' ∨ isDigit c = true) (numeral : readNumber (c :: word) = .ok (n, rest)) :
    Reaches (brackets, .value, cs) (brackets, .next, rest) := by
  obtain ⟨skipped, shorter⟩ := skipNumber_of_readNumber numeral
  refine .of_blank start nofun (reaches_of_scan skipped shorter fun fuel => ?_)
  rw [skipTokens, skipBlank_of_skipBlank start]
  -- Neither a sign nor a digit opens anything but a numeral.
  split
  next eq => cases eq
  next eq => cases eq; simp [isDigit] at sign
  next eq => cases eq; simp [isDigit] at sign
  next eq => cases eq; simp [isDigit] at sign
  next eq => cases eq; simp [isDigit] at sign
  next eq => cases eq; simp [isDigit] at sign
  next eq => cases eq; simp [isDigit] at sign
  next eq =>
    cases eq
    rw [if_pos sign]

theorem skipTokens_openBracket {fuel : Nat} :
    skipTokens (fuel + 1) brackets .value ('[' :: inside) =
      match skipBlank inside with
      | [] => .error .endInList
      | ']' :: rest => skipTokens fuel brackets .next rest
      | rest => skipTokens fuel (.list :: brackets) .value rest :=
  rfl

theorem skipTokens_openBrace {fuel : Nat} :
    skipTokens (fuel + 1) brackets .value ('\x7b' :: inside) =
      match skipBlank inside with
      | [] => .error .endInObject
      | '\x7d' :: rest => skipTokens fuel brackets .next rest
      | rest => skipTokens fuel (.object :: brackets) .key rest :=
  rfl

/-! Inside a bracket, what is known of the values of less depth carries over to the whole. -/

variable (inner : ∀ {brackets : List Bracket} {cs rest : List Char} {value : Json},
  readAny depth cs = .ok (value, rest) →
    Reaches (brackets, .value, cs) (brackets, .next, rest))
include inner

theorem reaches_listEnd {fuel : Nat} {items : List Json}
    (read : readItems (readAny depth) fuel false cs = .ok (items, after))
    (ended : endList after = .ok rest) :
    Reaches (.list :: brackets, .next, cs) (brackets, .next, rest) := by
  induction fuel generalizing cs items with
  | zero => cases read
  | succ fuel ih =>
    obtain ⟨less, same, ⟨last, -⟩ | ⟨cs₁, value, cs₂, later, next, head, tail, -⟩⟩ :=
      readItems_cases read
    · obtain ⟨left, start, rfl⟩ := nextItem_eq_last last
      have ending := endList_eq_ok ended
      rw [skipBlank_of_skipBlank start] at ending
      cases ending
      exact .of_blank start nofun (reaches_of_step (Nat.lt_succ_self _) fun _ => rfl)
    · obtain rfl : fuel = less := Nat.succ.inj same
      obtain ⟨left, start, rfl⟩ := nextItem_eq_next next
      have comma : Reaches (.list :: brackets, .next, cs) (.list :: brackets, .value, left) :=
        .of_blank start nofun (reaches_of_step (Nat.lt_succ_self _) fun _ => rfl)
      exact comma.trans (.of_blank rfl nofun ((inner head).trans (ih tail)))

theorem reaches_list {items : List Json} (start : skipBlank cs = '[' :: inside)
    (listed : readList (readAny depth) inside = .ok (items, rest)) :
    Reaches (brackets, .value, cs) (brackets, .next, rest) := by
  refine .of_blank start nofun ?_
  obtain ⟨⟨found, left⟩, read, listed⟩ := exists_of_bind_eq_ok listed
  obtain ⟨after, ended, done⟩ := exists_of_bind_eq_ok listed
  cases done
  obtain ⟨less, same, ⟨last, -⟩ | ⟨cs₁, value, cs₂, later, next, head, tail, -⟩⟩ :=
    readItems_cases read
  · obtain ⟨empty, closing, rfl⟩ := nextItem_eq_last last
    have ending := endList_eq_ok ended
    rw [skipBlank_of_skipBlank closing] at ending
    cases ending
    have shorter := length_lt_of_skipBlank closing
    refine reaches_of_step (Nat.lt_succ_of_lt shorter) fun fuel => ?_
    rw [skipTokens_openBracket, closing]
    rfl
  · obtain ⟨c, more, opening, notEnd, rfl⟩ := nextItem_eq_first next
    have bracket : Reaches (brackets, .value, '[' :: inside) (.list :: brackets, .value, c :: more) := by
      have shorter := length_skipBlank_le inside
      rw [opening] at shorter
      refine reaches_of_step (Nat.lt_succ_of_le shorter) fun fuel => ?_
      rw [skipTokens_openBracket, opening]
      split
      next eq => cases eq
      next eq =>
        cases eq
        exact absurd rfl notEnd
      next => rfl
    exact (bracket.trans (inner head)).trans (reaches_listEnd inner tail ended)

theorem reaches_objectEnd {fuel : Nat} {fields fields' : List (String × Json)}
    (read : readMembers (readEntry depth) fuel false fields cs = .ok (fields', rest)) :
    Reaches (.object :: brackets, .next, cs) (brackets, .next, rest) := by
  induction fuel generalizing cs fields with
  | zero => cases read
  | succ fuel ih =>
    obtain ⟨less, same, ⟨last, -⟩ | ⟨key, cs₁, fields₁, cs₂, next, head, tail⟩⟩ :=
      readMembers_cases read
    · have start := nextKey_eq_last last
      exact .of_blank start nofun (reaches_of_step (Nat.lt_succ_self _) fun _ => rfl)
    · obtain rfl : fuel = less := Nat.succ.inj same
      obtain ⟨left, inside, start, opening, quoted⟩ := nextKey_eq_next next
      obtain ⟨cs₃, value, colon, read, -⟩ := readEntry_eq_ok head
      have comma : Reaches (.object :: brackets, .next, cs) (.object :: brackets, .key, left) :=
        .of_blank start nofun (reaches_of_step (Nat.lt_succ_self _) fun _ => rfl)
      exact ((comma.trans (reaches_key opening quoted colon)).trans (inner read)).trans (ih tail)

theorem reaches_object {fuel : Nat} {fields : List (String × Json)}
    (start : skipBlank cs = '\x7b' :: inside)
    (members : readMembers (readEntry depth) fuel true [] inside = .ok (fields, rest)) :
    Reaches (brackets, .value, cs) (brackets, .next, rest) := by
  refine .of_blank start nofun ?_
  obtain ⟨less, same, ⟨last, -⟩ | ⟨key, cs₁, fields₁, cs₂, next, head, tail⟩⟩ :=
    readMembers_cases members
  · have closing := nextKey_eq_last last
    have shorter := length_lt_of_skipBlank closing
    refine reaches_of_step (Nat.lt_succ_of_lt shorter) fun fuel => ?_
    rw [skipTokens_openBrace, closing]
    rfl
  · obtain ⟨content, opening, quoted⟩ := nextKey_eq_first next
    obtain ⟨cs₃, value, colon, read, -⟩ := readEntry_eq_ok head
    have bracket : Reaches (brackets, .value, '\x7b' :: inside) (.object :: brackets, .key, '"' :: content) := by
      have shorter := length_skipBlank_le inside
      rw [opening] at shorter
      refine reaches_of_step (Nat.lt_succ_of_le shorter) fun fuel => ?_
      rw [skipTokens_openBrace, opening]
      rfl
    have quote : Reaches (.object :: brackets, .key, '"' :: content) (_, .value, cs₃) :=
      reaches_key (skipBlank_of_skipBlank opening) quoted colon
    exact ((bracket.trans quote).trans (inner read)).trans (reaches_objectEnd inner tail)

end

/-- The loop over tokens passes every value that can be read, whatever brackets are open. -/
theorem reaches_of_readAny {brackets : List Bracket} {value : Json}
    (read : readAny depth cs = .ok (value, rest)) :
    Reaches (brackets, .value, cs) (brackets, .next, rest) := by
  induction depth using Nat.strongRecOn generalizing brackets cs value rest with
  | ind depth ih =>
    cases spelled_of_readAny read with
    | null start spelled | true start spelled | false start spelled =>
      have shorter := length_skipWord_le spelled
      exact .of_blank start nofun
        (reaches_of_scan spelled (Nat.lt_succ_of_le shorter) fun _ => rfl)
    | text start quoted =>
      obtain ⟨skipped, shorter⟩ := skipQuoted_of_readQuoted quoted
      exact .of_blank start nofun
        (reaches_of_scan skipped (Nat.lt_succ_of_lt shorter) fun _ => rfl)
    | number start sign numeral => exact reaches_number start sign numeral
    | array start listed => exact reaches_list (fun inner => ih _ (Nat.lt_succ_self _) inner) start listed
    | object start members =>
      exact reaches_object (fun inner => ih _ (Nat.lt_succ_self _) inner) start members

/-- A value that can be read is stepped over. -/
theorem skipValue_of_readAny {value : Json} (read : readAny depth cs = .ok (value, rest)) :
    skipValue cs = .ok rest := by
  have passed : Reaches ([], .value, cs) ([], .next, rest) := reaches_of_readAny read
  obtain ⟨steps, shorter, reaches⟩ := passed
  dsimp only at shorter reaches
  have enough : 2 * cs.length + 2 = (2 * cs.length + 1 - steps) + 1 + steps := by omega
  rw [skipValue, enough, reaches]
  rfl

end SchemaServer.Json
