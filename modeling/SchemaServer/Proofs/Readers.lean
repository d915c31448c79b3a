import SchemaServer.Json.Tree
import SchemaServer.Proofs.Skips
import SchemaServer.Proofs.Stores

/-! # Reading a text and reading its tree

A shape serves two readers, one of texts and one of trees.  What the reader of texts makes of a text
is what the reader of trees makes of the tree of that text, if it has one (`ofJson_of_parse`).  In
particular a text is refused if a part of its tree is.

The proof goes along the shape.  `Shape.Takes` says what a text starts with that a shape is read from.
`Shape.Agrees` is the statement for one shape at the front of any text; there is one lemma for each
kind of shape, and `Shape.agrees` puts them together.  A record
with keys is the one case where the two readers do not go side by side: the one meets the keys in the
order of the text, the other in increasing order.  `Fields.Holds` says what is read in the end,
whatever the order. -/

namespace SchemaServer.Json

variable {α β σ ρ : Type} {depth : Nat} {cs rest rest' : List Char} {value : Json}

/-- Where both readers take what the text starts with, they stop at the same place and the tree gives
    the same value. -/
def Shape.Agrees (shape : Shape α) : Prop :=
  ∀ (depth : Nat) (cs rest rest' : List Char) (a : α) (value : Json),
    shape.read depth cs = .ok (a, rest) → readAny depth cs = .ok (value, rest') →
      rest' = rest ∧ shape.ofJson value = .ok a

/-- The shapes of all fields agree. -/
def Fields.Agree : {σ ρ : Type} → Fields σ ρ → Prop
  | _, _, .nil => True
  | _, _, .cons _ shape _ rest => shape.Agrees ∧ rest.Agree

theorem readAny_skipBlank (depth : Nat) (cs : List Char) :
    readAny depth (skipBlank cs) = readAny depth cs := by
  cases depth with
  | zero => rw [readAny, readAnyBy, readAnyBy, skipBlank_skipBlank]
  | succ depth => rw [readAny, readAnyBy, readAnyBy, skipBlank_skipBlank]

/-! ## What the first character tells

Two readers that start at the same character are at the same kind of value. -/

theorem null_of_readAny {word : List Char} (start : skipBlank cs = 'n' :: word)
    (spelled : skipWord ['u', 'l', 'l'] word = .ok rest)
    (tree : readAny depth cs = .ok (value, rest')) : rest' = rest ∧ value = .null := by
  cases spelled_of_readAny tree with
  | null opening again =>
    cases start.symm.trans opening
    cases spelled.symm.trans again
    exact ⟨rfl, rfl⟩
  | true opening _ | false opening _ | text opening _ | array opening _ | object opening _ =>
    cases start.symm.trans opening
  | number opening sign _ =>
    cases start.symm.trans opening
    simp [isDigit] at sign

theorem text_of_readAny {inside : List Char} {content : String}
    (start : skipBlank cs = '"' :: inside) (quoted : readQuoted inside = .ok (content, rest))
    (tree : readAny depth cs = .ok (value, rest')) : rest' = rest ∧ value = .text content := by
  cases spelled_of_readAny tree with
  | text opening again =>
    cases start.symm.trans opening
    cases quoted.symm.trans again
    exact ⟨rfl, rfl⟩
  | null opening _ | true opening _ | false opening _ | array opening _ | object opening _ =>
    cases start.symm.trans opening
  | number opening sign _ =>
    cases start.symm.trans opening
    simp [isDigit] at sign

theorem items_of_readAny {inside : List Char} (start : skipBlank cs = '[' :: inside)
    (tree : readAny (depth + 1) cs = .ok (value, rest)) :
    ∃ items after, value = .array items ∧
      readItems (readAny depth) (inside.length + 1) true inside = .ok (items, after) ∧
      endList after = .ok rest := by
  cases spelled_of_readAny tree with
  | array opening listed =>
    cases start.symm.trans opening
    obtain ⟨⟨items, after⟩, read, listed⟩ := exists_of_bind_eq_ok listed
    obtain ⟨left, ended, done⟩ := exists_of_bind_eq_ok listed
    cases done
    exact ⟨_, _, rfl, read, ended⟩
  | null opening _ | true opening _ | false opening _ | text opening _ | object opening _ =>
    cases start.symm.trans opening
  | number opening sign _ =>
    cases start.symm.trans opening
    simp [isDigit] at sign

theorem members_of_readAny {inside : List Char} (start : skipBlank cs = '\x7b' :: inside)
    (tree : readAny (depth + 1) cs = .ok (value, rest)) :
    ∃ fields, value = .object fields ∧
      readMembers (readEntry depth) (inside.length + 1) true [] inside = .ok (fields, rest) := by
  cases spelled_of_readAny tree with
  | object opening members =>
    cases start.symm.trans opening
    exact ⟨_, rfl, members⟩
  | null opening _ | true opening _ | false opening _ | text opening _ | array opening _ =>
    cases start.symm.trans opening
  | number opening sign _ =>
    cases start.symm.trans opening
    simp [isDigit] at sign

/-! ## What a shape takes -/

/-- The text starts with this value in the form of the shape, and goes on with the rest. -/
def Shape.Takes : {α : Type} → Shape α → (depth : Nat) → List Char → α → List Char → Prop
  | _, .any, depth, cs, value, rest => readAny depth cs = .ok (value, rest)
  | _, .text, _, cs, content, rest =>
    ∃ inside, skipBlank cs = '"' :: inside ∧ readQuoted inside = .ok (content, rest)
  | _, .integer kind, _, cs, i, rest =>
    ∃ c word n, skipBlank cs = c :: word ∧ (c = '-' ∨ isDigit c = true) ∧
      readNumber (c :: word) = .ok (n, rest) ∧ kind.check n = .ok i
  | _, .optional item, depth, cs, found, rest =>
    (∃ word, skipBlank cs = 'n' :: word ∧ skipWord ['u', 'l', 'l'] word = .ok rest ∧
      found = none) ∨
    (∃ a, (∀ word, skipBlank cs ≠ 'n' :: word) ∧ item.read depth (skipBlank cs) = .ok (a, rest) ∧
      found = some a)
  | _, .list item, depth, cs, values, rest =>
    ∃ inside less after, skipBlank cs = '[' :: inside ∧ depth = less + 1 ∧
      readItems (item.read less) (inside.length + 1) true inside = .ok (values, after) ∧
      endList after = .ok rest
  | _, .pair first second, depth, cs, values, rest =>
    ∃ inside less cs₁ cs₂ cs₃ after, skipBlank cs = '[' :: inside ∧ depth = less + 1 ∧
      nextItem true inside = .ok (true, cs₁) ∧ first.read less cs₁ = .ok (values.1, cs₂) ∧
      nextItem false cs₂ = .ok (true, cs₃) ∧ second.read less cs₃ = .ok (values.2, after) ∧
      endList after = .ok rest
  | _, .choice cases, depth, cs, a, rest => readChoice cases depth cs = .ok (a, rest)
  | _, .record name fields, depth, cs, found, rest =>
    (∃ inside less after, skipBlank cs = '[' :: inside ∧ depth = less + 1 ∧
      fields.readItems less (recordLength name fields.size) 0 true inside = .ok (found, after) ∧
      endList after = .ok rest) ∨
    (∃ inside less slots, skipBlank cs = '\x7b' :: inside ∧ depth = less + 1 ∧
      readMembers (fields.readMember less) (inside.length + 1) true fields.none inside =
        .ok (slots, rest) ∧ fields.finish slots = .ok found)
  | _, .refine base check, depth, cs, b, rest =>
    ∃ a, base.read depth cs = .ok (a, rest) ∧ check a = .ok b

theorem deeper_eq_ok {read : Nat → Except Fault α} {a : α} (deep : deeper depth read = .ok a) :
    ∃ less, depth = less + 1 ∧ read less = .ok a := by
  cases depth with
  | zero => cases deep
  | succ less => exact ⟨less, rfl, deep⟩

theorem Shape.takes_of_read {shape : Shape α} {a : α} (read : shape.read depth cs = .ok (a, rest)) :
    shape.Takes depth cs a rest := by
  cases shape with
  | any => exact read
  | text =>
    rw [Shape.read] at read
    split at read
    next inside start => exact ⟨inside, start, read⟩
    next => cases read
  | integer kind =>
    rw [Shape.read] at read
    split at read
    next => cases read
    next c word start =>
      split at read
      next sign =>
        obtain ⟨⟨n, left⟩, numeral, read⟩ := exists_of_bind_eq_ok read
        obtain ⟨i, checked, done⟩ := exists_of_bind_eq_ok read
        cases done
        exact ⟨c, word, n, start, sign, numeral, checked⟩
      next => cases read
  | optional item =>
    rw [Shape.read] at read
    split at read
    next word start =>
      obtain ⟨left, spelled, done⟩ := exists_of_bind_eq_ok read
      cases done
      exact Or.inl ⟨word, start, spelled, rfl⟩
    next notNull =>
      obtain ⟨⟨found, left⟩, inner, done⟩ := exists_of_bind_eq_ok read
      cases done
      exact Or.inr ⟨found, notNull, inner, rfl⟩
  | list item =>
    rw [Shape.read] at read
    split at read
    next inside start =>
      obtain ⟨less, rfl, read⟩ := deeper_eq_ok read
      obtain ⟨⟨found, after⟩, read, listed⟩ := exists_of_bind_eq_ok read
      obtain ⟨left, ended, done⟩ := exists_of_bind_eq_ok listed
      cases done
      exact ⟨inside, less, after, start, rfl, read, ended⟩
    next => cases read
  | pair first second =>
    rw [Shape.read] at read
    split at read
    next inside start =>
      obtain ⟨less, rfl, read⟩ := deeper_eq_ok read
      obtain ⟨⟨more, cs₁⟩, next, read⟩ := exists_of_bind_eq_ok read
      cases more with
      | false => cases read
      | true =>
        obtain ⟨⟨one, cs₂⟩, head, read⟩ := exists_of_bind_eq_ok read
        obtain ⟨⟨more, cs₃⟩, nextAfter, read⟩ := exists_of_bind_eq_ok read
        cases more with
        | false => cases read
        | true =>
          obtain ⟨⟨other, after⟩, tail, read⟩ := exists_of_bind_eq_ok read
          obtain ⟨left, ended, done⟩ := exists_of_bind_eq_ok read
          cases done
          exact ⟨inside, less, cs₁, cs₂, cs₃, after, start, rfl, next, head, nextAfter, tail, ended⟩
    next => cases read
  | choice cases =>
    rw [Shape.read] at read
    exact read
  | record name fields =>
    rw [Shape.read] at read
    split at read
    next inside start =>
      obtain ⟨less, rfl, read⟩ := deeper_eq_ok read
      obtain ⟨⟨found, after⟩, read, listed⟩ := exists_of_bind_eq_ok read
      obtain ⟨left, ended, done⟩ := exists_of_bind_eq_ok listed
      cases done
      exact Or.inl ⟨inside, less, after, start, rfl, read, ended⟩
    next inside start =>
      obtain ⟨less, rfl, read⟩ := deeper_eq_ok read
      obtain ⟨⟨slots, left⟩, read, listed⟩ := exists_of_bind_eq_ok read
      obtain ⟨found, finishes, done⟩ := exists_of_bind_eq_ok listed
      cases done
      exact Or.inr ⟨inside, less, slots, start, rfl, read, finishes⟩
    next => cases read
  | refine base check =>
    rw [Shape.read] at read
    obtain ⟨⟨found, left⟩, inner, read⟩ := exists_of_bind_eq_ok read
    obtain ⟨b, checked, done⟩ := exists_of_bind_eq_ok read
    cases done
    exact ⟨found, inner, checked⟩

/-! ## Plain values -/

theorem agrees_any : Shape.any.Agrees := by
  intro depth cs rest rest' a value read tree
  cases read.symm.trans tree
  exact ⟨rfl, rfl⟩

theorem agrees_text : Shape.text.Agrees := by
  intro depth cs rest rest' a value read tree
  obtain ⟨inside, start, quoted⟩ := Shape.takes_of_read read
  obtain ⟨rfl, rfl⟩ := text_of_readAny start quoted tree
  exact ⟨rfl, rfl⟩

theorem agrees_integer (kind : IntKind) : (Shape.integer kind).Agrees := by
  intro depth cs rest rest' a value read tree
  obtain ⟨c, word, n, start, sign, numeral, checked⟩ := Shape.takes_of_read read
  cases spelled_of_readAny tree with
  | number opening _ again =>
    cases start.symm.trans opening
    cases numeral.symm.trans again
    exact ⟨rfl, checked⟩
  | null opening _ | true opening _ | false opening _ | text opening _ | array opening _
  | object opening _ =>
    cases start.symm.trans opening
    simp [isDigit] at sign

theorem ofJson_optional (item : Shape α) (present : value ≠ .null) :
    (Shape.optional item).ofJson value = some <$> item.ofJson value := by
  cases value with
  | null => exact absurd rfl present
  | bool _ | number _ | text _ | array _ | object _ => rfl

theorem agrees_optional {item : Shape α} (agrees : item.Agrees) : (Shape.optional item).Agrees := by
  intro depth cs rest rest' a value read tree
  obtain ⟨word, start, spelled, rfl⟩ | ⟨a, notNull, inner, rfl⟩ := Shape.takes_of_read read
  · obtain ⟨rfl, rfl⟩ := null_of_readAny start spelled tree
    exact ⟨rfl, rfl⟩
  · obtain ⟨same, converted⟩ :=
      agrees depth (skipBlank cs) _ rest' a value inner (by rw [readAny_skipBlank, tree])
    refine ⟨same, ?_⟩
    have present : value ≠ .null := by
      rintro rfl
      cases spelled_of_readAny tree with
      | null opening _ => exact notNull _ opening
    rw [ofJson_optional item present, converted]
    rfl

theorem agrees_refine {base : Shape α} {check : α → Except Fault β} (agrees : base.Agrees) :
    (Shape.refine base check).Agrees := by
  intro depth cs rest rest' b value read tree
  obtain ⟨a, inner, checked⟩ := Shape.takes_of_read read
  obtain ⟨same, converted⟩ := agrees depth cs _ rest' a value inner tree
  refine ⟨same, ?_⟩
  show (base.ofJson value >>= check) = _
  rw [converted]
  exact checked

/-! ## Lists -/

theorem nextItem_of_endList {first : Bool} (ended : endList cs = .ok rest) :
    nextItem first cs = .ok (false, ']' :: rest) := by
  rw [nextItem, endList_eq_ok ended]
  rfl

theorem endList_closing (rest : List Char) : endList (']' :: rest) = .ok rest := rfl

section
variable {item : List Char → Except Fault (α × List Char)} {fuel : Nat} {first : Bool}
  {values : List α} {cs₁ : List Char}

theorem readItems_of_more (more : nextItem first cs = .ok (true, cs₁))
    (read : readItems item fuel first cs = .ok (values, rest)) :
    ∃ less value cs₂ later, item cs₁ = .ok (value, cs₂) ∧
      readItems item less false cs₂ = .ok (later, rest) ∧ values = value :: later := by
  obtain ⟨less, -, ⟨last, -⟩ | ⟨_, value, cs₂, later, next, head, tail, listed⟩⟩ :=
    readItems_cases read
  · cases more.symm.trans last
  · cases more.symm.trans next
    exact ⟨less, value, cs₂, later, head, tail, listed⟩

theorem readItems_of_last (last : nextItem first cs = .ok (false, cs₁))
    (read : readItems item fuel first cs = .ok (values, rest)) : values = [] ∧ rest = cs₁ := by
  obtain ⟨-, -, ⟨again, listed⟩ | ⟨_, _, _, _, next, -, -, -⟩⟩ := readItems_cases read
  · cases last.symm.trans again
    exact ⟨listed, rfl⟩
  · cases last.symm.trans next

end

theorem readItems_agrees {item : Shape α} (agrees : item.Agrees) {fuel fuel' : Nat} {first : Bool}
    {values : List α} {items : List Json}
    (read : readItems (item.read depth) fuel first cs = .ok (values, rest))
    (tree : readItems (readAny depth) fuel' first cs = .ok (items, rest')) :
    rest' = rest ∧ items.mapM item.ofJson = .ok values := by
  induction fuel generalizing cs first fuel' values items with
  | zero => cases read
  | succ fuel ih =>
    obtain ⟨less, same, ⟨last, rfl⟩ | ⟨cs₁, value, cs₂, later, next, head, tail, rfl⟩⟩ :=
      readItems_cases read
    · obtain ⟨rfl, rfl⟩ := readItems_of_last last tree
      exact ⟨rfl, rfl⟩
    · obtain rfl : fuel = less := Nat.succ.inj same
      obtain ⟨_, element, _, elements, headTree, tailTree, rfl⟩ := readItems_of_more next tree
      obtain ⟨rfl, converted⟩ := agrees depth cs₁ _ _ _ _ head headTree
      obtain ⟨same, converteds⟩ := ih tail tailTree
      refine ⟨same, ?_⟩
      rw [List.mapM_cons, converted, converteds]
      rfl

theorem agrees_list {item : Shape α} (agrees : item.Agrees) : (Shape.list item).Agrees := by
  intro depth cs rest rest' values value read tree
  obtain ⟨inside, less, after, start, rfl, read, ended⟩ := Shape.takes_of_read read
  obtain ⟨items, afterTree, rfl, elements, endedTree⟩ := items_of_readAny start tree
  obtain ⟨rfl, converted⟩ := readItems_agrees agrees read elements
  cases ended.symm.trans endedTree
  exact ⟨rfl, converted⟩

theorem agrees_pair {first : Shape α} {second : Shape β} (agreesFirst : first.Agrees)
    (agreesSecond : second.Agrees) : (Shape.pair first second).Agrees := by
  rintro depth cs rest rest' ⟨a, b⟩ value read tree
  obtain ⟨inside, less, cs₁, cs₂, cs₃, after, start, rfl, next, head, nextAfter, other, ended⟩ :=
    Shape.takes_of_read read
  obtain ⟨items, afterTree, rfl, elements, endedTree⟩ := items_of_readAny start tree
  -- The elements of the tree are met one after the other, and there is no third one.
  obtain ⟨_, x, _, _, headTree, tailTree, rfl⟩ := readItems_of_more next elements
  obtain ⟨rfl, convertedX⟩ := agreesFirst less _ _ _ _ _ head headTree
  obtain ⟨_, y, _, _, otherTree, endTree, rfl⟩ := readItems_of_more nextAfter tailTree
  obtain ⟨rfl, convertedY⟩ := agreesSecond less _ _ _ _ _ other otherTree
  obtain ⟨rfl, rfl⟩ := readItems_of_last (nextItem_of_endList ended) endTree
  cases (endList_closing _).symm.trans endedTree
  refine ⟨rfl, ?_⟩
  show (first.ofJson x >>= _) = _
  rw [convertedX]
  show (second.ofJson y >>= _) = _
  rw [convertedY]
  rfl

/-! ## Choices -/

section
variable {member : String → σ → List Char → Except Fault (σ × List Char)} {fuel : Nat}
  {first : Bool} {s s' : σ} {cs₁ : List Char}

theorem readMembers_of_more {key : String} (more : nextKey first cs = .ok (some key, cs₁))
    (read : readMembers member fuel first s cs = .ok (s', rest)) :
    ∃ less s₁ cs₂, member key s cs₁ = .ok (s₁, cs₂) ∧
      readMembers member less false s₁ cs₂ = .ok (s', rest) := by
  obtain ⟨less, -, ⟨last, -⟩ | ⟨_, _, s₁, cs₂, next, head, tail⟩⟩ := readMembers_cases read
  · cases more.symm.trans last
  · cases more.symm.trans next
    exact ⟨less, s₁, cs₂, head, tail⟩

theorem readMembers_of_last (last : nextKey first cs = .ok (none, cs₁))
    (read : readMembers member fuel first s cs = .ok (s', rest)) : s' = s ∧ rest = cs₁ := by
  obtain ⟨-, -, ⟨again, same⟩ | ⟨_, _, _, _, next, -, -⟩⟩ := readMembers_cases read
  · cases last.symm.trans again
    exact ⟨same, rfl⟩
  · cases last.symm.trans next

end

theorem nextKey_of_quote {key : String} {inside after : List Char}
    (start : skipBlank cs = '"' :: inside) (quoted : readQuoted inside = .ok (key, after)) :
    nextKey true cs = .ok (some key, after) := by
  rw [nextKey, start]
  show (readQuoted inside >>= _) = _
  rw [quoted]
  rfl

theorem nextKey_of_brace {first : Bool} (start : skipBlank cs = '\x7d' :: rest) :
    nextKey first cs = .ok (none, rest) := by
  rw [nextKey, start]
  rfl

theorem agrees_choice (cases : List (String × α)) : (Shape.choice cases).Agrees := by
  intro depth cs rest rest' a value read tree
  have read : readChoice cases depth cs = .ok (a, rest) := Shape.takes_of_read read
  rw [readChoice] at read
  split at read
  next => cases read
  next inside start =>
    obtain ⟨⟨name, left⟩, quoted, read⟩ := exists_of_bind_eq_ok read
    obtain ⟨chosen, picked, done⟩ := exists_of_bind_eq_ok read
    cases done
    obtain ⟨rfl, rfl⟩ := text_of_readAny start quoted tree
    exact ⟨rfl, picked⟩
  next inside start =>
    cases depth with
    | zero => cases read
    | succ depth =>
      obtain ⟨fields, rfl, members⟩ := members_of_readAny start tree
      rw [deeper] at read
      split at read
      next content opening =>
        obtain ⟨⟨name, left⟩, quoted, read⟩ := exists_of_bind_eq_ok read
        obtain ⟨chosen, picked, read⟩ := exists_of_bind_eq_ok read
        obtain ⟨after, colon, read⟩ := exists_of_bind_eq_ok read
        split at read
        next word null =>
          obtain ⟨behind, spelled, read⟩ := exists_of_bind_eq_ok read
          split at read
          next left closing =>
            cases read
            obtain ⟨_, fields₁, _, entry, others⟩ :=
              readMembers_of_more (nextKey_of_quote opening quoted) members
            obtain ⟨_, payload, colonTree, inner, rfl⟩ := readEntry_eq_ok entry
            cases colon.symm.trans colonTree
            obtain ⟨rfl, rfl⟩ := null_of_readAny null spelled inner
            obtain ⟨rfl, rfl⟩ := readMembers_of_last (nextKey_of_brace closing) others
            refine ⟨rfl, ?_⟩
            show (pickCase cases name >>= fun value => pure value) = _
            rw [picked]
            rfl
          next => cases read
          next => cases read
        next => cases read
      next => cases read
      next => cases read
      next => cases read
  next => cases read

/-! ## Records as lists -/

/-- The elements of a list are the fields of a record for both readers. -/
theorem Fields.ofItems_of_readItems : {σ ρ : Type} → (fields : Fields σ ρ) → fields.Agree →
    ∀ ⦃expected : String⦄ ⦃index fuel : Nat⦄ ⦃first : Bool⦄ ⦃cs after after' rest : List Char⦄
      ⦃record : ρ⦄ ⦃items : List Json⦄,
      fields.readItems depth expected index first cs = .ok (record, after) →
      endList after = .ok rest →
      Json.readItems (readAny depth) fuel first cs = .ok (items, after') →
      after' = ']' :: rest ∧ fields.ofItems expected index items = .ok (record, [])
  | _, _, .nil, _ => by
    intro expected index fuel first cs after after' rest record items read ended tree
    rw [Fields.readItems] at read
    cases read
    obtain ⟨rfl, rfl⟩ := readItems_of_last (nextItem_of_endList ended) tree
    exact ⟨rfl, rfl⟩
  | _, _, .cons _ shape absent fields, agree => by
    intro expected index fuel first cs after after' rest record items read ended tree
    obtain ⟨agrees, agree⟩ : shape.Agrees ∧ fields.Agree := agree
    rw [Fields.readItems] at read
    obtain ⟨⟨more, cs₁⟩, next, read⟩ := exists_of_bind_eq_ok read
    cases more with
    | true =>
      obtain ⟨⟨value, cs₂⟩, head, read⟩ := exists_of_bind_eq_ok (x := shape.read _ _) read
      obtain ⟨⟨values, cs₃⟩, tail, done⟩ :=
        exists_of_bind_eq_ok (x := fields.readItems _ _ _ _ _) read
      cases done
      obtain ⟨_, item, _, items, headTree, tailTree, rfl⟩ := readItems_of_more next tree
      obtain ⟨rfl, converted⟩ := agrees depth _ _ _ _ _ head headTree
      obtain ⟨same, convertedRest⟩ := fields.ofItems_of_readItems agree tail ended tailTree
      refine ⟨same, ?_⟩
      rw [Fields.ofItems, converted]
      show (fields.ofItems expected (index + 1) items >>= _) = _
      rw [convertedRest]
      rfl
    | false =>
      -- The list is over, and the fields that are left have their defaults.
      obtain ⟨left, -, rfl⟩ := nextItem_eq_last next
      obtain ⟨rfl, rfl⟩ := readItems_of_last next tree
      have nothing : Json.readItems (readAny depth) 1 first (']' :: left) =
          .ok ([], ']' :: left) :=
        readItems_of_end (nextItem_of_endList (endList_closing left))
      cases absent with
      | required => cases read
      | keyed value => cases read
      | defaulted value =>
        obtain ⟨⟨values, cs₃⟩, tail, done⟩ :=
          exists_of_bind_eq_ok (x := fields.readItems _ _ _ _ _) read
        cases done
        obtain ⟨same, converted⟩ := fields.ofItems_of_readItems agree tail ended nothing
        refine ⟨same, ?_⟩
        rw [Fields.ofItems]
        show (fields.ofItems expected (index + 1) [] >>= _) = _
        rw [converted]
        rfl

/-! ## Records with keys -/

/-- The keys without this one. -/
def hide (key : String) (look : String → Option Json) : String → Option Json :=
  fun other => if key = other then none else look other

/-- The keys with a value for this one. -/
def put (key : String) (value : Json) (look : String → Option Json) : String → Option Json :=
  fun other => if key = other then some value else look other

theorem hide_put_self (key : String) (value : Json) (look : String → Option Json) :
    hide key (put key value look) = hide key look := by
  funext other
  unfold hide put
  split <;> rfl

theorem hide_put_of_ne {key key' : String} (apart : key' ≠ key) (value : Json)
    (look : String → Option Json) : hide key' (put key value look) = put key value (hide key' look) := by
  funext other
  unfold hide put
  grind

/-- Every field has been read from the value under its key, and those without a value not at all.
    Of two fields with one key the first has the value. -/
def Fields.Holds : {σ ρ : Type} → Fields σ ρ → (String → Option Json) → σ → Prop
  | _, _, .nil, _, () => True
  | _, _, .cons key shape _ rest, look, (slot, slots) =>
    (look key).mapM shape.ofJson = .ok slot ∧ rest.Holds (hide key look) slots

theorem Fields.holds_none : {σ ρ : Type} → (fields : Fields σ ρ) →
    ∀ ⦃look : String → Option Json⦄, (∀ key, look key = Option.none) → fields.Holds look fields.none
  | _, _, .nil, _, _ => trivial
  | _, _, .cons key shape _ rest, look, empty => by
    refine ⟨?_, rest.holds_none ?_⟩
    · rw [empty key]
      rfl
    · intro other
      unfold hide
      rw [empty other, ite_self]

theorem Fields.holds_unique : {σ ρ : Type} → (fields : Fields σ ρ) →
    ∀ ⦃look : String → Option Json⦄ ⦃slots slots' : σ⦄, fields.Holds look slots →
      fields.Holds look slots' → slots = slots'
  | _, _, .nil, _, (), (), _, _ => rfl
  | _, _, .cons _ _ _ fields, _, (_, _), (_, _), one, other => by
    cases one.1.symm.trans other.1
    rw [fields.holds_unique one.2 other.2]

/-- Reading the member of an object in a text adds its value to what is held. -/
theorem Fields.holds_of_readMember : {σ ρ : Type} → (fields : Fields σ ρ) → fields.Agree →
    ∀ ⦃key : String⦄ ⦃slots slots' : σ⦄ ⦃cs cs₁ rest rest' : List Char⦄ ⦃value : Json⦄
      ⦃look : String → Option Json⦄,
      fields.readMember depth key slots cs = .ok (slots', rest) → skipColon cs = .ok cs₁ →
      readAny depth cs₁ = .ok (value, rest') → fields.Holds look slots →
      rest' = rest ∧ fields.Holds (put key value look) slots'
  | _, _, .nil, _ => by
    rintro key ⟨⟩ ⟨⟩ cs cs₁ rest rest' value look read colon tree -
    rw [Fields.readMember, colon] at read
    obtain ⟨left, skipped, done⟩ := exists_of_bind_eq_ok (x := skipValue cs₁) read
    cases done
    cases skipped.symm.trans (skipValue_of_readAny tree)
    exact ⟨rfl, trivial⟩
  | _, _, .cons own shape _ fields, agree => by
    rintro key ⟨slot, slots⟩ ⟨slot', slots'⟩ cs cs₁ rest rest' value look read colon tree holds
    obtain ⟨agrees, agree⟩ : shape.Agrees ∧ fields.Agree := agree
    obtain ⟨held, others⟩ : (look own).mapM shape.ofJson = .ok slot ∧
      fields.Holds (hide own look) slots := holds
    rw [Fields.readMember] at read
    split at read
    next same =>
      subst same
      -- The field had no value yet, or the key would have been refused.
      split at read
      · cases read
      · rw [colon] at read
        obtain ⟨⟨a, left⟩, inner, done⟩ := exists_of_bind_eq_ok (x := shape.read depth cs₁) read
        cases done
        obtain ⟨rfl, converted⟩ := agrees depth _ _ _ _ _ inner tree
        refine ⟨rfl, ?_, ?_⟩
        · rw [put, if_pos rfl, Option.mapM_some, converted]
          rfl
        · rw [hide_put_self]
          exact others
    next apart =>
      obtain ⟨⟨later, left⟩, inner, done⟩ := exists_of_bind_eq_ok read
      cases done
      obtain ⟨rfl, held'⟩ := fields.holds_of_readMember agree inner colon tree others
      refine ⟨rfl, ?_, ?_⟩
      · rw [put, if_neg (Ne.symm apart)]
        exact held
      · rw [hide_put_of_ne apart]
        exact held'

/-- An object that both readers go through is held as its tree has it. -/
theorem holds_of_readMembers {fields : Fields σ ρ} (agree : fields.Agree) {fuel fuel' : Nat}
    {first : Bool} {slots slots' : σ} {members members' : List (String × Json)}
    (read : readMembers (fields.readMember depth) fuel first slots cs = .ok (slots', rest))
    (tree : readMembers (readEntry depth) fuel' first members cs = .ok (members', rest'))
    (sorted : members.Pairwise (fun a b => a.1 < b.1))
    (holds : fields.Holds (fun key => SortedMap.lookup key members) slots) :
    rest' = rest ∧ members'.Pairwise (fun a b => a.1 < b.1) ∧
      fields.Holds (fun key => SortedMap.lookup key members') slots' := by
  induction fuel generalizing cs first fuel' slots members with
  | zero => cases read
  | succ fuel ih =>
    obtain ⟨less, same, ⟨last, rfl⟩ | ⟨key, cs₁, slots₁, cs₂, next, head, tail⟩⟩ :=
      readMembers_cases read
    · obtain ⟨rfl, rfl⟩ := readMembers_of_last last tree
      exact ⟨rfl, sorted, holds⟩
    · obtain rfl : fuel = less := Nat.succ.inj same
      obtain ⟨_, members₁, _, headTree, tailTree⟩ := readMembers_of_more next tree
      obtain ⟨_, value, colon, inner, rfl⟩ := readEntry_eq_ok headTree
      obtain ⟨rfl, held⟩ := fields.holds_of_readMember agree head colon inner holds
      refine ih tail tailTree (SortedMap.insertEntry_sorted key value sorted) ?_
      -- The tree puts the member in its place, which a look-up does not see.
      have inserted : (fun other => SortedMap.lookup other (SortedMap.insertEntry key value members)) =
          put key value fun other => SortedMap.lookup other members := by
        funext other
        exact SortedMap.lookup_insertEntry key other value members
      rw [inserted]
      exact held

/-- A member whose key has no value yet is read into what will be held in the end. -/
theorem Fields.ofMember_of_holds : {σ ρ : Type} → (fields : Fields σ ρ) →
    ∀ ⦃key : String⦄ ⦃value : Json⦄ ⦃look whole : String → Option Json⦄ ⦃slots slots' : σ⦄,
      fields.Holds look slots → look key = Option.none → fields.Holds whole slots' →
      whole key = some value →
      ∃ slots₁, fields.ofMember key value slots = .ok slots₁ ∧ fields.Holds (put key value look) slots₁
  | _, _, .nil => by
    rintro key value look whole ⟨⟩ ⟨⟩ - - - -
    exact ⟨(), rfl, trivial⟩
  | _, _, .cons own shape _ fields => by
    rintro key value look whole ⟨slot, slots⟩ ⟨slot', slots'⟩ holds fresh finally' found
    obtain ⟨held, others⟩ : (look own).mapM shape.ofJson = .ok slot ∧
      fields.Holds (hide own look) slots := holds
    obtain ⟨held', others'⟩ : (whole own).mapM shape.ofJson = .ok slot' ∧
      fields.Holds (hide own whole) slots' := finally'
    rw [Fields.ofMember]
    split
    next same =>
      subst same
      rw [fresh] at held
      cases held
      rw [found, Option.mapM_some] at held'
      obtain ⟨a, converted, done⟩ := exists_of_bind_eq_ok held'
      refine ⟨(some a, slots), ?_, ?_, ?_⟩
      · rw [converted]
        rfl
      · rw [put, if_pos rfl, Option.mapM_some, converted]
        rfl
      · rw [hide_put_self]
        exact others
    next apart =>
      obtain ⟨slots₁, converted, held₁⟩ := fields.ofMember_of_holds others
        (by rw [hide, if_neg apart, fresh]) others' (by rw [hide, if_neg apart, found])
      refine ⟨(slot, slots₁), ?_, ?_, ?_⟩
      · rw [converted]
        rfl
      · rw [put, if_neg (Ne.symm apart)]
        exact held
      · rw [hide_put_of_ne apart]
        exact held₁

/-- The reader of trees comes to what is held, member by member. -/
theorem foldlM_ofMember_of_holds {fields : Fields σ ρ} {members : List (String × Json)}
    {look whole : String → Option Json} {slots slots' : σ}
    (sorted : members.Pairwise (fun a b => a.1 < b.1)) (holds : fields.Holds look slots)
    (fresh : ∀ member ∈ members, look member.1 = none) (finally' : fields.Holds whole slots')
    (all : ∀ key, whole key = (look key).or (SortedMap.lookup key members)) :
    members.foldlM (fun slots (key, value) => fields.ofMember key value slots) slots = .ok slots' := by
  -- `look` has what is read so far, and `all` says that the rest is still to come.
  induction members generalizing look slots with
  | nil =>
    have same : look = whole := by
      funext key
      simp [all key, SortedMap.lookup]
    rw [fields.holds_unique holds (same ▸ finally')]
    rfl
  | cons member members ih =>
    obtain ⟨key, value⟩ := member
    obtain ⟨below, sorted⟩ := List.pairwise_cons.1 sorted
    have unread : look key = none := fresh _ List.mem_cons_self
    have found : whole key = some value := by simp [all key, unread, SortedMap.lookup]
    obtain ⟨slots₁, converted, held⟩ := fields.ofMember_of_holds holds unread finally' found
    rw [List.foldlM_cons]
    show (fields.ofMember key value slots >>= _) = _
    rw [converted]
    refine ih sorted held ?_ ?_
    · intro other later
      have apart : key ≠ other.1 := fun same => String.lt_irrefl _ (same ▸ below other later)
      rw [put, if_neg apart]
      exact fresh other (List.mem_cons_of_mem _ later)
    · intro other
      by_cases same : key = other
      · subst same
        simp [put, found]
      · simp [put, same, all other, SortedMap.lookup]

/-- A record in a text with a tree that has keys holds what the tree has under them. -/
theorem holds_of_read {name : String} {fields : Fields σ ρ} (agree : fields.Agree) {record : ρ}
    {members : List (String × Json)}
    (read : (Shape.record name fields).read depth cs = .ok (record, rest))
    (tree : readAny depth cs = .ok (.object members, rest')) :
    rest' = rest ∧ members.Pairwise (fun a b => a.1 < b.1) ∧
      ∃ slots, fields.Holds (fun key => SortedMap.lookup key members) slots ∧
        fields.finish slots = .ok record := by
  cases spelled_of_readAny tree with
  | object start elements =>
    obtain ⟨inside, less, after, opening, -⟩ | ⟨inside, less, slots, opening, deep, read, finishes⟩ :=
      Shape.takes_of_read read
    · cases start.symm.trans opening
    · cases start.symm.trans opening
      cases deep
      obtain ⟨same, sorted, held⟩ := holds_of_readMembers agree read elements .nil
        (fields.holds_none fun _ => rfl)
      exact ⟨same, sorted, slots, held, finishes⟩

theorem ofJson_record_of_holds {name : String} {fields : Fields σ ρ} {record : ρ} {slots : σ}
    {members : List (String × Json)} (sorted : members.Pairwise (fun a b => a.1 < b.1))
    (holds : fields.Holds (fun key => SortedMap.lookup key members) slots)
    (finishes : fields.finish slots = .ok record) :
    (Shape.record name fields).ofJson (.object members) = .ok record := by
  show (members.foldlM _ fields.none >>= _) = _
  rw [foldlM_ofMember_of_holds sorted (fields.holds_none fun _ => rfl) (fun _ _ => rfl) holds
    (fun _ => rfl)]
  exact finishes

theorem agrees_record {name : String} {fields : Fields σ ρ} (agree : fields.Agree) :
    (Shape.record name fields).Agrees := by
  intro depth cs rest rest' record value read tree
  obtain ⟨inside, less, after, start, rfl, items, ended⟩ | ⟨inside, less, slots, start, rfl, -⟩ :=
    Shape.takes_of_read read
  · obtain ⟨_, _, rfl, elements, endedTree⟩ := items_of_readAny start tree
    obtain ⟨rfl, converted⟩ := fields.ofItems_of_readItems agree items ended elements
    cases (endList_closing _).symm.trans endedTree
    refine ⟨rfl, ?_⟩
    show (fields.ofItems _ 0 _ >>= _) = _
    rw [converted]
    rfl
  · obtain ⟨members, rfl, -⟩ := members_of_readAny start tree
    obtain ⟨same, sorted, slots, held, finishes⟩ := holds_of_read agree read tree
    exact ⟨same, ofJson_record_of_holds sorted held finishes⟩

/-! ## Every shape -/

mutual

theorem Shape.agrees : {α : Type} → (shape : Shape α) → shape.Agrees
  | _, .any => agrees_any
  | _, .text => agrees_text
  | _, .integer kind => agrees_integer kind
  | _, .optional item => agrees_optional item.agrees
  | _, .list item => agrees_list item.agrees
  | _, .pair first second => agrees_pair first.agrees second.agrees
  | _, .choice cases => agrees_choice cases
  | _, .record _ fields => agrees_record fields.agree
  | _, .refine base _ => agrees_refine base.agrees

theorem Fields.agree : {σ ρ : Type} → (fields : Fields σ ρ) → fields.Agree
  | _, _, .nil => trivial
  | _, _, .cons _ shape _ rest => ⟨shape.agrees, rest.agree⟩

end

theorem eq_of_endText {a b : α} (ended : endText (a, cs) = .ok b) : b = a := by
  rw [endText] at ended
  split at ended
  · cases ended
    rfl
  · cases ended

theorem endText_of_endText {a b : α} (ended : endText (a, cs) = .ok b) (c : β) :
    endText (c, cs) = .ok c := by
  rw [endText] at ended ⊢
  split at ended
  next blank => rw [if_pos blank]
  next => cases ended

/-- A text that is read by a shape has a tree that is read to the same value, if it has a tree. -/
theorem ofJson_of_parse {shape : Shape α} {source : String} {a : α}
    (read : shape.parse source = .ok a) (tree : Json.parse source = .ok value) :
    shape.ofJson value = .ok a := by
  obtain ⟨⟨found, left⟩, read, ended⟩ := exists_of_bind_eq_ok read
  obtain ⟨⟨whole, left'⟩, tree, ended'⟩ := exists_of_bind_eq_ok tree
  obtain ⟨-, converted⟩ := shape.agrees maxDepth _ _ _ _ _ read tree
  rw [eq_of_endText ended, eq_of_endText ended']
  exact converted

theorem holds_of_parse {name source : String} {fields : Fields σ ρ} {record : ρ}
    {members : List (String × Json)} (read : (Shape.record name fields).parse source = .ok record)
    (tree : Json.parse source = .ok (.object members)) :
    ∃ slots, fields.Holds (fun key => SortedMap.lookup key members) slots ∧
      fields.finish slots = .ok record := by
  obtain ⟨⟨found, left⟩, read, ended⟩ := exists_of_bind_eq_ok read
  obtain ⟨⟨whole, left'⟩, tree, ended'⟩ := exists_of_bind_eq_ok tree
  obtain rfl := eq_of_endText ended
  obtain rfl := eq_of_endText ended'
  exact (holds_of_read fields.agree read tree).2.2

theorem exists_of_parse_map {shape : Shape α} {f : α → β} {source : String} {b : β}
    (read : (shape.map f).parse source = .ok b) : ∃ a, shape.parse source = .ok a ∧ b = f a := by
  obtain ⟨⟨found, left⟩, read, ended⟩ := exists_of_bind_eq_ok read
  obtain ⟨a, inner, done⟩ := Shape.takes_of_read read
  cases done
  refine ⟨a, ?_, eq_of_endText ended⟩
  rw [Shape.parse, inner]
  exact endText_of_endText ended a

end SchemaServer.Json
