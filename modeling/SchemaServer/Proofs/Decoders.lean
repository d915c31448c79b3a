import SchemaServer.Contract
import SchemaServer.Pipe
import SchemaServer.Proofs.Ordered
import SchemaServer.Proofs.Readers

/-! # Reading a tree and reading its text

The other direction of `Readers`: if no object of a text repeats a key, a shape that the tree of the
text is read by reads the text as well, to the same value and up to the same place.  A repeated key
is where the two readers part, since the tree has only one of the values.

`Shape.Fits` says what a tree is that a shape is read from, as `Shape.Takes` does for texts.
`Shape.Recovers` is the statement for one shape at the front of any text.  Again there is one lemma
for each kind of shape, and a record with keys goes through `Fields.Holds`: what is held in the end
says of each member of the text that it will be read. -/

namespace SchemaServer.Json

variable {α β σ ρ : Type} {depth : Nat} {cs rest : List Char} {value : Json}

/-! ## What a shape takes -/

/-- The tree has the form of the shape, with this value. -/
def Shape.Fits : {α : Type} → Shape α → Json → α → Prop
  | _, .any, tree, value => value = tree
  | _, .text, tree, content => tree = .text content
  | _, .integer kind, tree, i => ∃ n, tree = .number n ∧ kind.check n = .ok i
  | _, .optional item, tree, found =>
    (tree = .null ∧ found = none) ∨ (tree ≠ .null ∧ ∃ a, item.ofJson tree = .ok a ∧ found = some a)
  | _, .list item, tree, values =>
    ∃ items, tree = .array items ∧ items.mapM item.ofJson = .ok values
  | _, .pair first second, tree, values =>
    ∃ x y, tree = .array [x, y] ∧ first.ofJson x = .ok values.1 ∧ second.ofJson y = .ok values.2
  | _, .choice cases, tree, a =>
    ∃ name, (tree = .text name ∨ tree = .object [(name, .null)]) ∧ pickCase cases name = .ok a
  | _, .record name fields, tree, found =>
    (∃ items, tree = .array items ∧
      fields.ofItems (recordLength name fields.size) 0 items = .ok (found, [])) ∨
    (∃ members slots, tree = .object members ∧
      members.foldlM (fun slots (key, value) => fields.ofMember key value slots) fields.none =
        .ok slots ∧ fields.finish slots = .ok found)
  | _, .refine base check, tree, b => ∃ a, base.ofJson tree = .ok a ∧ check a = .ok b

theorem endItems_eq_ok {a b : α} {length : Nat} {items : List Json}
    (ended : endItems length (a, items) = .ok b) : items = [] ∧ a = b := by
  cases items with
  | nil =>
    cases ended
    exact ⟨rfl, rfl⟩
  | cons item items => cases ended

theorem Shape.fits_of_ofJson {shape : Shape α} {a : α} (read : shape.ofJson value = .ok a) :
    shape.Fits value a := by
  cases shape with
  | any =>
    cases read
    exact rfl
  | text =>
    cases value with
    | text content =>
      cases read
      exact rfl
    | null | bool _ | number _ | array _ | object _ => cases read
  | integer kind =>
    cases value with
    | number n => exact ⟨n, rfl, read⟩
    | null | bool _ | text _ | array _ | object _ => cases read
  | optional item =>
    by_cases absent : value = .null
    · subst absent
      cases read
      exact Or.inl ⟨rfl, rfl⟩
    · rw [ofJson_optional item absent] at read
      cases found : item.ofJson value with
      | error fault =>
        rw [found] at read
        cases read
      | ok b =>
        rw [found] at read
        cases read
        exact Or.inr ⟨absent, b, found, rfl⟩
  | list item =>
    cases value with
    | array items => exact ⟨items, rfl, read⟩
    | null | bool _ | number _ | text _ | object _ => cases read
  | pair first second =>
    cases value with
    | array items =>
      match items, read with
      | [], read => cases read
      | [x], read =>
        obtain ⟨_, _, read⟩ := exists_of_bind_eq_ok (x := first.ofJson x) read
        cases read
      | x :: y :: items, read =>
        obtain ⟨one, firstRead, read⟩ := exists_of_bind_eq_ok (x := first.ofJson x) read
        obtain ⟨other, secondRead, read⟩ := exists_of_bind_eq_ok (x := second.ofJson y) read
        obtain ⟨rfl, rfl⟩ := endItems_eq_ok read
        exact ⟨x, y, rfl, firstRead, secondRead⟩
    | null | bool _ | number _ | text _ | object _ => cases read
  | choice cases =>
    cases value with
    | text name => exact ⟨name, .inl rfl, read⟩
    | object members =>
      match members, read with
      | [], read => cases read
      | [(name, payload)], read =>
        obtain ⟨chosen, picked, read⟩ := exists_of_bind_eq_ok (x := pickCase cases name) read
        cases payload with
        | null =>
          cases read
          exact ⟨name, .inr rfl, picked⟩
        | bool _ | number _ | text _ | array _ | object _ => cases read
      | _ :: _ :: _, read => cases read
    | null | bool _ | number _ | array _ => cases read
  | record name fields =>
    cases value with
    | array items =>
      obtain ⟨⟨found, left⟩, listed, ended⟩ :=
        exists_of_bind_eq_ok (x := fields.ofItems (recordLength name fields.size) 0 items) read
      obtain ⟨rfl, rfl⟩ := endItems_eq_ok ended
      exact Or.inl ⟨items, rfl, listed⟩
    | object members =>
      obtain ⟨slots, read, finishes⟩ := exists_of_bind_eq_ok (x := members.foldlM _ fields.none) read
      exact Or.inr ⟨members, slots, rfl, read, finishes⟩
    | null | bool _ | number _ | text _ => cases read
  | refine base check => exact exists_of_bind_eq_ok (x := base.ofJson value) read

theorem Shape.read_of_takes {shape : Shape α} {a : α} (takes : shape.Takes depth cs a rest) :
    shape.read depth cs = .ok (a, rest) := by
  cases shape with
  | any => exact takes
  | text =>
    obtain ⟨inside, start, quoted⟩ := takes
    rw [Shape.read, start]
    exact quoted
  | integer kind =>
    obtain ⟨c, word, n, start, sign, numeral, checked⟩ := takes
    rw [Shape.read, start]
    dsimp only
    rw [if_pos sign, numeral]
    show (kind.check n >>= _) = _
    rw [checked]
    rfl
  | optional item =>
    rw [Shape.read]
    obtain ⟨word, start, spelled, rfl⟩ | ⟨a, notNull, inner, rfl⟩ := takes
    · rw [start]
      show (skipWord ['u', 'l', 'l'] word >>= _) = _
      rw [spelled]
      rfl
    · split
      next word start => exact absurd start (notNull word)
      next =>
        rw [inner]
        rfl
  | list item =>
    obtain ⟨inside, less, after, start, rfl, read, ended⟩ := takes
    rw [Shape.read, start]
    show readList (item.read less) inside = _
    rw [readList, read]
    show (endList after >>= _) = _
    rw [ended]
    rfl
  | pair first second =>
    obtain ⟨inside, less, cs₁, cs₂, cs₃, after, start, rfl, next, head, nextAfter, tail, ended⟩ := takes
    rw [Shape.read, start]
    show (nextItem true inside >>= _) = _
    rw [next]
    show (first.read less cs₁ >>= _) = _
    rw [head]
    show (nextItem false cs₂ >>= _) = _
    rw [nextAfter]
    show (second.read less cs₃ >>= _) = _
    rw [tail]
    show (endList after >>= _) = _
    rw [ended]
    rfl
  | choice cases =>
    rw [Shape.read]
    exact takes
  | record name fields =>
    rw [Shape.read]
    obtain ⟨inside, less, after, start, rfl, read, ended⟩ |
      ⟨inside, less, slots, start, rfl, read, finishes⟩ := takes
    · rw [start]
      show (fields.readItems less _ 0 true inside >>= _) = _
      rw [read]
      show (endList after >>= _) = _
      rw [ended]
      rfl
    · rw [start]
      show (readMembers (fields.readMember less) _ true fields.none inside >>= _) = _
      rw [read]
      show (fields.finish slots >>= _) = _
      rw [finishes]
      rfl
  | refine base check =>
    obtain ⟨a, inner, checked⟩ := takes
    rw [Shape.read, inner]
    show (check a >>= _) = _
    rw [checked]
    rfl

/-! ## Plain values -/

/-- A shape that reads the tree of a text without repeated keys reads the text. -/
def Shape.Recovers (shape : Shape α) : Prop :=
  ∀ (depth : Nat) (cs rest : List Char) (a : α) (tree : Json),
    readOrdered depth cs = .ok (tree, rest) → tree.unrepeated = true →
      shape.ofJson tree.sorted = .ok a → shape.read depth cs = .ok (a, rest)

/-- The shapes of all fields recover. -/
def Fields.Recover : {σ ρ : Type} → Fields σ ρ → Prop
  | _, _, .nil => True
  | _, _, .cons _ shape _ rest => shape.Recovers ∧ rest.Recover

theorem readAny_of_readOrdered {tree : Json} (read : readOrdered depth cs = .ok (tree, rest)) :
    readAny depth cs = .ok (tree.sorted, rest) := by
  rw [readAny_eq, read]
  rfl

theorem recovers_any : Shape.any.Recovers := by
  intro depth cs rest a tree read _ converted
  cases converted
  exact readAny_of_readOrdered read

theorem recovers_text : Shape.text.Recovers := by
  intro depth cs rest content tree read _ converted
  have same : tree.sorted = .text content := Shape.fits_of_ofJson converted
  have whole := readAny_of_readOrdered read
  rw [same] at whole
  cases spelled_of_readAny whole with
  | text start quoted => exact Shape.read_of_takes ⟨_, start, quoted⟩

theorem recovers_integer (kind : IntKind) : (Shape.integer kind).Recovers := by
  intro depth cs rest i tree read _ converted
  obtain ⟨n, same, checked⟩ := Shape.fits_of_ofJson converted
  have whole := readAny_of_readOrdered read
  rw [same] at whole
  cases spelled_of_readAny whole with
  | number start sign numeral =>
    exact Shape.read_of_takes ⟨_, _, n, start, sign, numeral, checked⟩

theorem readOrdered_skipBlank (depth : Nat) (cs : List Char) :
    readOrdered depth (skipBlank cs) = readOrdered depth cs := by
  cases depth with
  | zero => exact readAny_skipBlank 0 cs
  | succ depth => rw [readOrdered, readOrdered, skipBlank_skipBlank, readAny_skipBlank]

theorem recovers_optional {item : Shape α} (recovers : item.Recovers) :
    (Shape.optional item).Recovers := by
  intro depth cs rest found tree read distinct converted
  have whole := readAny_of_readOrdered read
  obtain ⟨null, rfl⟩ | ⟨present, a, inner, rfl⟩ := Shape.fits_of_ofJson converted
  · rw [null] at whole
    cases spelled_of_readAny whole with
    | null start spelled => exact Shape.read_of_takes (Or.inl ⟨_, start, spelled, rfl⟩)
  · refine Shape.read_of_takes (Or.inr ⟨a, ?_, ?_, rfl⟩)
    · intro word start
      -- A text that starts so is read to null or not at all.
      generalize tree.sorted = value at whole present
      cases spelled_of_readAny whole with
      | null _ _ => exact present rfl
      | true opening _ | false opening _ | text opening _ | array opening _ | object opening _ =>
        cases start.symm.trans opening
      | number opening sign _ =>
        cases start.symm.trans opening
        simp [isDigit] at sign
    · exact recovers depth (skipBlank cs) rest a tree (readOrdered_skipBlank depth cs ▸ read) distinct
        inner

theorem recovers_refine {base : Shape α} {check : α → Except Fault β} (recovers : base.Recovers) :
    (Shape.refine base check).Recovers := by
  intro depth cs rest b tree read distinct converted
  obtain ⟨a, inner, checked⟩ := Shape.fits_of_ofJson converted
  exact Shape.read_of_takes ⟨a, recovers depth cs rest a tree read distinct inner, checked⟩

/-! ## Lists -/

/-- A tree that is sorted to an array is one, and stands in the text as such. -/
theorem items_of_readOrdered {tree : Json} {items : List Json}
    (read : readOrdered depth cs = .ok (tree, rest)) (distinct : tree.unrepeated = true)
    (same : tree.sorted = .array items) :
    ∃ inside less after elements, skipBlank cs = '[' :: inside ∧ depth = less + 1 ∧
      readItems (readOrdered less) (inside.length + 1) true inside = .ok (elements, after) ∧
      endList after = .ok rest ∧ items = elements.map sorted ∧
      ∀ element ∈ elements, element.unrepeated = true := by
  cases inOrder_of_readOrdered read with
  | flat flat =>
    rw [sorted_of_flat flat] at same
    subst same
    cases spelled_of_readAny flat
  | array start elements ended =>
    rw [sorted, sortedItems_eq] at same
    cases same
    rw [unrepeated, unrepeatedItems_eq, List.all_eq_true] at distinct
    exact ⟨_, _, _, _, start, rfl, elements, ended, rfl, distinct⟩
  | object start members =>
    rw [sorted] at same
    cases same

/-- The end of a list is found from where its last element ends. -/
theorem endList_of_last {first : Bool} {after : List Char}
    (last : nextItem first cs = .ok (false, after)) (ended : endList after = .ok rest) :
    endList cs = .ok rest := by
  obtain ⟨left, start, rfl⟩ := nextItem_eq_last last
  cases (endList_closing left).symm.trans ended
  rw [endList, start]
  rfl

theorem readItems_recovers {item : Shape α} (recovers : item.Recovers) {fuel : Nat} {first : Bool}
    {elements : List Json} {values : List α}
    (read : readItems (readOrdered depth) fuel first cs = .ok (elements, rest))
    (distinct : ∀ element ∈ elements, element.unrepeated = true)
    (converted : (elements.map sorted).mapM item.ofJson = .ok values) :
    readItems (item.read depth) fuel first cs = .ok (values, rest) := by
  induction fuel generalizing cs first elements values with
  | zero => cases read
  | succ fuel ih =>
    obtain ⟨less, same, ⟨last, rfl⟩ | ⟨cs₁, element, cs₂, later, next, head, tail, rfl⟩⟩ :=
      readItems_cases read
    · cases converted
      exact readItems_of_end last
    · obtain rfl : fuel = less := Nat.succ.inj same
      rw [List.map_cons, List.mapM_cons] at converted
      obtain ⟨a, first, converted⟩ := exists_of_bind_eq_ok converted
      obtain ⟨as, others, converted⟩ := exists_of_bind_eq_ok converted
      cases converted
      have headRead := recovers depth cs₁ cs₂ a element head (distinct element List.mem_cons_self) first
      have tailRead :=
        ih tail (fun element member => distinct element (List.mem_cons_of_mem _ member)) others
      exact readItems_of_item next headRead tailRead

theorem recovers_list {item : Shape α} (recovers : item.Recovers) : (Shape.list item).Recovers := by
  intro depth cs rest values tree read distinct converted
  obtain ⟨items, same, converted⟩ := Shape.fits_of_ofJson converted
  obtain ⟨inside, less, after, elements, start, rfl, elementsRead, ended, rfl, distinct⟩ :=
    items_of_readOrdered read distinct same
  have valuesRead := readItems_recovers recovers elementsRead distinct converted
  exact Shape.read_of_takes ⟨inside, less, after, start, rfl, valuesRead, ended⟩

theorem recovers_pair {first : Shape α} {second : Shape β} (recoversFirst : first.Recovers)
    (recoversSecond : second.Recovers) : (Shape.pair first second).Recovers := by
  rintro depth cs rest ⟨a, b⟩ tree read distinct converted
  obtain ⟨x, y, same, convertedFirst, convertedSecond⟩ := Shape.fits_of_ofJson converted
  obtain ⟨inside, less, after, elements, start, rfl, elementsRead, ended, listed, distinct⟩ :=
    items_of_readOrdered read distinct same
  obtain ⟨one, _, rfl, rfl, others⟩ := List.map_eq_cons_iff.1 listed.symm
  obtain ⟨other, _, rfl, rfl, none⟩ := List.map_eq_cons_iff.1 others
  obtain rfl := List.map_eq_nil_iff.1 none
  obtain ⟨_, -, ⟨-, none⟩ | ⟨cs₁, _, cs₂, _, next, head, tail, listed⟩⟩ := readItems_cases elementsRead
  · cases none
  cases listed
  obtain ⟨_, -, ⟨-, none⟩ | ⟨cs₃, _, cs₄, _, nextAfter, otherRead, rest', listed⟩⟩ :=
    readItems_cases tail
  · cases none
  cases listed
  obtain ⟨_, -, ⟨last, -⟩ | ⟨_, _, _, _, -, -, -, listed⟩⟩ := readItems_cases rest'
  · refine Shape.read_of_takes ⟨inside, less, cs₁, cs₂, cs₃, cs₄, start, rfl, next, ?_, nextAfter, ?_,
      endList_of_last last ended⟩
    · exact recoversFirst less cs₁ cs₂ a one head (distinct one (by simp)) convertedFirst
    · exact recoversSecond less cs₃ cs₄ b other otherRead (distinct other (by simp)) convertedSecond
  · cases listed

/-! ## Choices -/

/-- A tree that is sorted to an object is one, and stands in the text as such. -/
theorem members_of_readOrdered {tree : Json} {members : List (String × Json)}
    (read : readOrdered depth cs = .ok (tree, rest)) (distinct : tree.unrepeated = true)
    (same : tree.sorted = .object members) :
    ∃ inside less fields, skipBlank cs = '\x7b' :: inside ∧ depth = less + 1 ∧
      readMembers (readNext (readOrdered less)) (inside.length + 1) true [] inside =
        .ok (fields, rest) ∧ members = placed fields ∧ (fields.map Prod.fst).Nodup ∧
      ∀ field ∈ fields, field.2.unrepeated = true := by
  cases inOrder_of_readOrdered read with
  | flat flat =>
    rw [sorted_of_flat flat] at same
    subst same
    cases spelled_of_readAny flat
  | array start elements ended =>
    rw [sorted] at same
    cases same
  | object start members =>
    rw [sorted] at same
    cases same
    obtain ⟨keys, values⟩ := unrepeated_object_iff.1 distinct
    exact ⟨_, _, _, start, rfl, members, rfl, keys, values⟩

/-- Without repeated keys an object that sorts to a single field has no other. -/
theorem eq_singleton_of_placed {fields : List (String × Json)} {name : String}
    (single : placed fields = [(name, .null)]) (distinct : (fields.map Prod.fst).Nodup) :
    fields = [(name, .null)] := by
  have found : ∀ field ∈ fields, field = (name, .null) := by
    intro field member
    have lookedUp := lookup_placed_of_mem distinct member
    rw [single, SortedMap.lookup] at lookedUp
    split at lookedUp
    next same => exact Prod.ext same.symm (eq_null_of_sorted (Option.some.inj lookedUp).symm)
    next => cases lookedUp
  cases fields with
  | nil => cases single
  | cons field others =>
    cases others with
    | nil => rw [found field List.mem_cons_self]
    | cons other others =>
      rw [found field (by simp), found other (by simp)] at distinct
      simp at distinct

/-- The parts of an object that holds nothing but a name with null. -/
theorem parts_of_single {name : String} {fuel : Nat}
    (read : readMembers (readNext (readOrdered depth)) fuel true [] cs =
      .ok ([(name, .null)], rest)) :
    ∃ inner left after word behind, skipBlank cs = '"' :: inner ∧
      readQuoted inner = .ok (name, left) ∧ skipColon left = .ok after ∧
      skipBlank after = 'n' :: word ∧ skipWord ['u', 'l', 'l'] word = .ok behind ∧
      skipBlank behind = '\x7d' :: rest := by
  obtain ⟨_, -, ⟨-, none⟩ | ⟨key, left, _, behind, next, head, tail⟩⟩ := readMembers_cases read
  · cases none
  obtain ⟨after, payload, colon, inner, rfl⟩ := readNext_eq_ok head
  obtain ⟨more, whole⟩ := prefix_of_readMembers tail
  cases whole
  obtain ⟨content, opening, quoted⟩ := nextKey_eq_first next
  have closing : nextKey false behind = .ok (none, rest) := by
    obtain ⟨_, -, ⟨last, -⟩ | ⟨_, _, _, _, -, head, tail⟩⟩ := readMembers_cases tail
    · exact last
    · obtain ⟨_, _, -, -, rfl⟩ := readNext_eq_ok head
      exact absurd (prefix_of_readMembers tail).length_le (by simp)
  have null := readAny_of_readOrdered inner
  rw [sorted] at null
  cases spelled_of_readAny null with
  | null start spelled =>
    exact ⟨content, left, after, _, behind, opening, quoted, colon, start, spelled,
      nextKey_eq_last closing⟩

theorem recovers_choice (cases : List (String × α)) : (Shape.choice cases).Recovers := by
  intro depth cs rest a tree read distinct converted
  obtain ⟨name, text | object, picked⟩ := Shape.fits_of_ofJson converted
  · have whole := readAny_of_readOrdered read
    rw [text] at whole
    cases spelled_of_readAny whole with
    | text start quoted =>
      refine Shape.read_of_takes ?_
      show readChoice cases depth cs = _
      rw [readChoice, start]
      show (readQuoted _ >>= _) = _
      rw [quoted]
      show (pickCase cases name >>= _) = _
      rw [picked]
      rfl
  · obtain ⟨inside, less, fields, start, rfl, members, single, keys, -⟩ :=
      members_of_readOrdered read distinct object
    obtain rfl := eq_singleton_of_placed single.symm keys
    obtain ⟨inner, left, after, word, behind, opening, quoted, colon, null, spelled, closing⟩ :=
      parts_of_single members
    refine Shape.read_of_takes ?_
    show readChoice cases (less + 1) cs = _
    simp [readChoice, start, deeper, opening, quoted, picked, colon, null, spelled, closing, bind,
      Except.bind, pure, Except.pure]

/-! ## Records as lists -/

theorem Fields.readItems_of_ofItems : {σ ρ : Type} → (fields : Fields σ ρ) → fields.Recover →
    ∀ ⦃expected : String⦄ ⦃index fuel : Nat⦄ ⦃first : Bool⦄ ⦃cs after rest : List Char⦄ ⦃record : ρ⦄
      ⦃elements : List Json⦄,
      Json.readItems (readOrdered depth) fuel first cs = .ok (elements, after) →
      endList after = .ok rest → (∀ element ∈ elements, element.unrepeated = true) →
      fields.ofItems expected index (elements.map sorted) = .ok (record, []) →
      ∃ left, fields.readItems depth expected index first cs = .ok (record, left) ∧
        endList left = .ok rest
  | _, _, .nil, _ => by
    intro expected index fuel first cs after rest record elements read ended distinct converted
    rw [Fields.ofItems] at converted
    obtain ⟨rfl, none⟩ := Prod.mk.inj (Except.ok.inj converted)
    obtain rfl := List.map_eq_nil_iff.1 none
    obtain ⟨_, -, ⟨last, -⟩ | ⟨_, _, _, _, -, -, -, listed⟩⟩ := readItems_cases read
    · exact ⟨cs, by rw [Fields.readItems], endList_of_last last ended⟩
    · cases listed
  | _, _, .cons _ shape absent fields, recover => by
    intro expected index fuel first cs after rest record elements read ended distinct converted
    obtain ⟨recovers, recover⟩ : shape.Recovers ∧ fields.Recover := recover
    obtain ⟨_, -, ⟨last, rfl⟩ | ⟨cs₁, element, cs₂, later, next, head, tail, rfl⟩⟩ :=
      readItems_cases read
    · -- The list is over, and the fields that are left have their defaults.
      obtain ⟨left, -, rfl⟩ := nextItem_eq_last last
      have nothing : Json.readItems (readOrdered depth) 1 first (']' :: left) =
          .ok ([], ']' :: left) :=
        readItems_of_end (nextItem_of_endList (endList_closing left))
      rw [Fields.readItems, last]
      cases absent with
      | required => cases converted
      | keyed value => cases converted
      | defaulted value =>
        rw [List.map_nil, Fields.ofItems] at converted
        obtain ⟨⟨values, items⟩, others, done⟩ :=
          exists_of_bind_eq_ok (x := fields.ofItems _ _ _) converted
        cases done
        obtain ⟨left, read, ended⟩ := fields.readItems_of_ofItems recover nothing ended distinct others
        refine ⟨left, ?_, ended⟩
        show (fields.readItems depth expected (index + 1) first _ >>= _) = _
        rw [read]
        rfl
    · rw [List.map_cons, Fields.ofItems] at converted
      obtain ⟨value, first, converted⟩ := exists_of_bind_eq_ok (x := shape.ofJson _) converted
      obtain ⟨⟨values, items⟩, others, done⟩ :=
        exists_of_bind_eq_ok (x := fields.ofItems _ _ _) converted
      cases done
      obtain ⟨left, readOthers, ended⟩ := fields.readItems_of_ofItems recover tail ended
        (fun element member => distinct element (List.mem_cons_of_mem _ member)) others
      refine ⟨left, ?_, ended⟩
      rw [Fields.readItems, next]
      show (shape.read depth cs₁ >>= _) = _
      rw [recovers depth cs₁ cs₂ value element head (distinct element List.mem_cons_self) first]
      show (fields.readItems depth expected (index + 1) false cs₂ >>= _) = _
      rw [readOthers]
      rfl

/-! ## Records with keys -/

theorem Fields.holds_of_ofMember : {σ ρ : Type} → (fields : Fields σ ρ) → (key : String) →
    (value : Json) → ∀ ⦃look : String → Option Json⦄ ⦃slots slots' : σ⦄,
      fields.ofMember key value slots = .ok slots' → fields.Holds look slots →
      fields.Holds (put key value look) slots'
  | _, _, .nil, _, _ => by
    rintro look ⟨⟩ ⟨⟩ - -
    trivial
  | _, _, .cons own shape _ fields, key, value => by
    rintro look ⟨slot, slots⟩ ⟨slot', slots'⟩ converted holds
    obtain ⟨held, others⟩ : (look own).mapM shape.ofJson = .ok slot ∧
      fields.Holds (hide own look) slots := holds
    rw [Fields.ofMember] at converted
    split at converted
    next same =>
      subst same
      split at converted
      · cases converted
      · obtain ⟨a, read, done⟩ := exists_of_bind_eq_ok converted
        cases done
        refine ⟨?_, ?_⟩
        · rw [put, if_pos rfl, Option.mapM_some, read]
          rfl
        · rw [hide_put_self]
          exact others
    next apart =>
      obtain ⟨later, inner, done⟩ := exists_of_bind_eq_ok converted
      cases done
      refine ⟨?_, ?_⟩
      · rw [put, if_neg (Ne.symm apart)]
        exact held
      · rw [hide_put_of_ne apart]
        exact fields.holds_of_ofMember key value inner others

/-- What the reader of trees comes to is held. -/
theorem holds_of_foldlM_ofMember {fields : Fields σ ρ} {members : List (String × Json)}
    {look : String → Option Json} {slots slots' : σ}
    (converted : members.foldlM (fun slots (key, value) => fields.ofMember key value slots) slots =
      .ok slots')
    (sorted : members.Pairwise (fun a b => a.1 < b.1)) (holds : fields.Holds look slots)
    (fresh : ∀ member ∈ members, look member.1 = none) :
    fields.Holds (fun key => (look key).or (SortedMap.lookup key members)) slots' := by
  induction members generalizing look slots with
  | nil =>
    cases converted
    simpa [SortedMap.lookup] using holds
  | cons member members ih =>
    obtain ⟨key, value⟩ := member
    obtain ⟨below, sorted⟩ := List.pairwise_cons.1 sorted
    rw [List.foldlM_cons] at converted
    obtain ⟨slots₁, first, converted⟩ :=
      exists_of_bind_eq_ok (x := fields.ofMember key value slots) converted
    have unread : look key = none := fresh _ List.mem_cons_self
    have all : (fun other => (look other).or (SortedMap.lookup other ((key, value) :: members))) =
        fun other => (put key value look other).or (SortedMap.lookup other members) := by
      funext other
      by_cases same : key = other
      · subst same
        simp [put, unread, SortedMap.lookup]
      · simp [put, same, SortedMap.lookup]
    rw [all]
    refine ih converted sorted (fields.holds_of_ofMember key value first holds) ?_
    intro other later
    have apart : key ≠ other.1 := fun same => String.lt_irrefl _ (same ▸ below other later)
    rw [put, if_neg apart]
    exact fresh other (List.mem_cons_of_mem _ later)

/-- A member of a text whose key has no value yet is read into what will be held in the end. -/
theorem Fields.readMember_of_holds : {σ ρ : Type} → (fields : Fields σ ρ) → fields.Recover →
    ∀ ⦃key : String⦄ ⦃tree : Json⦄ ⦃look whole : String → Option Json⦄ ⦃slots slots' : σ⦄
      ⦃cs cs₁ rest : List Char⦄,
      skipColon cs = .ok cs₁ → readOrdered depth cs₁ = .ok (tree, rest) → tree.unrepeated = true →
      fields.Holds look slots → look key = Option.none → fields.Holds whole slots' →
      whole key = some tree.sorted →
      ∃ slots₁, fields.readMember depth key slots cs = .ok (slots₁, rest) ∧
        fields.Holds (put key tree.sorted look) slots₁
  | _, _, .nil, _ => by
    rintro key tree look whole ⟨⟩ ⟨⟩ cs cs₁ rest colon read - - - - -
    refine ⟨(), ?_, trivial⟩
    rw [Fields.readMember, colon]
    show (skipValue cs₁ >>= _) = _
    rw [skipValue_of_readAny (readAny_of_readOrdered read)]
    rfl
  | _, _, .cons own shape _ fields, recover => by
    rintro key tree look whole ⟨slot, slots⟩ ⟨slot', slots'⟩ cs cs₁ rest colon read distinct holds
      fresh finally' found
    obtain ⟨recovers, recover⟩ : shape.Recovers ∧ fields.Recover := recover
    obtain ⟨held, others⟩ : (look own).mapM shape.ofJson = .ok slot ∧
      fields.Holds (hide own look) slots := holds
    obtain ⟨held', others'⟩ : (whole own).mapM shape.ofJson = .ok slot' ∧
      fields.Holds (hide own whole) slots' := finally'
    rw [Fields.readMember]
    split
    next same =>
      subst same
      rw [fresh] at held
      cases held
      rw [found, Option.mapM_some] at held'
      obtain ⟨a, converted, done⟩ := exists_of_bind_eq_ok held'
      refine ⟨(some a, slots), ?_, ?_, ?_⟩
      · rw [Option.isSome_none, if_neg Bool.false_ne_true, colon]
        show (shape.read depth cs₁ >>= _) = _
        rw [recovers depth cs₁ rest a tree read distinct converted]
        rfl
      · rw [put, if_pos rfl, Option.mapM_some, converted]
        rfl
      · rw [hide_put_self]
        exact others
    next apart =>
      obtain ⟨slots₁, readOther, held₁⟩ := fields.readMember_of_holds recover colon read distinct
        others (by rw [hide, if_neg apart, fresh]) others' (by rw [hide, if_neg apart, found])
      refine ⟨(slot, slots₁), ?_, ?_, ?_⟩
      · rw [readOther]
        rfl
      · rw [put, if_neg (Ne.symm apart)]
        exact held
      · rw [hide_put_of_ne apart]
        exact held₁

/-- The reader of texts comes to what is held, member by member. -/
theorem readMembers_of_holds {fields : Fields σ ρ} (recover : fields.Recover) {fuel : Nat}
    {first : Bool} {slots slots' : σ} {early whole : List (String × Json)}
    (read : readMembers (readNext (readOrdered depth)) fuel first early cs = .ok (whole, rest))
    (keys : (whole.map Prod.fst).Nodup) (distinct : ∀ field ∈ whole, field.2.unrepeated = true)
    (holds : fields.Holds (fun key => SortedMap.lookup key (placed early)) slots)
    (finally' : fields.Holds (fun key => SortedMap.lookup key (placed whole)) slots') :
    readMembers (fields.readMember depth) fuel first slots cs = .ok (slots', rest) := by
  induction fuel generalizing first early slots cs with
  | zero => cases read
  | succ fuel ih =>
    obtain ⟨less, same, ⟨last, rfl⟩ | ⟨key, cs₁, fields₁, cs₂, next, head, tail⟩⟩ :=
      readMembers_cases read
    · rw [fields.holds_unique holds finally']
      exact readMembers_of_end last
    · obtain rfl : fuel = less := Nat.succ.inj same
      obtain ⟨cs₃, tree, colon, inner, rfl⟩ := readNext_eq_ok head
      -- Members are only added, so the key stands in the whole object, and it stands there once.
      obtain ⟨late, split⟩ := prefix_of_readMembers tail
      rw [List.append_assoc, List.singleton_append] at split
      obtain ⟨fresh, found⟩ := lookup_placed_of_nodup (split ▸ keys)
      rw [split] at found
      have member : (key, tree) ∈ whole := split ▸ List.mem_append_right _ List.mem_cons_self
      obtain ⟨slots₁, readHead, held⟩ := fields.readMember_of_holds recover colon inner
        (distinct _ member) holds fresh finally' found
      have placedNext : (fun other => SortedMap.lookup other (placed (early ++ [(key, tree)]))) =
          put key tree.sorted fun other => SortedMap.lookup other (placed early) := by
        funext other
        rw [placed_snoc]
        exact SortedMap.lookup_insertEntry key other tree.sorted (placed early)
      exact readMembers_of_member next readHead (ih tail (placedNext ▸ held))

theorem recovers_record {name : String} {fields : Fields σ ρ} (recover : fields.Recover) :
    (Shape.record name fields).Recovers := by
  intro depth cs rest record tree read distinct converted
  obtain ⟨items, same, converted⟩ | ⟨members, slots, same, converted, finishes⟩ :=
    Shape.fits_of_ofJson converted
  · obtain ⟨inside, less, after, elements, start, rfl, elementsRead, ended, rfl, distinct⟩ :=
      items_of_readOrdered read distinct same
    obtain ⟨left, listed, ended⟩ :=
      fields.readItems_of_ofItems recover elementsRead ended distinct converted
    exact Shape.read_of_takes (Or.inl ⟨inside, less, left, start, rfl, listed, ended⟩)
  · obtain ⟨inside, less, whole, start, rfl, membersRead, rfl, keys, distinct⟩ :=
      members_of_readOrdered read distinct same
    have nothing : fields.Holds (fun _ => none) fields.none := fields.holds_none fun _ => rfl
    have held : fields.Holds (fun key => SortedMap.lookup key (placed whole)) slots :=
      holds_of_foldlM_ofMember converted (SortedMap.ofList (sortedFields whole)).sorted nothing
        (fun _ _ => rfl)
    have slotsRead := readMembers_of_holds recover membersRead keys distinct nothing held
    exact Shape.read_of_takes (Or.inr ⟨inside, less, slots, start, rfl, slotsRead, finishes⟩)

/-! ## Every shape -/

mutual

theorem Shape.recovers : {α : Type} → (shape : Shape α) → shape.Recovers
  | _, .any => recovers_any
  | _, .text => recovers_text
  | _, .integer kind => recovers_integer kind
  | _, .optional item => recovers_optional item.recovers
  | _, .list item => recovers_list item.recovers
  | _, .pair first second => recovers_pair first.recovers second.recovers
  | _, .choice cases => recovers_choice cases
  | _, .record _ fields => recovers_record fields.recover
  | _, .refine base _ => recovers_refine base.recovers

theorem Fields.recover : {σ ρ : Type} → (fields : Fields σ ρ) → fields.Recover
  | _, _, .nil => trivial
  | _, _, .cons _ shape _ rest => ⟨shape.recovers, rest.recover⟩

end

/-- Where no key is repeated, a text is read by a shape exactly if its tree is. -/
theorem parse_eq_ok_iff {shape : Shape α} {source : String} (parsed : parse source = .ok value)
    (distinct : repeatsNoKey source = true) (a : α) :
    shape.parse source = .ok a ↔ shape.ofJson value = .ok a := by
  constructor
  · intro read
    exact ofJson_of_parse read parsed
  · intro converted
    rw [parse_eq] at parsed
    cases ordered : parseOrdered source with
    | error fault =>
      rw [ordered] at parsed
      cases parsed
    | ok tree =>
      rw [ordered] at parsed
      cases parsed
      rw [repeatsNoKey, ordered] at distinct
      obtain ⟨⟨whole, left⟩, read, ended⟩ := exists_of_bind_eq_ok ordered
      obtain rfl := eq_of_endText ended
      rw [Shape.parse, shape.recovers maxDepth _ left a tree read distinct converted]
      exact endText_of_endText ended a

/-- For every text that has a tree and repeats no key, the reader of texts and the reader of trees
    agree on problems, definitions, completions and replies: either both take it, to the same value,
    or neither does. -/
theorem decoders_agree (source : String) (value : Json) (parsed : parse source = .ok value)
    (distinct : repeatsNoKey source = true) :
    (∀ items, (Shape.list LintItem.shape).parse source = .ok items ↔
      (Shape.list LintItem.shape).ofJson value = .ok items) ∧
    (∀ items, (Shape.list DefinitionItem.shape).parse source = .ok items ↔
      (Shape.list DefinitionItem.shape).ofJson value = .ok items) ∧
    (∀ entries, (Shape.list CompletionEntry.shape).parse source = .ok entries ↔
      (Shape.list CompletionEntry.shape).ofJson value = .ok entries) ∧
    (∀ reply, Pipe.Reply.shape.parse source = .ok reply ↔
      Pipe.Reply.shape.ofJson value = .ok reply) :=
  ⟨parse_eq_ok_iff parsed distinct, parse_eq_ok_iff parsed distinct,
    parse_eq_ok_iff parsed distinct, parse_eq_ok_iff parsed distinct⟩

/-- A problem given as a list, and one without offsets whose keys come out of order and with one that
    nobody knows. -/
def mixedProblems : String :=
  "[[\x7b\"error\":null\x7d,\"/a\",\"m\",[0,18446744073709551615,[1,1],[4294967295,2]]]," ++
    "\x7b\"x\":[\x7b\x7d],\"span\":\x7b\"end_position\":[2,2],\"start_position\":[1,1]\x7d," ++
    "\"type\":\"warning\",\"message\":\"n\",\"source\":\"/b\"\x7d]"

theorem decoders_agree_mixedProblems :
    ∃ value items, parse mixedProblems = .ok value ∧ repeatsNoKey mixedProblems = true ∧
      (Shape.list LintItem.shape).parse mixedProblems = .ok items ∧
      (Shape.list LintItem.shape).ofJson value = .ok items ∧
      items.map LintItem.message = ["m", "n"] ∧
      items.map (fun item => (item.span.startOffset, item.span.stopOffset)) =
        [(0, 18446744073709551615), (0, 0)] := by
  have ordered : (parseOrdered mixedProblems).toOption.any unrepeated = true := by decide +kernel
  have taken : ((Shape.list LintItem.shape).parse mixedProblems).toOption.any (fun items =>
      items.map LintItem.message = ["m", "n"] ∧
      items.map (fun item => (item.span.startOffset, item.span.stopOffset)) =
        [(0, 18446744073709551615), (0, 0)]) = true := by decide +kernel
  cases tree : parseOrdered mixedProblems with
  | error fault =>
    rw [tree] at ordered
    cases ordered
  | ok value =>
    have parsed : parse mixedProblems = .ok value.sorted := by
      rw [parse_eq, tree]
      rfl
    have distinct : repeatsNoKey mixedProblems = true := by
      rw [tree] at ordered
      rw [repeatsNoKey, tree]
      exact ordered
    cases read : (Shape.list LintItem.shape).parse mixedProblems with
    | error fault =>
      rw [read] at taken
      cases taken
    | ok items =>
      rw [read] at taken
      obtain ⟨messages, offsets⟩ := of_decide_eq_true taken
      have converted := ((decoders_agree mixedProblems _ parsed distinct).1 items).1 read
      exact ⟨_, items, parsed, distinct, rfl, converted, messages, offsets⟩

end SchemaServer.Json
