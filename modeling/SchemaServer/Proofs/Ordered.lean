import SchemaServer.Proofs.Skips
import SchemaServer.Proofs.Stores

/-! # Trees in the order of their texts

A tree that is read from a text has the fields of its objects in increasing order, and of a repeated
key only the last value.  `readOrdered` keeps them as the text has them, every one.  On such trees it
can be said that no object of a text repeats a key (`unrepeated`), and a tree that was written is the
one that is read back.

* `readAny_eq` says that reading a text is reading it in order and then sorting the fields.
* `inOrder_of_readOrdered` lists what can be read in order.
* `lookup_placed` says which value a key has after sorting. -/

namespace SchemaServer.Json

variable {α β σ τ : Type} {depth : Nat} {cs rest : List Char} {value : Json}

/-- Read what follows a key of an object, and keep the value behind those that came before it. -/
def readNext (inner : List Char → Except Fault (Json × List Char)) (key : String)
    (fields : List (String × Json)) (cs : List Char) :
    Except Fault (List (String × Json) × List Char) := do
  let (value, cs) ← inner (← skipColon cs)
  return (fields ++ [(key, value)], cs)

/-- Read any value whose brackets nest at most `depth` deep, with all the members of its objects in
    the order of the text. -/
def readOrdered : (depth : Nat) → List Char → Except Fault (Json × List Char)
  | 0, cs => readAny 0 cs
  | depth + 1, cs =>
    match skipBlank cs with
    | '[' :: rest => do
      let (items, rest) ← readList (readOrdered depth) rest
      return (.array items, rest)
    | '\x7b' :: rest => do
      let (fields, rest) ← readMembers (readNext (readOrdered depth)) (rest.length + 1) true [] rest
      return (.object fields, rest)
    | _ => readAny 0 cs

/-- Read a whole text in order. -/
def parseOrdered (source : String) : Except Fault Json := do
  endText (← readOrdered maxDepth source.toList)

mutual

/-- The tree with the fields of its objects in increasing order; of a repeated key the last value
    stays. -/
def sorted : Json → Json
  | .null => .null
  | .bool value => .bool value
  | .number value => .number value
  | .text value => .text value
  | .array items => .array (sortedItems items)
  | .object fields => .ofFields (sortedFields fields)

def sortedItems : List Json → List Json
  | [] => []
  | value :: items => value.sorted :: sortedItems items

def sortedFields : List (String × Json) → List (String × Json)
  | [] => []
  | (key, value) :: fields => (key, value.sorted) :: sortedFields fields

end

mutual

/-- Whether no object of the tree repeats a key. -/
def unrepeated : Json → Bool
  | .null | .bool _ | .number _ | .text _ => true
  | .array items => unrepeatedItems items
  | .object fields => decide (fields.map Prod.fst).Nodup && unrepeatedFields fields

def unrepeatedItems : List Json → Bool
  | [] => true
  | value :: items => value.unrepeated && unrepeatedItems items

def unrepeatedFields : List (String × Json) → Bool
  | [] => true
  | (_, value) :: fields => value.unrepeated && unrepeatedFields fields

end

/-- Whether no object in a text repeats a key. -/
def repeatsNoKey (source : String) : Bool := (parseOrdered source).toOption.all unrepeated

/-! ## Sorting afterwards -/

theorem readItems_map {f : α → β} {item : List Char → Except Fault (α × List Char)}
    {item' : List Char → Except Fault (β × List Char)}
    (mapped : ∀ cs, item' cs = (item cs).map (Prod.map f id)) (fuel : Nat) (first : Bool)
    (cs : List Char) :
    readItems item' fuel first cs = (readItems item fuel first cs).map (Prod.map (List.map f) id) := by
  induction fuel generalizing first cs with
  | zero => rfl
  | succ fuel ih =>
    rw [readItems, readItems]
    cases nextItem first cs with
    | error fault => rfl
    | ok next =>
      obtain ⟨more, cs₁⟩ := next
      cases more with
      | false => rfl
      | true =>
        show (item' cs₁ >>= _) = Except.map _ (item cs₁ >>= _)
        rw [mapped]
        cases item cs₁ with
        | error fault => rfl
        | ok head =>
          show (readItems item' fuel false head.2 >>= _) =
            Except.map _ (readItems item fuel false head.2 >>= _)
          rw [ih]
          cases readItems item fuel false head.2 <;> rfl

theorem readList_map {f : α → β} {item : List Char → Except Fault (α × List Char)}
    {item' : List Char → Except Fault (β × List Char)}
    (mapped : ∀ cs, item' cs = (item cs).map (Prod.map f id)) (cs : List Char) :
    readList item' cs = (readList item cs).map (Prod.map (List.map f) id) := by
  rw [readList, readList, readItems_map mapped]
  cases readItems item (cs.length + 1) true cs with
  | error fault => rfl
  | ok read =>
    show (endList read.2 >>= _) = Except.map _ (endList read.2 >>= _)
    cases endList read.2 <;> rfl

theorem readMembers_map {f : σ → τ}
    {member : String → σ → List Char → Except Fault (σ × List Char)}
    {member' : String → τ → List Char → Except Fault (τ × List Char)}
    (mapped : ∀ key s cs, member' key (f s) cs = (member key s cs).map (Prod.map f id)) (fuel : Nat)
    (first : Bool) (s : σ) (cs : List Char) :
    readMembers member' fuel first (f s) cs =
      (readMembers member fuel first s cs).map (Prod.map f id) := by
  induction fuel generalizing first s cs with
  | zero => rfl
  | succ fuel ih =>
    rw [readMembers, readMembers]
    cases nextKey first cs with
    | error fault => rfl
    | ok next =>
      obtain ⟨key?, cs₁⟩ := next
      cases key? with
      | none => rfl
      | some key =>
        show (member' key (f s) cs₁ >>= _) = Except.map _ (member key s cs₁ >>= _)
        rw [mapped]
        cases member key s cs₁ with
        | error fault => rfl
        | ok head => exact ih false head.1 head.2

/-- Without a bracket in front the depth does not matter. -/
theorem readAny_flat (list : ∀ inside, skipBlank cs ≠ '[' :: inside)
    (object : ∀ inside, skipBlank cs ≠ '\x7b' :: inside) : readAny (depth + 1) cs = readAny 0 cs := by
  rw [readAny, readAny, readAnyBy, readAnyBy]
  split
  next => rfl
  next => rfl
  next => rfl
  next => rfl
  next => rfl
  next inside start => exact absurd start (list inside)
  next inside start => exact absurd start (object inside)
  next => rfl

theorem sorted_of_flat (read : readAny 0 cs = .ok (value, rest)) : value.sorted = value := by
  cases spelled_of_readAny read with
  | null _ _ | true _ _ | false _ _ | text _ _ | number _ _ _ => rw [sorted]

theorem eq_null_of_sorted {tree : Json} (same : tree.sorted = .null) : tree = .null := by
  cases tree with
  | null => rfl
  | bool _ | number _ | text _ | array _ | object _ =>
    rw [sorted] at same
    cases same

theorem sortedItems_eq (items : List Json) : sortedItems items = items.map sorted := by
  induction items with
  | nil => rw [sortedItems, List.map_nil]
  | cons item items ih => rw [sortedItems, ih, List.map_cons]

theorem sortedFields_eq (fields : List (String × Json)) :
    sortedFields fields = fields.map fun field => (field.1, field.2.sorted) := by
  induction fields with
  | nil => rw [sortedFields, List.map_nil]
  | cons field fields ih => rw [sortedFields, ih, List.map_cons]

/-- The fields of an object in their places. -/
def placed (fields : List (String × Json)) : List (String × Json) :=
  (SortedMap.ofList (sortedFields fields)).entries

theorem placed_snoc (fields : List (String × Json)) (key : String) (value : Json) :
    placed (fields ++ [(key, value)]) = SortedMap.insertEntry key value.sorted (placed fields) := by
  rw [placed, placed, sortedFields_eq, sortedFields_eq, List.map_append, SortedMap.ofList,
    SortedMap.ofList, List.foldl_append]
  rfl

theorem readEntry_placed
    (read : ∀ cs, readAny depth cs = (readOrdered depth cs).map (Prod.map sorted id)) (key : String)
    (fields : List (String × Json)) (cs : List Char) :
    readEntry depth key (placed fields) cs =
      (readNext (readOrdered depth) key fields cs).map (Prod.map placed id) := by
  rw [readEntry, readNext]
  cases skipColon cs with
  | error fault => rfl
  | ok cs₁ =>
    show (readAny depth cs₁ >>= _) = Except.map _ (readOrdered depth cs₁ >>= _)
    rw [read]
    cases readOrdered depth cs₁ with
    | error fault => rfl
    | ok found =>
      show Except.ok (SortedMap.insertEntry key found.1.sorted (placed fields), found.2) =
        .ok (placed (fields ++ [(key, found.1)]), found.2)
      rw [placed_snoc]

theorem readAny_eq (depth : Nat) (cs : List Char) :
    readAny depth cs = (readOrdered depth cs).map (Prod.map sorted id) := by
  have flat : ∀ cs, readAny 0 cs = (readAny 0 cs).map (Prod.map sorted id) := by
    intro cs
    cases read : readAny 0 cs with
    | error fault => rfl
    | ok found => rw [Except.map, Prod.map, sorted_of_flat read, id]
  induction depth generalizing cs with
  | zero => exact flat cs
  | succ depth ih =>
    rw [readOrdered]
    split
    next inside start =>
      rw [readAny, readAnyBy, start]
      show (readList (readAny depth) inside >>= _) = _
      rw [readList_map ih]
      cases readList (readOrdered depth) inside with
      | error fault => rfl
      | ok read =>
        show Except.ok (Json.array _, read.2) = .ok ((Json.array _).sorted, read.2)
        rw [sorted, sortedItems_eq]
    next inside start =>
      rw [readAny, readAnyBy, start]
      show (readMembers (readEntry depth) (inside.length + 1) true (placed []) inside >>= _) = _
      rw [readMembers_map (readEntry_placed ih)]
      cases readMembers (readNext (readOrdered depth)) (inside.length + 1) true [] inside with
      | error fault => rfl
      | ok read =>
        show Except.ok (Json.object _, read.2) = .ok ((Json.object _).sorted, read.2)
        rw [sorted]
        rfl
    next list object => rw [readAny_flat list object, ← flat]

/-- The tree of a text is the one in order, sorted. -/
theorem parse_eq (source : String) : parse source = (parseOrdered source).map sorted := by
  show (readAny maxDepth source.toList >>= endText) =
    Except.map sorted (readOrdered maxDepth source.toList >>= endText)
  rw [readAny_eq]
  cases readOrdered maxDepth source.toList with
  | error fault => rfl
  | ok found =>
    show endText (found.1.sorted, found.2) = Except.map sorted (endText found)
    rw [endText, endText]
    split <;> rfl

/-! ## What can be read in order -/

/-- The text starts with this tree in its own order and goes on with the rest. -/
inductive InOrder : Nat → List Char → Json → List Char → Prop where
  | flat {depth : Nat} {cs rest : List Char} {value : Json}
      (read : readAny 0 cs = .ok (value, rest)) : InOrder depth cs value rest
  | array {depth : Nat} {cs inside after rest : List Char} {items : List Json}
      (start : skipBlank cs = '[' :: inside)
      (read : readItems (readOrdered depth) (inside.length + 1) true inside = .ok (items, after))
      (ended : endList after = .ok rest) : InOrder (depth + 1) cs (.array items) rest
  | object {depth : Nat} {cs inside rest : List Char} {fields : List (String × Json)}
      (start : skipBlank cs = '\x7b' :: inside)
      (read : readMembers (readNext (readOrdered depth)) (inside.length + 1) true [] inside =
        .ok (fields, rest)) : InOrder (depth + 1) cs (.object fields) rest

theorem inOrder_of_readOrdered (read : readOrdered depth cs = .ok (value, rest)) :
    InOrder depth cs value rest := by
  cases depth with
  | zero => exact .flat read
  | succ depth =>
    rw [readOrdered] at read
    split at read
    next inside start =>
      obtain ⟨⟨items, left⟩, listed, done⟩ := exists_of_bind_eq_ok read
      cases done
      obtain ⟨⟨items, after⟩, elements, listed⟩ := exists_of_bind_eq_ok listed
      obtain ⟨left, ended, done⟩ := exists_of_bind_eq_ok listed
      cases done
      exact .array start elements ended
    next inside start =>
      obtain ⟨⟨fields, left⟩, members, done⟩ := exists_of_bind_eq_ok read
      cases done
      exact .object start members
    next => exact .flat read

theorem readNext_eq_ok {key : String} {fields fields' : List (String × Json)}
    (read : readNext (readOrdered depth) key fields cs = .ok (fields', rest)) :
    ∃ cs₁ value, skipColon cs = .ok cs₁ ∧ readOrdered depth cs₁ = .ok (value, rest) ∧
      fields' = fields ++ [(key, value)] := by
  obtain ⟨cs₁, colon, read⟩ := exists_of_bind_eq_ok read
  obtain ⟨⟨value, cs₂⟩, inner, read⟩ := exists_of_bind_eq_ok read
  cases read
  exact ⟨cs₁, value, colon, inner, rfl⟩

/-- Members are only added. -/
theorem prefix_of_readMembers {fuel : Nat} {first : Bool} {fields fields' : List (String × Json)}
    (read : readMembers (readNext (readOrdered depth)) fuel first fields cs = .ok (fields', rest)) :
    fields <+: fields' := by
  induction fuel generalizing first fields cs with
  | zero => cases read
  | succ fuel ih =>
    obtain ⟨less, same, ⟨-, rfl⟩ | ⟨key, cs₁, fields₁, cs₂, -, head, tail⟩⟩ := readMembers_cases read
    · exact List.prefix_rfl
    · obtain rfl : fuel = less := Nat.succ.inj same
      obtain ⟨_, value, -, -, rfl⟩ := readNext_eq_ok head
      exact (List.prefix_append fields _).trans (ih tail)

/-! ## Keys -/

theorem unrepeatedItems_eq (items : List Json) : unrepeatedItems items = items.all unrepeated := by
  induction items with
  | nil => rw [unrepeatedItems, List.all_nil]
  | cons item items ih => rw [unrepeatedItems, ih, List.all_cons]

theorem unrepeatedFields_eq (fields : List (String × Json)) :
    unrepeatedFields fields = fields.all fun field => field.2.unrepeated := by
  induction fields with
  | nil => rw [unrepeatedFields, List.all_nil]
  | cons field fields ih => rw [unrepeatedFields, ih, List.all_cons]

theorem unrepeated_object_iff {fields : List (String × Json)} :
    (Json.object fields).unrepeated = true ↔
      (fields.map Prod.fst).Nodup ∧ ∀ field ∈ fields, field.2.unrepeated = true := by
  rw [unrepeated, unrepeatedFields_eq, Bool.and_eq_true, decide_eq_true_iff, List.all_eq_true]

/-- Of a repeated key the last value stays. -/
theorem lookup_placed (fields : List (String × Json)) (key : String) :
    SortedMap.lookup key (placed fields) =
      (SortedMap.lookup key fields.reverse).map sorted := by
  have mapped : ∀ fields : List (String × Json),
      SortedMap.lookup key (fields.map fun field => (field.1, field.2.sorted)) =
        (SortedMap.lookup key fields).map sorted := by
    intro fields
    induction fields with
    | nil => rfl
    | cons field fields ih =>
      rw [List.map_cons, SortedMap.lookup, SortedMap.lookup, ih]
      split <;> rfl
  rw [← mapped, List.map_reverse, ← sortedFields_eq]
  exact SortedMap.get?_ofList key (sortedFields fields)

theorem lookup_eq_none {key : String} {fields : List (String × Json)}
    (absent : key ∉ fields.map Prod.fst) : SortedMap.lookup key fields = none := by
  cases found : SortedMap.lookup key fields with
  | none => rfl
  | some value => exact absurd (List.mem_map_of_mem (SortedMap.mem_of_lookup found)) absent

/-- A key that stands once has its own value, and had none before. -/
theorem lookup_placed_of_nodup {early late : List (String × Json)} {key : String}
    (distinct : ((early ++ (key, value) :: late).map Prod.fst).Nodup) :
    SortedMap.lookup key (placed early) = none ∧
      SortedMap.lookup key (placed (early ++ (key, value) :: late)) = some value.sorted := by
  rw [List.map_append, List.map_cons, List.nodup_append, List.nodup_cons] at distinct
  obtain ⟨-, ⟨notLate, -⟩, apart⟩ := distinct
  have notEarly : key ∉ early.map Prod.fst := fun member => apart key member key List.mem_cons_self rfl
  constructor
  · rw [lookup_placed, lookup_eq_none (by simpa using notEarly), Option.map_none]
  · have latest : SortedMap.lookup key late.reverse = none := lookup_eq_none (by simpa using notLate)
    rw [lookup_placed, List.reverse_append, List.reverse_cons, List.append_assoc,
      SortedMap.lookup_append, latest, Option.none_or, List.singleton_append, SortedMap.lookup,
      if_pos rfl, Option.map_some]

theorem lookup_placed_of_mem {fields : List (String × Json)} {field : String × Json}
    (distinct : (fields.map Prod.fst).Nodup) (member : field ∈ fields) :
    SortedMap.lookup field.1 (placed fields) = some field.2.sorted := by
  obtain ⟨early, late, rfl⟩ := List.append_of_mem member
  exact (lookup_placed_of_nodup distinct).2

/-! ## Sorted trees -/

@[elab_as_elim]
theorem induct {motive : Json → Prop} (null : motive .null) (bool : ∀ value, motive (.bool value))
    (number : ∀ value, motive (.number value)) (text : ∀ value, motive (.text value))
    (array : ∀ items, (∀ item ∈ items, motive item) → motive (.array items))
    (object : ∀ fields, (∀ field ∈ fields, motive field.2) → motive (.object fields))
    (value : Json) : motive value := by
  refine @Json.rec motive (fun items => ∀ item ∈ items, motive item)
    (fun fields => ∀ field ∈ fields, motive field.2) (fun field => motive field.2)
    null bool number text array object ?_ ?_ ?_ ?_ ?_ value
  · simp
  · intro item items head tail
    simpa using ⟨head, tail⟩
  · simp
  · intro field fields head tail other member
    obtain rfl | later := List.mem_cons.1 member
    · exact head
    · exact tail other later
  · intro key value held
    exact held

theorem sorted_array {items : List Json} (each : ∀ item ∈ items, item.sorted = item) :
    (Json.array items).sorted = .array items := by
  rw [sorted, sortedItems_eq, List.map_congr_left each, List.map_id']

theorem sorted_object {fields : List (String × Json)}
    (increasing : fields.Pairwise fun a b => a.1 < b.1)
    (each : ∀ field ∈ fields, field.2.sorted = field.2) :
    (Json.object fields).sorted = .object fields := by
  have same : ∀ field ∈ fields, (field.1, field.2.sorted) = field := by
    intro field member
    rw [each field member]
  rw [sorted, sortedFields_eq, List.map_congr_left same, List.map_id', ofFields,
    SortedMap.ofList_entries ⟨fields, increasing⟩]

/-- A sorted tree has no key twice. -/
theorem unrepeated_sorted (value : Json) : value.sorted.unrepeated = true := by
  induction value using induct with
  | null | bool _ | number _ | text _ => rw [sorted, unrepeated]
  | array items each =>
    rw [sorted, unrepeated, unrepeatedItems_eq, sortedItems_eq, List.all_map, List.all_eq_true]
    exact each
  | object fields each =>
    rw [sorted, ofFields, unrepeated_object_iff]
    constructor
    · rw [List.Nodup, List.pairwise_map]
      refine (SortedMap.ofList (sortedFields fields)).sorted.imp ?_
      intro a b less same
      exact String.lt_irrefl _ (same ▸ less)
    · rintro ⟨key, value⟩ member
      have found : SortedMap.lookup key (placed fields) = some value :=
        SortedMap.lookup_of_mem (SortedMap.ofList (sortedFields fields)).sorted member
      rw [lookup_placed, Option.map_eq_some_iff] at found
      obtain ⟨written, found, rfl⟩ := found
      exact each (key, written) (List.mem_reverse.1 (SortedMap.mem_of_lookup found))

end SchemaServer.Json
