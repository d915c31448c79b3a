import SchemaServer.Contract
import SchemaServer.Proofs.Decoders
import SchemaServer.Proofs.Printing

/-! # What the analyzer answers, written and read again

Every record of the analyzer comes back when its tree is read, and when any text of the tree is read:
the order in which the fields were written does not matter.  A place is read from nothing but a pair
of integers that count from one, by both readers, so that what has been read can be counted from zero.

* A record of which every field is written is read back (`ofJson_of_written`), and `Neat` says of its
  tree that it can be written and has its fields in order.
* `drawn_of_ofJson` goes the other way and says which parts of a tree a record was read from.
* `roundTrips_of_trees` makes of these what is said of texts. -/

namespace SchemaServer

open Json (Shape Fields Neat)

/-! ## Words -/

theorem toNat_word32_le (w : UInt32) : w.toNat ≤ 4294967295 := Nat.le_of_lt_succ w.toNat_lt

theorem toNat_word64_le (w : UInt64) : w.toNat ≤ 18446744073709551615 := Nat.le_of_lt_succ w.toNat_lt

theorem check_eq_ok_iff {kind : Json.IntKind} {n : Number} {i : Int} :
    kind.check n = .ok i ↔ n = .int i ∧ kind.min ≤ i ∧ i ≤ kind.max := by
  cases n with
  | double d => simp [Json.IntKind.check]
  | int j =>
    rw [Json.IntKind.check]
    split
    next fits =>
      simp only [Except.ok.injEq, Number.int.injEq]
      constructor
      · rintro rfl
        exact ⟨rfl, fits⟩
      · exact And.left
    next fails =>
      simp only [reduceCtorEq, Number.int.injEq, false_iff]
      rintro ⟨rfl, fits⟩
      exact fails fits

theorem ofJson_integer_eq_ok_iff {kind : Json.IntKind} {tree : Json} {i : Int} :
    (Shape.integer kind).ofJson tree = .ok i ↔ tree = .int i ∧ kind.min ≤ i ∧ i ≤ kind.max := by
  cases tree with
  | number n =>
    rw [Shape.ofJson, check_eq_ok_iff, Json.int, Json.number.injEq]
  | null | bool _ | text _ | array _ | object _ =>
    simp [Shape.ofJson, Json.unexpected, Json.int]

theorem ofJson_word {kind : Json.IntKind} (least : kind.min = 0)
    (greatest : kind.max = 18446744073709551615) (w : UInt64) :
    ((Shape.integer kind).map fun i => UInt64.ofNat i.toNat).ofJson (.ofWord64 w) = .ok w := by
  have fits := toNat_word64_le w
  have checked : kind.check (.int w.toNat) = .ok (w.toNat : Int) :=
    check_eq_ok_iff.2 ⟨rfl, by omega, by omega⟩
  show (kind.check (.int w.toNat) >>= fun i => .ok (UInt64.ofNat i.toNat)) = _
  rw [checked]
  show Except.ok (UInt64.ofNat w.toNat) = _
  rw [UInt64.ofNat_toNat]

theorem ofJson_wordSize (w : UInt64) : Json.wordSize.ofJson (.ofWord64 w) = .ok w :=
  ofJson_word rfl rfl w

/-! ## Places -/

namespace AnalyzerPosition

/-- The coordinates as they should be: each a word, and counted from one. -/
structure Counts (p : AnalyzerPosition) : Prop where
  line : 1 ≤ p.line.toNat ∧ p.line.toNat ≤ 4294967295
  column : 1 ≤ p.column.toNat ∧ p.column.toNat ≤ 4294967295

theorem counts (p : AnalyzerPosition) : p.Counts := by
  have positive : ∀ w : UInt32, w ≠ 0 → 1 ≤ w.toNat := by
    intro w nonzero
    exact Nat.pos_of_ne_zero fun zero => nonzero (UInt32.toNat_inj.1 zero)
  exact ⟨⟨positive _ p.line_ne_zero, toNat_word32_le _⟩, positive _ p.column_ne_zero, toNat_word32_le _⟩

theorem ofInts?_eq_some_iff {line column : Int} {p : AnalyzerPosition} :
    ofInts? line column = some p ↔ line = p.line.toNat ∧ column = p.column.toNat := by
  rw [ofInts?]
  constructor
  · intro found
    split at found
    next bounds =>
      rw [ofWords?] at found
      split at found
      next nonzero =>
        cases found
        have line : line.toNat < UInt32.size := by
          unfold UInt32.size
          omega
        have column : column.toNat < UInt32.size := by
          unfold UInt32.size
          omega
        dsimp only
        rw [UInt32.toNat_ofNat_of_lt' line, UInt32.toNat_ofNat_of_lt' column]
        omega
      next => cases found
    next => cases found
  · rintro ⟨rfl, rfl⟩
    obtain ⟨⟨_, _⟩, _, _⟩ := p.counts
    rw [if_pos (by omega), Int.toNat_natCast, Int.toNat_natCast, UInt32.ofNat_toNat,
      UInt32.ofNat_toNat, ofWords?, dif_pos ⟨p.line_ne_zero, p.column_ne_zero⟩]

/-- A place is read from the tree of its coordinates and from no other. -/
theorem ofJson_eq_ok_iff {tree : Json} {p : AnalyzerPosition} :
    shape.ofJson tree = .ok p ↔ tree = p.toJson := by
  constructor
  · intro read
    obtain ⟨⟨line, column⟩, pair, checked⟩ := Shape.fits_of_ofJson read
    obtain ⟨x, y, rfl, first, second⟩ := Shape.fits_of_ofJson pair
    obtain ⟨rfl, -⟩ := ofJson_integer_eq_ok_iff.1 first
    obtain ⟨rfl, -⟩ := ofJson_integer_eq_ok_iff.1 second
    dsimp only at checked
    split at checked
    next found =>
      cases checked
      obtain ⟨rfl, rfl⟩ := ofInts?_eq_some_iff.1 found
      rfl
    next => cases checked
  · rintro rfl
    obtain ⟨⟨_, _⟩, _, _⟩ := p.counts
    have first : (Shape.integer .i64).ofJson (.ofWord32 p.line) = .ok (p.line.toNat : Int) :=
      ofJson_integer_eq_ok_iff.2 ⟨rfl, by simp only [Json.IntKind.min, Json.IntKind.max]; omega⟩
    have second : (Shape.integer .i64).ofJson (.ofWord32 p.column) = .ok (p.column.toNat : Int) :=
      ofJson_integer_eq_ok_iff.2 ⟨rfl, by simp only [Json.IntKind.min, Json.IntKind.max]; omega⟩
    have pair : (Shape.pair (.integer .i64) (.integer .i64)).ofJson p.toJson =
        .ok ((p.line.toNat : Int), (p.column.toNat : Int)) := by
      rw [toJson, Shape.ofJson, first]
      show ((Shape.integer .i64).ofJson _ >>= _) = _
      rw [second]
      rfl
    have found : ofInts? p.line.toNat p.column.toNat = some p := ofInts?_eq_some_iff.2 ⟨rfl, rfl⟩
    rw [shape, Shape.ofJson, pair]
    simp only [bind, Except.bind, found]

/-- The tree is a pair of integers of the range that counts from one, and these are the
    coordinates. -/
def StandsIn (p : AnalyzerPosition) (tree : Json) : Prop :=
  ∃ line column : Int, tree = .array [.int line, .int column] ∧
    (1 ≤ line ∧ line ≤ 4294967295) ∧ (1 ≤ column ∧ column ≤ 4294967295) ∧
    (p.line.toNat : Int) = line ∧ (p.column.toNat : Int) = column

theorem standsIn_iff {tree : Json} {p : AnalyzerPosition} : p.StandsIn tree ↔ tree = p.toJson := by
  constructor
  · rintro ⟨line, column, rfl, -, -, rfl, rfl⟩
    rfl
  · rintro rfl
    obtain ⟨⟨_, _⟩, _, _⟩ := p.counts
    exact ⟨_, _, rfl, by omega, by omega, rfl, rfl⟩

end AnalyzerPosition

namespace Json

variable {depth : Nat} {cs rest : List Char}

theorem readAny_of_readInteger {kind : IntKind} {i : Int}
    (read : (Shape.integer kind).read depth cs = .ok (i, rest)) :
    readAny depth cs = .ok (.int i, rest) ∧ rest.length < cs.length := by
  obtain ⟨c, word, n, start, sign, numeral, checked⟩ := Shape.takes_of_read read
  obtain ⟨rfl, -⟩ := check_eq_ok_iff.1 checked
  have shorter := (skipNumber_of_readNumber numeral).2
  have all := length_skipBlank_le cs
  rw [start] at all
  refine ⟨?_, by omega⟩
  rw [← readAny_skipBlank, start]
  exact readAny_of_readOrdered (readOrdered_of_sign sign numeral)

/-- Unlike a record, a pair of integers has a tree wherever it can be read. -/
theorem readAny_of_readIntegers {kind kind' : IntKind} {i j : Int}
    (read : (Shape.pair (.integer kind) (.integer kind')).read depth cs = .ok ((i, j), rest)) :
    readAny depth cs = .ok (.array [.int i, .int j], rest) := by
  obtain ⟨inside, less, cs₁, cs₂, cs₃, after, start, rfl, next, first, nextAfter, second, ended⟩ :=
    Shape.takes_of_read read
  obtain ⟨first, shorter⟩ := readAny_of_readInteger first
  obtain ⟨second, -⟩ := readAny_of_readInteger second
  -- Three rounds of the loop take at least two characters.
  obtain ⟨fuel, enough⟩ : ∃ fuel, inside.length + 1 = fuel + 3 := by
    obtain ⟨c, more, begins, -, rfl⟩ := nextItem_eq_first next
    obtain ⟨later, comma, -⟩ := nextItem_eq_next nextAfter
    have all := length_skipBlank_le inside
    have left := length_lt_of_skipBlank comma
    rw [begins] at all
    exact ⟨inside.length - 2, by omega⟩
  have listed : readItems (readAny less) (fuel + 3) true inside =
      .ok ([.int i, .int j], ']' :: rest) :=
    readItems_of_item next first <| readItems_of_item nextAfter second <|
      readItems_of_end (nextItem_of_endList ended)
  rw [readAny, readAnyBy, start]
  show (readList (readAny less) inside >>= _) = _
  rw [readList, enough, listed]
  rfl

theorem unrepeated_of_sorted_numbers {tree : Json} (numbers : List Number)
    (same : tree.sorted = .array (numbers.map .number)) : tree.unrepeated = true := by
  cases tree with
  | array items =>
    rw [sorted, sortedItems_eq] at same
    injection same with same
    rw [unrepeated, unrepeatedItems_eq, List.all_eq_true]
    intro item member
    have listed : item.sorted ∈ numbers.map .number := same ▸ List.mem_map_of_mem member
    obtain ⟨n, -, flat⟩ := List.mem_map.1 listed
    cases item with
    | null | bool _ | number _ | text _ => rw [unrepeated]
    | array _ | object _ =>
      rw [sorted] at flat
      cases flat
  | null | bool _ | number _ | text _ => rw [unrepeated]
  | object _ =>
    rw [sorted] at same
    cases same

end Json

/-- A place is read from a text whose tree is that of its coordinates, and from no other. -/
theorem AnalyzerPosition.parse_eq_ok_iff {source : String} {p : AnalyzerPosition} :
    shape.parse source = .ok p ↔ Json.parse source = .ok p.toJson := by
  constructor
  · intro taken
    obtain ⟨⟨_, rest⟩, read, ended⟩ := exists_of_bind_eq_ok taken
    obtain ⟨⟨line, column⟩, pair, -⟩ := Shape.takes_of_read read
    have parsed : Json.parse source = .ok (.array [.int line, .int column]) := by
      show (Json.readAny Json.maxDepth source.toList >>= Json.endText) = _
      rw [Json.readAny_of_readIntegers pair]
      exact Json.endText_of_endText ended _
    rw [parsed, ofJson_eq_ok_iff.1 (Json.ofJson_of_parse taken parsed)]
  · intro parsed
    refine (Json.parse_eq_ok_iff parsed ?_ p).2 (ofJson_eq_ok_iff.2 rfl)
    -- A pair of integers has no keys that could be repeated.
    rw [Json.parse_eq] at parsed
    rw [Json.repeatsNoKey]
    cases ordered : Json.parseOrdered source with
    | error fault => rfl
    | ok tree =>
      rw [ordered] at parsed
      injection parsed with same
      exact Json.unrepeated_of_sorted_numbers [.int p.line.toNat, .int p.column.toNat] same

/-! ## Records -/

namespace Json

variable {α β σ ρ : Type}

def Fields.keys : {σ ρ : Type} → Fields σ ρ → List String
  | _, _, .nil => []
  | _, _, .cons key _ _ rest => key :: rest.keys

/-- Every field has a value under its key, from which it is read. -/
def Fields.Written : {σ ρ : Type} → Fields σ ρ → (String → Option Json) → ρ → Prop
  | _, _, .nil, _, () => True
  | _, _, .cons key shape _ rest, look, (a, record) =>
    (∃ value, look key = some value ∧ shape.ofJson value = .ok a) ∧ rest.Written look record

theorem Fields.written_hide : {σ ρ : Type} → (fields : Fields σ ρ) → (record : ρ) →
    ∀ ⦃look : String → Option Json⦄ ⦃key : String⦄, fields.Written look record →
      key ∉ fields.keys → fields.Written (hide key look) record
  | _, _, .nil, () => fun _ _ _ _ => trivial
  | _, _, .cons own _ _ fields, (a, record) => by
    rintro look key ⟨⟨value, found, read⟩, others⟩ fresh
    rw [Fields.keys, List.mem_cons, not_or] at fresh
    obtain ⟨apart, later⟩ := fresh
    refine ⟨⟨value, ?_, read⟩, fields.written_hide record others later⟩
    rw [hide, if_neg apart, found]

theorem Fields.holds_of_written : {σ ρ : Type} → (fields : Fields σ ρ) → (record : ρ) →
    ∀ ⦃look : String → Option Json⦄, fields.keys.Nodup → fields.Written look record →
      ∃ slots, fields.Holds look slots ∧ fields.finish slots = .ok record
  | _, _, .nil, () => fun _ _ _ => ⟨(), trivial, rfl⟩
  | _, _, .cons own _ _ fields, (a, record) => by
    rintro look distinct ⟨⟨value, found, read⟩, others⟩
    obtain ⟨fresh, distinct⟩ := List.nodup_cons.1 distinct
    obtain ⟨slots, held, finishes⟩ :=
      fields.holds_of_written record distinct (fields.written_hide record others fresh)
    refine ⟨(some a, slots), ⟨?_, held⟩, ?_⟩
    · rw [found, Option.mapM_some, read]
      rfl
    · rw [Fields.finish]
      show (fields.finish slots >>= _) = _
      rw [finishes]
      rfl

/-- A record of which every field is written is read back. -/
theorem ofJson_of_written {name : String} {fields : Fields σ ρ} {members : List (String × Json)}
    {depth : Nat} (neat : Neat depth (.object members)) (record : ρ) (distinct : fields.keys.Nodup)
    (written : fields.Written (fun key => SortedMap.lookup key members) record) (f : ρ → α) :
    ((Shape.record name fields).map f).ofJson (.object members) = .ok (f record) := by
  obtain ⟨slots, held, finishes⟩ := fields.holds_of_written record distinct written
  show ((Shape.record name fields).ofJson _ >>= _) = _
  rw [ofJson_record_of_holds neat.increasing held finishes]
  rfl

end Json

theorem AnalyzerPosition.neat_toJson (p : AnalyzerPosition) (depth : Nat) :
    Neat (depth + 1) p.toJson := by
  have word : ∀ w : UInt32, Neat depth (.ofWord32 w) := fun w =>
    .nat ((toNat_word32_le w).trans (by decide))
  refine .array ?_
  simp [word]

namespace Span

theorem neat_toJson (s : Span) (depth : Nat) : Neat (depth + 2) s.toJson := by
  have word : ∀ w : UInt64, Neat (depth + 1) (.ofWord64 w) := fun w => .nat (toNat_word64_le w)
  refine .object ["end", "end_position", "start", "start_position"] rfl (by decide) ?_
  simp [word, AnalyzerPosition.neat_toJson]

theorem ofJson_toJson (s : Span) : shape.ofJson s.toJson = .ok s := by
  have place : ∀ p : AnalyzerPosition, AnalyzerPosition.shape.ofJson p.toJson = .ok p := fun p =>
    AnalyzerPosition.ofJson_eq_ok_iff.2 rfl
  refine Json.ofJson_of_written (s.neat_toJson 0) (s.startOffset, s.stopOffset, s.start, s.stop, ())
    (by decide) ?_ _
  exact ⟨⟨_, rfl, ofJson_wordSize _⟩, ⟨_, rfl, ofJson_wordSize _⟩, ⟨_, rfl, place _⟩,
    ⟨_, rfl, place _⟩, trivial⟩

end Span

namespace LintItem

theorem neat_toJson (i : LintItem) (depth : Nat) : Neat (depth + 3) i.toJson := by
  refine .object ["message", "source", "span", "type"] rfl (by decide) ?_
  simp [Neat.text, Span.neat_toJson, Severity.toJson]

theorem ofJson_toJson (i : LintItem) : shape.ofJson i.toJson = .ok i := by
  have severity : Severity.shape.ofJson i.severity.toJson = .ok i.severity := by
    cases i.severity <;> rfl
  refine Json.ofJson_of_written (i.neat_toJson 0) (i.severity, i.source, i.message, i.span, ())
    (by decide) ?_ _
  exact ⟨⟨_, rfl, severity⟩, ⟨_, rfl, rfl⟩, ⟨_, rfl, rfl⟩, ⟨_, rfl, i.span.ofJson_toJson⟩, trivial⟩

end LintItem

namespace DefinitionItem

theorem neat_toJson (i : DefinitionItem) (depth : Nat) : Neat (depth + 3) i.toJson := by
  refine .object ["identifier_span", "path", "selection_span", "target_span"] rfl (by decide) ?_
  simp [Neat.text, Span.neat_toJson]

theorem ofJson_toJson (i : DefinitionItem) : shape.ofJson i.toJson = .ok i := by
  refine Json.ofJson_of_written (i.neat_toJson 0) (i.path, i.target, i.identifier, i.selection, ())
    (by decide) ?_ _
  exact ⟨⟨_, rfl, rfl⟩, ⟨_, rfl, i.target.ofJson_toJson⟩, ⟨_, rfl, i.identifier.ofJson_toJson⟩,
    ⟨_, rfl, i.selection.ofJson_toJson⟩, trivial⟩

end DefinitionItem

namespace CompletionEntry

theorem neat_toJson (e : CompletionEntry) (depth : Nat) : Neat (depth + 1) e.toJson := by
  refine .object ["detail", "documentation", "label", "namespace_path"] rfl (by decide) ?_
  simp [Neat.text, Neat.ofText?]

theorem ofJson_toJson (e : CompletionEntry) : shape.ofJson e.toJson = .ok e := by
  have optional : ∀ content, (Shape.optional .text).ofJson (.ofText? content) = .ok content := by
    intro content
    cases content <;> rfl
  refine Json.ofJson_of_written (e.neat_toJson 0)
    (e.label, e.namespacePath, e.documentation, e.detail, ()) (by decide) ?_ _
  exact ⟨⟨_, rfl, rfl⟩, ⟨_, rfl, optional _⟩, ⟨_, rfl, optional _⟩, ⟨_, rfl, optional _⟩, trivial⟩

end CompletionEntry

/-! ## Where places come from -/

namespace Json

variable {α σ ρ : Type}

/-- One tree is another or stands somewhere inside it. -/
inductive Within (part : Json) : Json → Prop where
  | whole : Within part part
  | item {items : List Json} {item : Json} (member : item ∈ items) (inside : Within part item) :
      Within part (.array items)
  | field {fields : List (String × Json)} {field : String × Json} (member : field ∈ fields)
      (inside : Within part field.2) : Within part (.object fields)

/-- The fields read so far have been read from these trees. -/
def Fields.Filled : {σ ρ : Type} → Fields σ ρ → (Json → Prop) → σ → Prop
  | _, _, .nil, _, () => True
  | _, _, .cons _ shape _ rest, parts, (slot, slots) =>
    (∀ a ∈ slot, ∃ part, parts part ∧ shape.ofJson part = .ok a) ∧ rest.Filled parts slots

/-- Every field has been read from one of these trees or is a default. -/
def Fields.Drawn : {σ ρ : Type} → Fields σ ρ → (Json → Prop) → ρ → Prop
  | _, _, .nil, _, () => True
  | _, _, .cons _ shape absent rest, parts, (a, record) =>
    ((∃ part, parts part ∧ shape.ofJson part = .ok a) ∨ absent = .keyed a ∨ absent = .defaulted a) ∧
      rest.Drawn parts record

theorem Fields.filled_none : {σ ρ : Type} → (fields : Fields σ ρ) → (parts : Json → Prop) →
    fields.Filled parts fields.none
  | _, _, .nil, _ => trivial
  | _, _, .cons _ _ _ rest, parts => ⟨fun _ found => (nomatch found), rest.filled_none parts⟩

theorem Fields.filled_of_ofMember : {σ ρ : Type} → (fields : Fields σ ρ) → (slots : σ) →
    ∀ ⦃parts : Json → Prop⦄ ⦃key : String⦄ ⦃value : Json⦄ ⦃slots' : σ⦄, fields.Filled parts slots →
      parts value → fields.ofMember key value slots = .ok slots' → fields.Filled parts slots'
  | _, _, .nil, () => fun _ _ _ _ _ _ _ => trivial
  | _, _, .cons own shape _ fields, (slot, slots) => by
    rintro parts key value ⟨slot', slots'⟩ ⟨filled, others⟩ listed read
    rw [Fields.ofMember] at read
    split at read
    next =>
      split at read
      next => cases read
      next =>
        obtain ⟨a, converted, done⟩ := exists_of_bind_eq_ok read
        cases done
        refine ⟨?_, others⟩
        rintro _ ⟨⟩
        exact ⟨value, listed, converted⟩
    next =>
      obtain ⟨later, converted, done⟩ := exists_of_bind_eq_ok read
      cases done
      exact ⟨filled, fields.filled_of_ofMember slots others listed converted⟩

theorem finish_cons_eq_ok {key : String} {shape : Shape α} {absent : Absent α} {fields : Fields σ ρ}
    {slot : Option α} {slots : σ} {a : α} {record : ρ}
    (finished : (Fields.cons key shape absent fields).finish (slot, slots) = .ok (a, record)) :
    (slot = some a ∨ absent = .keyed a ∨ absent = .defaulted a) ∧ fields.finish slots = .ok record := by
  have taken : ∀ value, (fields.finish slots >>= fun values => pure (value, values)) =
      .ok (a, record) → value = a ∧ fields.finish slots = .ok record := by
    intro value read
    obtain ⟨values, later, done⟩ := exists_of_bind_eq_ok read
    cases done
    exact ⟨rfl, later⟩
  cases slot with
  | some found =>
    obtain ⟨rfl, later⟩ := taken found finished
    exact ⟨.inl rfl, later⟩
  | none =>
    cases absent with
    | required => cases finished
    | keyed value =>
      obtain ⟨rfl, later⟩ := taken value finished
      exact ⟨.inr (.inl rfl), later⟩
    | defaulted value =>
      obtain ⟨rfl, later⟩ := taken value finished
      exact ⟨.inr (.inr rfl), later⟩

theorem Fields.drawn_of_finish : {σ ρ : Type} → (fields : Fields σ ρ) → (slots : σ) →
    ∀ ⦃parts : Json → Prop⦄ ⦃record : ρ⦄, fields.Filled parts slots →
      fields.finish slots = .ok record → fields.Drawn parts record
  | _, _, .nil, () => fun _ _ _ _ => trivial
  | _, _, .cons own shape absent fields, (slot, slots) => by
    rintro parts ⟨a, record⟩ ⟨filled, others⟩ finished
    obtain ⟨rfl | absent, later⟩ := finish_cons_eq_ok finished
    · exact ⟨.inl (filled a rfl), fields.drawn_of_finish slots others later⟩
    · exact ⟨.inr absent, fields.drawn_of_finish slots others later⟩

theorem Fields.drawn_of_ofItems : {σ ρ : Type} → (fields : Fields σ ρ) → (items : List Json) →
    ∀ ⦃parts : Json → Prop⦄ ⦃expected : String⦄ ⦃index : Nat⦄ ⦃record : ρ⦄ ⦃left : List Json⦄,
      (∀ item ∈ items, parts item) → fields.ofItems expected index items = .ok (record, left) →
      fields.Drawn parts record
  | _, _, .nil, _ => fun _ _ _ _ _ _ _ => trivial
  | _, _, .cons own shape absent fields, [] => by
    rintro parts expected index ⟨a, record⟩ left listed read
    cases absent with
    | required => cases read
    | keyed value => cases read
    | defaulted value =>
      obtain ⟨⟨values, _⟩, later, done⟩ := exists_of_bind_eq_ok read
      cases done
      exact ⟨.inr (.inr rfl), fields.drawn_of_ofItems [] listed later⟩
  | _, _, .cons own shape absent fields, item :: items => by
    rintro parts expected index ⟨a, record⟩ left listed read
    obtain ⟨value, converted, read⟩ := exists_of_bind_eq_ok read
    obtain ⟨⟨values, _⟩, later, done⟩ := exists_of_bind_eq_ok read
    cases done
    refine ⟨.inl ⟨item, listed item List.mem_cons_self, converted⟩, ?_⟩
    exact fields.drawn_of_ofItems items (fun item member => listed item (List.mem_cons_of_mem _ member))
      later

theorem filled_of_foldlM {fields : Fields σ ρ} {parts : Json → Prop} {slots slots' : σ}
    {members : List (String × Json)} (filled : fields.Filled parts slots)
    (listed : ∀ member ∈ members, parts member.2)
    (read : members.foldlM (fun slots (key, value) => fields.ofMember key value slots) slots =
      .ok slots') : fields.Filled parts slots' := by
  induction members generalizing slots with
  | nil =>
    cases read
    exact filled
  | cons member members ih =>
    rw [List.foldlM_cons] at read
    obtain ⟨slots₁, head, tail⟩ := exists_of_bind_eq_ok read
    have filled₁ := fields.filled_of_ofMember slots filled (listed member List.mem_cons_self) head
    exact ih filled₁ (fun other later => listed other (List.mem_cons_of_mem _ later)) tail

/-- The fields of a record are read from what stands inside its tree: whatever holds inside one of the
    parts holds inside the tree. -/
theorem drawn_of_ofJson {name : String} {fields : Fields σ ρ} {f : ρ → α} {tree : Json} {a : α}
    (read : ((Shape.record name fields).map f).ofJson tree = .ok a) :
    ∃ record, a = f record ∧
      fields.Drawn (fun part => ∀ inner, Within inner part → Within inner tree) record := by
  obtain ⟨record, inner, done⟩ := Shape.fits_of_ofJson read
  cases done
  refine ⟨record, rfl, ?_⟩
  obtain ⟨items, rfl, listed⟩ | ⟨members, slots, rfl, held, finishes⟩ := Shape.fits_of_ofJson inner
  -- The tree may repeat keys and need not be sorted, so the members are followed one by one.
  · exact fields.drawn_of_ofItems items (fun item member inner => .item member) listed
  · refine fields.drawn_of_finish slots ?_ finishes
    exact filled_of_foldlM (fields.filled_none _) (fun field member inner => .field member) held

end Json

/-- Every place of a value stands in a part of the tree that the value is read from. -/
def Traced {α : Type} (shape : Shape α) (places : α → List AnalyzerPosition) : Prop :=
  ∀ (tree : Json) (a : α), shape.ofJson tree = .ok a →
    ∀ p ∈ places a, ∃ part, Json.Within part tree ∧ p.StandsIn part

theorem traced_position : Traced AnalyzerPosition.shape fun p => [p] := by
  intro tree p read other member
  obtain rfl := List.mem_singleton.1 member
  exact ⟨tree, .whole, AnalyzerPosition.standsIn_iff.2 (AnalyzerPosition.ofJson_eq_ok_iff.1 read)⟩

/-- What is traced inside a part of a tree is traced inside the tree. -/
theorem Traced.inside {α : Type} {shape : Shape α} {places : α → List AnalyzerPosition} {a : α}
    {tree : Json} (traced : Traced shape places)
    (drawn : ∃ part, (∀ inner, Json.Within inner part → Json.Within inner tree) ∧
      shape.ofJson part = .ok a) :
    ∀ p ∈ places a, ∃ part, Json.Within part tree ∧ p.StandsIn part := by
  obtain ⟨part, up, read⟩ := drawn
  intro p member
  obtain ⟨inner, inside, stands⟩ := traced part a read p member
  exact ⟨inner, up inner inside, stands⟩

/-- The places of a span. -/
def Span.places (s : Span) : List AnalyzerPosition := [s.start, s.stop]

/-- The places of a definition. -/
def DefinitionItem.places (i : DefinitionItem) : List AnalyzerPosition :=
  i.target.places ++ (i.identifier.places ++ i.selection.places)

theorem Json.Fields.drawn_required {α σ ρ : Type} {key : String} {shape : Shape α}
    {fields : Fields σ ρ} {parts : Json → Prop} {a : α} {record : ρ}
    (drawn : (Fields.required key shape fields).Drawn parts (a, record)) :
    (∃ part, parts part ∧ shape.ofJson part = .ok a) ∧ fields.Drawn parts record := by
  obtain ⟨found | absent | absent, others⟩ := drawn
  · exact ⟨found, others⟩
  · cases absent
  · cases absent

theorem traced_span : Traced Span.shape Span.places := by
  intro tree s read
  obtain ⟨⟨startOffset, stopOffset, start, stop, ⟨⟩⟩, rfl, -, -, drawn⟩ := Json.drawn_of_ofJson read
  obtain ⟨first, drawn⟩ := Fields.drawn_required drawn
  obtain ⟨second, -⟩ := Fields.drawn_required drawn
  intro p member
  obtain rfl | rfl : p = start ∨ p = stop := by simpa [Span.places] using member
  · exact traced_position.inside first p List.mem_cons_self
  · exact traced_position.inside second p List.mem_cons_self

theorem traced_problem : Traced LintItem.shape fun i => i.span.places := by
  intro tree i read
  obtain ⟨⟨severity, source, message, span, ⟨⟩⟩, rfl, -, -, -, drawn⟩ := Json.drawn_of_ofJson read
  obtain ⟨found, -⟩ := Fields.drawn_required drawn
  exact traced_span.inside found

theorem traced_definition : Traced DefinitionItem.shape DefinitionItem.places := by
  intro tree i read
  obtain ⟨⟨path, target, identifier, selection, ⟨⟩⟩, rfl, -, drawn⟩ := Json.drawn_of_ofJson read
  obtain ⟨first, drawn⟩ := Fields.drawn_required drawn
  obtain ⟨second, drawn⟩ := Fields.drawn_required drawn
  obtain ⟨third, -⟩ := Fields.drawn_required drawn
  intro p member
  obtain inTarget | member := List.mem_append.1 member
  · exact traced_span.inside first p inTarget
  · obtain inIdentifier | inSelection := List.mem_append.1 member
    · exact traced_span.inside second p inIdentifier
    · exact traced_span.inside third p inSelection

/-! ## Round trips -/

/-- A text of a neat tree is read by a shape as the tree is, in whatever order the fields stand. -/
theorem Json.parse_print_of_sorted {α : Type} {shape : Shape α} {a : α} {value tree : Json}
    (neat : Neat maxDepth value) (same : tree.sorted = value) (distinct : tree.unrepeated = true)
    (read : shape.ofJson value = .ok a) : shape.parse tree.print = .ok a := by
  have ordered := parseOrdered_print (neat.writable.of_sorted same distinct)
  have parsed : parse tree.print = .ok value := by
    rw [parse_eq, ordered, ← same]
    rfl
  have unrepeated : repeatsNoKey tree.print = true := by
    rw [repeatsNoKey, ordered]
    exact distinct
  exact (parse_eq_ok_iff parsed unrepeated a).2 read

/-- What is written can be read again, and what has been read can be written and read again, with the
    same result.  `places` are the places inside a value. -/
structure RoundTrips {α : Type} (shape : Shape α) (encode : α → Json)
    (places : α → List AnalyzerPosition) : Prop where
  ofTree (a : α) : shape.ofJson (encode a) = .ok a
  ofText (a : α) : shape.parse (encode a).print = .ok a
  /-- The text may have the fields in any order, as long as it has none twice. -/
  ofArranged (a : α) (tree : Json) (same : tree.sorted = encode a) (distinct : tree.unrepeated = true) :
    shape.parse tree.print = .ok a
  /-- Every place in a value that either reader has read counts from one, and the value can be written
      and read again. -/
  ofRead (a : α)
    (read : (∃ tree, shape.ofJson tree = .ok a) ∨ ∃ source, shape.parse source = .ok a) :
    (∀ p ∈ places a, p.Counts) ∧ shape.ofJson (encode a) = .ok a ∧
      shape.parse (encode a).print = .ok a
  /-- Each of these places is a pair of integers of that range somewhere in the tree. -/
  traced : Traced shape places
  tracedText (source : String) (tree : Json) (a : α) (parsed : Json.parse source = .ok tree)
    (read : shape.parse source = .ok a) :
    ∀ p ∈ places a, ∃ part, Json.Within part tree ∧ p.StandsIn part

theorem roundTrips_of_trees {α : Type} {shape : Shape α} {encode : α → Json}
    {places : α → List AnalyzerPosition} (neat : ∀ a, Neat Json.maxDepth (encode a))
    (read : ∀ a, shape.ofJson (encode a) = .ok a) (traced : Traced shape places) :
    RoundTrips shape encode places := by
  have arranged : ∀ (a : α) (tree : Json), tree.sorted = encode a → tree.unrepeated = true →
      shape.parse tree.print = .ok a := fun a tree same distinct =>
    Json.parse_print_of_sorted (neat a) same distinct (read a)
  have text : ∀ a, shape.parse (encode a).print = .ok a := fun a =>
    arranged a (encode a) (neat a).sorted (neat a).unrepeated
  exact {
    ofTree := read
    ofText := text
    ofArranged := arranged
    ofRead := fun a _ => ⟨fun p _ => p.counts, read a, text a⟩
    traced := traced
    tracedText := fun _ tree a parsed taken => traced tree a (Json.ofJson_of_parse taken parsed) }

/-- Counting from zero takes one from each coordinate, and neither wraps around. -/
theorem AnalyzerPosition.lowered (p : AnalyzerPosition) :
    p.toProtocol.line.toNat + 1 = p.line.toNat ∧
      p.toProtocol.character.toNat + 1 = p.column.toNat := by
  have below : ∀ w : UInt32, 1 ≤ w.toNat → (w - 1).toNat + 1 = w.toNat := by
    intro w positive
    rw [UInt32.toNat_sub_of_le w 1 positive]
    exact Nat.sub_add_cancel positive
  exact ⟨below _ p.counts.line.1, below _ p.counts.column.1⟩

/-- The range has the coordinates of the span less one, none of which wraps around. -/
structure Span.Lowered (s : Span) : Prop where
  startLine : s.toRange.start.line.toNat + 1 = s.start.line.toNat
  startColumn : s.toRange.start.character.toNat + 1 = s.start.column.toNat
  stopLine : s.toRange.stop.line.toNat + 1 = s.stop.line.toNat
  stopColumn : s.toRange.stop.character.toNat + 1 = s.stop.column.toNat

theorem Span.lowered (s : Span) : s.Lowered :=
  ⟨s.start.lowered.1, s.start.lowered.2, s.stop.lowered.1, s.stop.lowered.2⟩

/-- Reading undoes writing for all that the analyzer answers, through trees and through texts.  A
    place is read from a pair of integers that count from one and from nothing else, and so the range
    of a span never goes below zero. -/
theorem contract_round_trips :
    RoundTrips AnalyzerPosition.shape AnalyzerPosition.toJson (fun p => [p]) ∧
    RoundTrips Span.shape Span.toJson Span.places ∧
    RoundTrips LintItem.shape LintItem.toJson (fun i => i.span.places) ∧
    RoundTrips DefinitionItem.shape DefinitionItem.toJson DefinitionItem.places ∧
    RoundTrips CompletionEntry.shape CompletionEntry.toJson (fun _ => []) ∧
    (∀ (tree : Json) (p : AnalyzerPosition),
      AnalyzerPosition.shape.ofJson tree = .ok p ↔ p.StandsIn tree) ∧
    (∀ (source : String) (p : AnalyzerPosition), AnalyzerPosition.shape.parse source = .ok p ↔
      ∃ tree, Json.parse source = .ok tree ∧ p.StandsIn tree) ∧
    (∀ s : Span, s.Lowered) := by
  have position : ∀ p : AnalyzerPosition, AnalyzerPosition.shape.ofJson p.toJson = .ok p := fun p =>
    AnalyzerPosition.ofJson_eq_ok_iff.2 rfl
  refine ⟨?_, ?_, ?_, ?_, ?_, ?_, ?_, Span.lowered⟩
  · exact roundTrips_of_trees (fun p => p.neat_toJson 126) position traced_position
  · exact roundTrips_of_trees (fun s => s.neat_toJson 125) Span.ofJson_toJson traced_span
  · exact roundTrips_of_trees (fun i => i.neat_toJson 124) LintItem.ofJson_toJson traced_problem
  · exact roundTrips_of_trees (fun i => i.neat_toJson 124) DefinitionItem.ofJson_toJson
      traced_definition
  · exact roundTrips_of_trees (fun e => e.neat_toJson 126) CompletionEntry.ofJson_toJson
      (fun _ _ _ _ none => nomatch none)
  · intro tree p
    rw [AnalyzerPosition.ofJson_eq_ok_iff, AnalyzerPosition.standsIn_iff]
  · intro source p
    simp only [AnalyzerPosition.parse_eq_ok_iff, AnalyzerPosition.standsIn_iff, exists_eq_right]

/-- A problem at the limits of words, with a message that needs escapes. -/
def sharpProblem : LintItem :=
  ⟨.warning, "/a", "\"\\\n\x01é", 18446744073709551615, 0, ⟨4294967295, 1, by decide, by decide⟩,
    ⟨1, 4294967295, by decide, by decide⟩⟩

/-- The tree of that problem with its fields in the order of the record. -/
def sharpTree : Json :=
  .object [("type", .text "warning"), ("source", .text "/a"), ("message", .text "\"\\\n\x01é"),
    ("span", .object [("start", .nat 18446744073709551615), ("end", .nat 0),
      ("start_position", .array [.nat 4294967295, .nat 1]),
      ("end_position", .array [.nat 1, .nat 4294967295])])]

theorem contract_round_trips_sharpProblem :
    LintItem.shape.parse sharpTree.print = .ok sharpProblem ∧
      LintItem.shape.parse sharpProblem.toJson.print = .ok sharpProblem ∧
      LintItem.shape.ofJson sharpProblem.toJson = .ok sharpProblem ∧
      sharpProblem.span.toRange = ⟨⟨4294967294, 0⟩, ⟨0, 4294967294⟩⟩ := by
  obtain ⟨-, -, problems, -⟩ := contract_round_trips
  have arranged := problems.ofArranged sharpProblem sharpTree rfl rfl
  exact ⟨arranged, problems.ofText _, problems.ofTree _, rfl⟩

end SchemaServer
