import Mathlib.Logic.Relation
import SchemaServer.Proofs.Bytes
import SchemaServer.Proofs.Stores

/-! # Operations on a store

A store changes by five operations.  Each of them but one names a document, and what it does is done
to the slot of that document alone: the document and the settings kept for it.  The other one forgets
the settings in every slot.  So a store is a family of slots that never look at each other
(`slot_perform`), and what a slot holds comes from the operations that concern it, in their order
(`slot_reached`).

* `Proper` is what each operation keeps true of each slot.
* `reached_eq_of_agree`: operations that concern different documents may change places. -/

namespace SchemaServer.Store

inductive Operation where
  | opened (uri text : String) (version : Int)
  | updated (uri text : String) (version : Int)
  | closed (uri : String)
  | kept (uri : String) (settings : Settings)
  | forgotten

namespace Operation

def uri? : Operation → Option String
  | .opened uri _ _ | .updated uri _ _ | .closed uri | .kept uri _ => some uri
  | .forgotten => none

/-- Whether an operation names a document or is about all of them. -/
def concerns (uri : String) (operation : Operation) : Bool := operation.uri?.all (· == uri)

/-- Whether a document is open after an operation; nothing if the operation leaves that as it is. -/
def decides? (uri : String) : Operation → Option Bool
  | .opened named _ _ | .updated named _ _ => if named = uri then some true else none
  | .closed named => if named = uri then some false else none
  | .kept _ _ | .forgotten => none

end Operation

def perform (s : Store) : Operation → Store
  | .opened uri text version => s.openDocument uri text version
  | .updated uri text version => s.update uri text version
  | .closed uri => (s.closing uri).2
  | .kept uri settings => s.keepSettings uri settings
  | .forgotten => s.forgetSettings

/-- The store after some operations, when nothing was open at first. -/
def reached (operations : List Operation) : Store := operations.foldl perform empty

/-! ## Slots -/

/-- What a store holds for one document. -/
@[ext]
structure Slot where
  document? : Option Document
  settings? : Option Settings

def slot (s : Store) (uri : String) : Slot := ⟨s.get? uri, s.settings? uri⟩

theorem eq_of_slot {s t : Store} (same : ∀ uri, s.slot uri = t.slot uri) : s = t := by
  have documents : s.documents = t.documents :=
    SortedMap.ext_get? fun uri => congrArg Slot.document? (same uri)
  have fetched : s.fetched = t.fetched :=
    SortedMap.ext_get? fun uri => congrArg Slot.settings? (same uri)
  cases s
  cases t
  simp_all

/-- What an operation makes of the slot of a document. -/
def Operation.act (uri : String) (slot : Slot) : Operation → Slot
  | .opened named text version =>
    if named = uri then { slot with document? := some ⟨uri, text, some version⟩ } else slot
  | .updated named text version =>
    if named = uri then
      -- A document that is open keeps the URI it was opened with.
      { slot with
        document? := some ⟨(slot.document?.map Document.uri).getD uri, text, some version⟩ }
    else slot
  | .closed named => if named = uri then ⟨none, none⟩ else slot
  | .kept named settings =>
    if named = uri ∧ slot.document?.isSome then { slot with settings? := some settings } else slot
  | .forgotten => { slot with settings? := none }

theorem slot_perform (s : Store) (operation : Operation) (uri : String) :
    (s.perform operation).slot uri = operation.act uri (s.slot uri) := by
  cases operation with
  | opened named text version =>
    by_cases same : named = uri <;>
      simp [slot, perform, Operation.act, get?_openDocument, settings?_openDocument, same]
  | updated named text version =>
    by_cases same : named = uri <;>
      simp [slot, perform, Operation.act, get?_update, settings?_update, same]
  | closed named =>
    have shut : s.perform (.closed named) = s.close named := rfl
    rw [shut]
    by_cases same : named = uri <;>
      simp [slot, Operation.act, get?_close, settings?_close, same]
  | kept named settings =>
    have document : (s.keepSettings named settings).get? uri = s.get? uri := by simp [get?]
    by_cases isOpen : s.contains named = true
    · by_cases same : named = uri
      · subst same
        have found : (s.get? named).isSome = true := isOpen
        simp [slot, perform, Operation.act, document, settings?_keepSettings isOpen, found]
      · simp [slot, perform, Operation.act, document, settings?_keepSettings isOpen, same]
    · have unchanged := keepSettings_of_not_contains isOpen settings
      by_cases same : named = uri
      · subst same
        have missing : ¬ (s.get? named).isSome = true := isOpen
        simp [slot, perform, Operation.act, unchanged, missing]
      · simp [slot, perform, Operation.act, unchanged, same]
  | forgotten => rfl

theorem act_of_not_concerns {uri : String} {operation : Operation}
    (other : operation.concerns uri = false) (slot : Slot) : operation.act uri slot = slot := by
  cases operation <;> simp_all [Operation.concerns, Operation.uri?, Operation.act]

theorem slot_foldl (operations : List Operation) (s : Store) (uri : String) :
    (operations.foldl perform s).slot uri =
      operations.foldl (fun slot operation => operation.act uri slot) (s.slot uri) := by
  induction operations generalizing s with
  | nil => rfl
  | cons operation operations ih => simp [ih, slot_perform]

/-- The slot of a document comes from the operations that concern it. -/
theorem slot_reached (operations : List Operation) (uri : String) :
    (reached operations).slot uri =
      (operations.filter (Operation.concerns uri)).foldl
        (fun slot operation => operation.act uri slot) (empty.slot uri) := by
  rw [reached, slot_foldl, List.foldl_filter]
  congr 1
  funext slot operation
  split
  next => rfl
  next other => exact act_of_not_concerns (by simpa using other) slot

/-! ## What every store keeps -/

/-- A document has the URI it is stored under and a version, and there are settings only for a
    document that is open. -/
structure Slot.Proper (uri : String) (slot : Slot) : Prop where
  named : ∀ document, slot.document? = some document → document.uri = uri
  versioned : ∀ document, slot.document? = some document → document.version ≠ none
  settled : slot.settings? ≠ none → slot.document? ≠ none

theorem Slot.Proper.act {uri : String} {slot : Slot} (proper : slot.Proper uri)
    (operation : Operation) : (operation.act uri slot).Proper uri := by
  obtain ⟨named, versioned, settled⟩ := proper
  cases operation with
  | opened other text version =>
    by_cases same : other = uri
    · constructor <;> simp [Operation.act, same]
    · simpa [Operation.act, same] using ⟨named, versioned, settled⟩
  | updated other text version =>
    by_cases same : other = uri
    · have kept : (slot.document?.map Document.uri).getD uri = uri := by
        cases found : slot.document? with
        | none => rfl
        | some document => exact named document found
      constructor <;> simp [Operation.act, same, kept]
    · simpa [Operation.act, same] using ⟨named, versioned, settled⟩
  | closed other =>
    by_cases same : other = uri
    · constructor <;> simp [Operation.act, same]
    · simpa [Operation.act, same] using ⟨named, versioned, settled⟩
  | kept other settings =>
    by_cases taken : other = uri ∧ slot.document?.isSome
    · have isOpen : slot.document? ≠ none := Option.isSome_iff_ne_none.1 taken.2
      simp only [Operation.act, taken]
      exact ⟨named, versioned, fun _ => isOpen⟩
    · simpa only [Operation.act, taken] using ⟨named, versioned, settled⟩
  | forgotten => exact ⟨named, versioned, by simp [Operation.act]⟩

theorem Slot.Proper.foldl {uri : String} {slot : Slot} (proper : slot.Proper uri)
    (operations : List Operation) :
    (operations.foldl (fun slot operation => operation.act uri slot) slot).Proper uri := by
  induction operations generalizing slot with
  | nil => exact proper
  | cons operation operations ih => exact ih (proper.act operation)

theorem proper_reached (operations : List Operation) (uri : String) :
    ((reached operations).slot uri).Proper uri := by
  have start : Slot.Proper uri ⟨none, none⟩ := by constructor <;> simp
  rw [reached, slot_foldl]
  exact start.foldl operations

/-- Documents are stored under their own URIs, in increasing order of the bytes of these, each with a
    version, and settings are kept for them alone. -/
structure Sound (s : Store) : Prop where
  named : ∀ uri document, s.get? uri = some document → document.uri = uri
  versioned : ∀ uri document, s.get? uri = some document → document.version ≠ none
  listed : ∀ uri, uri ∈ s.uris ↔ s.get? uri ≠ none
  increasing : s.uris.Pairwise fun u v => Utf8.encode u < Utf8.encode v
  settled : ∀ uri, s.settings? uri ≠ none → s.get? uri ≠ none

theorem sound_reached (operations : List Operation) : (reached operations).Sound where
  named uri := (proper_reached operations uri).named
  versioned uri := (proper_reached operations uri).versioned
  listed _ := mem_uris_iff.trans Option.isSome_iff_ne_none
  increasing := (reached operations).documents.keys_sorted.imp Utf8.encode_lt_encode
  settled uri := (proper_reached operations uri).settled

/-! ## Open documents -/

theorem isSome_act (uri : String) (slot : Slot) (operation : Operation) :
    (operation.act uri slot).document?.isSome =
      (operation.decides? uri).getD slot.document?.isSome := by
  cases operation with
  | opened named _ _ | updated named _ _ | closed named =>
    by_cases same : named = uri <;> simp [Operation.act, Operation.decides?, same]
  | kept named settings =>
    simp only [Operation.act, Operation.decides?, Option.getD_none]
    split <;> rfl
  | forgotten => rfl

theorem isSome_foldl (uri : String) (slot : Slot) (operations : List Operation) :
    (operations.foldl (fun slot operation => operation.act uri slot) slot).document?.isSome =
      (operations.filterMap (Operation.decides? uri)).getLast?.getD slot.document?.isSome := by
  induction operations generalizing slot with
  | nil => rfl
  | cons operation operations ih =>
    rw [List.foldl_cons, ih, isSome_act]
    cases decided : operation.decides? uri with
    | none => simp [decided]
    | some isOpen => simp [decided, List.getLast?_cons]

/-- The last operation that opens, updates or closes a document decides whether it is open. -/
theorem contains_reached (operations : List Operation) (uri : String) :
    (reached operations).contains uri =
      (operations.filterMap (Operation.decides? uri)).getLast?.getD false := by
  have last := isSome_foldl uri (empty.slot uri) operations
  rw [← slot_foldl] at last
  exact last

/-! ## Operations that change places -/

/-- Two operations on different documents change places. -/
inductive Swap : List Operation → List Operation → Prop where
  | intro (before : List Operation) {first second : Operation} (later : List Operation)
      {u v : String} (names : first.uri? = some u) (names' : second.uri? = some v)
      (differ : u ≠ v) : Swap (before ++ first :: second :: later) (before ++ second :: first :: later)

/-- Operations in another order.  None of them passes one on the same document, nor one that forgets
    all settings. -/
def Reordered : List Operation → List Operation → Prop := Relation.ReflTransGen Swap

theorem Swap.agree {operations others : List Operation} (swap : Swap operations others)
    (uri : String) :
    operations.filter (Operation.concerns uri) = others.filter (Operation.concerns uri) := by
  obtain ⟨before, later, names, names', differ⟩ := swap
  rename_i first second u v
  simp only [List.filter_append, List.filter_cons, Operation.concerns, names, names',
    Option.all_some, beq_iff_eq]
  by_cases same : u = uri
  · have other : v ≠ uri := fun same' => differ (same.trans same'.symm)
    simp [same, other]
  · simp [same]

theorem Reordered.agree {operations others : List Operation} (reordered : Reordered operations others)
    (uri : String) :
    operations.filter (Operation.concerns uri) = others.filter (Operation.concerns uri) := by
  induction reordered with
  | refl => rfl
  | tail _ swap ih => exact ih.trans (swap.agree uri)

theorem slot_eq_of_agree {operations others : List Operation} {uri : String}
    (agree : operations.filter (Operation.concerns uri) = others.filter (Operation.concerns uri)) :
    (reached operations).slot uri = (reached others).slot uri := by
  rw [slot_reached, slot_reached, agree]

theorem reached_eq_of_agree {operations others : List Operation}
    (agree : ∀ uri, operations.filter (Operation.concerns uri) =
      others.filter (Operation.concerns uri)) : reached operations = reached others :=
  eq_of_slot fun uri => slot_eq_of_agree (agree uri)

/-- Whatever operations a store has been through: it is sound, what it holds for a document comes
    from the operations on that document and those on all documents, whatever the order between
    documents was, and closing a document tells whether it was open. -/
theorem operations_act_locally (operations : List Operation) :
    (reached operations).Sound ∧
    (∀ others uri, operations.filter (Operation.concerns uri) =
        others.filter (Operation.concerns uri) →
      (reached operations).get? uri = (reached others).get? uri ∧
      (reached operations).settings? uri = (reached others).settings? uri) ∧
    (∀ others, (∀ uri, operations.filter (Operation.concerns uri) =
        others.filter (Operation.concerns uri)) →
      reached operations = reached others) ∧
    (∀ others, Reordered operations others → reached operations = reached others) ∧
    ∀ uri, (((reached operations).closing uri).1 = true ↔ (reached operations).get? uri ≠ none) ∧
      (((reached operations).closing uri).1 = true ↔
        (operations.filterMap (Operation.decides? uri)).getLast? = some true) := by
  refine ⟨sound_reached operations, ?_, ?_, ?_, ?_⟩
  · intro others uri agree
    have same := slot_eq_of_agree agree
    exact ⟨congrArg Slot.document? same, congrArg Slot.settings? same⟩
  · intro others agree
    exact reached_eq_of_agree agree
  · intro others reordered
    exact reached_eq_of_agree reordered.agree
  · intro uri
    refine ⟨Option.isSome_iff_ne_none, ?_⟩
    change (reached operations).contains uri = true ↔ _
    rw [contains_reached]
    cases (operations.filterMap (Operation.decides? uri)).getLast? <;> simp

/-- Two documents at a time, with settings forgotten in between. -/
def interleaved : List Operation :=
  [.opened "b" "old" 1, .kept "b" ⟨3⟩, .updated "a" "new" 2, .forgotten, .kept "a" ⟨5⟩, .closed "b"]

/-- The same, one document after the other wherever that is possible. -/
def regrouped : List Operation :=
  [.updated "a" "new" 2, .opened "b" "old" 1, .kept "b" ⟨3⟩, .forgotten, .closed "b", .kept "a" ⟨5⟩]

theorem operations_act_locally_interleaved :
    reached interleaved = reached regrouped ∧
    (reached interleaved).get? "a" = some ⟨"a", "new", some 2⟩ ∧
    (reached interleaved).settings? "a" = some ⟨5⟩ ∧
    ((reached interleaved).closing "a").1 = true ∧ ((reached interleaved).closing "b").1 = false := by
  have reordered : Reordered interleaved regrouped :=
    .head (.intro [.opened "b" "old" 1] [.forgotten, .kept "a" ⟨5⟩, .closed "b"] rfl rfl
      (by decide : "b" ≠ "a")) <|
    .head (.intro [] [.kept "b" ⟨3⟩, .forgotten, .kept "a" ⟨5⟩, .closed "b"] rfl rfl
      (by decide : "b" ≠ "a")) <|
    .head (.intro [.updated "a" "new" 2, .opened "b" "old" 1, .kept "b" ⟨3⟩, .forgotten] [] rfl rfl
      (by decide : "a" ≠ "b")) .refl
  obtain ⟨-, -, -, same, answers⟩ := operations_act_locally interleaved
  refine ⟨same regrouped reordered, rfl, rfl, (answers "a").1.2 (by decide), ?_⟩
  exact Bool.eq_false_iff.2 ((not_congr (answers "b").1).2 (by decide))

end SchemaServer.Store
