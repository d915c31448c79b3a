import SchemaServer.Proofs.Breakage
import SchemaServer.Proofs.Front
import SchemaServer.Proofs.Logs
import SchemaServer.Proofs.Readers

/-! # No failure passes for an empty answer

Problems, definitions and completions are lists that the analyzer answers through a pipe.  There are
three layers at which an answer can be spoilt: the line that decides the call, the result in it, and
each element of the list.  A list comes out only if all three are sound, and then it is the list of
the elements (`Query.verdict?_eq_ok_iff`).

* `Query` is one of the three questions, with the operation of the gateway that puts it.
* `Query.verdict?` is what that operation ends with when the call goes through a pipe as `Passage`
  has it (`pursue_program`).
* `Query.Spoiled` lists the ways in which an answer can be spoilt, down to a single element, and
  `verdict?_of_spoiled` says that each of them is a failure of the operation.
* `Responds` says that a server answers a request by the verdict: by the list, or by an internal error
  that tells of the failure. -/

namespace SchemaServer

open Analyzer (Outcome Failure decoded)
open Pipe (Passage Reaction Reply noting reply?)

/-! ## What decides a call -/

namespace Pipe

variable {p : Pipe} {turn : Turn}

/-- The analyzer has taken the request, and neither answers nor closes its output. -/
structure Passage.Waits (s : Passage) : Prop where
  working : s.before.broken? = none
  taken : ∃ bytes, s.reaction = .wrote bytes false
  more : s.before.closed = false
  nothing : s.taken? = none

/-- The line that is read for this call is a reply to it. -/
structure Passage.Decided (s : Passage) (line : List UInt8) (reply : Reply) : Prop where
  next : s.taken? = some line
  read : reply? line = some reply
  own : reply.id? = none ∨ reply.id? = some s.id

theorem Reply.outcome_eq_ok_iff {reply : Reply} {operation : Operation} {result : Json} :
    reply.outcome operation = .ok result ↔
      reply.failure? = none ∧ result = reply.result?.getD .null := by
  unfold Reply.outcome
  cases reply.failure? with
  | some reason => simp
  | none => simp [eq_comm]

section
variable {operation : Operation} {id : UInt64} {closed : Bool} {taken : Option (List UInt8)}
  {outcome : Option (Outcome Json)} {reason? : Option String}

theorem Ends.outcome_of_own {line : List UInt8} {reply : Reply}
    (ends : Ends operation id closed taken outcome reason?) (next : taken = some line)
    (read : reply? line = some reply) (own : reply.id? = none ∨ reply.id? = some id) :
    outcome = some (reply.outcome operation) := by
  obtain ⟨content, characters, parsed⟩ := reply?_eq_some_iff.1 read
  rcases ends.of_some next with ⟨_, bytes, _⟩ | ⟨_, _, decoded, unreadable, _⟩ |
    ⟨found, again, _, decided, _⟩ | ⟨found, other, again, named, later, _⟩
  · cases characters.symm.trans bytes
  · cases characters.symm.trans decoded
    cases parsed.symm.trans unreadable
  · cases read.symm.trans again
    exact decided
  · -- A later number is not the own one.
    cases read.symm.trans again
    rcases own with unnamed | mine
    · cases named.symm.trans unnamed
    · cases named.symm.trans mine
      exact absurd later (UInt64.lt_irrefl _)

theorem Ends.outcome_eq_none_iff (ends : Ends operation id closed taken outcome reason?) :
    outcome = none ↔ taken = none ∧ closed = false := by
  cases ends with
  | waits more => simp [more]
  | exited shut => simp [shut]
  | notText _ | notReply _ _ | ahead _ _ _ | answered _ _ => simp

theorem Ends.operation_of_error {failure : Failure}
    (ends : Ends operation id closed taken outcome reason?)
    (failed : outcome = some (.error failure)) : failure.operation = operation := by
  cases ends with
  | waits more => cases failed
  | exited _ | notText _ | notReply _ _ | ahead _ _ _ =>
    cases failed
    rfl
  | @answered _ reply _ _ =>
    have told := Option.some.inj failed
    unfold Reply.outcome at told
    cases named : reply.failure? with
    | none =>
      rw [named] at told
      cases told
    | some reason =>
      rw [named] at told
      cases told
      rfl

end

theorem taken?_of_unread {s : Passage}
    (unread : (∃ reason, s.before.broken? = some reason) ∨ ∃ reason, s.reaction = .refused reason) :
    s.taken? = none := by
  have nothing := (Passage.unread unread).2
  unfold Passage.consumed at nothing
  cases taken : s.taken? with
  | none => rfl
  | some line => simp [taken] at nothing

theorem outcome?_eq_ok_iff {result : Json} :
    (p.pass turn).outcome? = some (.ok result) ↔
      ∃ line reply, (p.pass turn).Decided line reply ∧ reply.failure? = none ∧
        result = reply.result?.getD .null := by
  constructor
  · intro succeeded
    obtain ⟨line, reply, next, read, own, outcome⟩ := (lawful_pass turn p).of_ok succeeded
    exact ⟨line, reply, ⟨next, read, own⟩, Reply.outcome_eq_ok_iff.1 outcome⟩
  · rintro ⟨line, reply, ⟨next, read, own⟩, sound⟩
    cases lawful_pass turn p with
    | broken broken unsent failed kept =>
      rw [taken?_of_unread (.inl ⟨_, broken⟩)] at next
      cases next
    | refused working refused sent failed kept =>
      rw [taken?_of_unread (.inr ⟨_, refused⟩)] at next
      cases next
    | read working wrote sent shared stale fresh drained ends =>
      rw [ends.outcome_of_own next read own, Reply.outcome_eq_ok_iff.2 sound]

theorem outcome?_eq_none_iff : (p.pass turn).outcome? = none ↔ (p.pass turn).Waits := by
  cases lawful_pass turn p with
  | broken broken unsent failed kept =>
    rw [failed]
    refine ⟨nofun, fun waits => ?_⟩
    cases broken.symm.trans waits.working
  | refused working refused sent failed kept =>
    rw [failed]
    refine ⟨nofun, fun waits => ?_⟩
    obtain ⟨bytes, wrote⟩ := waits.taken
    cases refused.symm.trans wrote
  | @read bytes closed working wrote sent shared stale fresh drained ends =>
    have closing : (p.pass turn).after.closed = (p.closed || closed) :=
      closed_pass_of_wrote working wrote
    rw [ends.outcome_eq_none_iff, closing, Bool.or_eq_false_iff]
    constructor
    · rintro ⟨nothing, mine, rfl⟩
      exact ⟨working, ⟨bytes, wrote⟩, mine, nothing⟩
    · rintro ⟨-, ⟨_, again⟩, mine, nothing⟩
      cases wrote.symm.trans again
      exact ⟨nothing, mine, rfl⟩

theorem operation_of_outcome? {failure : Failure}
    (failed : (p.pass turn).outcome? = some (.error failure)) :
    failure.operation = turn.call.operation := by
  cases lawful_pass turn p with
  | broken broken unsent outcome kept =>
    cases failed.symm.trans outcome
    rfl
  | refused working refused sent outcome kept =>
    cases failed.symm.trans outcome
    rfl
  | read working wrote sent shared stale fresh drained ends => exact ends.operation_of_error failed

theorem join_eq_none_iff {α : Type} {item : Json.Shape α} {value? : Option Json}
    {slot : Option (Option α)} (held : value?.mapM (Json.Shape.optional item).ofJson = .ok slot) :
    slot.join = none ↔ value?.all Json.isNull = true := by
  cases value? with
  | none =>
    cases held
    simp
  | some value =>
    rw [Option.mapM_some] at held
    obtain ⟨read, converted, done⟩ := exists_of_bind_eq_ok held
    cases done
    by_cases absent : value = .null
    · subst absent
      cases converted
      simp [Json.isNull]
    · rw [Json.ofJson_optional item absent] at converted
      cases inner : item.ofJson value with
      | error fault =>
        rw [inner] at converted
        cases converted
      | ok a =>
        rw [inner] at converted
        cases converted
        cases value <;> simp_all [Json.isNull]

/-- A reply with keys has a result if there is one that is not null, and likewise a failure. -/
theorem reply_of_members {content : String} {reply : Reply} {members : List (String × Json)}
    (read : Reply.shape.parse content = .ok reply)
    (tree : Json.parse content = .ok (.object members)) :
    (reply.result? = none ↔ (SortedMap.lookup "result" members).all Json.isNull = true) ∧
      (reply.failure? = none ↔ (SortedMap.lookup "error" members).all Json.isNull = true) := by
  obtain ⟨⟨id?, result?, failure?, _⟩, fields, rfl⟩ := Json.exists_of_parse_map read
  obtain ⟨⟨slotId, slotResult, slotFailure, _⟩, held, finishes⟩ := Json.holds_of_parse fields tree
  obtain ⟨-, heldResult, heldFailure, -⟩ := held
  -- A field that is left out is the same as one that is null.
  have joined : result? = slotResult.join ∧ failure? = slotFailure.join := by
    cases slotId <;> cases slotResult <;> cases slotFailure <;> cases finishes <;> exact ⟨rfl, rfl⟩
  obtain ⟨rfl, rfl⟩ := joined
  refine ⟨join_eq_none_iff heldResult, ?_⟩
  dsimp only
  rw [Option.map_eq_none_iff]
  exact join_eq_none_iff heldFailure

end Pipe

/-! ## Lists in answers -/

namespace Gateway

/-- A question that is answered by a list. -/
inductive Query where
  | problems (uri : String)
  | definitions (stdPath uri : String) (position : Position)
  | completions (uri : String) (position : Position)

namespace Query

abbrev Element : Query → Type
  | .problems _ => LintItem
  | .definitions .. => DefinitionItem
  | .completions .. => CompletionEntry

abbrev Item : Query → Type
  | .problems _ => Diagnostic
  | .definitions .. => DefinitionLink
  | .completions .. => CompletionItem

def shape : (q : Query) → Json.Shape q.Element
  | .problems _ => LintItem.shape
  | .definitions .. => DefinitionItem.shape
  | .completions .. => CompletionEntry.shape

def call (store : Store) : Query → Analyzer.Call
  | .problems uri => .lint (pathOfUri uri) (.capture store)
  | .definitions _ uri position =>
    .findDefinitions (pathOfUri uri) (.capture store) position.toAnalyzer
  | .completions uri position =>
    .completionItems (pathOfUri uri) (.capture store) position.toAnalyzer

/-- The operation of the gateway that puts the question. -/
def program (store : Store) : (q : Query) → Program (Outcome (List q.Item))
  | .problems uri => validate uri store
  | .definitions stdPath uri position => findDefinitions stdPath uri position store
  | .completions uri position => completionItems uri position store

/-- What the operation ends with when this is the answer of the call. -/
def read (store : Store) :
    (q : Query) → Outcome (q.call store).Answer → Outcome (List q.Item)
  | .problems uri, answer => answer >>= diagnosticsOf (pathOfUri uri)
  | .definitions stdPath _ _, answer => answer >>= linksOf stdPath
  | .completions _ _, answer => answer >>= completionsOf

/-- What becomes of the elements; problems of other files are left out. -/
def listed : (q : Query) → List q.Element → List q.Item
  | .problems uri, items => (items.filter (·.source = pathOfUri uri)).map Diagnostic.ofItem
  | .definitions stdPath _ _, items => items.map (linkOf stdPath)
  | .completions _ _, entries => entries.map CompletionItem.ofEntry

/-- A result stands for these elements: problems come as the text of a list, the others as a list. -/
def Decodes : (q : Query) → Json → List q.Element → Prop
  | .problems _, result, items =>
    ∃ source, result = .text source ∧ (Json.Shape.list LintItem.shape).parse source = .ok items
  | .definitions .., result, items =>
    ∃ trees, result = .array trees ∧ trees.map DefinitionItem.shape.ofJson = items.map .ok
  | .completions .., result, entries =>
    ∃ trees, result = .array trees ∧ trees.map CompletionEntry.shape.ofJson = entries.map .ok

/-- The trees that a result lists, whether or not they stand for elements. -/
def trees? : Query → Json → Option (List Json)
  | .problems _, .text source =>
    match Json.parse source with
    | .ok (.array trees) => some trees
    | _ => none
  | .definitions .., .array trees | .completions .., .array trees => some trees
  | _, _ => none

/-- The outcome of the operation when this is the result of the reply. -/
def outcomeOf : (q : Query) → Json → Outcome (List q.Item)
  | .problems uri, result =>
    decoded .lint (Json.Shape.text.ofJson result) >>= diagnosticsOf (pathOfUri uri)
  | .definitions stdPath _ _, result => linksOf stdPath result
  | .completions _ _, result => completionsOf result

variable {q : Query} {store : Store} {result : Json}

theorem decoded_eq_ok_iff {α : Type} {operation : Operation} {read : Except Json.Fault α} {a : α} :
    decoded operation read = .ok a ↔ read = .ok a := by
  cases read <;> simp [decoded]

theorem pure_eq_ok_iff {α : Type} {a b : α} : (pure a : Outcome α) = .ok b ↔ b = a := by
  simp [pure, Except.pure, eq_comm]

theorem ofJson_text_eq_ok_iff {source : String} :
    Json.Shape.text.ofJson result = .ok source ↔ result = .text source := by
  cases result with
  | text found => simp [Json.Shape.ofJson]
  | null | bool _ | number _ | array _ | object _ => simp [Json.Shape.ofJson, Json.unexpected]

theorem ofJson_list_eq_ok_iff {α : Type} {shape : Json.Shape α} {values : List α} :
    (Json.Shape.list shape).ofJson result = .ok values ↔
      ∃ trees, result = .array trees ∧ trees.map shape.ofJson = values.map .ok := by
  cases result with
  | array trees => simp [Json.Shape.ofJson, mapM_eq_ok_iff]
  | null | bool _ | number _ | text _ | object _ => simp [Json.Shape.ofJson, Json.unexpected]

theorem outcomeOf_eq_ok_iff {list : List q.Item} :
    q.outcomeOf result = .ok list ↔ ∃ elements, q.Decodes result elements ∧ list = q.listed elements := by
  cases q with
  | problems uri =>
    simp only [outcomeOf, diagnosticsOf, bind_eq_ok_iff, decoded_eq_ok_iff, ofJson_text_eq_ok_iff,
      pure_eq_ok_iff]
    constructor
    · rintro ⟨source, text, items, parsed, rfl⟩
      exact ⟨items, ⟨source, text, parsed⟩, rfl⟩
    · rintro ⟨items, ⟨source, text, parsed⟩, rfl⟩
      exact ⟨source, text, items, parsed, rfl⟩
  | definitions stdPath uri position | completions uri position =>
    simp only [outcomeOf, linksOf, completionsOf, bind_eq_ok_iff, decoded_eq_ok_iff,
      ofJson_list_eq_ok_iff, pure_eq_ok_iff]
    rfl

theorem operation_of_decoded {α : Type} {operation : Operation} {read : Except Json.Fault α}
    {failure : Failure} (failed : decoded operation read = .error failure) :
    failure.operation = operation := by
  cases read with
  | ok value => cases failed
  | error fault =>
    cases failed
    rfl

theorem operation_of_bind {α β : Type} {operation : Operation} {x : Outcome α} {f : α → Outcome β}
    {failure : Failure} (first : ∀ failure, x = .error failure → failure.operation = operation)
    (second : ∀ a failure, f a = .error failure → failure.operation = operation)
    (failed : x >>= f = .error failure) : failure.operation = operation := by
  cases x with
  | error e =>
    cases failed
    exact first _ rfl
  | ok a => exact second a failure failed

theorem operation_of_outcomeOf {failure : Failure} (failed : q.outcomeOf result = .error failure) :
    failure.operation = (q.call store).operation := by
  cases q with
  | problems uri =>
    refine operation_of_bind (fun _ => operation_of_decoded) (fun source _ => ?_) failed
    exact operation_of_bind (fun _ => operation_of_decoded) fun _ _ impossible => by cases impossible
  | definitions stdPath uri position | completions uri position =>
    refine operation_of_bind (fun _ => operation_of_decoded) (fun _ _ impossible => ?_) failed
    cases impossible

/-- Every tree in a list of elements stands for one of them. -/
theorem Decodes.exists_element {elements : List q.Element} {trees : List Json} {tree : Json}
    (decodes : q.Decodes result elements) (lists : q.trees? result = some trees)
    (member : tree ∈ trees) :
    ∃ element, q.shape.ofJson tree = .ok element := by
  have each : trees.map q.shape.ofJson = elements.map .ok := by
    cases q with
    | problems uri =>
      obtain ⟨source, rfl, parsed⟩ := decodes
      rw [trees?] at lists
      split at lists
      next tree =>
        cases lists
        -- The text is read straight into the elements, and its tree agrees with that.
        exact mapM_eq_ok_iff.1 (Json.ofJson_of_parse parsed tree)
      next => cases lists
    | definitions stdPath uri position | completions uri position =>
      obtain ⟨_, rfl, each⟩ := decodes
      cases lists
      exact each
  have found := List.mem_map_of_mem (f := q.shape.ofJson) member
  rw [each] at found
  obtain ⟨element, -, converted⟩ := List.mem_map.1 found
  exact ⟨element, converted.symm⟩

theorem not_decodes_null (elements : List q.Element) : ¬ q.Decodes .null elements := by
  cases q with
  | problems uri | definitions stdPath uri position | completions uri position =>
    rintro ⟨_, ⟨⟩, _⟩

/-! ## Answers through a pipe -/

/-- The call of a question through a pipe, when the analyzer reacts like this. -/
def passage (q : Query) (store : Store) (reaction : Reaction) (p : Pipe) : Passage :=
  p.pass ⟨q.call store, reaction⟩

/-- What the operation ends with, unless the call still waits. -/
def verdict? (q : Query) (s : Passage) : Option (Outcome (List q.Item)) :=
  s.outcome?.map (· >>= q.outcomeOf)

variable {reaction : Reaction} {p : Pipe}

/-- Each operation is one call. -/
theorem program_eq (q : Query) (store : Store) :
    q.program store = .ask (.analyzer (q.call store)) fun answer => .done (q.read store answer) := by
  cases q with
  | problems uri | definitions stdPath uri position | completions uri position => rfl

theorem read_answerOf (q : Query) (store : Store) (outcome : Outcome Json) :
    q.read store (outcome >>= Pipe.answerOf (q.call store)) = outcome >>= q.outcomeOf := by
  cases q with
  | problems uri | definitions stdPath uri position | completions uri position =>
    cases outcome <;> rfl

/-- What goes on with the answer of a question's call goes on, through a pipe, with the verdict, and
    not at all while the call waits. -/
theorem bind_answering {α : Type} {g : Outcome (List q.Item) → α}
    {k : Option (Outcome (q.call store).Answer) → OptionT (StateT Pipe (StateM (List String))) α}
    (goesOn : ∀ answer, k (some answer) = pure (g (q.read store answer))) :
    (Pipe.answering (noting reaction) (q.call store) >>= k) p [] =
      (((q.verdict? (q.passage store reaction p)).map g, (q.passage store reaction p).after),
        (q.passage store reaction p).sent) := by
  have answered : Pipe.answer (noting reaction) (q.call store) p [] =
      (((q.passage store reaction p).answer?, (q.passage store reaction p).after),
        (q.passage store reaction p).sent) := Pipe.answer_pass ⟨q.call store, reaction⟩ p
  rw [Pipe.answering, map_eq_pure_bind, bind_assoc]
  simp only [pure_bind, goesOn]
  -- Only now are the layers opened, so that what goes on is a value by then.
  simp only [OptionT.mk, bind, OptionT.bind, StateT.bind, answered]
  unfold verdict? Passage.answer?
  cases (q.passage store reaction p).outcome? with
  | none => rfl
  | some outcome =>
    exact congrArg (fun verdict => ((some (g verdict), (q.passage store reaction p).after),
      (q.passage store reaction p).sent)) (q.read_answerOf store outcome)

theorem pursue_program (q : Query) (store : Store) (reaction : Reaction) (p : Pipe) (nextId : Nat) :
    Server.pursue (Pipe.answering (noting reaction)) nextId (q.program store) p [] =
      (((q.verdict? (q.passage store reaction p)).map fun outcome => ⟨[], nextId, .finished outcome⟩,
        (q.passage store reaction p).after), (q.passage store reaction p).sent) := by
  rw [program_eq, Server.pursue]
  exact bind_answering fun answer => rfl

/-- One question is asked, whatever the answer. -/
theorem asked_of_program {trace : List Exchange} {rest : Program (Outcome (List q.Item))}
    (path : (q.program store).Leads trace rest) :
    Program.askedUpTo trace rest = [.analyzer (q.call store)] := by
  rw [program_eq] at path
  cases path with
  | rest => rfl
  | step answer tail =>
    obtain ⟨rfl, rfl⟩ := Program.leads_done_iff.1 tail
    rfl

/-- These elements are what the call's own reply lists. -/
def Grounded (q : Query) (s : Passage) (elements : List q.Element) : Prop :=
  ∃ line reply result, s.Decided line reply ∧ reply.failure? = none ∧ reply.result? = some result ∧
    q.Decodes result elements

theorem verdict?_eq_ok_iff {list : List q.Item} :
    q.verdict? (q.passage store reaction p) = some (.ok list) ↔
      ∃ elements, q.Grounded (q.passage store reaction p) elements ∧ list = q.listed elements := by
  unfold verdict?
  rw [Option.map_eq_some_iff]
  constructor
  · rintro ⟨outcome, decided, read⟩
    obtain ⟨result, rfl, read⟩ := bind_eq_ok_iff.1 read
    obtain ⟨elements, decodes, rfl⟩ := outcomeOf_eq_ok_iff.1 read
    obtain ⟨line, reply, own, sound, rfl⟩ := Pipe.outcome?_eq_ok_iff.1 decided
    refine ⟨elements, ⟨line, reply, _, own, sound, ?_, decodes⟩, rfl⟩
    -- No result is null, and that lists nothing.
    cases found : reply.result? with
    | none =>
      rw [found] at decodes
      exact absurd decodes (not_decodes_null elements)
    | some result => rfl
  · rintro ⟨elements, ⟨line, reply, result, own, sound, found, decodes⟩, rfl⟩
    refine ⟨.ok result, ?_, ?_⟩
    · exact Pipe.outcome?_eq_ok_iff.2 ⟨line, reply, own, sound, by rw [found]; rfl⟩
    · exact outcomeOf_eq_ok_iff.2 ⟨elements, decodes, rfl⟩

theorem verdict?_eq_none_iff :
    q.verdict? (q.passage store reaction p) = none ↔ (q.passage store reaction p).Waits := by
  rw [verdict?, Option.map_eq_none_iff]
  exact Pipe.outcome?_eq_none_iff

theorem operation_of_verdict? {failure : Failure}
    (failed : q.verdict? (q.passage store reaction p) = some (.error failure)) :
    failure.operation = (q.call store).operation := by
  obtain ⟨outcome, decided, failed⟩ := Option.map_eq_some_iff.1 failed
  cases outcome with
  | error told =>
    cases failed
    exact Pipe.operation_of_outcome? decided
  | ok result => exact operation_of_outcomeOf failed

/-- The ways in which an answer can be spoilt. -/
inductive Spoiled (q : Query) (s : Passage) : Prop where
  -- Nothing is read: the pipe is broken, the request is turned down, or the output is over.
  | broken {reason : String} (broken : s.before.broken? = some reason)
  | refused {reason : String} (refused : s.reaction = .refused reason)
  | ended {bytes : List UInt8} {closed : Bool} (wrote : s.reaction = .wrote bytes closed)
      (shut : (s.before.closed || closed) = true) (nothing : s.taken? = none)
  -- The line that is read is no reply to this call.
  | unreadable {line : List UInt8} (next : s.taken? = some line) (unread : reply? line = none)
  | ahead {line : List UInt8} {reply : Reply} {other : UInt64} (next : s.taken? = some line)
      (read : reply? line = some reply) (named : reply.id? = some other) (later : s.id < other)
  -- The reply tells of a failure, be there a result or not, or it has no result.
  | failed {line : List UInt8} {reply : Reply} {reason : String} (next : s.taken? = some line)
      (read : reply? line = some reply) (told : reply.failure? = some reason)
  | bare {line : List UInt8} {reply : Reply} (next : s.taken? = some line)
      (read : reply? line = some reply) (nothing : reply.result? = none)
  -- The same of a line with keys, whatever else is in it.
  | failedKey {line : List UInt8} {content : String} {members : List (String × Json)}
      (next : s.taken? = some line) (characters : Utf8.decode line = .ok content)
      (tree : Json.parse content = .ok (.object members))
      (told : (SortedMap.lookup "error" members).all Json.isNull = false)
  | bareKey {line : List UInt8} {content : String} {members : List (String × Json)}
      (next : s.taken? = some line) (characters : Utf8.decode line = .ok content)
      (tree : Json.parse content = .ok (.object members))
      (nothing : (SortedMap.lookup "result" members).all Json.isNull = true)
  -- The result is no list of elements, or one of the trees that it lists is no element.
  | unlisted {line : List UInt8} {reply : Reply} {result : Json} (next : s.taken? = some line)
      (read : reply? line = some reply) (found : reply.result? = some result)
      (undecoded : ∀ elements, ¬ q.Decodes result elements)
  | element {line : List UInt8} {reply : Reply} {result tree : Json} {trees : List Json}
      (next : s.taken? = some line) (read : reply? line = some reply)
      (found : reply.result? = some result) (lists : q.trees? result = some trees)
      (member : tree ∈ trees)
      (undecoded : ∀ element, q.shape.ofJson tree ≠ .ok element)

theorem Spoiled.not_waits {s : Passage} (spoiled : q.Spoiled s) : ¬ s.Waits := by
  intro waits
  obtain ⟨bytes, wrote⟩ := waits.taken
  cases spoiled with
  | broken broken => cases broken.symm.trans waits.working
  | refused refused => cases refused.symm.trans wrote
  | ended again shut nothing =>
    cases again.symm.trans wrote
    rw [waits.more] at shut
    cases shut
  | unreadable next _ | ahead next _ _ _ | failed next _ _ | bare next _ _ | failedKey next _ _ _
  | bareKey next _ _ _ | unlisted next _ _ _ | element next _ _ _ _ _ =>
    cases next.symm.trans waits.nothing

theorem Spoiled.not_grounded {s : Passage} {elements : List q.Element} (spoiled : q.Spoiled s) :
    ¬ q.Grounded s elements := by
  rintro ⟨line, reply, result, ⟨next, read, own⟩, sound, found, decodes⟩
  cases spoiled with
  | broken broken => cases next.symm.trans (Pipe.taken?_of_unread (.inl ⟨_, broken⟩))
  | refused refused => cases next.symm.trans (Pipe.taken?_of_unread (.inr ⟨_, refused⟩))
  | ended wrote shut nothing => cases next.symm.trans nothing
  | unreadable again unread =>
    cases next.symm.trans again
    cases read.symm.trans unread
  | ahead again readAgain named later =>
    cases next.symm.trans again
    cases read.symm.trans readAgain
    rcases own with unnamed | mine
    · cases named.symm.trans unnamed
    · cases named.symm.trans mine
      exact UInt64.lt_irrefl _ later
  | failed again readAgain told =>
    cases next.symm.trans again
    cases read.symm.trans readAgain
    cases sound.symm.trans told
  | bare again readAgain nothing =>
    cases next.symm.trans again
    cases read.symm.trans readAgain
    cases found.symm.trans nothing
  | failedKey again characters tree told =>
    cases next.symm.trans again
    obtain ⟨content, decoded, parsed⟩ := Pipe.reply?_eq_some_iff.1 read
    cases characters.symm.trans decoded
    cases told.symm.trans ((Pipe.reply_of_members parsed tree).2.1 sound)
  | bareKey again characters tree nothing =>
    cases next.symm.trans again
    obtain ⟨content, decoded, parsed⟩ := Pipe.reply?_eq_some_iff.1 read
    cases characters.symm.trans decoded
    cases found.symm.trans ((Pipe.reply_of_members parsed tree).1.2 nothing)
  | unlisted again readAgain foundAgain undecoded =>
    cases next.symm.trans again
    cases read.symm.trans readAgain
    cases found.symm.trans foundAgain
    exact undecoded elements decodes
  | element again readAgain foundAgain lists member undecoded =>
    cases next.symm.trans again
    cases read.symm.trans readAgain
    cases found.symm.trans foundAgain
    obtain ⟨element, converted⟩ := decodes.exists_element lists member
    exact undecoded element converted

theorem verdict?_of_spoiled (spoiled : q.Spoiled (q.passage store reaction p)) :
    ∃ failure, q.verdict? (q.passage store reaction p) = some (.error failure) ∧
      failure.operation = (q.call store).operation := by
  cases ended : q.verdict? (q.passage store reaction p) with
  | none => exact absurd (verdict?_eq_none_iff.1 ended) spoiled.not_waits
  | some outcome =>
    cases outcome with
    | ok list =>
      obtain ⟨elements, grounded, -⟩ := verdict?_eq_ok_iff.1 ended
      exact absurd grounded spoiled.not_grounded
    | error failure => exact ⟨failure, rfl, operation_of_verdict? ended⟩

end Query

/-! ## The front -/

open Server (Answering Job drain pursue readParams)
open Session (Event)

/-- What the front makes of an outcome: the list in its form, or an internal error with the failure
    in words. -/
def respondTo {α : Type} (id : Rpc.Id) (form : List α → Json) : Outcome (List α) → Rpc.Outgoing
  | .ok list => .response id (.ok (form list))
  | .error failure => .response id (.error ⟨-32603, failure.message, none⟩)

/-- An event in the queue is answered by what this operation of the gateway ends with. -/
def Serves {α : Type} (session : Session) (event : Event) (program : Program (Outcome (List α)))
    (form : List α → Json) : Prop :=
  ∀ (m : Type → Type) [Monad m] [LawfulMonad m] (analyzer : Answering m) (nextId : Nat)
    (id : Rpc.Id) (jobs : List Job),
    drain analyzer nextId session (⟨some id, event⟩ :: jobs) = do
      match (← pursue analyzer nextId program).standing with
      | .finished outcome => do
        let rest ← drain analyzer nextId session jobs
        return rest.after [respondTo id form outcome]
      | .waiting .. | .stopped =>
        return ⟨(⟨some id, event⟩ :: jobs : List Job).flatMap Job.abandon, nextId, .stopped, []⟩

theorem serves_of_ask {α : Type} {session : Session} {event : Event} {call : Analyzer.Call}
    {next : Outcome call.Answer → Outcome (List α)} {form : List α → Json}
    (reply : Outcome (List α) → event.Reply)
    (handled : session.handle event =
      .ask (.analyzer call) fun answer => .done (reply (next answer), session))
    (answered : ∀ id outcome, Rpc.Outgoing.response id (Server.replyResult event (reply outcome)) =
      respondTo id form outcome) :
    Serves session event (.ask (.analyzer call) fun answer => .done (next answer)) form := by
  intro m _ _ analyzer nextId id jobs
  rw [Server.drain_of_ask analyzer nextId id jobs handled, pursue, bind_assoc]
  refine bind_congr fun answer? => ?_
  cases answer? with
  | none => simp
  | some answer => simp [pursue, answered]

theorem response_respond {α : Type} (form : List α → Json) (id : Rpc.Id)
    (outcome : Outcome (List α)) :
    Rpc.Outgoing.response id (Server.replyResult.respond form outcome) = respondTo id form outcome := by
  cases outcome <;> rfl

theorem serves_definition (session : Session) (uri : String) (position : Position) :
    Serves session (.definition uri position)
      (findDefinitions session.stdPath uri position session.store) Protocol.definitionResult :=
  serves_of_ask (fun outcome => outcome) rfl (response_respond _)

theorem serves_completion (session : Session) (uri : String) (position : Position) :
    Serves session (.completion uri position) (completionItems uri position session.store)
      Protocol.completionResult :=
  serves_of_ask (fun outcome => outcome) rfl (response_respond _)

/-- Through any pipe, a message is answered by what a question ends with; while the call waits,
    nothing comes. -/
def Responds (server : Server) (store : Store) (message : Rpc.Incoming) (id : Rpc.Id) (q : Query)
    (form : List q.Item → Json) : Prop :=
  ∀ (reaction : Reaction) (p : Pipe),
    server.receive (Pipe.answering (noting reaction)) message p [] =
      (((q.verdict? (q.passage store reaction p)).map fun outcome =>
          ([respondTo id form outcome], server), (q.passage store reaction p).after),
        (q.passage store reaction p).sent)

theorem responds_of_asks {server : Server} {store : Store} {message : Rpc.Incoming} {id : Rpc.Id}
    {q : Query} {form : List q.Item → Json} (event : Event)
    (reply : Outcome (List q.Item) → event.Reply)
    (asks : server.Asks message (q.call store)
      (server.answered id event fun answer => reply (q.read store answer)))
    (answered : ∀ id outcome, Rpc.Outgoing.response id (Server.replyResult event (reply outcome)) =
      respondTo id form outcome) :
    Responds server store message id q form := by
  intro reaction p
  rw [asks, map_eq_pure_bind]
  refine Query.bind_answering fun answer => ?_
  exact congrArg (fun response => pure ([response], server)) (answered id (q.read store answer))

theorem Responds.of_failure {server : Server} {store : Store} {message : Rpc.Incoming} {id : Rpc.Id}
    {q : Query} {form : List q.Item → Json} {reaction : Reaction} {p : Pipe} {failure : Failure}
    (responds : Responds server store message id q form)
    (failed : q.verdict? (q.passage store reaction p) = some (.error failure)) :
    (server.receive (Pipe.answering (noting reaction)) message p []).1.1 =
      some ([.response id (.error ⟨-32603, failure.message, none⟩)], server) := by
  rw [responds reaction p, failed]
  rfl

theorem sent_passage (q : Query) (store : Store) (reaction : Reaction) (p : Pipe) :
    (q.passage store reaction p).sent =
      match p.broken? with
      | none => [Pipe.requestLine p.nextId (q.call store)]
      | some _ => [] := by
  cases state : p.broken? with
  | none => exact Pipe.sent_pass_of_working state
  | some reason =>
    rw [Query.passage, Pipe.pass_of_broken state]

/-- Asking for problems, definitions or completions is one call, which is never repeated.  Through any
    pipe and whatever the analyzer does, a list comes out exactly if the line that decides the call
    is a reply to it without a failure, and the result in it stands for elements; the list is then
    made of these.  Whatever spoils the answer makes the operation fail, by a failure that names it,
    and the only other case is that the call still waits.  A request for definitions or completions is
    answered by what its call ends with: the list, or an internal error with the failure's text.  On a
    server that is busy it waits for its turn in the queue. -/
theorem failures_not_masked :
    (∀ (q : Query) (store : Store),
      (∀ (trace : List Exchange) (rest : Program (Outcome (List q.Item))),
        (q.program store).Leads trace rest →
          Program.askedUpTo trace rest = [.analyzer (q.call store)]) ∧
      ∀ (reaction : Reaction) (p : Pipe),
        (∀ nextId, pursue (Pipe.answering (noting reaction)) nextId (q.program store) p [] =
          (((q.verdict? (q.passage store reaction p)).map fun outcome =>
              ⟨[], nextId, .finished outcome⟩, (q.passage store reaction p).after),
            (q.passage store reaction p).sent)) ∧
        (q.passage store reaction p).after.nextId = p.nextId + 1 ∧
        (q.passage store reaction p).sent =
          (match p.broken? with
            | none => [Pipe.requestLine p.nextId (q.call store)]
            | some _ => []) ∧
        (∀ list, q.verdict? (q.passage store reaction p) = some (.ok list) ↔
          ∃ elements, q.Grounded (q.passage store reaction p) elements ∧ list = q.listed elements) ∧
        (q.Spoiled (q.passage store reaction p) → ∃ failure,
          q.verdict? (q.passage store reaction p) = some (.error failure) ∧
            failure.operation = (q.call store).operation) ∧
        (q.verdict? (q.passage store reaction p) = none ↔ (q.passage store reaction p).Waits) ∧
        ∀ failure, q.verdict? (q.passage store reaction p) = some (.error failure) →
          failure.operation = (q.call store).operation) ∧
    (∀ (session : Session) (uri : String) (position : Position),
      Serves session (.definition uri position)
        (findDefinitions session.stdPath uri position session.store) Protocol.definitionResult ∧
      Serves session (.completion uri position) (completionItems uri position session.store)
        Protocol.completionResult) ∧
    (∀ (server : Server) (session : Session) (id : Rpc.Id) (params? : Option Json) (uri : String)
      (position : Position), server.Ready session →
      (readParams Protocol.definitionParams params? = .ok (uri, position) →
        server.Asks (.request ⟨"textDocument/definition", params?, some id⟩)
          (definitionCall session uri position.toAnalyzer)
          (server.answered id (.definition uri position) (· >>= linksOf session.stdPath)) ∧
        Responds server session.store (.request ⟨"textDocument/definition", params?, some id⟩) id
          (.definitions session.stdPath uri position) Protocol.definitionResult) ∧
      (readParams Protocol.completionParams params? = .ok (uri, position) →
        server.Asks (.request ⟨"textDocument/completion", params?, some id⟩)
          (completionCall session uri position.toAnalyzer)
          (server.answered id (.completion uri position) (· >>= completionsOf)) ∧
        Responds server session.store (.request ⟨"textDocument/completion", params?, some id⟩) id
          (.completions uri position) Protocol.completionResult)) ∧
    ∀ (server : Server) (id : Rpc.Id) (params? : Option Json) (uri : String) (position : Position),
      server.phase = .connected → server.isPending id = false →
      (readParams Protocol.definitionParams params? = .ok (uri, position) →
        server.Enqueues (.request ⟨"textDocument/definition", params?, some id⟩)
          ⟨some id, .definition uri position⟩) ∧
      (readParams Protocol.completionParams params? = .ok (uri, position) →
        server.Enqueues (.request ⟨"textDocument/completion", params?, some id⟩)
          ⟨some id, .completion uri position⟩) := by
  refine ⟨?_, ?_, ?_, ?_⟩
  · intro q store
    refine ⟨fun trace rest path => Query.asked_of_program path, ?_⟩
    intro reaction p
    exact ⟨q.pursue_program store reaction p, Pipe.nextId_pass _ p, sent_passage q store reaction p,
      fun list => Query.verdict?_eq_ok_iff, Query.verdict?_of_spoiled, Query.verdict?_eq_none_iff,
      fun failure => Query.operation_of_verdict?⟩
  · intro session uri position
    exact ⟨serves_definition session uri position, serves_completion session uri position⟩
  · intro server session id params? uri position ready
    constructor
    · intro readable
      have asks := asks_definition id ready readable
      exact ⟨asks, responds_of_asks (.definition uri position) (fun outcome => outcome) asks
        (response_respond _)⟩
    · intro readable
      have asks := asks_completion id ready readable
      exact ⟨asks, responds_of_asks (.completion uri position) (fun outcome => outcome) asks
        (response_respond _)⟩
  · intro server id params? uri position connected fresh
    exact ⟨enqueues_definition connected fresh, enqueues_completion connected fresh⟩

/-- A reply that lists a sound problem, written without keys, and an object without fields. -/
def halfSound : Reaction :=
  .wrote ("\x7b\"id\":1,\"result\":" ++
    "\"[[\\\"error\\\",\\\"/a\\\",\\\"m\\\",[0,0,[1,1],[1,2]]],\x7b\x7d]\"\x7d\n").toUTF8.toList false

/-- The parameters of a request about the start of a document. -/
def startOfDocument : Json :=
  .object [("position", .object [("character", .int 0), ("line", .int 0)]),
    ("textDocument", .object [("uri", .text "file:///a")])]

/-- A reply whose result is null. -/
def nullResult : Reaction :=
  .wrote "\x7b\"id\":1,\"result\":null\x7d\n".toUTF8.toList false

def definitionRequest : Rpc.Incoming :=
  .request ⟨"textDocument/definition", some startOfDocument, some (.number 1)⟩

def noSequence : Failure := .malformed .findDefinitions (.wrongType .null "a sequence")

theorem failures_not_masked_halfSound :
    ((Query.problems "file:///a").Spoiled ((Query.problems "file:///a").passage .empty halfSound {}) ∧
      ∃ failure, (Query.problems "file:///a").verdict?
          ((Query.problems "file:///a").passage .empty halfSound {}) = some (.error failure) ∧
        failure.operation = .lint) ∧
    Program.askedUpTo [] (validate "file:///a" .empty) =
      [.analyzer (.lint "/a" (.capture .empty))] ∧
    readParams Protocol.definitionParams (some startOfDocument) = .ok ("file:///a", ⟨0, 0⟩) ∧
    (connectedServer.receive (Pipe.answering (noting nullResult)) definitionRequest {} []).1.1 =
      some ([.response (.number 1) (.error ⟨-32603, noSequence.message, none⟩)], connectedServer) ∧
    noSequence.message = "analyzer returned malformed output for find_definitions: " ++
      "invalid type: null, expected a sequence" ∧
    connectedServer.Enqueues definitionRequest
      ⟨some (.number 1), .definition "file:///a" ⟨0, 0⟩⟩ := by
  obtain ⟨answers, -, ready, busy⟩ := failures_not_masked
  obtain ⟨once, through⟩ := answers (.problems "file:///a") .empty
  obtain ⟨-, -, -, -, spoilt, -, -⟩ := through halfSound {}
  have bad : (((((Query.problems "file:///a").passage .empty halfSound {}).taken?.bind reply?).bind
      Reply.result?).bind (Query.problems "file:///a").trees?).any (fun trees => trees.any fun tree =>
        (LintItem.shape.ofJson tree).toOption.isNone) = true := by decide +kernel
  obtain ⟨trees, lists, bad⟩ := (Option.any_eq_true _ _).1 bad
  obtain ⟨result, found, lists⟩ := Option.bind_eq_some_iff.1 lists
  obtain ⟨reply, read, found⟩ := Option.bind_eq_some_iff.1 found
  obtain ⟨line, next, read⟩ := Option.bind_eq_some_iff.1 read
  obtain ⟨tree, member, undecoded⟩ := List.any_eq_true.1 bad
  have spoiled : (Query.problems "file:///a").Spoiled
      ((Query.problems "file:///a").passage .empty halfSound {}) := by
    refine .element next read found lists member ?_
    intro element converted
    rw [show LintItem.shape.ofJson tree = .ok element from converted] at undecoded
    cases undecoded
  have readable : readParams Protocol.definitionParams (some startOfDocument) =
      .ok ("file:///a", ⟨0, 0⟩) := rfl
  have told : (Query.definitions "/std" "file:///a" ⟨0, 0⟩).verdict?
      ((Query.definitions "/std" "file:///a" ⟨0, 0⟩).passage .empty nullResult {}) =
        some (.error noSequence) := by decide +kernel
  have idle : connectedServer.Ready { stdPath := "/std" } := ⟨rfl, rfl, rfl⟩
  refine ⟨⟨spoiled, spoilt spoiled⟩, once _ _ (.rest _), readable, ?_, by decide, ?_⟩
  · -- With the request spelled out the two sides meet without running the server.
    unfold definitionRequest
    exact ((ready _ _ (.number 1) _ _ _ idle).1 readable).2.of_failure told
  · exact (busy connectedServer _ _ _ _ rfl rfl).1 readable

end Gateway

end SchemaServer
