import SchemaServer.Proofs.Forms
import SchemaServer.Proofs.Verdicts
import SchemaServer.Proofs.Views

/-! # From a lint answer to the problems that are shown

A validation reads the whole answer of the analyzer, keeps the problems of its own document, and shows
as many of them as the limit in force allows.  `Validation.Diagnoses` says what the editor gets for
each answer, in terms of the items in it and of the trees that are sent:

* `LintItem.problemTree` is the tree of a problem, with the numbers of its span one less.
* `limitInForce` is the limit, as far as the past of a run decides it.
* `diagnoses_of_due`: the report that is due shows the right problems, or nothing. -/

namespace SchemaServer

/-- The tree in which the editor gets a problem.  Errors have the severity 1 and warnings 2. -/
def LintItem.problemTree (item : LintItem) : Json :=
  .object [("message", .text item.message), ("range", item.span.loweredTree),
    ("severity", .nat (if item.severity = .error then 1 else 2)), ("source", .text "teo")]

/-- The parameters of the message that an exchange publishes. -/
def Exchange.publishedTree? : Exchange → Option Json
  | ⟨.client (.publish uri diagnostics version), _⟩ =>
    some (Protocol.publishParams uri diagnostics version)
  | _ => none

theorem diagnostic_ofItem (item : LintItem) :
    Protocol.diagnostic (.ofItem item) = item.problemTree := by
  have code : item.severity.code = if item.severity = .error then 1 else 2 := by
    cases item.severity <;> rfl
  rw [Protocol.diagnostic,
    Json.ofFields_of_increasing ["message", "range", "severity", "source"] rfl (by decide)]
  simp only [Diagnostic.ofItem, Span.toJson_toRange, code]
  rfl

theorem field?_publishParams (uri : String) (diagnostics : List Diagnostic) (version : Option Int) :
    (Protocol.publishParams uri diagnostics version).field? "uri" = some (.text uri) ∧
      (Protocol.publishParams uri diagnostics version).field? "diagnostics" =
        some (.array (diagnostics.map Protocol.diagnostic)) := by
  simp only [Protocol.publishParams, Json.field?_ofFields]
  cases version <;> exact ⟨rfl, rfl⟩

namespace Session

/-! ## One validation -/

/-- What a validation shows under a limit. -/
structure Validation.Diagnoses (limit : Nat) (v : Validation) : Prop where
  /-- If the answer lists problems, one message goes out for the document. -/
  shows : ∀ answer items, v.answer = .ok answer →
    (Json.Shape.list LintItem.shape).parse answer = .ok items →
      ∃ tree, v.exchanges.filterMap Exchange.publishedTree? = [tree] ∧
        tree.field? "uri" = some (.text v.uri) ∧
        tree.field? "diagnostics" = some (.array
          (((items.filter (·.source = pathOfUri v.uri)).take limit).map LintItem.problemTree))
  /-- If it lists none, nothing goes out. -/
  withholds : ∀ answer, v.answer = .ok answer →
    (∀ items, (Json.Shape.list LintItem.shape).parse answer ≠ .ok items) →
      v.exchanges.filterMap Exchange.publishedTree? = []
  /-- A single element that is no problem is enough for that, wherever it stands. -/
  spoiled : ∀ answer trees tree, v.answer = .ok answer → Json.parse answer = .ok (.array trees) →
    tree ∈ trees → (∀ item, LintItem.shape.ofJson tree ≠ .ok item) →
      v.exchanges.filterMap Exchange.publishedTree? = []

section
variable {v : Validation} {answer : String} {items : List LintItem}

theorem Validation.publishedTrees_eq (v : Validation) :
    v.exchanges.filterMap Exchange.publishedTree? = v.report.publishedTree?.toList := by
  obtain ⟨asked, whole, silent⟩ := v.exchanges_eq
  have unpublished : asked.filterMap Exchange.publishedTree? = [] := by
    refine List.filterMap_eq_nil_iff.2 fun exchange member => ?_
    have quiet := (silent exchange member).1
    unfold Exchange.publishedTree?
    split
    · cases quiet
    · rfl
  rw [whole, List.filterMap_append, unpublished, List.nil_append]
  cases found : v.report.publishedTree? <;> simp [found]

theorem Validation.outcome_of_parse (answered : v.answer = .ok answer)
    (read : (Json.Shape.list LintItem.shape).parse answer = .ok items) :
    v.outcome = .ok ((items.filter (·.source = pathOfUri v.uri)).map Diagnostic.ofItem) := by
  rw [Validation.outcome, answered]
  change Gateway.diagnosticsOf _ answer = _
  rw [Gateway.diagnosticsOf, read]
  rfl

theorem Validation.outcome_of_not_parse (answered : v.answer = .ok answer)
    (unread : ∀ items, (Json.Shape.list LintItem.shape).parse answer ≠ .ok items) :
    ∃ failure, v.outcome = .error failure := by
  rw [Validation.outcome, answered]
  change ∃ failure, Gateway.diagnosticsOf _ answer = .error failure
  rw [Gateway.diagnosticsOf]
  cases read : (Json.Shape.list LintItem.shape).parse answer with
  | ok items => exact absurd read (unread items)
  | error fault => exact ⟨_, rfl⟩

/-- An element that is no problem spoils the answer it stands in. -/
theorem not_parse_of_element {trees : List Json} {tree : Json}
    (whole : Json.parse answer = .ok (.array trees)) (member : tree ∈ trees)
    (undecoded : ∀ item, LintItem.shape.ofJson tree ≠ .ok item) :
    ∀ items, (Json.Shape.list LintItem.shape).parse answer ≠ .ok items := by
  intro items read
  obtain ⟨_, same, each⟩ := Gateway.Query.ofJson_list_eq_ok_iff.1 (Json.ofJson_of_parse read whole)
  cases same
  have element : LintItem.shape.ofJson tree ∈ items.map .ok := each ▸ List.mem_map_of_mem member
  obtain ⟨item, -, decoded⟩ := List.mem_map.1 element
  exact undecoded item decoded.symm

/-- The report that is due shows the first problems of the document, in the analyzer's order. -/
theorem diagnoses_of_due {limit : Nat} {version : Option Int}
    (due : v.report = v.due limit version) : v.Diagnoses limit := by
  have withholds : ∀ answer, v.answer = .ok answer →
      (∀ items, (Json.Shape.list LintItem.shape).parse answer ≠ .ok items) →
        v.exchanges.filterMap Exchange.publishedTree? = [] := by
    intro answer answered unread
    obtain ⟨failure, failed⟩ := Validation.outcome_of_not_parse answered unread
    rw [Validation.publishedTrees_eq, due, Validation.due, failed]
    rfl
  refine ⟨?_, withholds, ?_⟩
  · intro answer items answered read
    have outcome := Validation.outcome_of_parse answered read
    rw [Validation.publishedTrees_eq, due, Validation.due, outcome]
    obtain ⟨named, problems⟩ := field?_publishParams v.uri
      (((items.filter (·.source = pathOfUri v.uri)).map Diagnostic.ofItem).take limit) version
    refine ⟨_, rfl, named, problems.trans ?_⟩
    rw [← List.map_take, List.map_map]
    refine congrArg (fun problems => some (Json.array problems)) (List.map_congr_left fun item _ => ?_)
    exact diagnostic_ofItem item
  · intro answer trees tree answered whole member undecoded
    exact withholds answer answered (not_parse_of_element whole member undecoded)

end

/-! ## Runs -/

/-- The limit that holds for a validation after this past.  If the editor can be asked, it is that of
    the validation's own fetch or else of the latest fetch in force; if not, that of the last change
    of the configuration. -/
def limitInForce (past : List Happening) (v : Validation) : Nat :=
  if canBeAsked (eventsIn past) then
    (((v.fetched?.or (inForce? v.uri past)).map Settings.ofFetched).getD .default).maxProblems
  else (configuredAfter (eventsIn past)).maxProblems

theorem TakesInForce.due {past : List Happening} {v : Validation} (takes : TakesInForce past v) :
    ∃ version, v.report = v.due (limitInForce past v) version := by
  unfold limitInForce
  cases can : canBeAsked (eventsIn past) with
  | false =>
    obtain ⟨-, version, report⟩ := takes.unasked can
    exact ⟨version, report⟩
  | true =>
    obtain ⟨answer, version, found, report⟩ := takes.asked can
    rw [found]
    exact ⟨version, report⟩

/-- The text of a document is validated when it arrives, once and with nothing before it. -/
theorem Handles.exists_validation {s s' : Session} {chapter : Chapter} {uri text : String}
    {version : Int} (handles : Handles s chapter s')
    (arrives : chapter.event = .opened uri text version ∨ chapter.event = .changed uri text version) :
    ∃ v, chapter.validations = [v] ∧ v.uri = uri ∧ chapter.exchanges = v.exchanges := by
  cases handles with
  | @opened _ v | @changed _ v =>
    refine ⟨v, rfl, ?_, by simp [Chapter.exchanges]⟩
    rcases arrives with same | same <;> cases same
    rfl
  | passing passing _ =>
    dsimp only at arrives
    rcases arrives with rfl | rfl <;> cases passing
  | connected _ | closed _ _ | notOpen _ | configured _ _ =>
    rcases arrives with same | same <;> cases same

/-- In every run, each validation of a document shows the problems that the answer lists for it: the
    first ones in order, up to the limit in force.  If the answer cannot be read, nothing is shown.
    Whenever a text of a document arrives, the document is open and this is all that happens.  Later
    validations are of open documents as well, if URIs read as themselves. -/
theorem validation_shows_own_problems (stdPath : String) (events : List Event)
    (trace : List Exchange) (s : Session) (run : (handleAll events { stdPath }).Runs trace s) :
    ∃ chapters, Chronicle { stdPath } chapters s ∧ chapters.map Chapter.event = events ∧
      chapters.flatMap Chapter.exchanges = trace ∧
      ∀ before chapter after, chapters = before ++ chapter :: after →
        (∀ early v late, chapter.validations = early ++ v :: late →
          (Rereading (before.map Chapter.event ++ [chapter.event]) →
            isOpenAfter (before.map Chapter.event ++ [chapter.event]) v.uri = true) ∧
          v.Diagnoses (limitInForce
            (recorded (chapter.opening ++ early.flatMap Validation.exchanges)
              (.event chapter.event :: pastOf before)) v)) ∧
        ∀ uri text version,
          chapter.event = .opened uri text version ∨ chapter.event = .changed uri text version →
            isOpenAfter (before.map Chapter.event ++ [chapter.event]) uri = true ∧
            ∃ v, chapter.validations = [v] ∧ v.uri = uri ∧ chapter.exchanges = v.exchanges := by
  obtain ⟨chapters, chronicle, told, rfl, rfl⟩ := chronicle_of_runs run
  refine ⟨chapters, chronicle, rfl, rfl, ?_⟩
  intro before chapter after split
  obtain ⟨s₁, s₂, toldBefore, handles⟩ := told.chapter split
  obtain ⟨-, takes⟩ := (follows_of_told toldBefore).handles handles
  constructor
  · intro early v late split
    have member : v ∈ chapter.validations := by simp [split]
    obtain ⟨_, _, -, isOpen, -⟩ := validates_of_told toldBefore handles member
    obtain ⟨version, due⟩ := (takes early v late split).due
    exact ⟨isOpen, diagnoses_of_due due⟩
  · intro uri text version arrives
    have opens : chapter.event.opens uri = true := by
      rcases arrives with same | same <;> simp [same, Event.opens]
    refine ⟨?_, handles.exists_validation arrives⟩
    rw [isOpenAfter_snoc, if_pos opens]

/-- An analyzer that lists a problem of another file and then, for the file `/a`, a warning whose end
    stands before its start and an error. -/
def mixed : (question : Question) → StateM Unit question.Answer
  | .analyzer (.lint ..) => pure (.ok
    ("[[\"error\",\"/b\",\"b\",[0,0,[1,1],[1,2]]],[\"warning\",\"/a\",\"w\",[0,0,[3,5],[2,9]]]," ++
      "[\"error\",\"/a\",\"e\",[0,0,[1,1],[1,2]]]]"))
  | question => Program.outage question

/-- A document is opened of which no more than one problem is to be shown. -/
def limited : List Event :=
  [.configurationChanged (.object [("teo", .object [("maxNumberOfProblems", .nat 1)])]),
    .opened "file:///a" "" 1]

theorem validation_shows_own_problems_mixed :
    ∃ (trace : List Exchange) (s : Session) (chapters : List Chapter),
      (handleAll limited { stdPath := "/std" }).Runs trace s ∧
      trace.filterMap (Exchange.published? "file:///a") = [[⟨⟨⟨2, 4⟩, ⟨1, 8⟩⟩, .warning, "w"⟩]] ∧
      Chronicle { stdPath := "/std" } chapters s ∧ chapters.map Chapter.event = limited ∧
      (∀ before chapter after, chapters = before ++ chapter :: after →
        ∀ early v late, chapter.validations = early ++ v :: late →
          v.Diagnoses (limitInForce (recorded (chapter.opening ++ early.flatMap Validation.exchanges)
            (.event chapter.event :: pastOf before)) v)) ∧
      ∃ before chapter v, chapters = before ++ [chapter] ∧ chapter.validations = [v] ∧
        v.uri = "file:///a" ∧ chapter.exchanges = v.exchanges := by
  have run := Program.runs_transcript mixed (handleAll limited { stdPath := "/std" }) ()
  obtain ⟨chapters, chronicle, events, -, shows⟩ := validation_shows_own_problems _ _ _ _ run
  refine ⟨_, _, chapters, run, by decide +kernel, chronicle, events, ?_, ?_⟩
  · intro before chapter after split early v late split'
    exact ((shows before chapter after split).1 early v late split').2
  · obtain ⟨first, rest, rfl, -, last⟩ := List.map_eq_cons_iff.1 events
    obtain ⟨second, rest, rfl, opened, none⟩ := List.map_eq_cons_iff.1 last
    obtain rfl := List.map_eq_nil_iff.1 none
    obtain ⟨-, v, facts⟩ := (shows [first] second [] rfl).2 _ _ _ (.inl opened)
    exact ⟨[first], second, v, rfl, facts⟩

end Session

end SchemaServer
