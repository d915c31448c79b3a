import SchemaServer.Proofs.InForce

/-! # What the editor shows

An editor shows the problems that were published last for a document.  They are never those of a
document that is not open, nor of an earlier time at which it was open: a close takes them away, and
afterwards only a validation that succeeds puts others in their place.

* `published_opening` and `published_validations` say what one chapter publishes for a document.
* `Current.next` carries what is shown over a chapter, and `current_of_told` over a run.
* `reports_of_validates` ties a report to the text that the analyzer was given. -/

namespace SchemaServer

namespace Exchange

/-- The problems that an exchange publishes for a document. -/
def published? (uri : String) : Exchange → Option (List Diagnostic)
  | ⟨.client (.publish named diagnostics _), _⟩ => if named = uri then some diagnostics else none
  | _ => none

def isPublish : Exchange → Bool
  | ⟨.client (.publish ..), _⟩ => true
  | _ => false

def isErrorLog : Exchange → Bool
  | ⟨.client (.log .error _), _⟩ => true
  | _ => false

end Exchange

namespace Session

/-- The problems that the editor shows for a document: those published last. -/
def shown (trace : List Exchange) (uri : String) : List Diagnostic :=
  (trace.filterMap (Exchange.published? uri)).getLast?.getD []

/-- Whether a validation of this document succeeded. -/
def Validation.succeedsFor (uri : String) (v : Validation) : Bool := v.uri == uri && v.outcome.isOk

/-- The problems that a validation published for its document. -/
def Validation.published (v : Validation) : List Diagnostic := (v.report.published? v.uri).getD []

/-- The problems that the last successful validation of a document published; none if there was no
    such validation. -/
def lastPublished (uri : String) (validations : List Validation) : List Diagnostic :=
  ((validations.filter (Validation.succeedsFor uri)).getLast?.map Validation.published).getD []

/-- A document was not open after the chapters `before`, and has been open ever since. -/
structure OpenSince (uri : String) (before since : List Chapter) : Prop where
  shut : isOpenAfter (before.map Chapter.event) uri = false
  isOpen : ∀ early, early <+: since → early ≠ [] →
    isOpenAfter ((before ++ early).map Chapter.event) uri = true

/-- What is shown for a document after some chapters is up to date. -/
structure Current (uri : String) (chapters : List Chapter) : Prop where
  shut : isOpenAfter (chapters.map Chapter.event) uri = false →
    shown (chapters.flatMap Chapter.exchanges) uri = []
  isOpen : isOpenAfter (chapters.map Chapter.event) uri = true →
    ∃ before since, chapters = before ++ since ∧ OpenSince uri before since ∧
      shown (chapters.flatMap Chapter.exchanges) uri =
        lastPublished uri (since.flatMap Chapter.validations)

/-- What a validation after these events reports: problems under the version that belongs to the text
    the analyzer was given, or else a single message that it failed. -/
structure Reports (events : List Event) (v : Validation) : Prop where
  succeeded : ∀ diagnostics, v.outcome = .ok diagnostics → ∃ limit text version,
    contentAfter events v.uri = some (text, version) ∧
    v.files.get? (pathOfUri v.uri) = some text ∧
    v.report = ⟨.client (.publish v.uri (diagnostics.take limit) (some version)), ()⟩
  failed : ∀ failure, v.outcome = .error failure → v.exchanges.filter Exchange.isPublish = [] ∧
    ∃ message, v.exchanges.filter Exchange.isErrorLog = [⟨.client (.log .error message), ()⟩]

/-- What comes before the validations of a chapter publishes at most that a document which is being
    closed has no problems, and reports no failure. -/
structure ClearsOnly (events : List Event) (chapter : Chapter) : Prop where
  publishes : ∀ exchange ∈ chapter.opening, exchange.isPublish = true →
    ∃ uri, chapter.event = .closed uri ∧ isOpenAfter events uri = true ∧
      exchange = ⟨.client (.publish uri [] none), ()⟩
  errors : ∀ exchange ∈ chapter.opening, exchange.isErrorLog = false

/-! ## Chapters -/

section
variable {s s' : Session} {v : Validation} {chapter : Chapter} {events : List Event}
  {uri : String}

theorem clearsOnly_of_handles (follows : s.store.documents = documentsAfter events)
    (handles : Handles s chapter s') : ClearsOnly events chapter := by
  cases handles with
  | closed isOpen answer =>
    rw [contains_eq follows] at isOpen
    constructor
    · simp only [List.mem_cons, List.not_mem_nil, or_false, forall_eq_or_imp, forall_eq]
      exact ⟨nofun, fun _ => ⟨_, rfl, isOpen, rfl⟩⟩
    · simp [Exchange.isErrorLog]
  | passing _ quiet =>
    constructor
    · intro exchange member publishes
      have hushed := quiet exchange member
      unfold Exchange.isPublish at publishes
      split at publishes
      · cases hushed
      · cases publishes
    · intro exchange member
      have hushed := quiet exchange member
      unfold Exchange.isErrorLog
      split
      · cases hushed
      · rfl
  | connected _ | opened _ _ _ | changed _ _ _ | notOpen _ | configured _ _ =>
    constructor <;> simp [Exchange.isPublish, Exchange.isErrorLog]

theorem published?_of_not_isPublish {exchange : Exchange} (silent : exchange.isPublish = false)
    (uri : String) : exchange.published? uri = none := by
  unfold Exchange.published?
  split
  · cases silent
  · rfl

/-- Before its validations a chapter publishes for a document only that it has no problems, and this
    when it is closed. -/
theorem published_opening (follows : s.store.documents = documentsAfter events)
    (handles : Handles s chapter s') (uri : String) :
    chapter.opening.filterMap (Exchange.published? uri) =
      if chapter.event.closes uri && isOpenAfter events uri then [[]] else [] := by
  cases handles with
  | @closed named isOpen answer =>
    rw [contains_eq follows] at isOpen
    by_cases same : named = uri
    · subst same
      simp [List.filterMap_cons, Exchange.published?, Event.closes, isOpen]
    · simp [Exchange.published?, Event.closes, same]
  | @notOpen named shut =>
    rw [contains_eq follows] at shut
    by_cases same : named = uri
    · subst same
      simp [shut]
    · simp [Event.closes, same]
  | @passing event opening passing quiet =>
    have silent : opening.filterMap (Exchange.published? uri) = [] := by
      refine List.filterMap_eq_nil_iff.2 fun exchange member => ?_
      have hushed := quiet exchange member
      unfold Exchange.published?
      split
      · cases hushed
      · rfl
    have stays : event.closes uri = false := by
      cases event with
      | closed _ => cases passing
      | connected _ | initialized | opened _ _ _ | changed _ _ _ | configurationChanged _
      | watchedFilesChanged | definition _ _ | completion _ _ | format _ => rfl
    rw [silent, stays, Bool.false_and]
    rfl
  | connected _ | opened _ _ _ | changed _ _ _ | configured _ _ =>
    simp [Exchange.published?, Event.closes]

/-- All that a validation does before its report is to ask. -/
theorem Validation.exchanges_eq (v : Validation) :
    ∃ asked : List Exchange, v.exchanges = asked ++ [v.report] ∧
      ∀ exchange ∈ asked, exchange.isPublish = false ∧ exchange.isErrorLog = false := by
  refine ⟨(v.fetched?.map fun answer => ⟨.client (.fetchSettings v.uri), answer⟩).toList ++
    [⟨.analyzer (.lint (pathOfUri v.uri) v.files), v.answer⟩], ?_, ?_⟩
  · rw [Validation.exchanges, List.append_cons]
  · cases v.fetched? <;> simp [Exchange.isPublish, Exchange.isErrorLog]

/-- A validation publishes if it succeeds, once and for its own document. -/
theorem Validation.filterMap_published? (due : ∃ limit version, v.report = v.due limit version)
    (uri : String) : v.exchanges.filterMap (Exchange.published? uri) =
      if v.succeedsFor uri then [v.published] else [] := by
  obtain ⟨limit, version, report⟩ := due
  obtain ⟨asked, whole, silent⟩ := v.exchanges_eq
  have unpublished : asked.filterMap (Exchange.published? uri) = [] :=
    List.filterMap_eq_nil_iff.2 fun exchange member =>
      published?_of_not_isPublish (silent exchange member).1 uri
  rw [whole, List.filterMap_append, unpublished, Validation.published, report, Validation.due,
    Validation.succeedsFor]
  cases v.outcome with
  | error failure => simp [Exchange.published?, Except.isOk, Except.toBool]
  | ok diagnostics =>
    by_cases same : v.uri = uri <;> simp [Exchange.published?, Except.isOk, Except.toBool, same]

theorem published_validations {validations : List Validation}
    (due : ∀ v ∈ validations, ∃ limit version, v.report = v.due limit version) (uri : String) :
    (validations.flatMap Validation.exchanges).filterMap (Exchange.published? uri) =
      (validations.filter (Validation.succeedsFor uri)).map Validation.published := by
  induction validations with
  | nil => rfl
  | cons v later ih =>
    rw [List.flatMap_cons, List.filterMap_append, ih fun v member => due v (.tail _ member),
      Validation.filterMap_published? (due v List.mem_cons_self)]
    by_cases succeeds : v.succeedsFor uri = true <;> simp [succeeds]

theorem shown_append (trace more : List Exchange) (uri : String) :
    shown (trace ++ more) uri =
      (more.filterMap (Exchange.published? uri)).getLast?.getD (shown trace uri) := by
  rw [shown, shown, List.filterMap_append, List.getLast?_append]
  cases (more.filterMap (Exchange.published? uri)).getLast? <;> rfl

theorem lastPublished_append (uri : String) (early late : List Validation) :
    lastPublished uri (early ++ late) =
      ((late.filter (Validation.succeedsFor uri)).map Validation.published).getLast?.getD
        (lastPublished uri early) := by
  rw [lastPublished, lastPublished, List.filter_append, List.getLast?_append, List.getLast?_map]
  cases (late.filter (Validation.succeedsFor uri)).getLast? <;> rfl

theorem openSince_nil {chapters : List Chapter}
    (shut : isOpenAfter (chapters.map Chapter.event) uri = false) : OpenSince uri chapters [] where
  shut := shut
  isOpen _ begins some := absurd (List.prefix_nil.1 begins) some

theorem OpenSince.snoc {before since : List Chapter} (openSince : OpenSince uri before since)
    (isOpen : isOpenAfter ((before ++ since ++ [chapter]).map Chapter.event) uri = true) :
    OpenSince uri before (since ++ [chapter]) where
  shut := openSince.shut
  isOpen early begins some := by
    rcases List.prefix_concat_iff.1 begins with rfl | begins
    · rwa [List.append_assoc] at isOpen
    · exact openSince.isOpen early begins some

/-- A chapter leaves on the screen what is up to date after it. -/
theorem Current.next {chapters : List Chapter} (current : Current uri chapters)
    (opening : chapter.opening.filterMap (Exchange.published? uri) =
      if chapter.event.closes uri && isOpenAfter (chapters.map Chapter.event) uri then [[]] else [])
    (due : ∀ v ∈ chapter.validations, ∃ limit version, v.report = v.due limit version)
    (validated : ∀ v ∈ chapter.validations,
      isOpenAfter (chapters.map Chapter.event ++ [chapter.event]) v.uri = true) :
    Current uri (chapters ++ [chapter]) := by
  have view : shown ((chapters ++ [chapter]).flatMap Chapter.exchanges) uri =
      ((chapter.validations.filter
          (Validation.succeedsFor uri)).map Validation.published).getLast?.getD
        (if chapter.event.closes uri && isOpenAfter (chapters.map Chapter.event) uri then []
          else shown (chapters.flatMap Chapter.exchanges) uri) := by
    rw [List.flatMap_append, List.flatMap_singleton, Chapter.exchanges, ← List.append_assoc,
      shown_append, shown_append, published_validations due, opening]
    split <;> rfl
  have after := isOpenAfter_snoc (chapters.map Chapter.event) chapter.event uri
  rw [← List.map_singleton, ← List.map_append] at after validated
  constructor
  · intro shut
    -- Nothing is validated that is not open afterwards, so only the close can have published.
    have unvalidated : chapter.validations.filter (Validation.succeedsFor uri) = [] := by
      refine List.filter_eq_nil_iff.2 fun v member succeeds => ?_
      have same : v.uri = uri := by simpa using (Bool.and_eq_true_iff.1 succeeds).1
      exact absurd ((same ▸ validated v member).symm.trans shut) (by decide)
    rw [view, unvalidated]
    rw [after] at shut
    cases before : isOpenAfter (chapters.map Chapter.event) uri with
    | false => simpa using current.shut before
    | true =>
      have closes : chapter.event.closes uri = true := by
        by_contra stays
        simp [stays, before] at shut
      simp [closes]
  · intro isOpen
    have stays :
        (chapter.event.closes uri && isOpenAfter (chapters.map Chapter.event) uri) = false := by
      rw [after] at isOpen
      cases closes : chapter.event.closes uri with
      | false => rfl
      | true => simp [closes, Event.opens_of_closes closes] at isOpen
    -- A document that was not open has been open since no chapter at all, with nothing shown.
    have earlier : ∃ before since, chapters = before ++ since ∧ OpenSince uri before since ∧
        shown (chapters.flatMap Chapter.exchanges) uri =
          lastPublished uri (since.flatMap Chapter.validations) := by
      cases before : isOpenAfter (chapters.map Chapter.event) uri with
      | false => exact ⟨chapters, [], by simp, openSince_nil before, current.shut before⟩
      | true => exact current.isOpen before
    obtain ⟨before, since, rfl, openSince, same⟩ := earlier
    refine ⟨before, since ++ [chapter], List.append_assoc .., openSince.snoc isOpen, ?_⟩
    have validations : (since ++ [chapter]).flatMap Chapter.validations =
        since.flatMap Chapter.validations ++ chapter.validations := by simp
    rw [view, stays, validations, lastPublished_append, ← same]
    rfl

/-! ## Reports -/

theorem ValidatesAll.each {validations : List Validation} (validates : ValidatesAll s validations s')
    (member : v ∈ validations) :
    ∃ s₁ s₂, s₁.store.documents = s.store.documents ∧ Validates s₁ v s₂ := by
  induction validates with
  | nil => cases member
  | cons first rest ih =>
    rcases List.mem_cons.1 member with rfl | later
    · exact ⟨_, _, rfl, first⟩
    · obtain ⟨s₁, s₂, documents, validates⟩ := ih later
      exact ⟨s₁, s₂, documents.trans first.documents, validates⟩

theorem reports_of_validates (rereading : Rereading events)
    (follows : s.store.documents = documentsAfter events) (isOpen : isOpenAfter events v.uri = true)
    (validates : Validates s v s') : Reports events v := by
  obtain ⟨files, settings, -, report⟩ := validates
  obtain ⟨⟨text, version⟩, content⟩ := Option.isSome_iff_exists.1 isOpen
  have found : s.store.get? v.uri = some ⟨v.uri, text, some version⟩ := by
    rw [Store.get?, follows, get?_documentsAfter, documentAfter?, content, Option.map_some]
  have apart : s.store.Apart := apart_of_documents
    (fun event member uri named => (rereading event member uri named).accepted.writtenForm) follows
  constructor
  · intro diagnostics outcome
    refine ⟨settings.maxProblems, text, version, content, ?_, ?_⟩
    · rw [files]
      exact Snapshot.get?_capture apart found
    · rw [report, Validation.due, outcome, found, Option.bind_some]
  · intro failure outcome
    obtain ⟨asked, whole, silent⟩ := v.exchanges_eq
    have unpublished : asked.filter Exchange.isPublish = [] :=
      List.filter_eq_nil_iff.2 fun exchange member => by simp [(silent exchange member).1]
    have unlogged : asked.filter Exchange.isErrorLog = [] :=
      List.filter_eq_nil_iff.2 fun exchange member => by simp [(silent exchange member).2]
    rw [Validation.due, outcome] at report
    rw [whole, List.filter_append, List.filter_append, unpublished, unlogged, report]
    exact ⟨rfl, _, rfl⟩

/-! ## Runs -/

theorem documents_of_told {stdPath : String} {chapters : List Chapter}
    (told : Told { stdPath } chapters s) :
    s.store.documents = documentsAfter (chapters.map Chapter.event) :=
  eventsIn_pastOf chapters ▸ (follows_of_told told).documents

/-- Each validation of a chapter finds the documents as the event has left them, its own among
    them if URIs read as themselves. -/
theorem validates_of_told {stdPath : String} {chapters : List Chapter}
    (told : Told { stdPath } chapters s) (handles : Handles s chapter s')
    (member : v ∈ chapter.validations) :
    ∃ s₁ s₂, s₁.store.documents = documentsAfter (chapters.map Chapter.event ++ [chapter.event]) ∧
      (Rereading (chapters.map Chapter.event ++ [chapter.event]) →
        isOpenAfter (chapters.map Chapter.event ++ [chapter.event]) v.uri = true) ∧
      Validates s₁ v s₂ := by
  obtain ⟨middle, effect, validates, isOpen⟩ := (follows_of_told told).effect handles
  have documents : middle.store.documents =
      documentsAfter (chapters.map Chapter.event ++ [chapter.event]) :=
    eventsIn_pastOf chapters ▸ effect.documents
  obtain ⟨s₁, s₂, same, validated⟩ := validates.each member
  refine ⟨s₁, s₂, same.trans documents, fun rereading => ?_, validated⟩
  rw [← contains_eq documents]
  rw [eventsIn_pastOf] at isOpen
  exact isOpen rereading v member

theorem current_of_told {stdPath : String} {chapters : List Chapter}
    (told : Told { stdPath } chapters s) (rereading : Rereading (chapters.map Chapter.event))
    (uri : String) : Current uri chapters := by
  induction told with
  | start => exact ⟨fun _ => rfl, nofun⟩
  | next earlier handles ih =>
    rw [List.map_append, List.map_singleton] at rereading
    have before := ih fun event member => rereading event (List.mem_append_left _ member)
    refine before.next (published_opening (documents_of_told earlier) handles uri) ?_ ?_
    · intro v member
      obtain ⟨_, _, -, -, -, settings, -, report⟩ := validates_of_told earlier handles member
      exact ⟨_, _, report⟩
    · intro v member
      obtain ⟨_, _, -, isOpen, -⟩ := validates_of_told earlier handles member
      exact isOpen rereading

/-- In every run, as long as the editor names documents by URIs that read as themselves, nothing is
    shown for a document that is not open.  For one that is open the editor shows what the last
    successful validation published since the document was opened, or nothing if there was none.  What
    a validation publishes has the version that came with the text of the document in the snapshot;
    nothing is published otherwise but that a document has no problems, without a version, when it is
    closed.  A validation that fails publishes nothing and logs one error. -/
theorem view_never_stale (stdPath : String) (events : List Event) (rereading : Rereading events)
    (trace : List Exchange) (s : Session) (run : (handleAll events { stdPath }).Runs trace s) :
    ∃ chapters, Chronicle { stdPath } chapters s ∧ chapters.map Chapter.event = events ∧
      chapters.flatMap Chapter.exchanges = trace ∧
      (∀ uri, isOpenAfter events uri = false → shown trace uri = []) ∧
      (∀ uri, isOpenAfter events uri = true →
        ∃ before since, chapters = before ++ since ∧ OpenSince uri before since ∧
          shown trace uri = lastPublished uri (since.flatMap Chapter.validations)) ∧
      ∀ before chapter after, chapters = before ++ chapter :: after →
        ClearsOnly (before.map Chapter.event) chapter ∧
        ∀ v ∈ chapter.validations, Reports (before.map Chapter.event ++ [chapter.event]) v := by
  obtain ⟨chapters, chronicle, told, rfl, rfl⟩ := chronicle_of_runs run
  refine ⟨chapters, chronicle, rfl, rfl, fun uri => (current_of_told told rereading uri).shut,
    fun uri => (current_of_told told rereading uri).isOpen, ?_⟩
  rintro before chapter after rfl
  obtain ⟨s₁, s₂, toldBefore, handles⟩ := told.chapter rfl
  refine ⟨clearsOnly_of_handles (documents_of_told toldBefore) handles, ?_⟩
  intro v member
  obtain ⟨_, _, documents, isOpen, validates⟩ := validates_of_told toldBefore handles member
  rw [List.map_append, List.map_cons, List.append_cons] at rereading
  have upTo : Rereading (before.map Chapter.event ++ [chapter.event]) :=
    fun event member => rereading event (List.mem_append_left _ member)
  exact reports_of_validates upTo documents (isOpen upTo) validates

end

/-- An analyzer that finds a problem in the text `one` and fails on any other. -/
def moody : (question : Question) → StateM Unit question.Answer
  | .analyzer (.lint path files) => pure <|
    if files.get? path = some "one" then
      .ok ("[[\"error\",\"" ++ path ++ "\",\"m\",[0,0,[1,1],[1,2]]]]")
    else .error (.failed .lint "down")
  | question => Program.outage question

def reopened : List Event :=
  [.opened "file:///a" "one" 7, .changed "file:///a" "two" 8, .opened "file:///b" "one" 1,
    .closed "file:///b", .opened "file:///b" "two" 2, .opened "file:///c" "one" 3, .closed "file:///c"]

/-- A failed validation leaves the problem that was shown, but not one from before the document was
    closed. -/
theorem view_never_stale_reopened :
    ∃ (trace : List Exchange) (s : Session) (chapters : List Chapter),
      (handleAll reopened { stdPath := "/std" }).Runs trace s ∧
      (trace.filter Exchange.isPublish).length = 5 ∧ (trace.filter Exchange.isErrorLog).length = 2 ∧
      shown trace "file:///a" = [⟨⟨⟨0, 0⟩, ⟨0, 1⟩⟩, .error, "m"⟩] ∧
      shown trace "file:///b" = [] ∧ shown trace "file:///c" = [] ∧
      Chronicle { stdPath := "/std" } chapters s ∧ chapters.map Chapter.event = reopened ∧
      (∃ before since, chapters = before ++ since ∧ OpenSince "file:///b" before since ∧
        lastPublished "file:///b" (since.flatMap Chapter.validations) = []) ∧
      ∀ before chapter after, chapters = before ++ chapter :: after →
        ∀ v ∈ chapter.validations, Reports (before.map Chapter.event ++ [chapter.event]) v := by
  have rereading : Rereading reopened := by
    intro event member uri named
    have listed : uri = "file:///a" ∨ uri = "file:///b" ∨ uri = "file:///c" := by
      simp only [reopened, List.mem_cons, List.not_mem_nil, or_false] at member
      rcases member with rfl | rfl | rfl | rfl | rfl | rfl | rfl <;> cases named <;> simp
    rcases listed with rfl | rfl | rfl <;> exact ⟨_, rfl, rfl⟩
  have run := Program.runs_transcript moody (handleAll reopened { stdPath := "/std" }) ()
  obtain ⟨chapters, chronicle, events, -, shut, isOpen, reports⟩ :=
    view_never_stale _ _ rereading _ _ run
  obtain ⟨before, since, whole, openSince, same⟩ := isOpen "file:///b" rfl
  have cleared : shown (Program.transcript moody (handleAll reopened { stdPath := "/std" }) ())
      "file:///b" = [] := by decide +kernel
  refine ⟨_, _, chapters, run, by decide +kernel, by decide +kernel, by decide +kernel, cleared,
    shut "file:///c" rfl, chronicle, events, ⟨before, since, whole, openSince, same.symm.trans cleared⟩,
    ?_⟩
  intro before chapter after split
  exact (reports before chapter after split).2

end Session

end SchemaServer
