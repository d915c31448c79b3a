import SchemaServer.Proofs.Independence
import SchemaServer.Proofs.Stores

/-! # Runs in chapters

A run over many events is told in chapters, one for each event.  A chapter has what was asked first
and then the validations that the event led to, each from its fetch of settings to its report.

* `Chronicle s chapters s'`: the chapters are what happened from `s` to `s'`.
* `Handles s chapter s'` says once what handling an event can do, guards included.  Facts about runs
  are read off it, and no later proof opens the programs again.
* `chronicle_of_runs`: every run is told by a chronicle whose chapters are handled so. -/

namespace SchemaServer

/-- The settings that hold after a fetch. -/
def Settings.ofFetched : Client.Fetched → Settings
  | .failed => .default
  | .answered value => .ofAnswer value

/-- Whether a question is part of a validation. -/
def Question.isOfValidation : Question → Bool
  | .analyzer (.lint ..) | .client (.fetchSettings _) => true
  | _ => false

/-- Whether a question neither changes what the editor shows nor belongs to a validation or an
    eviction, nor reports a failure. -/
def Question.isQuiet : Question → Bool
  | .analyzer (.lint ..) | .analyzer (.removeCachedSchema _) | .client (.fetchSettings _)
  | .client (.publish ..) | .client (.log .error _) => false
  | _ => true

namespace Session

/-! ## Validations and chapters -/

structure Validation where
  uri : String
  /-- The answer to the fetch of settings, if there was one. -/
  fetched? : Option Client.Fetched
  files : Snapshot
  /-- What the analyzer answered. -/
  answer : Analyzer.Outcome String
  /-- What the editor was told in the end. -/
  report : Exchange

namespace Validation

def exchanges (v : Validation) : List Exchange :=
  (v.fetched?.map fun answer => ⟨.client (.fetchSettings v.uri), answer⟩).toList ++
    [⟨.analyzer (.lint (pathOfUri v.uri) v.files), v.answer⟩, v.report]

/-- The problems of the document as far as the answer can be read. -/
def outcome (v : Validation) : Analyzer.Outcome (List Diagnostic) :=
  v.answer >>= Gateway.diagnosticsOf (pathOfUri v.uri)

/-- The report that is due: the first problems up to a limit, or why there are none to show. -/
def due (v : Validation) (limit : Nat) (version : Option Int) : Exchange :=
  match v.outcome with
  | .ok diagnostics => ⟨.client (.publish v.uri (diagnostics.take limit) version), ()⟩
  | .error failure =>
    ⟨.client (.log .error ("Validation of " ++ v.uri ++ " failed: " ++ failure.message)), ()⟩

end Validation

structure Chapter where
  event : Event
  /-- What was asked before the first validation. -/
  opening : List Exchange
  validations : List Validation

def Chapter.exchanges (chapter : Chapter) : List Exchange :=
  chapter.opening ++ chapter.validations.flatMap Validation.exchanges

/-- The chapters follow one another from the first session to the last.  All that belongs to a
    validation stands among the validations. -/
inductive Chronicle (start : Session) : List Chapter → Session → Prop where
  | start : Chronicle start [] start
  | next {chapters : List Chapter} {chapter : Chapter} {s s' : Session}
      {reply : chapter.event.Reply} (earlier : Chronicle start chapters s)
      (run : (s.handle chapter.event).Runs chapter.exchanges (reply, s'))
      (opening : ∀ exchange ∈ chapter.opening, exchange.question.isOfValidation = false) :
      Chronicle start (chapters ++ [chapter]) s'

/-! ## What a validation can do -/

/-- The settings that a validation takes, and the session that is left. -/
inductive Chooses (s : Session) (uri : String) : Option Client.Fetched → Settings → Session → Prop where
  | global (cannot : s.capabilities.workspaceConfiguration = false) :
      Chooses s uri none s.globalSettings s
  | kept {settings : Settings} (can : s.capabilities.workspaceConfiguration = true)
      (found : s.store.settings? uri = some settings) : Chooses s uri none settings s
  | fetched (can : s.capabilities.workspaceConfiguration = true)
      (missing : s.store.settings? uri = none) (answer : Client.Fetched) :
      Chooses s uri (some answer) (.ofFetched answer)
        { s with store := s.store.keepSettings uri (.ofFetched answer) }

structure Validates (s : Session) (v : Validation) (s' : Session) : Prop where
  files : v.files = .capture s.store
  report : ∃ settings, Chooses s v.uri v.fetched? settings s' ∧
    v.report = v.due settings.maxProblems ((s.store.get? v.uri).bind Document.version)

/-- The validations follow one another. -/
inductive ValidatesAll : Session → List Validation → Session → Prop where
  | nil (s : Session) : ValidatesAll s [] s
  | cons {s s₁ s' : Session} {v : Validation} {later : List Validation} (first : Validates s v s₁)
      (rest : ValidatesAll s₁ later s') : ValidatesAll s (v :: later) s'

section
variable {s s' : Session} {uri : String} {trace : List Exchange}

theorem Chooses.documents {fetched? : Option Client.Fetched} {settings : Settings}
    (chooses : Chooses s uri fetched? settings s') : s'.store.documents = s.store.documents := by
  cases chooses with
  | global _ => rfl
  | kept _ _ => rfl
  | fetched _ _ answer => exact Store.documents_keepSettings ..

theorem Validates.documents {v : Validation} (validates : Validates s v s') :
    s'.store.documents = s.store.documents := by
  obtain ⟨-, settings, chooses, -⟩ := validates
  exact chooses.documents

theorem chooses_of_runs {settings : Settings}
    (run : (s.documentSettings uri).Runs trace (settings, s')) :
    ∃ fetched?, Chooses s uri fetched? settings s' ∧
      trace = (fetched?.map fun answer => ⟨.client (.fetchSettings uri), answer⟩).toList := by
  unfold documentSettings at run
  split at run
  next can =>
    cases found : s.store.settings? uri with
    | some kept =>
      simp only [found, Program.pure_eq_done, Program.runs_done_iff] at run
      obtain ⟨rfl, same⟩ := run
      cases same
      exact ⟨none, .kept can found, rfl⟩
    | none =>
      simp only [found] at run
      obtain ⟨answer, _, rfl, rest⟩ := Program.runs_ask_iff.1 run
      obtain ⟨rfl, same⟩ := Program.runs_done_iff.1 rest
      cases same
      cases answer with
      | failed => exact ⟨some .failed, .fetched can found .failed, rfl⟩
      | answered value => exact ⟨some (.answered value), .fetched can found (.answered value), rfl⟩
  next cannot =>
    simp only [Program.pure_eq_done, Program.runs_done_iff] at run
    obtain ⟨rfl, same⟩ := run
    cases same
    exact ⟨none, .global (Bool.eq_false_iff.2 cannot), rfl⟩

theorem validates_of_runs (run : (s.validateAndPublish uri).Runs trace s') :
    ∃ v, Validates s v s' ∧ v.uri = uri ∧ v.exchanges = trace := by
  obtain ⟨fetch, _, ⟨settings, s₁⟩, rfl, chosen, asked⟩ := Program.runs_bind_iff.1 run
  obtain ⟨fetched?, chooses, rfl⟩ := chooses_of_runs chosen
  -- The fetch leaves the documents alone, so the snapshot and the version are those from before.
  have documents := chooses.documents
  have version : (s₁.store.get? uri).bind Document.version =
      (s.store.get? uri).bind Document.version := by
    rw [Store.get?, Store.get?, documents]
  have files : Snapshot.capture s₁.store = .capture s.store := Snapshot.capture_congr documents
  obtain ⟨answer, rest, rfl, told⟩ := Program.runs_ask_iff.1 asked
  have reported : ∃ report : Exchange, rest = [report] ∧ s' = s₁ ∧
      report = Validation.due ⟨uri, fetched?, .capture s₁.store, answer, report⟩
        settings.maxProblems ((s.store.get? uri).bind Document.version) := by
    unfold Validation.due Validation.outcome
    dsimp only [Program.bind] at told ⊢
    cases outcome : answer >>= Gateway.diagnosticsOf (pathOfUri uri) with
    | ok diagnostics =>
      rw [outcome, version] at told
      obtain ⟨⟨⟩, _, rfl, ended⟩ := Program.runs_ask_iff.1 told
      obtain ⟨rfl, rfl⟩ := Program.runs_done_iff.1 ended
      exact ⟨_, rfl, rfl, rfl⟩
    | error failure =>
      rw [outcome] at told
      obtain ⟨⟨⟩, _, rfl, ended⟩ := Program.runs_ask_iff.1 told
      obtain ⟨rfl, rfl⟩ := Program.runs_done_iff.1 ended
      exact ⟨_, rfl, rfl, rfl⟩
  obtain ⟨report, rfl, rfl, due⟩ := reported
  exact ⟨⟨uri, fetched?, _, answer, report⟩, ⟨files, settings, chooses, due⟩, rfl, rfl⟩

theorem validatesAll_of_runs {uris : List String} (run : (validateAll uris s).Runs trace s') :
    ∃ validations, ValidatesAll s validations s' ∧ validations.map Validation.uri = uris ∧
      validations.flatMap Validation.exchanges = trace := by
  induction uris generalizing s trace with
  | nil =>
    obtain ⟨rfl, rfl⟩ := Program.runs_done_iff.1 run
    exact ⟨[], .nil _, rfl, rfl⟩
  | cons uri uris ih =>
    obtain ⟨_, _, s₁, rfl, first, rest⟩ := Program.runs_bind_iff.1 run
    obtain ⟨v, validates, rfl, rfl⟩ := validates_of_runs first
    obtain ⟨later, validatesLater, rfl, rfl⟩ := ih rest
    exact ⟨v :: later, .cons validates validatesLater, rfl, rfl⟩

end

/-! ## What an event can do -/

/-- The session once a change of the configuration has taken effect. -/
def configured (settings : Json) (s : Session) : Session :=
  if s.capabilities.workspaceConfiguration then { s with store := s.store.forgetSettings }
  else { s with
    globalSettings := Settings.ofAnswer (settings.field? Settings.configurationSection) }

inductive Handles : Session → Chapter → Session → Prop where
  | connected (s : Session) (capabilities : Capabilities) :
      Handles s ⟨.connected capabilities, [], []⟩
        { s with capabilities? := s.capabilities?.or (some capabilities) }
  | opened {s s' : Session} {v : Validation} (text : String) (version : Int)
      (validates : Validates { s with store := s.store.openDocument v.uri text version } v s') :
      Handles s ⟨.opened v.uri text version, [], [v]⟩ s'
  | changed {s s' : Session} {v : Validation} (text : String) (version : Int)
      (validates : Validates { s with store := s.store.update v.uri text version } v s') :
      Handles s ⟨.changed v.uri text version, [], [v]⟩ s'
  | closed {s : Session} {uri : String} (isOpen : s.store.contains uri = true)
      (answer : Analyzer.Outcome Unit) :
      Handles s ⟨.closed uri, [⟨.analyzer (.removeCachedSchema (pathOfUri uri)), answer⟩,
        ⟨.client (.publish uri [] none), ()⟩], []⟩ { s with store := s.store.close uri }
  | notOpen {s : Session} {uri : String} (shut : s.store.contains uri = false) :
      Handles s ⟨.closed uri, [], []⟩ s
  | configured {s s' : Session} {settings : Json} {validations : List Validation}
      (validates : ValidatesAll (s.configured settings) validations s')
      (uris : validations.map Validation.uri = s.store.uris.filterMap Url.reread?) :
      Handles s ⟨.configurationChanged settings,
        [⟨.client (.log .info "Configuration changed."), ()⟩], validations⟩ s'
  | passing {s : Session} {event : Event} {opening : List Exchange}
      (passing : event.isLasting = false)
      (quiet : ∀ exchange ∈ opening, exchange.question.isQuiet = true) :
      Handles s ⟨event, opening, []⟩ s

theorem handle_quiet (s : Session) {event : Event} (passing : event.isLasting = false) :
    (s.handle event).Always (fun question => question.isQuiet = true) (fun r => r.2 = s) := by
  cases event with
  | initialized =>
    have greeted : s.initialized.Always (fun question => question.isQuiet = true) (· = s) := by
      unfold initialized
      split
      · exact ⟨rfl, fun _ => ⟨rfl, fun _ => rfl⟩⟩
      · exact ⟨rfl, fun _ => rfl⟩
    exact Program.always_bind greeted fun _ same => same
  | watchedFilesChanged => exact ⟨rfl, fun _ => rfl⟩
  | definition uri position => exact ⟨rfl, fun _ => rfl⟩
  | completion uri position => exact ⟨rfl, fun _ => rfl⟩
  | format uri =>
    have laidOut : (s.format uri).Always (fun question => question.isQuiet = true)
        (fun _ => True) := by
      unfold format
      cases s.store.get? uri with
      | none => trivial
      | some document => exact ⟨rfl, fun _ => trivial⟩
    exact Program.always_bind laidOut fun _ _ => rfl
  | connected _ | opened _ _ _ | changed _ _ _ | closed _ | configurationChanged _ => cases passing

section
variable {s s' : Session} {exchanges : List Exchange}

theorem handles_of_close {uri : String} (run : (s.close uri).Runs exchanges s') :
    ∃ opening, Handles s ⟨.closed uri, opening, []⟩ s' ∧ opening = exchanges := by
  unfold close at run
  split at run
  next isOpen =>
    obtain ⟨answer, _, rfl, evicted⟩ := Program.runs_ask_iff.1 run
    obtain ⟨⟨⟩, _, rfl, cleared⟩ := Program.runs_ask_iff.1 evicted
    obtain ⟨rfl, rfl⟩ := Program.runs_done_iff.1 cleared
    exact ⟨_, .closed isOpen answer, rfl⟩
  next shut =>
    obtain ⟨rfl, rfl⟩ := Program.runs_done_iff.1 run
    exact ⟨[], .notOpen (Bool.eq_false_iff.2 shut), rfl⟩

theorem handles_of_changeConfiguration {settings : Json}
    (run : (s.changeConfiguration settings).Runs exchanges s') :
    ∃ validations, Handles s ⟨.configurationChanged settings,
        [⟨.client (.log .info "Configuration changed."), ()⟩], validations⟩ s' ∧
      ⟨.client (.log .info "Configuration changed."), ()⟩ ::
        validations.flatMap Validation.exchanges = exchanges := by
  obtain ⟨⟨⟩, rest, rfl, told⟩ := Program.runs_ask_iff.1 run
  have validated : (validateAll ((s.configured settings).store.uris.filterMap Url.reread?)
    (s.configured settings)).Runs rest s' := told
  obtain ⟨validations, validates, uris, rfl⟩ := validatesAll_of_runs validated
  refine ⟨validations, .configured validates (uris.trans ?_), rfl⟩
  unfold Session.configured
  split <;> rfl

theorem handles_of_runs {event : Event} {reply : event.Reply}
    (run : (s.handle event).Runs exchanges (reply, s')) :
    ∃ opening validations, Handles s ⟨event, opening, validations⟩ s' ∧
      opening ++ validations.flatMap Validation.exchanges = exchanges := by
  cases kind : event.isLasting with
  | false =>
    have quiet := (handle_quiet s kind).of_leads run
    obtain rfl : s' = s := quiet.2
    exact ⟨exchanges, [], .passing kind quiet.1, by simp⟩
  | true =>
    cases event with
    | connected capabilities =>
      obtain ⟨rfl, same⟩ := Program.runs_done_iff.1 run
      cases same
      exact ⟨[], [], .connected s capabilities, rfl⟩
    | opened uri text version =>
      obtain ⟨_, _, _, rfl, first, rest⟩ := Program.runs_bind_iff.1 run
      obtain ⟨rfl, same⟩ := Program.runs_done_iff.1 rest
      cases same
      obtain ⟨v, validates, rfl, rfl⟩ := validates_of_runs first
      exact ⟨[], [v], .opened text version validates, by simp⟩
    | changed uri text version =>
      obtain ⟨_, _, _, rfl, first, rest⟩ := Program.runs_bind_iff.1 run
      obtain ⟨rfl, same⟩ := Program.runs_done_iff.1 rest
      cases same
      obtain ⟨v, validates, rfl, rfl⟩ := validates_of_runs first
      exact ⟨[], [v], .changed text version validates, by simp⟩
    | closed uri =>
      obtain ⟨_, _, _, rfl, first, rest⟩ := Program.runs_bind_iff.1 run
      obtain ⟨rfl, same⟩ := Program.runs_done_iff.1 rest
      cases same
      obtain ⟨opening, handles, rfl⟩ := handles_of_close first
      exact ⟨opening, [], handles, by simp⟩
    | configurationChanged settings =>
      obtain ⟨_, _, _, rfl, first, rest⟩ := Program.runs_bind_iff.1 run
      obtain ⟨rfl, same⟩ := Program.runs_done_iff.1 rest
      cases same
      obtain ⟨validations, handles, rfl⟩ := handles_of_changeConfiguration first
      exact ⟨_, validations, handles, by simp⟩
    | initialized | watchedFilesChanged | definition _ _ | completion _ _ | format _ => cases kind

theorem Handles.opening {chapter : Chapter} (handles : Handles s chapter s') :
    ∀ exchange ∈ chapter.opening, exchange.question.isOfValidation = false := by
  cases handles with
  | passing _ quiet =>
    intro exchange member
    have hushed := quiet exchange member
    unfold Question.isQuiet at hushed
    unfold Question.isOfValidation
    split <;> simp_all
  | connected _ | opened _ _ _ | changed _ _ _ | closed _ _ | notOpen _ | configured _ _ =>
    simp [Question.isOfValidation]

end

/-! ## Whole runs -/

/-- Every chapter is handled from one session to the next. -/
inductive Told (start : Session) : List Chapter → Session → Prop where
  | start : Told start [] start
  | next {chapters : List Chapter} {chapter : Chapter} {s s' : Session}
      (earlier : Told start chapters s) (handles : Handles s chapter s') :
      Told start (chapters ++ [chapter]) s'

/-- A run that goes on from a chronicle is told by further chapters. -/
theorem chronicle_append {start s s' : Session} {before : List Chapter} {events : List Event}
    {trace : List Exchange} (chronicle : Chronicle start before s) (told : Told start before s)
    (run : (handleAll events s).Runs trace s') :
    ∃ chapters, Chronicle start (before ++ chapters) s' ∧ Told start (before ++ chapters) s' ∧
      chapters.map Chapter.event = events ∧ chapters.flatMap Chapter.exchanges = trace := by
  induction events generalizing before s trace with
  | nil =>
    obtain ⟨rfl, rfl⟩ := Program.runs_done_iff.1 run
    exact ⟨[], by simpa using chronicle, by simpa using told, rfl, rfl⟩
  | cons event events ih =>
    obtain ⟨exchanges, _, ⟨reply, s₁⟩, rfl, first, rest⟩ := Program.runs_bind_iff.1 run
    obtain ⟨opening, validations, handles, rfl⟩ := handles_of_runs first
    have next : Chronicle start (before ++ [⟨event, opening, validations⟩]) s₁ :=
      .next chronicle first handles.opening
    obtain ⟨chapters, later, toldLater, rfl, rfl⟩ := ih next (.next told handles) rest
    refine ⟨⟨event, opening, validations⟩ :: chapters, ?_, ?_, rfl, rfl⟩
    · simpa using later
    · simpa using toldLater

theorem chronicle_of_runs {start s : Session} {events : List Event} {trace : List Exchange}
    (run : (handleAll events start).Runs trace s) :
    ∃ chapters, Chronicle start chapters s ∧ Told start chapters s ∧
      chapters.map Chapter.event = events ∧ chapters.flatMap Chapter.exchanges = trace :=
  chronicle_append .start .start run

/-- Each chapter of a told run is handled from the session that the chapters before it lead to. -/
theorem Told.chapter {start s : Session} {chapters before after : List Chapter} {chapter : Chapter}
    (told : Told start chapters s) (split : chapters = before ++ chapter :: after) :
    ∃ s₁ s₂, Told start before s₁ ∧ Handles s₁ chapter s₂ := by
  induction told generalizing after with
  | start => simp at split
  | next earlier handles ih =>
    rcases List.eq_nil_or_concat after with rfl | ⟨after, last, rfl⟩
    · obtain ⟨rfl, same⟩ := List.append_inj' split rfl
      cases same
      exact ⟨_, _, earlier, handles⟩
    · rw [List.concat_eq_append, ← List.cons_append, ← List.append_assoc] at split
      exact ih (List.append_inj' split rfl).1

end Session

end SchemaServer
