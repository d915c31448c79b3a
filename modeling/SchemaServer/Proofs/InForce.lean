import Mathlib.Data.List.Induction
import SchemaServer.Proofs.Chapters
import SchemaServer.Proofs.Evictions

/-! # Which settings are in force

There are two sources of settings.  As long as the editor cannot be asked, the last change of the
configuration says what holds.  Once it can, the settings of a document are fetched, and the answer
holds until a change of the configuration or until the document is closed.

`inForce?` says this of a past without mentioning what a session keeps, and `Follows` is the invariant
that ties the two together.  It is kept by every event (`Follows.event`) and by every validation
(`Follows.validates`), also in the middle of an event that validates many documents. -/

namespace SchemaServer

/-- The answer to a fetch of the settings of this document. -/
def Exchange.fetchedFor? (uri : String) : Exchange → Option Client.Fetched
  | ⟨.client (.fetchSettings named), answer⟩ => if named = uri then some answer else none
  | _ => none

namespace Session

/-! ## What a past says -/

inductive Happening where
  | event (event : Event)
  | exchange (exchange : Exchange)

/-- The events of a past that has the latest first, in the order in which they came. -/
def eventsIn : List Happening → List Event
  | [] => []
  | .event event :: past => eventsIn past ++ [event]
  | .exchange _ :: past => eventsIn past

def Event.capabilities? : Event → Option Capabilities
  | .connected capabilities => some capabilities
  | _ => none

def Event.configuration? : Event → Option Json
  | .configurationChanged settings => some settings
  | _ => none

/-- Whether the editor can be asked for settings: what it said when it connected first. -/
def canBeAsked (events : List Event) : Bool :=
  ((events.findSome? Event.capabilities?).getD {}).workspaceConfiguration

/-- The settings that the last change of the configuration gives. -/
def configuredAfter (events : List Event) : Settings :=
  .ofAnswer ((events.filterMap Event.configuration?).getLast?.bind
    (Json.field? Settings.configurationSection))

/-- How many problems a value of the configuration allows: 1000 if there is none, if it is null or if it
    cannot be read, and else as many as it says. -/
inductive Allows : Option Json → Nat → Prop where
  | none : Allows none 1000
  | null : Allows (some .null) 1000
  | unreadable {value : Json} (unread : ∀ settings, Settings.shape.ofJson value ≠ .ok settings) :
      Allows (some value) 1000
  | read {value : Json} {settings : Settings} (read : Settings.shape.ofJson value = .ok settings) :
      Allows (some value) settings.maxProblems

/-- What a fetch says; one that failed says nothing. -/
def saidIn : Client.Fetched → Option Json
  | .failed => none
  | .answered value => value

theorem allows_ofAnswer (value? : Option Json) :
    Allows value? (Settings.ofAnswer value?).maxProblems := by
  fun_cases Settings.ofAnswer value? with
  | case1 => exact .none
  | case2 => exact .null
  | case3 value _ settings read => exact .read read
  | case4 value _ fault refused => exact .unreadable (by simp [refused])

theorem allows_ofFetched (answer : Client.Fetched) :
    Allows (saidIn answer) (Settings.ofFetched answer).maxProblems := by
  cases answer with
  | failed => exact .none
  | answered value? => exact allows_ofAnswer value?

/-- Whether an event ends what was fetched for a document: a change of the configuration after which
    the editor can be asked again, or a close that finds the document open. -/
def Event.invalidates (event : Event) (before : List Event) (uri : String) : Bool :=
  match event with
  | .configurationChanged _ => canBeAsked before
  | .closed named => named == uri && isOpenAfter before uri
  | _ => false

/-- The answer to the latest fetch for a document, unless an event has ended it since.  The past has
    the latest first. -/
def inForce? (uri : String) : List Happening → Option Client.Fetched
  | [] => none
  | .event event :: past =>
    if event.invalidates (eventsIn past) uri then none else inForce? uri past
  | .exchange exchange :: past => (exchange.fetchedFor? uri).or (inForce? uri past)

/-- The past with these exchanges on top of it. -/
def recorded (exchanges : List Exchange) (past : List Happening) : List Happening :=
  (exchanges.map Happening.exchange).reverse ++ past

/-- The past after some chapters. -/
def pastOf (chapters : List Chapter) : List Happening :=
  chapters.foldl (fun past chapter => recorded chapter.exchanges (.event chapter.event :: past)) []

section
variable {past : List Happening} {exchange : Exchange} {exchanges : List Exchange}

theorem recorded_cons (exchange : Exchange) (exchanges : List Exchange) (past : List Happening) :
    recorded (exchange :: exchanges) past = recorded exchanges (.exchange exchange :: past) := by
  simp [recorded]

theorem recorded_append (one other : List Exchange) (past : List Happening) :
    recorded (one ++ other) past = recorded other (recorded one past) := by
  simp [recorded]

theorem eventsIn_recorded (exchanges : List Exchange) (past : List Happening) :
    eventsIn (recorded exchanges past) = eventsIn past := by
  induction exchanges generalizing past with
  | nil => rfl
  | cons exchange exchanges ih => rw [recorded_cons, ih, eventsIn]

theorem pastOf_snoc (chapters : List Chapter) (chapter : Chapter) :
    pastOf (chapters ++ [chapter]) =
      recorded chapter.exchanges (.event chapter.event :: pastOf chapters) := by
  simp [pastOf]

theorem eventsIn_pastOf (chapters : List Chapter) :
    eventsIn (pastOf chapters) = chapters.map Chapter.event := by
  induction chapters using List.reverseRecOn with
  | nil => rfl
  | append_singleton chapters chapter ih =>
    rw [pastOf_snoc, eventsIn_recorded, eventsIn, ih, List.map_append, List.map_singleton]

end

/-! ## The invariant -/

/-- What a session holds is what its past says.  Settings are kept for open documents only, so a fetch
    may be forgotten if it is for a URI that only another one reads as. -/
structure Follows (past : List Happening) (s : Session) : Prop where
  documents : s.store.documents = documentsAfter (eventsIn past)
  capabilities : s.capabilities? = (eventsIn past).findSome? Event.capabilities?
  global : canBeAsked (eventsIn past) = false → s.globalSettings = configuredAfter (eventsIn past)
  settings : ∀ uri settings, s.store.settings? uri = some settings →
    (inForce? uri past).map .ofFetched = some settings
  remembers : Rereading (eventsIn past) → ∀ uri, s.store.settings? uri = none →
    inForce? uri past = none
  unasked : canBeAsked (eventsIn past) = false → ∀ uri, s.store.settings? uri = none

section
variable {past : List Happening} {s s' : Session}

theorem follows_start (stdPath : String) : Follows [] { stdPath } where
  documents := rfl
  capabilities := rfl
  global _ := rfl
  settings _ _ kept := by cases kept
  remembers _ _ _ := rfl
  unasked _ _ := rfl

theorem Follows.canBeAsked_eq (follows : Follows past s) :
    s.capabilities.workspaceConfiguration = canBeAsked (eventsIn past) := by
  rw [Session.capabilities, follows.capabilities, canBeAsked]

theorem Follows.recorded (follows : Follows past s) {exchanges : List Exchange}
    (unfetched : ∀ exchange ∈ exchanges, ∀ uri, exchange.fetchedFor? uri = none) :
    Follows (recorded exchanges past) s := by
  induction exchanges generalizing past with
  | nil => exact follows
  | cons exchange exchanges ih =>
    rw [recorded_cons]
    have same : ∀ uri, inForce? uri (.exchange exchange :: past) = inForce? uri past := by
      intro uri
      rw [inForce?, unfetched exchange List.mem_cons_self uri, Option.none_or]
    refine ih ⟨follows.documents, follows.capabilities, follows.global, ?_, ?_, follows.unasked⟩
      (fun later member => unfetched later (List.mem_cons_of_mem _ member))
    · intro uri
      rw [same uri]
      exact follows.settings uri
    · intro rereading uri
      rw [same uri]
      exact follows.remembers rereading uri

/-! ## Events -/

theorem canBeAsked_of_snoc {events : List Event} {event : Event}
    (cannot : canBeAsked (events ++ [event]) = false) : canBeAsked events = false := by
  unfold canBeAsked at cannot ⊢
  rw [List.findSome?_append] at cannot
  cases first : events.findSome? Event.capabilities? with
  | none => rfl
  | some capabilities => simpa [first] using cannot

theorem configuredAfter_snoc (events : List Event) (event : Event) :
    configuredAfter (events ++ [event]) =
      match event.configuration? with
      | some settings => .ofAnswer (settings.field? Settings.configurationSection)
      | none => configuredAfter events := by
  unfold configuredAfter
  rw [List.filterMap_append]
  cases changed : event.configuration? with
  | none => simp [changed]
  | some settings => simp [changed]

/-- An event keeps the invariant if it changes each part of the session as the past has it. -/
theorem Follows.event {event : Event} (follows : Follows past s)
    (documents : s'.store.documents = (event.updated s.store).documents)
    (capabilities : s'.capabilities? = s.capabilities?.or event.capabilities?)
    (global : s.capabilities.workspaceConfiguration = false → s'.globalSettings =
      match event.configuration? with
      | some settings => .ofAnswer (settings.field? Settings.configurationSection)
      | none => s.globalSettings)
    (settings : ∀ uri, s'.store.settings? uri =
      if event.invalidates (eventsIn past) uri then none else s.store.settings? uri) :
    Follows (.event event :: past) s' where
  documents := documents.trans (documents_updated follows.documents event)
  capabilities := by
    rw [capabilities, follows.capabilities, eventsIn, List.findSome?_append, List.findSome?_singleton]
  global cannot := by
    have before := canBeAsked_of_snoc cannot
    rw [global (follows.canBeAsked_eq.trans before), eventsIn, configuredAfter_snoc,
      follows.global before]
  settings uri kept found := by
    rw [settings uri] at found
    split at found
    next => cases found
    next valid =>
      rw [inForce?, if_neg valid]
      exact follows.settings uri kept found
  remembers rereading uri missing := by
    rw [settings uri] at missing
    rw [inForce?]
    split
    next => rfl
    next valid =>
      rw [if_neg valid] at missing
      have before : Rereading (eventsIn past) :=
        fun event member => rereading event (List.mem_append_left _ member)
      exact follows.remembers before uri missing
  unasked cannot uri := by
    rw [settings uri, follows.unasked (canBeAsked_of_snoc cannot) uri, ite_self]

theorem follows_connected (follows : Follows past s) (capabilities : Capabilities) :
    Follows (.event (.connected capabilities) :: past)
      { s with capabilities? := s.capabilities?.or (some capabilities) } :=
  follows.event rfl rfl (fun _ => rfl) (fun _ => rfl)

theorem follows_opened (follows : Follows past s) (uri text : String) (version : Int) :
    Follows (.event (.opened uri text version) :: past)
      { s with store := s.store.openDocument uri text version } :=
  follows.event rfl (Option.or_none).symm (fun _ => rfl) (fun _ => rfl)

theorem follows_changed (follows : Follows past s) (uri text : String) (version : Int) :
    Follows (.event (.changed uri text version) :: past)
      { s with store := s.store.update uri text version } := by
  refine follows.event rfl (Option.or_none).symm (fun _ => rfl) fun named => ?_
  exact s.store.settings?_update uri text named version

theorem follows_closed (follows : Follows past s) {uri : String}
    (isOpen : s.store.contains uri = true) :
    Follows (.event (.closed uri) :: past) { s with store := s.store.close uri } := by
  refine follows.event rfl (Option.or_none).symm (fun _ => rfl) fun named => ?_
  have wasOpen := isOpen
  rw [contains_eq follows.documents] at wasOpen
  by_cases same : uri = named
  · subst same
    simp [Event.invalidates, wasOpen, Store.settings?_close]
  · simp [Event.invalidates, same, Store.settings?_close]

theorem follows_notOpen (follows : Follows past s) {uri : String}
    (shut : s.store.contains uri = false) : Follows (.event (.closed uri) :: past) s := by
  refine follows.event ?_ (Option.or_none).symm (fun _ => rfl) fun named => ?_
  · exact (Store.documents_close_of_not_contains shut).symm
  · have wasShut := shut
    rw [contains_eq follows.documents] at wasShut
    by_cases same : uri = named
    · subst same
      simp [Event.invalidates, wasShut]
    · simp [Event.invalidates, same]

theorem follows_configured (follows : Follows past s) (settings : Json) :
    Follows (.event (.configurationChanged settings) :: past) (s.configured settings) := by
  have asked := follows.canBeAsked_eq
  unfold Session.configured
  split
  next can =>
    refine follows.event rfl (Option.or_none).symm ?_ fun named => ?_
    · intro cannot
      simp [can] at cannot
    · simp [Event.invalidates, ← asked, can]
      rfl
  next cannot =>
    refine follows.event rfl (Option.or_none).symm (fun _ => rfl) fun named => ?_
    simp [Event.invalidates, ← asked, cannot]

theorem follows_passing (follows : Follows past s) {event : Event}
    (passing : event.isLasting = false) : Follows (.event event :: past) s := by
  cases event with
  | initialized | watchedFilesChanged | definition _ _ | completion _ _ | format _ =>
    exact follows.event rfl (Option.or_none).symm (fun _ => rfl) (fun _ => rfl)
  | connected _ | opened _ _ _ | changed _ _ _ | closed _ | configurationChanged _ => cases passing

end

/-! ## Validations -/

/-- What a validation after this past does about settings: as long as the editor cannot be asked it
    takes those of the last change of the configuration, and afterwards those that it fetches or else
    those in force.  If URIs read as themselves, it fetches none while there are some in force. -/
structure TakesInForce (past : List Happening) (v : Validation) : Prop where
  unasked : canBeAsked (eventsIn past) = false → v.fetched? = none ∧
    ∃ version, v.report = v.due (configuredAfter (eventsIn past)).maxProblems version
  asked : canBeAsked (eventsIn past) = true →
    ∃ answer version, v.fetched?.or (inForce? v.uri past) = some answer ∧
      v.report = v.due (Settings.ofFetched answer).maxProblems version
  fetches : canBeAsked (eventsIn past) = true → Rereading (eventsIn past) →
    (v.fetched?.isSome = true ↔ inForce? v.uri past = none)

section
variable {past : List Happening} {s s' : Session} {v : Validation}

theorem Validation.fetchedFor?_due (v : Validation) (limit : Nat) (version : Option Int)
    (uri : String) : (v.due limit version).fetchedFor? uri = none := by
  unfold Validation.due
  split <;> rfl

theorem takesInForce_of_validates (follows : Follows past s) (validates : Validates s v s') :
    TakesInForce past v := by
  obtain ⟨-, settings, chooses, report⟩ := validates
  have asked := follows.canBeAsked_eq
  obtain ⟨uri, fetched?, files, answer, told⟩ := v
  cases chooses with
  | global cannot =>
    have before : canBeAsked (eventsIn past) = false := asked.symm.trans cannot
    refine ⟨fun _ => ?_, by simp [before], by simp [before]⟩
    rw [follows.global before] at report
    exact ⟨rfl, _, report⟩
  | kept can found =>
    have before : canBeAsked (eventsIn past) = true := asked.symm.trans can
    obtain ⟨answered, inForce, rfl⟩ := Option.map_eq_some_iff.1 (follows.settings uri _ found)
    refine ⟨by simp [before], fun _ => ?_, fun _ _ => by simp [inForce]⟩
    exact ⟨answered, _, by simp [inForce], report⟩
  | fetched can missing answered =>
    have before : canBeAsked (eventsIn past) = true := asked.symm.trans can
    refine ⟨by simp [before], fun _ => ⟨answered, _, rfl, report⟩, fun _ rereading => ?_⟩
    simp [follows.remembers rereading uri missing]

theorem Follows.validates (follows : Follows past s) (validates : Validates s v s')
    (isOpen : Rereading (eventsIn past) → s.store.contains v.uri = true) :
    Follows (Session.recorded v.exchanges past) s' := by
  obtain ⟨-, settings, chooses, report⟩ := validates
  obtain ⟨uri, fetched?, files, answer, told⟩ := v
  -- The call of the analyzer and the report leave the settings alone.
  have rest : ∀ {past : List Happening} {s : Session}, Follows past s →
      Follows (Session.recorded [⟨.analyzer (.lint (pathOfUri uri) files), answer⟩, told] past) s := by
    intro past s follows
    refine follows.recorded ?_
    simp only [List.mem_cons, List.not_mem_nil, or_false, forall_eq_or_imp, forall_eq]
    refine ⟨fun _ => rfl, fun named => ?_⟩
    exact (congrArg _ report).trans (Validation.fetchedFor?_due ..)
  cases chooses with
  | global cannot => exact rest follows
  | kept can found => exact rest follows
  | fetched can missing answered =>
    show Follows (Session.recorded (_ :: [_, _]) past) _
    rw [recorded_cons]
    refine rest ⟨?_, follows.capabilities, follows.global, ?_, ?_, ?_⟩
    · exact (Store.documents_keepSettings ..).trans follows.documents
    · intro named settings found
      have kept := follows.settings named settings
      rw [inForce?, Exchange.fetchedFor?]
      by_cases contained : s.store.contains uri = true
      · rw [Store.settings?_keepSettings contained] at found
        by_cases same : uri = named
        · simpa [same] using found
        · simpa [same] using kept (by simpa [same] using found)
      · -- Nothing is kept, and nothing was kept for this document before.
        rw [Store.keepSettings_of_not_contains contained] at found
        have apart : uri ≠ named := by
          rintro rfl
          simp [missing] at found
        simpa [apart] using kept found
    · intro rereading named
      dsimp only
      rw [Store.settings?_keepSettings (isOpen rereading), inForce?, Exchange.fetchedFor?]
      split
      next => simp
      next => simpa using follows.remembers rereading named
    · intro cannot
      have before : canBeAsked (eventsIn past) = true := follows.canBeAsked_eq.symm.trans can
      exact absurd (before.symm.trans cannot) (by decide)

theorem Follows.validatesAll {validations : List Validation} (follows : Follows past s)
    (validates : ValidatesAll s validations s')
    (isOpen : Rereading (eventsIn past) → ∀ v ∈ validations, s.store.contains v.uri = true) :
    Follows (Session.recorded (validations.flatMap Validation.exchanges) past) s' ∧
      ∀ early v late, validations = early ++ v :: late →
        TakesInForce (Session.recorded (early.flatMap Validation.exchanges) past) v := by
  induction validates generalizing past with
  | nil s => exact ⟨follows, by simp⟩
  | cons first rest ih =>
    have followsFirst :=
      follows.validates first fun rereading => isOpen rereading _ List.mem_cons_self
    obtain ⟨followsLast, takes⟩ := ih followsFirst fun rereading v member => by
      rw [eventsIn_recorded] at rereading
      rw [Store.contains, first.documents]
      exact isOpen rereading v (List.mem_cons_of_mem _ member)
    rw [List.flatMap_cons, recorded_append]
    refine ⟨followsLast, ?_⟩
    rintro (_ | ⟨early, earlier⟩) v late split
    · cases split
      exact takesInForce_of_validates follows first
    · cases split
      rw [List.flatMap_cons, recorded_append]
      exact takes earlier v late rfl

/-! ## Runs -/

/-- What an event has changed before the first document is validated. -/
theorem Follows.effect {chapter : Chapter} (follows : Follows past s)
    (handles : Handles s chapter s') :
    ∃ s₁, Follows (.event chapter.event :: past) s₁ ∧ ValidatesAll s₁ chapter.validations s' ∧
      (Rereading (eventsIn past ++ [chapter.event]) →
        ∀ v ∈ chapter.validations, s₁.store.contains v.uri = true) := by
  cases handles with
  | connected capabilities => exact ⟨_, follows_connected follows capabilities, .nil _, by simp⟩
  | opened text version validates =>
    refine ⟨_, follows_opened follows _ text version, .cons validates (.nil _), ?_⟩
    simp [Store.contains, Store.openDocument, SortedMap.contains]
  | changed text version validates =>
    refine ⟨_, follows_changed follows _ text version, .cons validates (.nil _), ?_⟩
    simp only [List.mem_singleton, forall_eq]
    exact fun _ => Option.isSome_iff_exists.2 ⟨_, (Store.get?_update ..).trans (if_pos rfl)⟩
  | closed isOpen answer => exact ⟨_, follows_closed follows isOpen, .nil _, by simp⟩
  | notOpen shut => exact ⟨_, follows_notOpen follows shut, .nil _, by simp⟩
  | configured validates uris =>
    refine ⟨_, follows_configured follows _, validates, ?_⟩
    intro rereading v member
    have rereads : ∀ uri ∈ s.store.uris, Url.Rereads uri := by
      intro uri listed
      refine rereads_of_documents ?_ follows.documents (Store.mem_uris_iff.1 listed)
      exact fun event member => rereading event (List.mem_append_left _ member)
    rw [Url.filterMap_reread? rereads] at uris
    have listed : v.uri ∈ s.store.uris := uris ▸ List.mem_map.2 ⟨v, member, rfl⟩
    have isOpen := Store.mem_uris_iff.1 listed
    unfold Session.configured
    split <;> exact isOpen
  | passing passing quiet => exact ⟨_, follows_passing follows passing, .nil _, by simp⟩

theorem fetched?_of_not_isOfValidation {exchange : Exchange}
    (apart : exchange.question.isOfValidation = false) : exchange.fetched? = none := by
  unfold Exchange.fetched?
  split
  · cases apart
  · rfl

theorem fetchedFor?_of_fetched? {exchange : Exchange} (unfetched : exchange.fetched? = none)
    (uri : String) : exchange.fetchedFor? uri = none := by
  unfold Exchange.fetchedFor?
  split
  · cases unfetched
  · rfl

theorem Follows.handles {chapter : Chapter} (follows : Follows past s)
    (handles : Handles s chapter s') :
    Follows (Session.recorded chapter.exchanges (.event chapter.event :: past)) s' ∧
      ∀ early v late, chapter.validations = early ++ v :: late →
        TakesInForce (Session.recorded (chapter.opening ++ early.flatMap Validation.exchanges)
          (.event chapter.event :: past)) v := by
  obtain ⟨s₁, effect, validates, isOpen⟩ := follows.effect handles
  have unfetched : ∀ exchange ∈ chapter.opening, ∀ uri, exchange.fetchedFor? uri = none :=
    fun exchange member =>
      fetchedFor?_of_fetched? (fetched?_of_not_isOfValidation (handles.opening exchange member))
  have validated : Rereading (eventsIn (Session.recorded chapter.opening
      (.event chapter.event :: past))) → ∀ v ∈ chapter.validations, s₁.store.contains v.uri = true := by
    rw [eventsIn_recorded]
    exact isOpen
  obtain ⟨followsLast, takes⟩ := (effect.recorded unfetched).validatesAll validates validated
  rw [Chapter.exchanges, recorded_append]
  refine ⟨followsLast, ?_⟩
  intro early v late split
  rw [recorded_append]
  exact takes early v late split

theorem follows_of_told {stdPath : String} {chapters : List Chapter}
    (told : Told { stdPath } chapters s) : Follows (pastOf chapters) s := by
  induction told with
  | start => exact follows_start stdPath
  | next earlier handles ih =>
    rw [pastOf_snoc]
    exact (ih.handles handles).1

theorem fetchedIn_of_takesInForce (takes : TakesInForce past v)
    (cannot : canBeAsked (eventsIn past) = false) : fetchedIn v.exchanges = [] := by
  obtain ⟨unfetched, version, report⟩ := takes.unasked cannot
  have told : v.report.fetched? = none := by
    rw [report]
    unfold Validation.due
    split <;> rfl
  rw [fetchedIn, Validation.exchanges, unfetched, List.filterMap_eq_nil_iff]
  simp only [Option.map_none, Option.toList_none, List.nil_append, List.mem_cons, List.not_mem_nil,
    or_false, forall_eq_or_imp, forall_eq]
  exact ⟨rfl, told⟩

end

/-- In every run, as long as the editor cannot be asked, no settings are fetched or kept, and every
    validation shows as many problems as the last change of the configuration allows.  Once it can, and
    if URIs read as themselves, a validation fetches the settings of its document exactly if none are in
    force: no fetch has come after the last change of the configuration and the last close that found
    the document open.  It shows as many problems as the latest answer allows, whatever the
    configuration has said before. -/
theorem settings_in_force (stdPath : String) (events : List Event) (trace : List Exchange)
    (s : Session) (run : (handleAll events { stdPath }).Runs trace s) :
    (∀ events, Allows ((events.filterMap Event.configuration?).getLast?.bind (Json.field? "teo"))
      (configuredAfter events).maxProblems) ∧
    (∀ answer, Allows (saidIn answer) (Settings.ofFetched answer).maxProblems) ∧
    ∃ chapters, Chronicle { stdPath } chapters s ∧ chapters.map Chapter.event = events ∧
      chapters.flatMap Chapter.exchanges = trace ∧
      (canBeAsked events = false → ∀ uri, s.store.settings? uri = none) ∧
      ∀ before chapter after, chapters = before ++ chapter :: after →
        (canBeAsked (before.map Chapter.event ++ [chapter.event]) = false →
          fetchedIn chapter.exchanges = []) ∧
        ∀ early v late, chapter.validations = early ++ v :: late →
          TakesInForce (recorded (chapter.opening ++ early.flatMap Validation.exchanges)
            (.event chapter.event :: pastOf before)) v := by
  obtain ⟨chapters, chronicle, told, rfl, rfl⟩ := chronicle_of_runs run
  refine ⟨fun _ => allows_ofAnswer _, allows_ofFetched, chapters, chronicle, rfl, rfl, ?_, ?_⟩
  · intro cannot
    exact (follows_of_told told).unasked ((eventsIn_pastOf chapters).symm ▸ cannot)
  · intro before chapter after split
    obtain ⟨s₁, s₂, toldBefore, handles⟩ := told.chapter split
    obtain ⟨-, takes⟩ := (follows_of_told toldBefore).handles handles
    refine ⟨?_, takes⟩
    intro cannot
    have unfetched : ∀ v ∈ chapter.validations, fetchedIn v.exchanges = [] := by
      intro v member
      obtain ⟨early, late, split⟩ := List.append_of_mem member
      refine fetchedIn_of_takesInForce (takes early v late split) ?_
      rw [eventsIn_recorded, eventsIn, eventsIn_pastOf]
      exact cannot
    rw [fetchedIn, Chapter.exchanges, List.filterMap_append, List.filterMap_flatMap,
      List.append_eq_nil_iff, List.filterMap_eq_nil_iff, List.flatMap_eq_nil_iff]
    exact ⟨fun exchange member => fetched?_of_not_isOfValidation (handles.opening exchange member),
      unfetched⟩

/-- An editor whose user wants to see three problems, beside an analyzer that is down. -/
def frugal : (question : Question) → StateM Unit question.Answer
  | .client (.fetchSettings _) =>
    pure (.answered (some (.object [("maxNumberOfProblems", .nat 3)])))
  | question => Program.outage question

def reconfigured : List Event :=
  [.configurationChanged (.object [("teo", .object [("maxNumberOfProblems", .nat 5)])]),
    .connected { workspaceConfiguration := true }, .opened "file:///a" "one" 1,
    .changed "file:///a" "two" 2, .configurationChanged .null, .closed "file:///a",
    .opened "file:///a" "three" 1]

/-- The document is validated four times and its settings are fetched for all but the change. -/
theorem settings_in_force_reconfigured :
    ∃ (trace : List Exchange) (s : Session) (chapters : List Chapter),
      (handleAll reconfigured { stdPath := "/std" }).Runs trace s ∧
      (fetchedIn trace).length = 3 ∧ s.globalSettings = ⟨5⟩ ∧
      s.store.settings? "file:///a" = some ⟨3⟩ ∧
      Chronicle { stdPath := "/std" } chapters s ∧ chapters.map Chapter.event = reconfigured ∧
      Rereading reconfigured ∧
      ∀ before chapter after, chapters = before ++ chapter :: after →
        ∀ early v late, chapter.validations = early ++ v :: late →
          TakesInForce (recorded (chapter.opening ++ early.flatMap Validation.exchanges)
            (.event chapter.event :: pastOf before)) v := by
  have rereading : Rereading reconfigured := by
    intro event member uri names
    have same : ∀ event ∈ reconfigured, ∀ uri ∈ event.uri?, uri = "file:///a" := by decide
    rw [same event member uri names]
    exact ⟨_, rfl, rfl⟩
  have run := Program.runs_transcript frugal (handleAll reconfigured { stdPath := "/std" }) ()
  obtain ⟨-, -, chapters, chronicle, events, -, -, takes⟩ := settings_in_force _ _ _ _ run
  refine ⟨_, _, chapters, run, rfl, rfl, rfl, chronicle, events, rereading, ?_⟩
  intro before chapter after split
  exact (takes before chapter after split).2

end Session

end SchemaServer
