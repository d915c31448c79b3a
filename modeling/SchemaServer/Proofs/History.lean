import SchemaServer.Proofs.Runs
import SchemaServer.Proofs.Stores
import SchemaServer.Session

/-! # Sessions follow the history of their events

The documents that a session holds are a function of the events alone: the last event that opens,
changes or closes a document decides what is left of it.  `documentsAfter` is that function, said
without the store.

* `handle_always` says once, for all ten kinds of events, what handling an event does: the store
  is updated before the first call that carries a snapshot, and nothing that fails afterwards takes
  the update back.
* `documents_of_run` carries it over to runs of any length. -/

namespace SchemaServer.Session

/-! ## What events leave of a document -/

/-- The document that an event is about. -/
def Event.uri? : Event → Option String
  | .opened uri _ _ | .changed uri _ _ | .closed uri | .definition uri _ | .completion uri _
  | .format uri => some uri
  | .connected _ | .initialized | .configurationChanged _ | .watchedFilesChanged => none

/-- What an event leaves of a document: a text and a version, or nothing if it closes it.  An event
    that does not open, change or close the document has no say. -/
def Event.leaves? (uri : String) : Event → Option (Option (String × Int))
  | .opened named text version | .changed named text version =>
    if named = uri then some (some (text, version)) else none
  | .closed named => if named = uri then some none else none
  | .connected _ | .initialized | .configurationChanged _ | .watchedFilesChanged
  | .definition .. | .completion .. | .format _ => none

/-- The text and the version of a document after some events, if it is open then: the last event
    that has a say decides. -/
def contentAfter (events : List Event) (uri : String) : Option (String × Int) :=
  (events.filterMap (Event.leaves? uri)).getLast?.join

/-- The document with a URI after some events. -/
def documentAfter? (events : List Event) (uri : String) : Option Document :=
  (contentAfter events uri).map fun (text, version) => ⟨uri, text, some version⟩

/-- The open documents after some events. -/
def documentsAfter (events : List Event) : SortedMap Document :=
  .ofList ((events.filterMap Event.uri?).filterMap fun uri =>
    (documentAfter? events uri).map fun document => (uri, document))

theorem contentAfter_snoc (events : List Event) (event : Event) (uri : String) :
    contentAfter (events ++ [event]) uri =
      match event.leaves? uri with
      | some content => content
      | none => contentAfter events uri := by
  unfold contentAfter
  rw [List.filterMap_append]
  cases said : event.leaves? uri with
  | none => simp [said]
  | some content => simp [said]

/-- Only events about a document have a say on it. -/
theorem uri?_of_leaves? {uri : String} {event : Event} {content : Option (String × Int)}
    (said : event.leaves? uri = some content) : event.uri? = some uri := by
  cases event with
  | opened named _ _ | changed named _ _ | closed named =>
    simp only [Event.leaves?] at said
    split at said
    next same => exact congrArg some same
    next => cases said
  | connected _ | initialized | configurationChanged _ | watchedFilesChanged | definition _ _
  | completion _ _ | format _ => cases said

theorem exists_named_of_contentAfter {events : List Event} {uri : String} {content : String × Int}
    (left : contentAfter events uri = some content) : uri ∈ events.filterMap Event.uri? := by
  unfold contentAfter at left
  cases decided : (events.filterMap (Event.leaves? uri)).getLast? with
  | none => simp [decided] at left
  | some last =>
    obtain ⟨event, member, said⟩ := List.mem_filterMap.1 (List.mem_of_getLast? decided)
    exact List.mem_filterMap.2 ⟨event, member, uri?_of_leaves? said⟩

/-- The reference map holds what the events leave of each document. -/
theorem get?_documentsAfter (events : List Event) (uri : String) :
    (documentsAfter events).get? uri = documentAfter? events uri := by
  apply Option.ext
  intro document
  rw [documentsAfter, SortedMap.get?_ofList_eq_some_iff]
  · constructor
    · intro member
      obtain ⟨named, -, entry⟩ := List.mem_filterMap.1 member
      obtain ⟨found, left, same⟩ := Option.map_eq_some_iff.1 entry
      cases same
      exact left
    · intro left
      obtain ⟨content, decided, -⟩ := Option.map_eq_some_iff.1 left
      refine List.mem_filterMap.2 ⟨uri, exists_named_of_contentAfter decided, ?_⟩
      rw [left]
      rfl
  · intro other otherMember member
    obtain ⟨_, -, otherEntry⟩ := List.mem_filterMap.1 otherMember
    obtain ⟨_, -, entry⟩ := List.mem_filterMap.1 member
    obtain ⟨_, otherLeft, sameOther⟩ := Option.map_eq_some_iff.1 otherEntry
    obtain ⟨_, left, same⟩ := Option.map_eq_some_iff.1 entry
    cases sameOther
    cases same
    exact Option.some.inj (otherLeft.symm.trans left)

/-! ## What handling an event does -/

/-- The store once an event has taken effect on it. -/
def Event.updated (store : Store) : Event → Store
  | .opened uri text version => store.openDocument uri text version
  | .changed uri text version => store.update uri text version
  | .closed uri => store.close uri
  | .connected _ | .initialized | .configurationChanged _ | .watchedFilesChanged
  | .definition .. | .completion .. | .format _ => store

/-- A question that carries this snapshot, if it carries any. -/
def Carries (snapshot : Snapshot) : Question → Prop
  | .analyzer call => ∀ files, call.files? = some files → files = snapshot
  | .client _ => True

variable (snapshot : Snapshot)

/-- Telling the editor something leaves the session as it is. -/
theorem tell_always (call : Client.Call) (s : Session) :
    (s.tell call).Always (Carries snapshot) (· = s) :=
  ⟨trivial, fun _ => rfl⟩

/-- A call that carries the snapshot, and whatever is made of its answer. -/
theorem callAnalyzer_always {α : Type} {call : Analyzer.Call}
    (carries : ∀ files, call.files? = some files → files = snapshot)
    (read : Analyzer.Outcome call.Answer → α) :
    (do return read (← Program.callAnalyzer call) : Program α).Always (Carries snapshot)
      (fun _ => True) :=
  ⟨carries, fun _ => trivial⟩

/-- Looking up settings, fetched or not, leaves the documents alone. -/
theorem documentSettings_always (uri : String) (s : Session) :
    (s.documentSettings uri).Always (Carries snapshot)
      (fun r => r.2.store.documents = s.store.documents) := by
  unfold documentSettings
  split
  · cases s.store.settings? uri with
    | some settings => exact rfl
    | none => exact ⟨trivial, fun _ => Store.documents_keepSettings ..⟩
  · exact rfl

variable {snapshot}

theorem validateAndPublish_always {uri : String} {s : Session}
    (captured : Snapshot.capture s.store = snapshot) :
    (s.validateAndPublish uri).Always (Carries snapshot)
      (fun s' => s'.store.documents = s.store.documents) := by
  refine Program.always_bind (documentSettings_always snapshot uri s) ?_
  rintro ⟨settings, s'⟩ (same : s'.store.documents = s.store.documents)
  refine Program.always_bind (callAnalyzer_always snapshot ?_ _) ?_
  · rintro files ⟨⟩
    exact (Snapshot.capture_congr same).trans captured
  · intro outcome _
    -- Published or logged, the session is the one that the settings left.
    cases outcome with
    | ok diagnostics => exact ⟨trivial, fun _ => same⟩
    | error failure => exact ⟨trivial, fun _ => same⟩

theorem validateAll_always {uris : List String} {s : Session}
    (captured : Snapshot.capture s.store = snapshot) :
    (validateAll uris s).Always (Carries snapshot)
      (fun s' => s'.store.documents = s.store.documents) := by
  induction uris generalizing s with
  | nil => exact rfl
  | cons uri uris ih =>
    refine Program.always_bind (validateAndPublish_always captured) ?_
    intro s' same
    have rest := ih ((Snapshot.capture_congr same).trans captured)
    rw [same] at rest
    exact rest

theorem close_always (uri : String) (s : Session) :
    (s.close uri).Always (Carries snapshot)
      (fun s' => s'.store.documents = (s.store.close uri).documents) := by
  unfold close
  split
  next =>
    have evicted : (Gateway.removeCachedSchema uri).Always (Carries snapshot) (fun _ => True) :=
      ⟨by rintro files ⟨⟩, fun _ => trivial⟩
    exact Program.always_bind evicted fun _ _ => ⟨trivial, fun _ => rfl⟩
  next absent =>
    exact (Store.documents_close_of_not_contains (Bool.eq_false_iff.2 absent)).symm

theorem changeConfiguration_always {settings : Json} {s : Session}
    (captured : Snapshot.capture s.store = snapshot) :
    (s.changeConfiguration settings).Always (Carries snapshot)
      (fun s' => s'.store.documents = s.store.documents) := by
  refine Program.always_bind (tell_always snapshot _ s) ?_
  rintro s' rfl
  -- Settings forgotten or replaced, the documents are those from before.
  split
  next => exact validateAll_always (s := { s' with store := s'.store.forgetSettings }) captured
  next =>
    exact validateAll_always (s := { s' with
      globalSettings := .ofAnswer (settings.field? Settings.configurationSection) }) captured

theorem format_always {uri : String} {s : Session}
    (captured : Snapshot.capture s.store = snapshot) :
    (s.format uri).Always (Carries snapshot) (fun _ => True) := by
  unfold format
  cases s.store.get? uri with
  | none => trivial
  | some document =>
    refine callAnalyzer_always snapshot ?_ _
    rintro files ⟨⟩
    exact captured

/-- Whatever the answers, handling an event asks with a snapshot of the store that the event has
    updated, and ends with the documents of that store. -/
theorem handle_always (s : Session) (event : Event) :
    (s.handle event).Always (Carries (.capture (event.updated s.store)))
      (fun r => r.2.store.documents = (event.updated s.store).documents) := by
  cases event with
  | connected capabilities => exact rfl
  | initialized =>
    have greeted : s.initialized.Always (Carries (.capture s.store)) (· = s) := by
      unfold initialized
      split
      · exact ⟨trivial, fun _ => ⟨trivial, fun _ => rfl⟩⟩
      · exact ⟨trivial, fun _ => rfl⟩
    exact Program.always_bind greeted fun _ same => same ▸ rfl
  | opened uri text version =>
    exact Program.always_bind (validateAndPublish_always rfl) fun _ same => same
  | changed uri text version =>
    exact Program.always_bind (validateAndPublish_always rfl) fun _ same => same
  | closed uri => exact Program.always_bind (close_always uri s) fun _ same => same
  | configurationChanged settings =>
    exact Program.always_bind (changeConfiguration_always rfl) fun _ same => same
  | watchedFilesChanged => exact ⟨trivial, fun _ => rfl⟩
  | definition uri position =>
    refine Program.always_bind (callAnalyzer_always _ ?_ _) fun _ _ => rfl
    rintro files ⟨⟩
    rfl
  | completion uri position =>
    refine Program.always_bind (callAnalyzer_always _ ?_ _) fun _ _ => rfl
    rintro files ⟨⟩
    rfl
  | format uri => exact Program.always_bind (format_always rfl) fun _ _ => rfl

/-! ## Runs -/

/-- A document after some events has the URI it is stored under. -/
theorem uri_documentAfter? {events : List Event} {uri : String} {document : Document}
    (found : documentAfter? events uri = some document) : document.uri = uri := by
  obtain ⟨content, -, rfl⟩ := Option.map_eq_some_iff.1 found
  rfl

/-- An event updates a store that follows the history into one that follows it one event longer. -/
theorem get?_updated {store : Store} {events : List Event}
    (follows : ∀ uri, store.get? uri = documentAfter? events uri) (event : Event) (uri : String) :
    (event.updated store).get? uri = documentAfter? (events ++ [event]) uri := by
  rw [documentAfter?, contentAfter_snoc]
  cases event with
  | opened named text version =>
    simp only [Event.updated, Store.get?_openDocument, Event.leaves?]
    split
    next same => simp [same]
    next => exact follows uri
  | changed named text version =>
    -- The URI is kept from the document that was open before, which is the one it is stored under.
    have kept : ((store.get? named).map Document.uri).getD named = named := by
      cases found : store.get? named with
      | none => rfl
      | some document => exact uri_documentAfter? (follows named ▸ found)
    simp only [Event.updated, Store.get?_update, Event.leaves?, kept]
    split
    next same => simp [same]
    next => exact follows uri
  | closed named =>
    simp only [Event.updated, Store.get?_close, Event.leaves?]
    split
    next => rfl
    next => exact follows uri
  | connected _ | initialized | configurationChanged _ | watchedFilesChanged | definition _ _
  | completion _ _ | format _ => exact follows uri

theorem documents_updated {store : Store} {events : List Event}
    (follows : store.documents = documentsAfter events) (event : Event) :
    (event.updated store).documents = documentsAfter (events ++ [event]) := by
  apply SortedMap.ext_get?
  intro uri
  rw [get?_documentsAfter]
  refine get?_updated (fun other => ?_) event uri
  rw [Store.get?, follows, get?_documentsAfter]

/-- A session that follows the history still does after any run over further events. -/
theorem documents_of_run {before events : List Event} {s s' : Session} {trace : List Exchange}
    (follows : s.store.documents = documentsAfter before)
    (run : (handleAll events s).Runs trace s') :
    s'.store.documents = documentsAfter (before ++ events) := by
  induction events generalizing before s trace with
  | nil =>
    obtain ⟨-, rfl⟩ := Program.runs_done_iff.1 run
    simpa using follows
  | cons event events ih =>
    obtain ⟨_, _, ⟨_, middle⟩, -, first, rest⟩ := Program.runs_bind_iff.1 run
    have handled : middle.store.documents = documentsAfter (before ++ [event]) :=
      ((handle_always s event).of_runs first).trans (documents_updated follows event)
    simpa using ih handled rest

end SchemaServer.Session
