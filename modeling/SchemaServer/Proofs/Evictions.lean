import SchemaServer.Proofs.Logs
import SchemaServer.Proofs.Paths

/-! # Every document that was opened is evicted once

The analyzer is told to forget a document when it is closed while open, and only then.  So the
evictions of a document and the times it was opened balance, and between two evictions it has been
opened or changed.  After an eviction, failed or not, no problems are asked for until then either.

* `countP_evicts_of_leads` counts the evictions of a document while one event is handled, wherever
  the handling stands.
* `open_of_lints` says that problems are asked for open documents only.
* `exists_opens_between` says that a document is opened between a time when it is not open and a
  later one when it is.

A call is on behalf of the document whose path it names; URLs that the server accepts do not share
paths. -/

namespace SchemaServer

def Question.evicts (uri : String) : Question → Bool
  | .analyzer (.removeCachedSchema path) => path == pathOfUri uri
  | _ => false

def Question.lints (uri : String) : Question → Bool
  | .analyzer (.lint path _) => path == pathOfUri uri
  | _ => false

namespace Session

open Program (askedUpTo)

/-! ## When a document is open -/

/-- Whether an event opens or changes a document. -/
def Event.opens (uri : String) : Event → Bool
  | .opened named _ _ | .changed named _ _ => named == uri
  | _ => false

def Event.closes (uri : String) : Event → Bool
  | .closed named => named == uri
  | _ => false

theorem Event.opens_of_closes {event : Event} {uri : String} (closes : event.closes uri = true) :
    event.opens uri = false := by
  cases event with
  | closed named => rfl
  | connected _ | initialized | opened _ _ _ | changed _ _ _ | configurationChanged _
  | watchedFilesChanged | definition _ _ | completion _ _ | format _ => cases closes

def isOpenAfter (events : List Event) (uri : String) : Bool := (contentAfter events uri).isSome

theorem isOpenAfter_snoc (events : List Event) (event : Event) (uri : String) :
    isOpenAfter (events ++ [event]) uri =
      if event.opens uri then true else if event.closes uri then false
      else isOpenAfter events uri := by
  unfold isOpenAfter
  rw [contentAfter_snoc]
  cases event with
  | opened named _ _ | changed named _ _ =>
    by_cases same : named = uri <;> simp [Event.leaves?, Event.opens, Event.closes, same]
  | closed named =>
    by_cases same : named = uri <;> simp [Event.leaves?, Event.opens, Event.closes, same]
  | connected _ | initialized | configurationChanged _ | watchedFilesChanged | definition _ _
  | completion _ _ | format _ => rfl

theorem contains_eq {store : Store} {events : List Event}
    (follows : store.documents = documentsAfter events) (uri : String) :
    store.contains uri = isOpenAfter events uri := by
  rw [Store.contains, follows, SortedMap.contains, get?_documentsAfter, documentAfter?, isOpenAfter,
    Option.isSome_map]

theorem isOpenAfter_take_succ {events : List Event} {n : Nat} {event : Event}
    (found : events[n]? = some event) (uri : String) :
    isOpenAfter (events.take (n + 1)) uri =
      if event.opens uri then true else if event.closes uri then false
      else isOpenAfter (events.take n) uri := by
  rw [List.take_add_one, found, Option.toList_some, isOpenAfter_snoc]

theorem exists_opens_between {events : List Event} {uri : String} {m n : Nat} (le : m ≤ n)
    (shut : isOpenAfter (events.take m) uri = false)
    (isOpen : isOpenAfter (events.take n) uri = true) :
    ∃ k, m ≤ k ∧ k < n ∧ events[k]?.any (·.opens uri) = true := by
  induction n with
  | zero =>
    obtain rfl : m = 0 := Nat.le_zero.1 le
    rw [shut] at isOpen
    cases isOpen
  | succ n ih =>
    have reached : m ≠ n + 1 := by
      rintro rfl
      rw [shut] at isOpen
      cases isOpen
    have later : m ≤ n := by omega
    -- Either the last event opens it, or it was open before that.
    cases found : events[n]? with
    | none =>
      rw [List.take_add_one, found, Option.toList_none, List.append_nil] at isOpen
      obtain ⟨k, above, below, opens⟩ := ih later isOpen
      exact ⟨k, above, by omega, opens⟩
    | some event =>
      rw [isOpenAfter_take_succ found] at isOpen
      cases opens : event.opens uri with
      | true => exact ⟨n, later, by omega, by simp [found, opens]⟩
      | false =>
        have before : isOpenAfter (events.take n) uri = true := by
          simp only [opens, Bool.false_eq_true, if_false] at isOpen
          split at isOpen
          · cases isOpen
          · exact isOpen
        obtain ⟨k, above, below, opensAt⟩ := ih later before
        exact ⟨k, above, by omega, opensAt⟩

/-! ## Lints and evictions of one event -/

/-- A question that asks for the problems of these documents only, and evicts none. -/
def Within (documents : String → Prop) : Question → Prop
  | .analyzer (.lint path _) => ∃ uri, documents uri ∧ path = pathOfUri uri
  | .analyzer (.removeCachedSchema _) => False
  | _ => True

section
variable {documents : String → Prop} {s : Session} {uri : String}

theorem documentSettings_within (uri : String) (s : Session) :
    (s.documentSettings uri).Always (Within documents) (fun _ => True) := by
  unfold documentSettings
  split
  · cases s.store.settings? uri with
    | some settings => trivial
    | none => exact ⟨trivial, fun _ => trivial⟩
  · trivial

theorem validateAndPublish_within (named : documents uri) (s : Session) :
    (s.validateAndPublish uri).Always (Within documents) (fun _ => True) := by
  refine Program.always_bind (documentSettings_within uri s) ?_
  rintro ⟨settings, s'⟩ -
  have validated : (Gateway.validate uri s'.store).Always (Within documents) (fun _ => True) :=
    ⟨⟨uri, named, rfl⟩, fun _ => trivial⟩
  refine Program.always_bind validated ?_
  rintro (failure | diagnostics) -
  · exact ⟨trivial, fun _ => trivial⟩
  · exact ⟨trivial, fun _ => trivial⟩

theorem validateAll_within {uris : List String} (named : ∀ uri ∈ uris, documents uri) (s : Session) :
    (validateAll uris s).Always (Within documents) (fun _ => True) := by
  induction uris generalizing s with
  | nil => trivial
  | cons uri uris ih =>
    refine Program.always_bind (validateAndPublish_within (named uri List.mem_cons_self) s) ?_
    intro s' _
    exact ih (fun uri member => named uri (List.mem_cons_of_mem _ member)) s'

theorem changeConfiguration_within (settings : Json)
    (named : ∀ uri ∈ s.store.uris.filterMap Url.reread?, documents uri) :
    (s.changeConfiguration settings).Always (Within documents) (fun _ => True) := by
  have told : (s.tell (.log .info "Configuration changed.")).Always (Within documents) (· = s) :=
    ⟨trivial, fun _ => rfl⟩
  refine Program.always_bind told ?_
  rintro s' rfl
  split
  · exact validateAll_within named _
  · exact validateAll_within named _

/-- An event that closes nothing has problems listed for documents that are open after it, under their
    own URIs or under those that these read as, and evicts none. -/
theorem handle_within {event : Event} (keeps : ∀ uri, event ≠ .closed uri)
    (named : ∀ uri, (event.updated s.store).contains uri = true →
      documents uri ∧ ∀ written, Url.reread? uri = some written → documents written) :
    (s.handle event).Always (Within documents) (fun _ => True) := by
  cases event with
  | connected capabilities => trivial
  | initialized =>
    have greeted : s.initialized.Always (Within documents) (fun _ => True) := by
      unfold initialized
      split
      · exact ⟨trivial, fun _ => ⟨trivial, fun _ => trivial⟩⟩
      · exact ⟨trivial, fun _ => trivial⟩
    exact Program.always_bind greeted fun _ _ => trivial
  | opened uri text version =>
    refine Program.always_bind (validateAndPublish_within (named uri ?_).1 _) fun _ _ => trivial
    simp [Event.updated, Store.contains, Store.openDocument, SortedMap.contains]
  | changed uri text version =>
    refine Program.always_bind (validateAndPublish_within (named uri ?_).1 _) fun _ _ => trivial
    have found := Store.get?_update s.store uri text uri version
    rw [if_pos rfl] at found
    exact Option.isSome_iff_exists.2 ⟨_, found⟩
  | closed uri => exact absurd rfl (keeps uri)
  | configurationChanged settings =>
    refine Program.always_bind (changeConfiguration_within settings ?_) fun _ _ => trivial
    intro written member
    obtain ⟨uri, listed, read⟩ := List.mem_filterMap.1 member
    exact (named uri (Store.mem_uris_iff.1 listed)).2 written read
  | watchedFilesChanged => exact ⟨trivial, fun _ => trivial⟩
  | definition uri position => exact ⟨trivial, fun _ => trivial⟩
  | completion uri position => exact ⟨trivial, fun _ => trivial⟩
  | format uri =>
    have laidOut : (s.format uri).Always (Within documents) (fun _ => True) := by
      unfold format
      cases s.store.get? uri with
      | none => trivial
      | some document => exact ⟨trivial, fun _ => trivial⟩
    exact Program.always_bind laidOut fun _ _ => trivial

variable {exchanges : List Exchange}

theorem asked_of_closed {rest : Program (Unit × Session)} (isOpen : s.store.contains uri = true)
    (path : (s.handle (.closed uri)).Leads exchanges rest) :
    ∃ told, askedUpTo exchanges rest = .analyzer (.removeCachedSchema (pathOfUri uri)) :: told ∧
      ∀ question ∈ told, ∃ call, question = .client call := by
  have shape : s.handle (.closed uri) =
      .ask (.analyzer (.removeCachedSchema (pathOfUri uri))) fun _ =>
        .ask (.client (.publish uri [] none)) fun _ =>
          .done ((), { s with store := s.store.close uri }) := by
    simp only [handle, close, isOpen, if_true]
    rfl
  rw [shape] at path
  cases path with
  | rest => exact ⟨[], rfl, by simp⟩
  | step answer tail =>
    cases tail with
    | rest => exact ⟨[_], rfl, by simp⟩
    | step answer tail =>
      obtain ⟨rfl, rfl⟩ := Program.leads_done_iff.1 tail
      exact ⟨[_], rfl, by simp⟩

theorem asked_of_not_open {rest : Program (Unit × Session)} (shut : s.store.contains uri = false)
    (path : (s.handle (.closed uri)).Leads exchanges rest) : askedUpTo exchanges rest = [] := by
  have shape : s.handle (.closed uri) = .done ((), s) := by
    simp only [handle, close, shut, Bool.false_eq_true, if_false]
    rfl
  rw [shape] at path
  obtain ⟨rfl, rfl⟩ := Program.leads_done_iff.1 path
  rfl

theorem Within.not_evicts {question : Question} (within : Within documents question)
    (uri : String) : question.evicts uri = false := by
  unfold Question.evicts
  split
  · exact within.elim
  · rfl

theorem countP_evicts_of_leads {before : List Event} {event : Event}
    {rest : Program (event.Reply × Session)}
    (follows : s.store.documents = documentsAfter before)
    (named : ∀ other, event.uri? = some other → Url.Accepted other) (accepted : Url.Accepted uri)
    (path : (s.handle event).Leads exchanges rest) :
    (askedUpTo exchanges rest).countP (Question.evicts uri) =
      if event.closes uri && isOpenAfter before uri then 1 else 0 := by
  rw [← contains_eq follows]
  by_cases closing : ∃ other, event = .closed other
  · obtain ⟨other, rfl⟩ := closing
    cases isOpen : s.store.contains other with
    | false =>
      rw [asked_of_not_open isOpen path]
      by_cases same : other = uri
      · subst same
        simp [isOpen]
      · simp [Event.closes, same]
    | true =>
      obtain ⟨told, asked, toEditor⟩ := asked_of_closed isOpen path
      have none_told : told.countP (Question.evicts uri) = 0 := by
        rw [List.countP_eq_zero]
        intro question member
        obtain ⟨call, rfl⟩ := toEditor question member
        exact Bool.false_ne_true
      rw [asked, List.countP_cons, none_told]
      by_cases same : other = uri
      · subst same
        simp [Question.evicts, Event.closes, isOpen]
      · -- The path of another document is another path.
        have apart : pathOfUri other ≠ pathOfUri uri :=
          fun paths => same ((named other rfl).eq_of_pathOfUri accepted paths)
        simp [Question.evicts, Event.closes, apart, same]
  · have keeps : ∀ other, event ≠ .closed other := fun other is => closing ⟨other, is⟩
    have none_asked : (askedUpTo exchanges rest).countP (Question.evicts uri) = 0 := by
      rw [List.countP_eq_zero]
      intro question member
      have anything : (s.handle event).Always (Within fun _ => True) (fun _ => True) :=
        handle_within keeps fun _ _ => ⟨trivial, fun _ _ => trivial⟩
      simp [(anything.of_asked path question member).not_evicts uri]
    have notClosing : event.closes uri = false := by
      cases event with
      | closed other => exact absurd rfl (keeps other)
      | connected _ | initialized | opened _ _ _ | changed _ _ _ | configurationChanged _
      | watchedFilesChanged | definition _ _ | completion _ _ | format _ => rfl
    simp [none_asked, notClosing]

theorem open_of_lints {before : List Event} {event : Event}
    {rest : Program (event.Reply × Session)} {question : Question}
    (follows : s.store.documents = documentsAfter before)
    (rereading : Rereading (before ++ [event])) (accepted : Url.Accepted uri) (path : (s.handle event).Leads exchanges rest)
    (member : question ∈ askedUpTo exchanges rest) (lints : question.lints uri = true) :
    isOpenAfter (before ++ [event]) uri = true := by
  by_cases closing : ∃ other, event = .closed other
  · -- Closing a document asks for no problems.
    obtain ⟨other, rfl⟩ := closing
    cases isOpen : s.store.contains other with
    | false =>
      rw [asked_of_not_open isOpen path] at member
      cases member
    | true =>
      obtain ⟨told, asked, toEditor⟩ := asked_of_closed isOpen path
      rw [asked] at member
      rcases List.mem_cons.1 member with rfl | later
      · cases lints
      · obtain ⟨call, rfl⟩ := toEditor question later
        cases lints
  · have keeps : ∀ other, event ≠ .closed other := fun other is => closing ⟨other, is⟩
    have updated := documents_updated follows event
    have rereads : ∀ other, (event.updated s.store).contains other = true → Url.Rereads other :=
      fun _ isOpen => rereads_of_documents rereading updated isOpen
    have openOnly : (s.handle event).Always
        (Within fun other => (event.updated s.store).contains other = true) (fun _ => True) := by
      refine handle_within keeps fun other isOpen => ⟨isOpen, fun written read => ?_⟩
      rw [(rereads other isOpen).reread?_eq] at read
      exact Option.some.inj read ▸ isOpen
    have within := openOnly.of_asked path question member
    unfold Question.lints at lints
    split at lints
    next linted files =>
      obtain ⟨other, isOpen, rfl⟩ := within
      have paths : pathOfUri other = pathOfUri uri := by simpa using lints
      rw [(rereads other isOpen).accepted.eq_of_pathOfUri accepted paths] at isOpen
      rwa [contains_eq updated] at isOpen
    next => cases lints

end

/-! ## Logs -/

def Moment.evicts (uri : String) (moment : Moment) : Bool := moment.asked.any (Question.evicts uri)

def Moment.lints (uri : String) (moment : Moment) : Bool := moment.asked.any (Question.lints uri)

/-- How often a document goes from not open to open during the first `n` events. -/
def openings (events : List Event) (uri : String) (n : Nat) : Nat :=
  (List.range n).countP fun i =>
    !isOpenAfter (events.take i) uri && isOpenAfter (events.take (i + 1)) uri

/-- What every moment of a log has to do with a document. -/
structure Accounted (log : List Moment) (uri : String) : Prop where
  evictions : ∀ i moment, log[i]? = some moment →
    moment.asked.countP (Question.evicts uri) =
      if moment.event.closes uri && isOpenAfter ((log.map Moment.event).take i) uri then 1 else 0
  lints : Rereading (log.map Moment.event) → ∀ i moment, log[i]? = some moment →
    moment.lints uri = true → isOpenAfter ((log.map Moment.event).take (i + 1)) uri = true

theorem Unfolds.accounted {stdPath : String} {log : List Moment} {uri : String}
    (unfolds : Unfolds { stdPath } log)
    (named : ∀ event ∈ log.map Moment.event, ∀ other, event.uri? = some other → Url.Accepted other)
    (accepted : Url.Accepted uri) : Accounted log uri := by
  have start : ({ stdPath : Session }).store.documents = documentsAfter [] := rfl
  constructor
  · intro i moment found
    obtain ⟨s, exchanges, rest, follows, path, asked⟩ := unfolds.moment start found
    rw [asked, ← List.map_take]
    refine countP_evicts_of_leads follows (named _ ?_) accepted path
    exact List.mem_map.2 ⟨moment, List.mem_of_getElem? found, rfl⟩
  · intro rereading i moment found lints
    obtain ⟨s, exchanges, rest, follows, path, asked⟩ := unfolds.moment start found
    obtain ⟨question, member, lints⟩ := List.any_eq_true.1 lints
    have upTo : (log.map Moment.event).take (i + 1) =
        (log.take i).map Moment.event ++ [moment.event] := by
      rw [List.take_add_one, List.getElem?_map, found, List.map_take]
      rfl
    rw [upTo]
    refine open_of_lints follows ?_ accepted path (asked ▸ member) lints
    intro earlier found
    exact rereading earlier (List.mem_of_mem_take (upTo ▸ found))

section
variable {log : List Moment} {uri : String} {i j : Nat}

/-- An eviction comes with a close of an open document. -/
theorem Accounted.of_evicts (accounted : Accounted log uri)
    (evicts : log[i]?.any (Moment.evicts uri) = true) :
    log[i]?.any (·.event.closes uri) = true ∧
      isOpenAfter ((log.map Moment.event).take i) uri = true := by
  obtain ⟨moment, found, evicts⟩ := (Option.any_eq_true _ _).1 evicts
  have counted := accounted.evictions i moment found
  have positive : 0 < moment.asked.countP (Question.evicts uri) := by
    rw [List.countP_pos_iff]
    exact List.any_eq_true.1 evicts
  split at counted
  next both =>
    obtain ⟨closes, isOpen⟩ := (Bool.and_eq_true _ _).mp both
    exact ⟨by simp [found, closes], isOpen⟩
  next => omega

theorem isOpenAfter_of_closes (closes : log[i]?.any (·.event.closes uri) = true) :
    isOpenAfter ((log.map Moment.event).take (i + 1)) uri = false := by
  obtain ⟨moment, found, closes⟩ := (Option.any_eq_true _ _).1 closes
  have event : (log.map Moment.event)[i]? = some moment.event := by simp [found]
  simp [isOpenAfter_take_succ event, Event.opens_of_closes closes, closes]

theorem exists_opens_in_log {m n : Nat} (le : m ≤ n)
    (shut : isOpenAfter ((log.map Moment.event).take m) uri = false)
    (isOpen : isOpenAfter ((log.map Moment.event).take n) uri = true) :
    ∃ k, m ≤ k ∧ k < n ∧ log[k]?.any (·.event.opens uri) = true := by
  obtain ⟨k, above, below, opens⟩ := exists_opens_between le shut isOpen
  refine ⟨k, above, below, ?_⟩
  rwa [List.getElem?_map, Option.any_map] at opens

/-- Evictions and openings balance at every moment. -/
theorem Accounted.balance (accounted : Accounted log uri) {n : Nat} (upTo : n ≤ log.length) :
    openings (log.map Moment.event) uri n =
      ((log.take n).flatMap Moment.asked).countP (Question.evicts uri) +
        if isOpenAfter ((log.map Moment.event).take n) uri then 1 else 0 := by
  induction n with
  | zero => simp [openings, isOpenAfter, contentAfter]
  | succ n ih =>
    have found : log[n]? = some log[n] := List.getElem?_eq_getElem upTo
    have event : (log.map Moment.event)[n]? = some log[n].event := by simp [found]
    have before := ih (by omega)
    have evictions := accounted.evictions n log[n] found
    rw [openings, List.range_succ, List.countP_append, ← openings, before, List.take_add_one, found,
      Option.toList_some, List.flatMap_append, List.flatMap_singleton, List.countP_append, evictions,
      List.countP_singleton, isOpenAfter_take_succ event]
    -- An event that closes a document does not open it, so one of the two sides moves at most.
    cases closes : log[n].event.closes uri with
    | true =>
      cases isOpen : isOpenAfter ((log.map Moment.event).take n) uri <;>
        simp [Event.opens_of_closes closes]
    | false =>
      cases log[n].event.opens uri <;>
        cases isOpen : isOpenAfter ((log.map Moment.event).take n) uri <;> simp

end

/-- In every run, finished or not and whatever the analyzer and the editor answer, a document is
    evicted once by each close that finds it open, and by nothing else.  So an event that opens or
    changes it comes before every eviction and between any two of them.  If URIs read as themselves, one
    also comes between a close and the next time that the problems of the document are asked for.  When
    the run is over, the times the document went from not open to open are its evictions, and one more
    if it is open. -/
theorem evictions_balance_openings (stdPath : String) (events : List Event)
    (named : ∀ event ∈ events, ∀ uri, event.uri? = some uri → Url.Accepted uri)
    (trace : List Exchange) (rest : Program Session)
    (path : (handleAll events { stdPath }).Leads trace rest) :
    ∃ log : List Moment, Unfolds { stdPath } log ∧ log.map Moment.event <+: events ∧
      log.flatMap Moment.asked = askedUpTo trace rest ∧
      (∀ uri, Url.Accepted uri →
        (∀ (i : Nat) moment, log[i]? = some moment → moment.asked.countP (Question.evicts uri) =
          if moment.event.closes uri && isOpenAfter (events.take i) uri then 1 else 0) ∧
        (∀ j : Nat, log[j]?.any (Moment.evicts uri) = true →
          ∃ k < j, log[k]?.any (·.event.opens uri) = true) ∧
        (∀ i j : Nat, i < j → log[i]?.any (Moment.evicts uri) = true →
          log[j]?.any (Moment.evicts uri) = true →
          ∃ k, i < k ∧ k < j ∧ log[k]?.any (·.event.opens uri) = true) ∧
        (Rereading events → ∀ i j : Nat, i ≤ j → log[i]?.any (·.event.closes uri) = true →
          log[j]?.any (Moment.lints uri) = true →
          ∃ k, i < k ∧ k ≤ j ∧ log[k]?.any (·.event.opens uri) = true)) ∧
      ∀ s, rest = .done s → log.map Moment.event = events ∧
        ∀ uri, Url.Accepted uri → openings events uri events.length =
          (trace.map Exchange.question).countP (Question.evicts uri) +
            if s.store.contains uri then 1 else 0 := by
  obtain ⟨log, unfolds, upTo, asked, complete⟩ := unfolds_of_leads path
  have accounted : ∀ uri, Url.Accepted uri → Accounted log uri := fun uri accepted =>
    unfolds.accounted (fun event member => named event (upTo.subset member)) accepted
  refine ⟨log, unfolds, upTo, asked, ?_, ?_⟩
  · intro uri accepted
    refine ⟨?_, ?_, ?_, ?_⟩
    · intro i moment found
      rw [(accounted uri accepted).evictions i moment found]
      -- The log is as long as the events it covers, so their history is the same up to there.
      have within : i ≤ (log.map Moment.event).length := by
        have := (List.getElem?_eq_some_iff.1 found).1
        simp only [List.length_map]
        omega
      obtain ⟨later, whole⟩ := upTo
      rw [← whole, List.take_append_of_le_length within]
    · intro j evicts
      obtain ⟨-, isOpen⟩ := (accounted uri accepted).of_evicts evicts
      obtain ⟨k, -, below, opens⟩ := exists_opens_in_log (Nat.zero_le j) rfl isOpen
      exact ⟨k, below, opens⟩
    · intro i j lt first second
      have shut := isOpenAfter_of_closes ((accounted uri accepted).of_evicts first).1
      exact exists_opens_in_log lt shut ((accounted uri accepted).of_evicts second).2
    · intro rereading i j le closes lints
      obtain ⟨moment, found, lints⟩ := (Option.any_eq_true _ _).1 lints
      have logged : Rereading (log.map Moment.event) :=
        fun event member => rereading event (upTo.subset member)
      have isOpen := (accounted uri accepted).lints logged j moment found lints
      obtain ⟨k, above, below, opens⟩ :=
        exists_opens_in_log (by omega) (isOpenAfter_of_closes closes) isOpen
      exact ⟨k, above, by omega, opens⟩
  · rintro s rfl
    have all := complete s rfl
    refine ⟨all, ?_⟩
    intro uri accepted
    have balance := (accounted uri accepted).balance (Nat.le_refl log.length)
    have length : log.length = events.length := by rw [← all, List.length_map]
    have start : ({ stdPath : Session }).store.documents = documentsAfter [] := rfl
    rw [contains_eq (documents_of_run start path)]
    rw [List.take_length, asked, all, length, List.take_length] at balance
    simpa [askedUpTo, Program.pending] using balance

def reopening : List Event :=
  [.opened "file:///a" "one" 1, .changed "file:///a" "two" 2, .closed "file:///a",
    .closed "file:///a", .configurationChanged .null, .changed "file:///a" "three" 3,
    .definition "file:///a" ⟨0, 0⟩]

/-- The document is closed twice and comes back by a change, while the analyzer is down: the first
    close alone evicts it. -/
theorem evictions_balance_openings_reopening :
    (∀ event ∈ reopening, ∀ uri, event.uri? = some uri → Url.Accepted uri) ∧
    openings reopening "file:///a" reopening.length = 2 ∧
    ∃ (trace : List Exchange) (s : Session),
      (handleAll reopening { stdPath := "/std" }).Runs trace s ∧
      s.store.contains "file:///a" = true ∧
      (trace.map Exchange.question).countP (Question.evicts "file:///a") = 1 := by
  have accepted : Url.Accepted "file:///a" := ⟨"file:///a", _, rfl, rfl⟩
  have named : ∀ event ∈ reopening, ∀ uri, event.uri? = some uri → Url.Accepted uri := by
    intro event member uri names
    have same : ∀ event ∈ reopening, ∀ uri ∈ event.uri?, uri = "file:///a" := by decide
    rw [same event member uri names]
    exact accepted
  have openedTwice : openings reopening "file:///a" reopening.length = 2 := by decide
  obtain ⟨trace, run⟩ := Program.exists_runs_run Program.outage
    (handleAll reopening { stdPath := "/std" }) ()
  obtain ⟨log, -, -, -, -, finished⟩ := evictions_balance_openings _ _ named _ _ run
  have balance := (finished _ rfl).2 _ accepted
  have start : ({ stdPath := "/std" : Session }).store.documents = documentsAfter [] := rfl
  have isOpen := contains_eq (documents_of_run start run) "file:///a"
  have left : isOpenAfter ([] ++ reopening) "file:///a" = true := by decide
  rw [left] at isOpen
  refine ⟨named, openedTwice, trace, _, run, isOpen, ?_⟩
  rw [openedTwice, isOpen, if_pos rfl] at balance
  omega

end Session

end SchemaServer
