import SchemaServer.Proofs.Runs
import SchemaServer.Session

/-! # What a session holds does not depend on the analyzer

Two runs of a session may differ in what the analyzer answers, in whether the editor registers, and
in the events that only ask for something.  They hold the same and go on to ask the same as long as
the other events are the same and the editor answers the fetches of settings alike.

* `Program.Alike rel p q` relates two programs side by side: both call the analyzer or fetch settings
  at the same points, whatever the analyzer answers, and either may ask anything else in between.
* `Alike.of_runs` carries it over to two runs, which need not be of one length.
* `handle_alike` says that an event that lasts is handled alike in sessions that hold the same, and
  `handle_idle` that any other event leaves the session as it is. -/

namespace SchemaServer

/-- Whether a question follows from what the session holds: it asks for problems, evicts a document
    or fetches settings. -/
def Question.isFixed : Question → Bool
  | .analyzer (.lint ..) | .analyzer (.removeCachedSchema _) | .client (.fetchSettings _) => true
  | .analyzer _ | .client _ => false

/-- The answer to a fetch of settings. -/
def Exchange.fetched? : Exchange → Option Client.Fetched
  | ⟨.client (.fetchSettings _), answer⟩ => some answer
  | _ => none

def asked (trace : List Exchange) : List Question :=
  (trace.map Exchange.question).filter Question.isFixed

def fetchedIn (trace : List Exchange) : List Client.Fetched := trace.filterMap Exchange.fetched?

section
variable {question : Question}

theorem fetchedIn_cons_of_free (free : question.isFixed = false) (answer : question.Answer)
    (trace : List Exchange) : fetchedIn (⟨question, answer⟩ :: trace) = fetchedIn trace := by
  cases question with
  | analyzer call => rfl
  | client call =>
    cases call with
    | fetchSettings uri => cases free
    | publish _ _ _ | registerConfiguration | externalTypesChanged | log _ _ => rfl

theorem asked_cons_of_free (free : question.isFixed = false) (answer : question.Answer)
    (trace : List Exchange) : asked (⟨question, answer⟩ :: trace) = asked trace := by
  simp [asked, free]

theorem asked_cons_congr {trace trace' : List Exchange} (same : asked trace = asked trace')
    (answer answer' : question.Answer) :
    asked (⟨question, answer⟩ :: trace) = asked (⟨question, answer'⟩ :: trace') := by
  unfold asked at same ⊢
  simp only [List.map_cons, List.filter_cons, same]

end

/-- The lists have the same elements at all places that both of them have. -/
def Agree {α : Type} (l l' : List α) : Prop :=
  ∀ (i : Nat) (a b : α), l[i]? = some a → l'[i]? = some b → a = b

section
variable {α : Type} {a b : α} {l l' : List α}

theorem Agree.head (agree : Agree (a :: l) (b :: l')) : a = b := agree 0 a b rfl rfl

theorem Agree.tail (agree : Agree (a :: l) (b :: l')) : Agree l l' :=
  fun i x y left right => agree (i + 1) x y left right

theorem Agree.of_eq (same : l = l') : Agree l l' := by
  subst same
  intro i x y left right
  exact Option.some.inj (left.symm.trans right)

end

/-! ## Programs side by side -/

namespace Program

variable {α β γ δ : Type} {rel : α → β → Prop}

inductive Alike (rel : α → β → Prop) : Program α → Program β → Prop where
  | done {v : α} {w : β} (related : rel v w) : Alike rel (.done v) (.done w)
  /-- The analyzer may answer one program so and the other otherwise. -/
  | call {call : Analyzer.Call} {next : Analyzer.Outcome call.Answer → Program α}
      {next' : Analyzer.Outcome call.Answer → Program β}
      (rest : ∀ answer answer', Alike rel (next answer) (next' answer')) :
      Alike rel (.ask (.analyzer call) next) (.ask (.analyzer call) next')
  | fetch {uri : String} {next : Client.Fetched → Program α} {next' : Client.Fetched → Program β}
      (rest : ∀ answer, Alike rel (next answer) (next' answer)) :
      Alike rel (.ask (.client (.fetchSettings uri)) next) (.ask (.client (.fetchSettings uri)) next')
  | left {question : Question} {next : question.Answer → Program α} {q : Program β}
      (free : question.isFixed = false) (rest : ∀ answer, Alike rel (next answer) q) :
      Alike rel (.ask question next) q
  | right {question : Question} {p : Program α} {next : question.Answer → Program β}
      (free : question.isFixed = false) (rest : ∀ answer, Alike rel p (next answer)) :
      Alike rel p (.ask question next)

theorem Alike.bind {p : Program α} {q : Program β} {f : α → Program γ} {g : β → Program δ}
    {rel' : γ → δ → Prop} (first : Alike rel p q)
    (second : ∀ v w, rel v w → Alike rel' (f v) (g w)) : Alike rel' (p >>= f) (q >>= g) := by
  induction first with
  | done related => exact second _ _ related
  | call rest ih => exact .call ih
  | fetch rest ih => exact .fetch ih
  | left free rest ih => exact .left free ih
  | right free rest ih => exact .right free ih

/-- A program whose questions are all free may run on one side alone. -/
theorem Alike.idle_left {p : Program γ} {f : γ → Program α} {q : Program β} {post : γ → Prop}
    (idle : p.Always (fun question => question.isFixed = false) post)
    (rest : ∀ value, post value → Alike rel (f value) q) : Alike rel (p >>= f) q := by
  induction p with
  | done value => exact rest value idle
  | ask question next ih => exact .left idle.1 fun answer => ih answer (idle.2 answer)

theorem Alike.idle_right {p : Program γ} {f : γ → Program β} {q : Program α} {post : γ → Prop}
    (idle : p.Always (fun question => question.isFixed = false) post)
    (rest : ∀ value, post value → Alike rel q (f value)) : Alike rel q (p >>= f) := by
  induction p with
  | done value => exact rest value idle
  | ask question next ih => exact .right idle.1 fun answer => ih answer (idle.2 answer)

/-- Two runs whose fetches are answered alike ask the same and end in related values. -/
theorem Alike.of_runs {p : Program α} {q : Program β} {trace trace' : List Exchange} {v : α} {w : β}
    (alike : Alike rel p q) (run : p.Runs trace v) (run' : q.Runs trace' w)
    (agree : Agree (fetchedIn trace) (fetchedIn trace')) :
    asked trace = asked trace' ∧ fetchedIn trace = fetchedIn trace' ∧ rel v w := by
  -- The induction follows the two programs, and takes one exchange or one pair of them at a time.
  induction alike generalizing trace trace' with
  | done related =>
    obtain ⟨rfl, rfl⟩ := runs_done_iff.1 run
    obtain ⟨rfl, rfl⟩ := runs_done_iff.1 run'
    exact ⟨rfl, rfl, related⟩
  | call rest ih =>
    obtain ⟨answer, tail, rfl, path⟩ := runs_ask_iff.1 run
    obtain ⟨answer', tail', rfl, path'⟩ := runs_ask_iff.1 run'
    obtain ⟨questions, answers, related⟩ := ih answer answer' path path' agree
    exact ⟨asked_cons_congr questions answer answer', answers, related⟩
  | fetch rest ih =>
    obtain ⟨answer, tail, rfl, path⟩ := runs_ask_iff.1 run
    obtain ⟨answer', tail', rfl, path'⟩ := runs_ask_iff.1 run'
    obtain rfl : answer = answer' := Agree.head agree
    obtain ⟨questions, answers, related⟩ := ih answer path path' (Agree.tail agree)
    exact ⟨asked_cons_congr questions answer answer, congrArg (answer :: ·) answers, related⟩
  | left free rest ih =>
    obtain ⟨answer, tail, rfl, path⟩ := runs_ask_iff.1 run
    rw [fetchedIn_cons_of_free free] at agree ⊢
    rw [asked_cons_of_free free]
    exact ih answer path run' agree
  | right free rest ih =>
    obtain ⟨answer, tail, rfl, path⟩ := runs_ask_iff.1 run'
    rw [fetchedIn_cons_of_free free] at agree ⊢
    rw [asked_cons_of_free free]
    exact ih answer run path agree

end Program

/-! ## Sessions that hold the same -/

namespace Session

open Program (Alike)

/-- Whether an event can change what a session holds. -/
def Event.isLasting : Event → Bool
  | .connected _ | .opened .. | .changed .. | .closed _ | .configurationChanged _ => true
  | .initialized | .watchedFilesChanged | .definition .. | .completion .. | .format _ => false

/-- The sessions hold the same; where the standard library can be read makes no difference. -/
structure Same (s s' : Session) : Prop where
  store : s.store = s'.store
  capabilities? : s.capabilities? = s'.capabilities?
  globalSettings : s.globalSettings = s'.globalSettings

variable {s s' : Session}

theorem Same.capabilities (same : Same s s') : s.capabilities = s'.capabilities := by
  rw [Session.capabilities, Session.capabilities, same.capabilities?]

theorem tell_alike (same : Same s s') {call : Client.Call}
    (free : (Question.client call).isFixed = false) : Alike Same (s.tell call) (s'.tell call) :=
  .left free fun _ => .right free fun _ => .done same

theorem documentSettings_alike (same : Same s s') (uri : String) :
    Alike (fun r r' => Same r.2 r'.2) (s.documentSettings uri) (s'.documentSettings uri) := by
  unfold documentSettings
  rw [same.capabilities, same.store]
  split
  · cases s'.store.settings? uri with
    | some settings => exact .done same
    | none => exact .fetch fun answer => .done ⟨rfl, same.capabilities?, same.globalSettings⟩
  · exact .done same

theorem validate_alike {store store' : Store} (same : store = store') (uri : String) :
    Alike (fun _ _ => True) (Gateway.validate uri store) (Gateway.validate uri store') := by
  subst same
  exact .call fun _ _ => .done trivial

theorem validateAndPublish_alike (same : Same s s') (uri : String) :
    Alike Same (s.validateAndPublish uri) (s'.validateAndPublish uri) := by
  refine (documentSettings_alike same uri).bind ?_
  rintro ⟨settings, s₁⟩ ⟨settings', s₁'⟩ (same : Same s₁ s₁')
  refine (validate_alike same.store uri).bind ?_
  -- One analyzer may fail where the other answers, so one run may log where the other publishes.
  rintro (failure | diagnostics) (failure' | diagnostics') -
  all_goals exact .left rfl fun _ => .right rfl fun _ => .done same

theorem validateAll_alike (same : Same s s') (uris : List String) :
    Alike Same (validateAll uris s) (validateAll uris s') := by
  induction uris generalizing s s' with
  | nil => exact .done same
  | cons uri uris ih => exact (validateAndPublish_alike same uri).bind fun _ _ same => ih same

theorem close_alike (same : Same s s') (uri : String) :
    Alike Same (s.close uri) (s'.close uri) := by
  unfold close
  rw [same.store]
  split
  · refine .call fun _ _ => .left rfl fun _ => .right rfl fun _ => .done ?_
    exact ⟨rfl, same.capabilities?, same.globalSettings⟩
  · exact .done same

theorem changeConfiguration_alike (same : Same s s') (settings : Json) :
    Alike Same (s.changeConfiguration settings) (s'.changeConfiguration settings) := by
  refine (tell_alike same rfl).bind ?_
  intro s s' same
  rw [same.capabilities, same.store]
  split
  · refine validateAll_alike ?_ _
    exact ⟨rfl, same.capabilities?, same.globalSettings⟩
  · refine validateAll_alike ?_ _
    exact ⟨rfl, same.capabilities?, rfl⟩

theorem handle_alike (same : Same s s') {event : Event} (lasting : event.isLasting = true) :
    Alike (fun r r' => Same r.2 r'.2) (s.handle event) (s'.handle event) := by
  cases event with
  | connected capabilities =>
    refine .done ⟨same.store, ?_, same.globalSettings⟩
    dsimp only
    rw [same.capabilities?]
  | opened uri text version =>
    refine (validateAndPublish_alike ?_ uri).bind fun _ _ same => .done same
    exact ⟨congrArg (·.openDocument uri text version) same.store, same.capabilities?,
      same.globalSettings⟩
  | changed uri text version =>
    refine (validateAndPublish_alike ?_ uri).bind fun _ _ same => .done same
    exact ⟨congrArg (·.update uri text version) same.store, same.capabilities?,
      same.globalSettings⟩
  | closed uri => exact (close_alike same uri).bind fun _ _ same => .done same
  | configurationChanged settings =>
    exact (changeConfiguration_alike same settings).bind fun _ _ same => .done same
  | initialized | watchedFilesChanged | definition _ _ | completion _ _ | format _ => cases lasting

theorem handle_idle (s : Session) {event : Event} (passing : event.isLasting = false) :
    (s.handle event).Always (fun question => question.isFixed = false) (fun r => r.2 = s) := by
  cases event with
  | initialized =>
    have greeted : s.initialized.Always (fun question => question.isFixed = false) (· = s) := by
      unfold initialized
      split
      · exact ⟨rfl, fun _ => ⟨rfl, fun _ => rfl⟩⟩
      · exact ⟨rfl, fun _ => rfl⟩
    exact Program.always_bind greeted fun _ same => same
  | watchedFilesChanged => exact ⟨rfl, fun _ => rfl⟩
  | definition uri position => exact ⟨rfl, fun _ => rfl⟩
  | completion uri position => exact ⟨rfl, fun _ => rfl⟩
  | format uri =>
    have laidOut : (s.format uri).Always (fun question => question.isFixed = false)
        (fun _ => True) := by
      unfold format
      cases s.store.get? uri with
      | none => trivial
      | some document => exact ⟨rfl, fun _ => trivial⟩
    exact Program.always_bind laidOut fun _ _ => rfl
  | connected _ | opened _ _ _ | changed _ _ _ | closed _ | configurationChanged _ => cases passing

/-! ## Runs side by side -/

theorem handleAll_idle_right {α : Type} {rel : α → Session → Prop} {p : Program α}
    {idle events : List Event} (passing : ∀ event ∈ idle, ¬ event.isLasting = true)
    (rest : Alike rel p (handleAll events s)) : Alike rel p (handleAll (idle ++ events) s) := by
  induction idle with
  | nil => exact rest
  | cons event idle ih =>
    have first : event.isLasting = false := Bool.eq_false_iff.2 (passing event List.mem_cons_self)
    refine Alike.idle_right (handle_idle s first) ?_
    rintro ⟨_, unchanged⟩ rfl
    exact ih fun event member => passing event (List.mem_cons_of_mem _ member)

theorem handleAll_alike {events events' : List Event} (same : Same s s')
    (events_eq : events.filter Event.isLasting = events'.filter Event.isLasting) :
    Alike Same (handleAll events s) (handleAll events' s') := by
  induction events generalizing events' s s' with
  | nil =>
    have passing := List.filter_eq_nil_iff.1 events_eq.symm
    have idle : Alike Same (handleAll [] s) (handleAll (events' ++ []) s') :=
      handleAll_idle_right passing (.done same)
    rwa [List.append_nil] at idle
  | cons event events ih =>
    cases kind : event.isLasting with
    | true =>
      -- The event stands on the right as well, after some that do not last.
      rw [List.filter_cons_of_pos kind] at events_eq
      obtain ⟨idle, later, rfl, passing, -, rest⟩ := List.filter_eq_cons_iff.1 events_eq.symm
      refine handleAll_idle_right passing ?_
      exact (handle_alike same kind).bind fun _ _ same => ih same rest.symm
    | false =>
      rw [List.filter_cons_of_neg (by simp [kind])] at events_eq
      refine Alike.idle_left (handle_idle s kind) ?_
      rintro ⟨_, unchanged⟩ rfl
      exact ih same events_eq

/-- Let two runs be over events of which those that last are the same, and let the editor answer the
    fetches of settings alike.  Then the sessions hold the same in the end, and the runs have asked
    the same for problems, evictions and settings, in the same order.  Nothing is assumed of what the
    analyzer answers, of the registration, or of the other events. -/
theorem session_independent_of_analyzer (stdPath stdPath' : String) (events events' : List Event)
    (events_eq : events.filter Event.isLasting = events'.filter Event.isLasting)
    (trace trace' : List Exchange) (s s' : Session)
    (run : (handleAll events { stdPath }).Runs trace s)
    (run' : (handleAll events' { stdPath := stdPath' }).Runs trace' s')
    (agree : Agree (fetchedIn trace) (fetchedIn trace')) :
    s.store.documents = s'.store.documents ∧ s.store.fetched = s'.store.fetched ∧
      s.capabilities? = s'.capabilities? ∧ s.globalSettings = s'.globalSettings ∧
      asked trace = asked trace' := by
  have start : Same { stdPath } { stdPath := stdPath' } := ⟨rfl, rfl, rfl⟩
  obtain ⟨questions, -, same⟩ := (handleAll_alike start events_eq).of_runs run run' agree
  exact ⟨congrArg Store.documents same.store, congrArg Store.fetched same.store,
    same.capabilities?, same.globalSettings, questions⟩

/-- An analyzer that always answers, beside an editor that refuses what it is asked. -/
def obliging : (question : Question) → StateM Unit question.Answer
  | .analyzer (.lint ..) | .analyzer (.formatDocument ..) => pure (.ok "[]")
  | .analyzer (.findDefinitions ..) | .analyzer (.completionItems ..) => pure (.ok (.array []))
  | .analyzer (.removeCachedSchema _) => pure (.ok ())
  | .client call => Program.outage (.client call)

def workday : List Event :=
  [.connected { workspaceConfiguration := true }, .opened "file:///a" "one" 1,
    .opened "file:///b" "two" 1, .closed "file:///a"]

/-- The same with events in between that do not last. -/
def busyWorkday : List Event :=
  [.connected { workspaceConfiguration := true }, .initialized, .opened "file:///a" "one" 1,
    .definition "file:///a" ⟨0, 0⟩, .opened "file:///b" "two" 1, .closed "file:///a",
    .watchedFilesChanged]

/-- With an analyzer that is down and with one that answers, both documents are linted with their
    settings fetched, and one is evicted. -/
theorem session_independent_of_analyzer_failing :
    ∃ (trace trace' : List Exchange) (s s' : Session),
      (handleAll workday { stdPath := "/std" }).Runs trace s ∧
      (handleAll busyWorkday { stdPath := "/lib" }).Runs trace' s' ∧
      s.store.documents = s'.store.documents ∧ s.store.fetched = s'.store.fetched ∧
      asked trace = asked trace' ∧ (asked trace').length = 5 ∧ trace.length = 8 ∧
      trace'.length = 11 := by
  have run := Program.runs_transcript Program.outage (handleAll workday { stdPath := "/std" }) ()
  have run' := Program.runs_transcript obliging (handleAll busyWorkday { stdPath := "/lib" }) ()
  have fetches : fetchedIn (Program.transcript Program.outage
      (handleAll workday { stdPath := "/std" }) ()) = [.failed, .failed] := rfl
  have fetches' : fetchedIn (Program.transcript obliging
      (handleAll busyWorkday { stdPath := "/lib" }) ()) = [.failed, .failed] := rfl
  obtain ⟨documents, fetched, -, -, questions⟩ :=
    session_independent_of_analyzer _ _ workday busyWorkday rfl _ _ _ _ run run'
      (Agree.of_eq (fetches.trans fetches'.symm))
  exact ⟨_, _, _, _, run, run', documents, fetched, questions, rfl, rfl, rfl⟩

end Session

end SchemaServer
