import SchemaServer.Proofs.Front
import SchemaServer.Proofs.History

/-! # Snapshots are coherent with the history

Every text that the analyzer is sent is the text of the last event that touched its document, in
the same session and counting the event that is being handled.  The history is the one that the
server's front makes of the editor's messages; of a change notification only the last text counts,
and one without any text is no event (`enqueues_didChange`, `receive_didChange_empty`). -/

namespace SchemaServer

/-! ## The front -/

namespace Server

theorem routed_didChange (formatting : Bool) :
    route? formatting "textDocument/didChange" =
      some (.notice (Protocol.changedParams.map fun (uri, version, texts) =>
        changeEvent uri version texts)) := rfl

variable {m : Type → Type} [Monad m] {s : Server} {params? : Option Json} {uri : String}
  {version : Int} {texts : List String}

theorem receive_didChange (analyzer : Answering m) (connected : s.phase = .connected)
    (readable : readParams Protocol.changedParams params? = .ok (uri, version, texts)) :
    s.receive analyzer (.request ⟨"textDocument/didChange", params?, none⟩) =
      match changeEvent uri version texts with
      | some event => s.submit analyzer ⟨none, event⟩
      | none => pure ([], s) := by
  have event : readParams (Protocol.changedParams.map fun (uri, version, texts) =>
      changeEvent uri version texts) params? = .ok (changeEvent uri version texts) := by
    rw [readParams_map, readable]
    rfl
  rw [receive_routed analyzer connected (by decide) (routed_didChange _) rfl]
  unfold follow
  dsimp only
  rw [event]
  cases changeEvent uri version texts with
  | none => rfl
  | some event => rfl

theorem receive_didChange_empty (analyzer : Answering m) (connected : s.phase = .connected)
    (readable : readParams Protocol.changedParams params? = .ok (uri, version, [])) :
    s.receive analyzer (.request ⟨"textDocument/didChange", params?, none⟩) = pure ([], s) :=
  receive_didChange analyzer connected readable

theorem enqueues_didChange {text : String} (connected : s.phase = .connected)
    (readable : readParams Protocol.changedParams params? = .ok (uri, version, texts))
    (last : texts.getLast? = some text) :
    s.Enqueues (.request ⟨"textDocument/didChange", params?, none⟩)
      ⟨none, .changed uri text version⟩ := by
  have change : changeEvent uri version texts = some (.changed uri text version) := by
    rw [changeEvent, last, Option.map_some]
  refine enqueues_of_submit fun m _ analyzer => ?_
  rw [receive_didChange analyzer connected readable, change]

end Server

/-! ## Coherence -/

namespace Session

/-- A call that is reached while an event is handled carries the texts of the updated store, unless
    it is an eviction, which carries none. -/
theorem files?_of_leads {s : Session} {event : Event} {exchanges : List Exchange}
    {call : Analyzer.Call}
    {next : Analyzer.Outcome call.Answer → Program (event.Reply × Session)}
    (path : (s.handle event).Leads exchanges (.ask (.analyzer call) next))
    (texts : call.operation ≠ .removeCachedSchema) :
    call.files? = some (.capture (event.updated s.store)) := by
  have carried : Carries (.capture (event.updated s.store)) (.analyzer call) :=
    ((handle_always s event).of_leads path).2.1
  cases call with
  | lint _ _ | findDefinitions _ _ _ | completionItems _ _ _ | formatDocument _ _ =>
    exact congrArg some (carried _ rfl)
  | removeCachedSchema path => exact absurd rfl texts

/-- In every run, whatever the analyzer and the editor answer and wherever a call fails, the open
    documents are those that the events so far leave, and every call made for the next event carries
    the texts that the events up to and including that one leave.  A change notification puts the change
    to its last text into the queue, from which an idle worker takes it at once, and leaves the server
    alone if it has no text. -/
theorem snapshots_follow_history :
    (∀ (stdPath : String) (events : List Event) (trace : List Exchange) (s : Session),
      (handleAll events { stdPath }).Runs trace s →
        s.store.documents = documentsAfter events ∧
        (∀ uri, s.store.get? uri = documentAfter? events uri) ∧
        ∀ (event : Event) (exchanges : List Exchange) (call : Analyzer.Call)
          (next : Analyzer.Outcome call.Answer → Program (event.Reply × Session)),
          (s.handle event).Leads exchanges (.ask (.analyzer call) next) →
          call.operation ≠ .removeCachedSchema →
          call.files? = some (.capture ⟨documentsAfter (events ++ [event]), ∅⟩)) ∧
    (∀ (server : Server) (params? : Option Json) (uri : String) (version : Int) (texts : List String),
      server.phase = .connected →
      Server.readParams Protocol.changedParams params? = .ok (uri, version, texts) →
      (∀ text, texts.getLast? = some text →
        server.Enqueues (.request ⟨"textDocument/didChange", params?, none⟩)
          ⟨none, .changed uri text version⟩) ∧
      (texts = [] → ∀ (m : Type → Type) [Monad m] (analyzer : Server.Answering m),
        server.receive analyzer (.request ⟨"textDocument/didChange", params?, none⟩) =
          pure ([], server))) := by
  constructor
  · intro stdPath events trace s run
    have start : ({ stdPath : Session }).store.documents = documentsAfter [] := rfl
    have follows : s.store.documents = documentsAfter events := documents_of_run start run
    refine ⟨follows, ?_, ?_⟩
    · intro uri
      rw [← get?_documentsAfter, ← follows]
      rfl
    · intro event exchanges call next path texts
      rw [files?_of_leads path texts]
      -- Settings have no part in a snapshot, so the documents decide.
      exact congrArg some (Snapshot.capture_congr (documents_updated follows event))
  · intro server params? uri version texts connected readable
    refine ⟨fun text => Server.enqueues_didChange connected readable, ?_⟩
    rintro rfl m _ analyzer
    exact Server.receive_didChange_empty analyzer connected readable

/-- The parameters of a change with two texts. -/
def changedTwice : Json :=
  .object [("contentChanges", .array [.object [("text", .text "two")], .object [("text", .text "three")]]),
    ("textDocument", .object [("uri", .text "file:///a"), ("version", .int 2)])]

def downAnalyzer : Server.Answering (StateM Unit) :=
  fun call => pure (some (.error (.failed call.operation "down")))

/-- A document is opened, changed and asked about while the analyzer is down: the question carries
    the changed text all the same.  A server that gets a change with two texts goes on with the second
    one. -/
theorem snapshots_follow_history_while_failing :
    (∃ (trace : List Exchange) (s : Session) (call : Analyzer.Call)
      (next : Analyzer.Outcome call.Answer →
        Program ((Event.definition "file:///a" ⟨0, 0⟩).Reply × Session)),
      (handleAll [.opened "file:///a" "one" 1, .changed "file:///a" "two" 2]
        { stdPath := "/std" }).Runs trace s ∧
      (s.handle (.definition "file:///a" ⟨0, 0⟩)).Leads [] (.ask (.analyzer call) next) ∧
      call.files? = some (.capture ⟨documentsAfter [.opened "file:///a" "one" 1,
        .changed "file:///a" "two" 2, .definition "file:///a" ⟨0, 0⟩], ∅⟩) ∧
      s.store.get? "file:///a" = some ⟨"file:///a", "two", some 2⟩) ∧
    ∃ (trace : List Exchange) (s : Session),
      (connectedServer.receive downAnalyzer
        (.request ⟨"textDocument/didChange", some changedTwice, none⟩) ()).1.2.worker = .idle s ∧
      (handleAll [.changed "file:///a" "three" 2] { stdPath := "/std" }).Runs trace s ∧
      s.store.get? "file:///a" = some ⟨"file:///a", "three", some 2⟩ := by
  obtain ⟨coherent, front⟩ := snapshots_follow_history
  constructor
  · obtain ⟨trace, run⟩ := Program.exists_runs_run Program.outage
      (handleAll [.opened "file:///a" "one" 1, .changed "file:///a" "two" 2] { stdPath := "/std" }) ()
    obtain ⟨-, documents, calls⟩ := coherent _ _ _ _ run
    refine ⟨trace, _, _, _, run, .rest _, calls _ _ _ _ (.rest _) nofun, ?_⟩
    rw [documents]
    rfl
  · have readable : Server.readParams Protocol.changedParams (some changedTwice) =
        .ok ("file:///a", 2, ["two", "three"]) := rfl
    have changed := (front connectedServer _ _ _ _ rfl readable).1 "three" rfl
    have works := changed.idle { stdPath := "/std" } rfl Unit downAnalyzer ()
    have finished : (connectedServer.receive downAnalyzer
        (.request ⟨"textDocument/didChange", some changedTwice, none⟩) ()).1.2.worker.isIdle = true := by
      decide +kernel
    obtain ⟨trace, s, worker, run⟩ := works.runs_of_isIdle finished
    refine ⟨trace, s, worker, run, ?_⟩
    rw [(coherent _ _ _ _ run).2.1]
    rfl

end Session

end SchemaServer
