import SchemaServer.Proofs.Runs
import SchemaServer.Server.Basic

/-! # From messages to jobs and back

The front of the server answers four methods itself and routes the others.  A request that the
session answers becomes a job (`receive_query`), and the response is made of what the session's
program ends with (`drain_of_ask`).  A server that has nothing else to do puts the call that the
request needs, and responds when it is answered (`receive_ask`).

What becomes of a job is said by paths through the programs of the session, and not by the worker:

* `Stands`: where a program may come to stand, and `stands_pursue` that it does when it is followed.
* `Works`: where a worker may come to stand that handles jobs in order, and `works_drain` that it
  does.
* `Enqueues`: a message puts a job last in the queue, whatever the worker is doing.

Looking up a definition and completing a text are such requests (`asks_definition`,
`asks_completion`). -/

namespace SchemaServer

/-- Whether the editor has to answer. -/
def Client.Call.awaits : Client.Call → Bool
  | .registerConfiguration | .fetchSettings _ => true
  | .publish .. | .externalTypesChanged | .log .. => false

namespace Server

open Session (Event)

theorem readParams_map {α β : Type} (shape : Json.Shape α) (f : α → β) (params? : Option Json) :
    readParams (shape.map f) params? = (readParams shape params?).map f := by
  cases params? with
  | none => rfl
  | some params =>
    simp only [readParams, Json.Shape.map, Json.Shape.ofJson]
    cases shape.ofJson params <;> rfl

/-- The methods of the connection itself. -/
def ownMethods : List String := ["initialize", "shutdown", "exit", "$/cancelRequest"]

variable {m : Type → Type} [Monad m] {s : Server} {method : String} {params? : Option Json}
  {id? : Option Rpc.Id} {route : Route}

/-- A connected server follows the route of a method that is not its own. -/
theorem receive_routed (analyzer : Answering m) (connected : s.phase = .connected)
    (foreign : method ∉ ownMethods) (routed : route? s.formatting method = some route)
    (fresh : id?.any s.isPending = false) :
    s.receive analyzer (.request ⟨method, params?, id?⟩) =
      s.follow analyzer route ⟨method, params?, id?⟩ := by
  have running : s.phase ≠ .exited := by simp [connected]
  have serving : ¬ s.phase ≠ .connected := by simp [connected]
  simp only [ownMethods, List.mem_cons, List.not_mem_nil, or_false, not_or] at foreign
  obtain ⟨notConnect, notShutDown, notExit, notCancel⟩ := foreign
  unfold receive
  rw [if_neg running]
  unfold handle
  dsimp only
  rw [if_neg notConnect, if_neg notShutDown, if_neg notExit, if_neg notCancel, routed]
  dsimp only
  rw [if_neg serving, fresh, if_neg Bool.false_ne_true]

/-- A request that the session answers becomes a job, which carries the request's id. -/
theorem receive_query {α : Type} {shape : Json.Shape α} {eventOf : α → Event} {a : α} {id : Rpc.Id}
    (analyzer : Answering m) (connected : s.phase = .connected) (foreign : method ∉ ownMethods)
    (routed : route? s.formatting method = some (.query (shape.map eventOf)))
    (fresh : s.isPending id = false) (readable : readParams shape params? = .ok a) :
    s.receive analyzer (.request ⟨method, params?, some id⟩) =
      s.submit analyzer ⟨some id, eventOf a⟩ := by
  rw [receive_routed analyzer connected foreign routed (by simpa using fresh)]
  unfold follow
  dsimp only
  rw [readParams_map, readable]
  rfl

/-! ## Jobs -/

section
variable {σ α : Type} {analyzer : Answering (StateM σ)} {session session' : Session}

/-- Where a program may come to stand: at its end, at something that the editor has to answer, or at a
    call by which the analyzer breaks down. -/
inductive Stands (analyzer : Answering (StateM σ)) (program : Program α) : Standing α → Prop where
  | finished {trace : List Exchange} {value : α} (run : program.Runs trace value) :
      Stands analyzer program (.finished value)
  | waiting {trace : List Exchange} {id : Nat} {call : Client.Call}
      {next : call.Answer → Program α} (path : program.Leads trace (.ask (.client call) next))
      (awaits : call.awaits = true) : Stands analyzer program (.waiting id call next)
  | stopped {trace : List Exchange} {call : Analyzer.Call}
      {next : Analyzer.Outcome call.Answer → Program α} {state : σ}
      (path : program.Leads trace (.ask (.analyzer call) next))
      (down : (analyzer call state).1 = none) : Stands analyzer program .stopped

theorem Stands.ask {question : Question} {next : question.Answer → Program α}
    {answer : question.Answer} {standing : Standing α}
    (stands : Stands analyzer (next answer) standing) :
    Stands analyzer (.ask question next) standing := by
  cases stands with
  | finished run => exact .finished (.step answer run)
  | waiting path awaits => exact .waiting (.step answer path) awaits
  | stopped path down => exact .stopped (.step answer path) down

theorem stands_pursue (analyzer : Answering (StateM σ)) (nextId : Nat) (program : Program α)
    (state : σ) : Stands analyzer program (pursue analyzer nextId program state).1.standing := by
  -- Each answer only lengthens the path to where the rest of the program comes to stand.
  induction program generalizing state with
  | done value => exact .finished (.rest _)
  | ask question next ih =>
    cases question with
    | analyzer call =>
      cases answered : analyzer call state with
      | mk answer? state' =>
        cases answer? with
        | none =>
          have shape : pursue analyzer nextId (.ask (.analyzer call) next) state =
              (⟨[], nextId, .stopped⟩, state') := by
            simp only [pursue, bind, StateT.bind, answered]
            rfl
          rw [shape]
          exact .stopped (.rest _) (congrArg Prod.fst answered)
        | some answer =>
          have shape : pursue analyzer nextId (.ask (.analyzer call) next) state =
              pursue analyzer nextId (next answer) state' := by
            simp only [pursue, bind, StateT.bind, answered]
          rw [shape]
          exact (ih answer state').ask
    | client call =>
      cases call with
      | publish _ _ _ => exact (ih () state).ask
      | log _ _ => exact (ih () state).ask
      | externalTypesChanged => exact (ih () state).ask
      | registerConfiguration => exact .waiting (.rest _) rfl
      | fetchSettings _ => exact .waiting (.rest _) rfl

/-- Where a worker may come to stand that handles jobs in order, and the jobs behind it: all are
    handled; or it waits in the middle of one, with the later ones behind it; or it has stopped in the
    middle of one, and the later ones are given up. -/
inductive Works (analyzer : Answering (StateM σ)) (session : Session) (jobs : List Job) :
    Worker → List Job → Prop where
  | idle {trace : List Exchange} {session' : Session}
      (run : (Session.handleAll (jobs.map Job.event) session).Runs trace session') :
      Works analyzer session jobs (.idle session') []
  | waiting {trace : List Exchange} {session' : Session} (before : List Job) {later : List Job}
      {job : Job} {id : Nat} {call : Client.Call}
      {next : call.Answer → Program (job.event.Reply × Session)}
      (split : jobs = before ++ job :: later)
      (run : (Session.handleAll (before.map Job.event) session).Runs trace session')
      (stands : Stands analyzer (session'.handle job.event) (.waiting id call next)) :
      Works analyzer session jobs (.waiting job id call next) later
  | stopped {trace : List Exchange} {session' : Session} (before : List Job) {later : List Job}
      {job : Job} (split : jobs = before ++ job :: later)
      (run : (Session.handleAll (before.map Job.event) session).Runs trace session')
      (stands : Stands analyzer (session'.handle job.event) .stopped) :
      Works analyzer session jobs .stopped []

theorem Works.cons {job : Job} {jobs queue : List Job} {worker : Worker} {trace : List Exchange}
    {reply : job.event.Reply} (first : (session.handle job.event).Runs trace (reply, session'))
    (works : Works analyzer session' jobs worker queue) :
    Works analyzer session (job :: jobs) worker queue := by
  have onward : ∀ {events : List Event} {later : List Exchange} {last : Session},
      (Session.handleAll events session').Runs later last →
        (Session.handleAll (job.event :: events) session).Runs (trace ++ later) last :=
    fun run => Program.runs_bind_iff.2 ⟨_, _, _, rfl, first, run⟩
  cases works with
  | idle run => exact .idle (onward run)
  | waiting before split run stands =>
    exact .waiting (job :: before) (congrArg (job :: ·) split) (onward run) stands
  | stopped before split run stands =>
    exact .stopped (job :: before) (congrArg (job :: ·) split) (onward run) stands

def Worker.isIdle : Worker → Bool
  | .idle _ => true
  | .waiting .. | .stopped => false

theorem Works.runs_of_isIdle {jobs queue : List Job} {worker : Worker}
    (works : Works analyzer session jobs worker queue) (idle : worker.isIdle = true) :
    ∃ trace session', worker = .idle session' ∧
      (Session.handleAll (jobs.map Job.event) session).Runs trace session' := by
  cases works with
  | idle run => exact ⟨_, _, rfl, run⟩
  | waiting _ _ _ _ | stopped _ _ _ _ => cases idle

theorem works_drain (analyzer : Answering (StateM σ)) (nextId : Nat) (session : Session)
    (jobs : List Job) (state : σ) :
    Works analyzer session jobs (drain analyzer nextId session jobs state).1.worker
      (drain analyzer nextId session jobs state).1.queue := by
  -- The first job decides: the later ones are looked at only if it is finished.
  induction jobs generalizing nextId session state with
  | nil => exact .idle (.rest _)
  | cons job jobs ih =>
    have stands := stands_pursue analyzer nextId (session.handle job.event) state
    cases pursued : pursue analyzer nextId (session.handle job.event) state with
    | mk p state' =>
      rw [pursued] at stands
      obtain ⟨sent, nextId', standing⟩ := p
      have first : (Session.handleAll ([] : List Event) session).Runs [] session := .rest _
      cases standing with
      | finished value =>
        obtain ⟨reply, session'⟩ := value
        have shape : drain analyzer nextId session (job :: jobs) state =
            ((drain analyzer nextId' session' jobs state').1.after
              (sent ++ job.respond (replyResult job.event reply)),
              (drain analyzer nextId' session' jobs state').2) := by
          simp only [drain, bind, StateT.bind, pursued]
          rfl
        rw [shape]
        cases stands with
        | finished run => exact (ih nextId' session' state').cons run
      | waiting id call next =>
        have shape : drain analyzer nextId session (job :: jobs) state =
            (⟨sent, nextId', .waiting job id call next, jobs⟩, state') := by
          simp only [drain, bind, StateT.bind, pursued]
          rfl
        rw [shape]
        exact .waiting [] rfl first stands
      | stopped =>
        have shape : drain analyzer nextId session (job :: jobs) state =
            (⟨sent ++ (job :: jobs).flatMap Job.abandon, nextId', .stopped, []⟩, state') := by
          simp only [drain, bind, StateT.bind, pursued]
          rfl
        rw [shape]
        exact .stopped [] rfl first stands

end

/-- A message puts a job last in the queue.  An idle worker handles the jobs in order, one that waits
    for the editor goes on waiting, and one that has stopped gives the job up. -/
structure Enqueues (s : Server) (message : Rpc.Incoming) (job : Job) : Prop where
  idle : ∀ session, s.worker = .idle session → ∀ (σ : Type) (analyzer : Answering (StateM σ))
    (state : σ), Works analyzer session (s.queue ++ [job])
      (s.receive analyzer message state).1.2.worker (s.receive analyzer message state).1.2.queue
  waiting : ∀ current id call next, s.worker = .waiting current id call next →
    ∀ (m : Type → Type) [Monad m] (analyzer : Answering m),
      s.receive analyzer message = pure ([], { s with queue := s.queue ++ [job] })
  stopped : s.worker = .stopped → ∀ (m : Type → Type) [Monad m] (analyzer : Answering m),
    s.receive analyzer message = pure (job.abandon, s)

theorem enqueues_of_submit {message : Rpc.Incoming} {job : Job}
    (submits : ∀ (m : Type → Type) [Monad m] (analyzer : Answering m),
      s.receive analyzer message = s.submit analyzer job) : s.Enqueues message job where
  idle session worker σ analyzer state := by
    have works := works_drain analyzer s.nextId session (s.queue ++ [job]) state
    rw [submits, submit, worker]
    exact works
  waiting current id call next worker m _ analyzer := by
    rw [submits, submit, worker]
  stopped worker m _ analyzer := by
    rw [submits, submit, worker]

theorem enqueues_of_query {α : Type} {shape : Json.Shape α} {eventOf : α → Event} {a : α} {id : Rpc.Id}
    (connected : s.phase = .connected) (foreign : method ∉ ownMethods)
    (routed : route? s.formatting method = some (.query (shape.map eventOf)))
    (fresh : s.isPending id = false) (readable : readParams shape params? = .ok a) :
    s.Enqueues (.request ⟨method, params?, some id⟩) ⟨some id, eventOf a⟩ :=
  enqueues_of_submit fun _ _ analyzer =>
    receive_query analyzer connected foreign routed fresh readable

/-! ## Requests that take one call -/

variable [LawfulMonad m] {session : Session} {event : Event} {call : Analyzer.Call}
  {read : Analyzer.Outcome call.Answer → event.Reply}

/-- A job whose event takes one call of the analyzer and leaves the session as it is. -/
theorem drain_of_ask (analyzer : Answering m) (nextId : Nat) (id : Rpc.Id) (jobs : List Job)
    (handled : session.handle event =
      .ask (.analyzer call) fun answer => .done (read answer, session)) :
    drain analyzer nextId session (⟨some id, event⟩ :: jobs) = do
      match ← analyzer call with
      | some answer => do
        let rest ← drain analyzer nextId session jobs
        return rest.after [.response id (replyResult event (read answer))]
      | none =>
        return ⟨(⟨some id, event⟩ :: jobs : List Job).flatMap Job.abandon, nextId, .stopped, []⟩ := by
  rw [drain]
  dsimp only
  rw [handled, pursue, bind_assoc]
  refine bind_congr fun answer? => ?_
  cases answer? with
  | none => simp
  | some answer => simp [pursue, Job.respond]

/-- The editor has connected, and the worker waits for nothing. -/
structure Ready (s : Server) (session : Session) : Prop where
  connected : s.phase = .connected
  idle : s.worker = .idle session
  free : s.queue = []

/-- What follows once the analyzer has answered the call that a request takes, or has broken down. -/
def answered (s : Server) (id : Rpc.Id) (event : Event) {answer : Type}
    (read : answer → event.Reply) : Option answer → List Rpc.Outgoing × Server
  | some answer => ([.response id (replyResult event (read answer))], s)
  | none => ((⟨some id, event⟩ : Job).abandon, { s with worker := .stopped })

section
variable {α : Type} {shape : Json.Shape α} {eventOf : α → Event} {a : α}
  {read : Analyzer.Outcome call.Answer → (eventOf a).Reply}

/-- A request whose event takes one call of the analyzer waits for that call and for nothing else. -/
theorem receive_ask (analyzer : Answering m) (id : Rpc.Id) (ready : s.Ready session)
    (foreign : method ∉ ownMethods)
    (routed : route? s.formatting method = some (.query (shape.map eventOf)))
    (readable : readParams shape params? = .ok a)
    (handled : session.handle (eventOf a) =
      .ask (.analyzer call) fun answer => .done (read answer, session)) :
    s.receive analyzer (.request ⟨method, params?, some id⟩) =
      s.answered id (eventOf a) read <$> analyzer call := by
  obtain ⟨connected, idle, free⟩ := ready
  have fresh : s.isPending id = false := by simp [isPending, unfinished, idle, free]
  rw [receive_query analyzer connected foreign routed fresh readable, map_eq_pure_bind]
  obtain ⟨formatting, phase, worker, queue, nextId⟩ := s
  dsimp only at idle free
  subst idle free
  simp only [submit, List.nil_append, drain_of_ask analyzer nextId id [] handled, bind_assoc]
  refine bind_congr fun answer? => ?_
  cases answer? <;> simp [answered, drain, proceed, Progress.after]

/-- The request is answered as soon as the analyzer has answered, and the server is left as it was. -/
theorem receive_of_ask {answer : Analyzer.Outcome call.Answer} (analyzer : Answering m) (id : Rpc.Id)
    (ready : s.Ready session) (foreign : method ∉ ownMethods)
    (routed : route? s.formatting method = some (.query (shape.map eventOf)))
    (readable : readParams shape params? = .ok a)
    (handled : session.handle (eventOf a) =
      .ask (.analyzer call) fun answer => .done (read answer, session))
    (answers : analyzer call = pure (some answer)) :
    s.receive analyzer (.request ⟨method, params?, some id⟩) =
      pure ([.response id (replyResult (eventOf a) (read answer))], s) := by
  rw [receive_ask analyzer id ready foreign routed readable handled, answers, map_pure]
  rfl

end

/-- However the analyzer works, a message leads to one call of it, and what follows depends on the
    answer only. -/
def Asks (s : Server) (message : Rpc.Incoming) (call : Analyzer.Call)
    (respond : Option (Analyzer.Outcome call.Answer) → List Rpc.Outgoing × Server) : Prop :=
  ∀ (m : Type → Type) [Monad m] [LawfulMonad m] (analyzer : Answering m),
    s.receive analyzer message = respond <$> analyzer call

/-! ## Definitions and completions -/

theorem routed_definition (formatting : Bool) :
    route? formatting "textDocument/definition" =
      some (.query (Protocol.definitionParams.map fun (uri, position) => .definition uri position)) :=
  rfl

theorem routed_completion (formatting : Bool) :
    route? formatting "textDocument/completion" =
      some (.query (Protocol.completionParams.map fun (uri, position) => .completion uri position)) :=
  rfl

end Server

/-- Handling the event takes one call of the analyzer, and `read` makes the reply of the answer. -/
def Session.Takes (session : Session) (event : Session.Event) (call : Analyzer.Call)
    (read : Analyzer.Outcome call.Answer → event.Reply) : Prop :=
  session.handle event = .ask (.analyzer call) fun answer => .done (read answer, session)

section
open Server (readParams routed_definition routed_completion)

variable {s : Server} {session : Session} {params? : Option Json} {uri : String} {position : Position}

/-- The call that a definition request puts. -/
def definitionCall (session : Session) (uri : String) (cursor : AnalyzerPosition) : Analyzer.Call :=
  .findDefinitions (pathOfUri uri) (.capture session.store) cursor

/-- The call that a completion request puts. -/
def completionCall (session : Session) (uri : String) (cursor : AnalyzerPosition) : Analyzer.Call :=
  .completionItems (pathOfUri uri) (.capture session.store) cursor

theorem takes_definition (session : Session) (uri : String) (position : Position) :
    session.Takes (.definition uri position) (definitionCall session uri position.toAnalyzer)
      (· >>= Gateway.linksOf session.stdPath) :=
  rfl

theorem takes_completion (session : Session) (uri : String) (position : Position) :
    session.Takes (.completion uri position) (completionCall session uri position.toAnalyzer)
      (· >>= Gateway.completionsOf) :=
  rfl

/-- The response to a definition request, if the analyzer lists definitions. -/
theorem replyResult_links {stdPath : String} {tree : Json} {items : List DefinitionItem}
    (uri : String) (position : Position)
    (decoded : (Json.Shape.list DefinitionItem.shape).ofJson tree = .ok items) :
    Server.replyResult (.definition uri position) (.ok tree >>= Gateway.linksOf stdPath) =
      .ok (Protocol.definitionResult (items.map (Gateway.linkOf stdPath))) := by
  have links : (.ok tree >>= Gateway.linksOf stdPath : Analyzer.Outcome (List DefinitionLink)) =
      .ok (items.map (Gateway.linkOf stdPath)) := by
    change Gateway.linksOf stdPath tree = _
    rw [Gateway.linksOf, decoded]
    rfl
  rw [links]
  rfl

theorem asks_definition (id : Rpc.Id) (ready : s.Ready session)
    (readable : readParams Protocol.definitionParams params? = .ok (uri, position)) :
    s.Asks (.request ⟨"textDocument/definition", params?, some id⟩)
      (definitionCall session uri position.toAnalyzer)
      (s.answered id (.definition uri position) (· >>= Gateway.linksOf session.stdPath)) := by
  intro m _ _ analyzer
  have foreign : "textDocument/definition" ∉ Server.ownMethods := by decide
  have handled := takes_definition session uri position
  exact (Server.receive_ask analyzer id ready foreign (routed_definition _) readable handled :)

theorem asks_completion (id : Rpc.Id) (ready : s.Ready session)
    (readable : readParams Protocol.completionParams params? = .ok (uri, position)) :
    s.Asks (.request ⟨"textDocument/completion", params?, some id⟩)
      (completionCall session uri position.toAnalyzer)
      (s.answered id (.completion uri position) (· >>= Gateway.completionsOf)) := by
  intro m _ _ analyzer
  have foreign : "textDocument/completion" ∉ Server.ownMethods := by decide
  have handled := takes_completion session uri position
  exact (Server.receive_ask analyzer id ready foreign (routed_completion _) readable handled :)

theorem enqueues_definition {id : Rpc.Id} (connected : s.phase = .connected)
    (fresh : s.isPending id = false)
    (readable : readParams Protocol.definitionParams params? = .ok (uri, position)) :
    s.Enqueues (.request ⟨"textDocument/definition", params?, some id⟩)
      ⟨some id, .definition uri position⟩ := by
  have foreign : "textDocument/definition" ∉ Server.ownMethods := by decide
  exact (Server.enqueues_of_query connected foreign (routed_definition _) fresh readable :)

theorem enqueues_completion {id : Rpc.Id} (connected : s.phase = .connected)
    (fresh : s.isPending id = false)
    (readable : readParams Protocol.completionParams params? = .ok (uri, position)) :
    s.Enqueues (.request ⟨"textDocument/completion", params?, some id⟩)
      ⟨some id, .completion uri position⟩ := by
  have foreign : "textDocument/completion" ∉ Server.ownMethods := by decide
  exact (Server.enqueues_of_query connected foreign (routed_completion _) fresh readable :)

end

/-- A server that an editor has connected to. -/
def connectedServer : Server := { Server.start "/std" false with phase := .connected }

end SchemaServer
