import SchemaServer.Server.Routes
import SchemaServer.Server.Worker

/-! # The server

`Server.receive` takes one message of the editor and gives the messages that follow from it.  A
connection is opened by the editor's first request, closed by a request to shut down, and gone after
the notification to exit. -/

namespace SchemaServer

namespace Server

inductive Phase where
  | unconnected
  | connected
  | closed
  | exited
deriving DecidableEq, Repr

end Server

structure Server where
  formatting : Bool
  phase : Server.Phase := .unconnected
  worker : Server.Worker
  queue : List Server.Job := []
  nextId : Nat := 0

namespace Server

open Session (Event)

/-- A server before any message.  The path of the standard library is a text here; one whose bytes are
    not UTF-8 is outside this model. -/
def start (stdPath : String) (formatting : Bool) : Server where
  formatting := formatting
  worker := .idle { stdPath := stdPath }

/-- How the analyzer answers calls: with nothing if it breaks down. -/
abbrev Answering (m : Type → Type) : Type :=
  (call : Analyzer.Call) → m (Option (Analyzer.Outcome call.Answer))

variable {m : Type → Type} [Monad m]

def proceed (s : Server) (p : Progress) : List Rpc.Outgoing × Server :=
  (p.sent, { s with worker := p.worker, queue := p.queue, nextId := p.nextId })

def submit (analyzer : Answering m) (job : Job) (s : Server) : m (List Rpc.Outgoing × Server) :=
  match s.worker with
  | .idle session => return s.proceed (← drain analyzer s.nextId session (s.queue ++ [job]))
  | .waiting .. => return ([], { s with queue := s.queue ++ [job] })
  | .stopped => return (job.abandon, s)

def unfinished (s : Server) : List Job :=
  match s.worker with
  | .waiting job .. => job :: s.queue
  | .idle _ | .stopped => s.queue

def isPending (s : Server) (id : Rpc.Id) : Bool := s.unfinished.any (·.id? == some id)

def Job.forget (id : Rpc.Id) (job : Job) : Job :=
  if job.id? = some id then { job with id? := none } else job

/-- Answer a request that the editor no longer wants; its event is handled all the same. -/
def cancel (id : Rpc.Id) (s : Server) : List Rpc.Outgoing × Server :=
  if s.isPending id then
    let worker := match s.worker with
      | .waiting job number call next =>
        if job.id? = some id then .waiting { job with id? := none } number call next
        else .waiting job number call next
      | worker => worker
    ([.response id (.error .canceled)], { s with worker, queue := s.queue.map (Job.forget id) })
  else ([], s)

/-- The response to a request; a notification gets none. -/
def reply (id? : Option Rpc.Id) (result : Except Rpc.Error Json) : List Rpc.Outgoing :=
  match id? with
  | some id => [.response id result]
  | none => []

def closedError (s : Server) : Rpc.Error :=
  match s.phase with
  | .unconnected => .notConnected
  | .connected | .closed | .exited => .invalidRequest

/-! ## Methods of the connection itself -/

def connect (analyzer : Answering m) (r : Rpc.Request) (s : Server) :
    m (List Rpc.Outgoing × Server) :=
  if s.phase = .unconnected then
    match r.id?, readParams Protocol.connectParams r.params? with
    -- As a notification it opens no connection.
    | none, _ => return ([], s)
    | some id, .error e => return ([.response id (.error e)], s)
    | some id, .ok capabilities => do
      let result := Protocol.connectResult capabilities s.formatting
      let (sent, s) ← submit analyzer ⟨none, .connected capabilities⟩ { s with phase := .connected }
      return (.response id (.ok result) :: sent, s)
  else return (reply r.id? (.error .invalidRequest), s)

def shutDown (r : Rpc.Request) (s : Server) : List Rpc.Outgoing × Server :=
  if s.phase = .connected then
    -- With parameters the request fails, but the connection is closed all the same.
    let result := match r.params? with
      | none => .ok .null
      | some params => .error (.invalidParams ("Unexpected params: " ++ params.print))
    (reply r.id? result, { s with phase := .closed })
  else (reply r.id? (.error s.closedError), s)

/-- The editor exits: requests that wait are given up. -/
def exit (s : Server) : List Rpc.Outgoing × Server :=
  let given := s.unfinished.flatMap fun job => job.respond (.error .canceled)
  (given, { s with phase := .exited, worker := .stopped, queue := [] })

def cancelRequest (r : Rpc.Request) (s : Server) : List Rpc.Outgoing × Server :=
  match r.id? with
  | some id => ([.response id (.error .invalidRequest)], s)
  | none =>
    match (readParams Protocol.cancelParams r.params?).toOption.bind Rpc.Id.ofJson? with
    | some id => s.cancel id
    | none => ([], s)

/-! ## Methods of an open connection -/

def follow (analyzer : Answering m) (route : Route) (r : Rpc.Request) (s : Server) :
    m (List Rpc.Outgoing × Server) :=
  match route, r.id? with
  | .notice _, some id => return ([.response id (.error .invalidRequest)], s)
  | .notice params, none =>
    match readParams params r.params? with
    | .ok (some event) => submit analyzer ⟨none, event⟩ s
    | .ok none | .error _ => return ([], s)
  | .query _, none | .answer _, none => return ([], s)
  | .query params, some id =>
    match readParams params r.params? with
    | .ok event => submit analyzer ⟨some id, event⟩ s
    | .error e => return ([.response id (.error e)], s)
  | .answer params, some id =>
    return ([.response id ((readParams params r.params?).bind fun result => result)], s)

def handle (analyzer : Answering m) (r : Rpc.Request) (s : Server) :
    m (List Rpc.Outgoing × Server) :=
  if r.method = "initialize" then s.connect analyzer r
  else if r.method = "shutdown" then return s.shutDown r
  else if r.method = "exit" then return s.exit
  else if r.method = "$/cancelRequest" then return s.cancelRequest r
  else
    match route? s.formatting r.method with
    | some route =>
      if s.phase ≠ .connected then return (reply r.id? (.error s.closedError), s)
      else if r.id?.any s.isPending then return (reply r.id? (.error .invalidRequest), s)
      else s.follow analyzer route r
    | none =>
      -- These methods may be passed over, and then even a request gets no response.
      if r.method.startsWith "$/" then return ([], s)
      else return (reply r.id? (.error (.unknownMethod r.method)), s)

/-- Take a message of the editor.  After the exit nothing is taken. -/
def receive (analyzer : Answering m) (message : Rpc.Incoming) (s : Server) :
    m (List Rpc.Outgoing × Server) :=
  if s.phase = .exited then return ([], s)
  else
    match message with
    | .request r => s.handle analyzer r
    | .response id result =>
      match s.worker with
      | .waiting job number call next =>
        -- The worker waits for one response only; any other comes too late or was never asked for.
        if id = .number number then do
          return s.proceed (← resume analyzer s.nextId job (next (answerOf call result)) s.queue)
        else return ([], s)
      | .idle _ | .stopped => return ([], s)
    | .unreadable => return ([.response .null (.error .invalidRequest)], s)

end Server

end SchemaServer
