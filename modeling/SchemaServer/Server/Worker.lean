import SchemaServer.Protocol.Forms
import SchemaServer.Rpc
import SchemaServer.Session

/-! # The worker behind the server

Events reach the session through a queue and are handled one at a time.  What a session tells the
editor goes out as notifications; what it asks goes out as a request, and until the editor responds
the worker waits in the middle of the event.  If the analyzer breaks down, the worker stops for
good. -/

namespace SchemaServer.Server

open Session (Event)

structure Job where
  id? : Option Rpc.Id
  event : Event

def replyResult : (event : Event) → event.Reply → Except Rpc.Error Json
  | .definition .., reply => respond Protocol.definitionResult reply
  | .completion .., reply => respond Protocol.completionResult reply
  | .format .., reply => respond Protocol.formatResult reply
  | .connected _, _ | .initialized, _ | .opened .., _ | .changed .., _ | .closed _, _
  | .configurationChanged _, _ | .watchedFilesChanged, _ => .ok .null
where
  respond {α : Type} (form : α → Json) : Analyzer.Outcome α → Except Rpc.Error Json
    | .ok value => .ok (form value)
    | .error failure => .error (.failure failure.message)

def Job.respond (job : Job) (result : Except Rpc.Error Json) : List Rpc.Outgoing :=
  match job.id? with
  | some id => [.response id result]
  | none => []

def Job.abandon (job : Job) : List Rpc.Outgoing := job.respond (.error (.failure "dispatcher stopped"))

inductive Standing (α : Type) where
  | finished (value : α)
  /-- It waits for the editor to respond to the request with this number. -/
  | waiting (id : Nat) (call : Client.Call) (next : call.Answer → Program α)
  /-- The analyzer broke down. -/
  | stopped

/-- A program's messages to the editor so far, and where it stands.  `nextId` is the number of the
    next request to the editor. -/
structure Pursuit (α : Type) where
  sent : List Rpc.Outgoing
  nextId : Nat
  standing : Standing α

def Pursuit.after {α : Type} (message : Rpc.Outgoing) (p : Pursuit α) : Pursuit α :=
  { p with sent := message :: p.sent }

/-- Follow a program until it is finished or waits for the editor.  `analyzer` answers the calls of
    the analyzer, with nothing if it breaks down. -/
def pursue {m : Type → Type} [Monad m] {α : Type}
    (analyzer : (call : Analyzer.Call) → m (Option (Analyzer.Outcome call.Answer))) (nextId : Nat) :
    Program α → m (Pursuit α)
  | .done value => return ⟨[], nextId, .finished value⟩
  | .ask (.analyzer call) next => do
    match ← analyzer call with
    | some answer => pursue analyzer nextId (next answer)
    | none => return ⟨[], nextId, .stopped⟩
  -- What the editor is only told is answered at once.
  | .ask (.client (.publish uri diagnostics version)) next => do
    let message := .notification "textDocument/publishDiagnostics"
      (Protocol.publishParams uri diagnostics version)
    return (← pursue analyzer nextId (next ())).after message
  | .ask (.client (.log level content)) next => do
    let message := .notification "window/logMessage" (Protocol.logParams level content)
    return (← pursue analyzer nextId (next ())).after message
  | .ask (.client .externalTypesChanged) next => do
    let message := .notification "teo/externalTypesChanged" (.object [])
    return (← pursue analyzer nextId (next ())).after message
  -- What it is asked for has to wait for its response.
  | .ask (.client .registerConfiguration) next =>
    return ⟨[.request nextId "client/registerCapability" Protocol.registerParams], nextId + 1,
      .waiting nextId .registerConfiguration next⟩
  | .ask (.client (.fetchSettings uri)) next =>
    return ⟨[.request nextId "workspace/configuration" (Protocol.configurationParams uri)],
      nextId + 1, .waiting nextId (.fetchSettings uri) next⟩

def answerOf : (call : Client.Call) → Except Rpc.Error Json → call.Answer
  | .registerConfiguration, result => result.toOption.any Json.isNull
  | .fetchSettings _, .ok value => Protocol.fetchedOf value
  | .fetchSettings _, .error _ => .failed
  | .publish .., _ | .externalTypesChanged, _ | .log .., _ => ()

inductive Worker where
  | idle (session : Session)
  /-- In the middle of a job, until the editor responds to the request with this number. -/
  | waiting (job : Job) (id : Nat) (call : Client.Call)
      (next : call.Answer → Program (job.event.Reply × Session))
  | stopped

structure Progress where
  sent : List Rpc.Outgoing
  nextId : Nat
  worker : Worker
  queue : List Job

def Progress.after (messages : List Rpc.Outgoing) (p : Progress) : Progress :=
  { p with sent := messages ++ p.sent }

def drain {m : Type → Type} [Monad m]
    (analyzer : (call : Analyzer.Call) → m (Option (Analyzer.Outcome call.Answer))) (nextId : Nat)
    (session : Session) : List Job → m Progress
  | [] => return ⟨[], nextId, .idle session, []⟩
  | job :: jobs => do
    let p ← pursue analyzer nextId (session.handle job.event)
    match p.standing with
    | .finished (reply, session) =>
      let rest ← drain analyzer p.nextId session jobs
      return rest.after (p.sent ++ job.respond (replyResult job.event reply))
    | .waiting id call next => return ⟨p.sent, p.nextId, .waiting job id call next, jobs⟩
    | .stopped => return ⟨p.sent ++ (job :: jobs).flatMap Job.abandon, p.nextId, .stopped, []⟩

def resume {m : Type → Type} [Monad m]
    (analyzer : (call : Analyzer.Call) → m (Option (Analyzer.Outcome call.Answer))) (nextId : Nat)
    (job : Job) (program : Program (job.event.Reply × Session)) (queue : List Job) : m Progress := do
  let p ← pursue analyzer nextId program
  match p.standing with
  | .finished (reply, session) =>
    let rest ← drain analyzer p.nextId session queue
    return rest.after (p.sent ++ job.respond (replyResult job.event reply))
  | .waiting id call next => return ⟨p.sent, p.nextId, .waiting job id call next, queue⟩
  | .stopped => return ⟨p.sent ++ (job :: queue).flatMap Job.abandon, p.nextId, .stopped, []⟩

end SchemaServer.Server
