import SchemaServer.Analyzer
import SchemaServer.Json.Parse
import SchemaServer.Json.Print
import SchemaServer.Json.Tree
import SchemaServer.Json.Words
import SchemaServer.Text.Utf8

/-! # An analyzer at the end of a pipe

The analyzer may be a process of its own that reads one request per line and writes one reply per
line.  Requests are numbered from one.  A reply to an earlier request is skipped; a reply to a later
one, or the end of the replies, breaks the pipe for good.  A reply that cannot be read fails the
call that waits, and nothing more. -/

namespace SchemaServer

namespace Pipe

/-! ## Requests -/

def params (call : Analyzer.Call) : Json :=
  let files := match call.files? with
    | some files => [("unsaved_files", files.toJson)]
    | none => []
  let position := match call.position? with
    | some position => [("position", position.toJson)]
    | none => []
  .ofFields ([("path", .text call.path)] ++ position ++ files)

def requestTree (id : UInt64) (call : Analyzer.Call) : Json :=
  .object [("id", .ofWord64 id), ("method", .text call.operation.name), ("params", params call)]

def requestLine (id : UInt64) (call : Analyzer.Call) : String := (requestTree id call).print ++ "\n"

/-! ## Replies -/

structure Reply where
  /-- The number of the request, if the reply tells it. -/
  id? : Option UInt64
  result? : Option Json
  failure? : Option String

def word64 : Json.Shape UInt64 := (Json.Shape.integer .u64).map fun i => UInt64.ofNat i.toNat

def Reply.shape : Json.Shape Reply :=
  (Json.Shape.record "Response" <|
    .defaulted "id" (.optional word64) none <| .defaulted "result" (.optional .any) none <|
    .defaulted "error" (.optional (Json.Shape.record "ResponseError"
      (.required "message" .text .nil))) none .nil).map
    fun (id?, result?, failure?, ()) => ⟨id?, result?, failure?.map Prod.fst⟩

/-- What a reply says: a failure comes before a result, and no result is null. -/
def Reply.outcome (operation : Operation) (r : Reply) : Analyzer.Outcome Json :=
  match r.failure? with
  | some reason => .error (.failed operation reason)
  | none => .ok (r.result?.getD .null)

/-! ## Lines -/

/-- The whole lines of a sequence of bytes, each with its line break, and what follows the last. -/
def splitLines : List UInt8 → List (List UInt8) × List UInt8
  | [] => ([], [])
  | b :: rest =>
    let (lines, tail) := splitLines rest
    if b = 10 then ([b] :: lines, tail)
    else
      match lines with
      | [] => ([], b :: tail)
      | line :: lines => ((b :: line) :: lines, tail)

inductive Reaction where
  | refused (reason : String)
  /-- It writes these bytes, and then may close its output. -/
  | wrote (bytes : List UInt8) (closed : Bool)

end Pipe

structure Pipe where
  nextId : UInt64 := 1
  broken? : Option String := none
  lines : List (List UInt8) := []
  /-- What the analyzer wrote after its last line break. -/
  tail : List UInt8 := []
  closed : Bool := false

namespace Pipe

/-- The pipe after the analyzer wrote something; nothing comes after its output has been closed. -/
def feed (bytes : List UInt8) (closed : Bool) (p : Pipe) : Pipe :=
  if p.closed then p
  else
    let (lines, tail) := splitLines (p.tail ++ bytes)
    { p with lines := p.lines ++ lines, tail, closed }

/-- The lines that can be read: the rest without a line break is one as well when nothing more will
    come. -/
def readable (p : Pipe) : List (List UInt8) :=
  if p.closed && !p.tail.isEmpty then p.lines ++ [p.tail] else p.lines

inductive Reading where
  | stale
  | ahead (id : UInt64)
  | reply (reply : Reply)
  | unreadable (failure : Analyzer.Failure)

def readReply (operation : Operation) (id : UInt64) (line : List UInt8) : Reading :=
  match Utf8.decode line with
  | .error fault => .unreadable (.failed operation fault.message)
  | .ok content =>
    match Reply.shape.parse content with
    | .error fault => .unreadable (.malformed operation fault)
    | .ok reply =>
      match reply.id? with
      -- Without a number the reply is taken for the one that is waited for.
      | none => .reply reply
      | some other => if other < id then .stale else if id < other then .ahead other else .reply reply

def endReason : String := "analyzer process exited"

def aheadReason (id other : UInt64) : String :=
  "analyzer answered request " ++ toString other.toNat ++ " while waiting for " ++
    toString id.toNat ++ "; pipe is out of step"

inductive Awaited where
  /-- The call is decided; `broken?` says that the pipe broke by it. -/
  | decided (outcome : Analyzer.Outcome Json) (broken? : Option String)
  /-- Nothing that the analyzer wrote decides the call, and more may come. -/
  | pending

def await (operation : Operation) (id : UInt64) (closed : Bool) :
    List (List UInt8) → Awaited × List (List UInt8)
  | [] =>
    if closed then (.decided (.error (.failed operation endReason)) (some endReason), [])
    else (.pending, [])
  | line :: lines =>
    match readReply operation id line with
    | .stale => await operation id closed lines
    | .ahead other =>
      let reason := aheadReason id other
      (.decided (.error (.failed operation reason)) (some reason), lines)
    | .reply reply => (.decided (reply.outcome operation) none, lines)
    | .unreadable failure => (.decided (.error failure) none, lines)

/-- The pipe after the wait for a reply, and the outcome of the call; none if it waits forever. -/
def settle (operation : Operation) (id : UInt64) (p : Pipe) :
    Option (Analyzer.Outcome Json) × Pipe :=
  let (awaited, lines) := await operation id p.closed p.readable
  -- Once the output is closed, the tail was the last of the lines.
  let tail := if p.closed then [] else p.tail
  match awaited with
  | .decided outcome broken? => (some outcome, { p with lines, tail, broken? })
  | .pending => (none, { p with lines, tail })

/-- Put a call to the analyzer: `send` hands it a line. -/
def exchange {m : Type → Type} [Monad m] (send : String → m Reaction) (call : Analyzer.Call)
    (p : Pipe) : m (Option (Analyzer.Outcome Json) × Pipe) := do
  let id := p.nextId
  -- The number is used up even if the pipe is broken.
  let p := { p with nextId := id + 1 }
  match p.broken? with
  | some reason => return (some (.error (.failed call.operation reason)), p)
  | none =>
    match ← send (requestLine id call) with
    | .refused reason => return (some (.error (.failed call.operation reason)), p)
    | .wrote bytes closed => return (p.feed bytes closed).settle call.operation id

def answerOf : (call : Analyzer.Call) → Json → Analyzer.Outcome call.Answer
  | .lint .., result => Analyzer.decoded .lint (Json.Shape.text.ofJson result)
  | .formatDocument .., result => Analyzer.decoded .formatDocument (Json.Shape.text.ofJson result)
  | .findDefinitions .., result | .completionItems .., result => .ok result
  | .removeCachedSchema .., _ => .ok ()

def answer {m : Type → Type} [Monad m] (send : String → m Reaction) (call : Analyzer.Call) :
    StateT Pipe m (Option (Analyzer.Outcome call.Answer)) := fun p => do
  let (outcome, p) ← exchange send call p
  return (outcome.map fun outcome => outcome >>= answerOf call, p)

/-- The analyzer at the end of the pipe, as a server calls it.  It never breaks down.  A call that
    waits forever has no result, and nothing comes after it. -/
def answering {m : Type → Type} [Monad m] (send : String → m Reaction) (call : Analyzer.Call) :
    OptionT (StateT Pipe m) (Option (Analyzer.Outcome call.Answer)) :=
  some <$> OptionT.mk (answer send call)

end Pipe

end SchemaServer
