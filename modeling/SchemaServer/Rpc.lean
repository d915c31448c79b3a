import SchemaServer.Json.Print
import SchemaServer.Json.Tree
import SchemaServer.Json.Words

/-! # Messages between editor and server

Requests, notifications and responses.  An object with an id and a result or an error is a response;
any other message is a request, or a notification if it has no id. -/

namespace SchemaServer.Rpc

inductive Id where
  | number (value : Int)
  | text (value : String)
  | null
deriving DecidableEq, Repr

structure Error where
  code : Int
  message : String
  data? : Option Json := none

/-- A request, or a notification if it has no id. -/
structure Request where
  method : String
  params? : Option Json
  id? : Option Id

inductive Incoming where
  | request (value : Request)
  | response (id : Id) (result : Except Error Json)
  | unreadable

inductive Outgoing where
  | response (id : Id) (result : Except Error Json)
  | request (id : Nat) (method : String) (params : Json)
  | notification (method : String) (params : Json)

/-! ## Errors -/

namespace Error

def invalidRequest : Error := ⟨-32600, "Invalid request", none⟩

def notConnected : Error := ⟨-32002, "Server not initialized", none⟩

def methodNotFound : Error := ⟨-32601, "Method not found", none⟩

/-- There is no such kind of request. -/
def unknownMethod (method : String) : Error := { methodNotFound with data? := some (.text method) }

def invalidParams (message : String) : Error := ⟨-32602, message, none⟩

def failure (message : String) : Error := ⟨-32603, message, none⟩

def canceled : Error := ⟨-32800, "Canceled", none⟩

def toJson (e : Error) : Json :=
  .ofFields ([("code", .int e.code), ("message", .text e.message)] ++
    (match e.data? with
      | some value => [("data", value)]
      | none => []))

end Error

/-! ## Writing messages -/

def version : String := "2.0"

def Id.toJson : Id → Json
  | .number n => .int n
  | .text s => .text s
  | .null => .null

def Outgoing.toJson : Outgoing → Json
  | .response id (.ok value) =>
    .ofFields [("jsonrpc", .text version), ("result", value), ("id", id.toJson)]
  | .response id (.error e) =>
    .ofFields [("jsonrpc", .text version), ("error", e.toJson), ("id", id.toJson)]
  | .request id method params =>
    .ofFields [("jsonrpc", .text version), ("method", .text method), ("params", params),
      ("id", .nat id)]
  | .notification method params =>
    .ofFields [("jsonrpc", .text version), ("method", .text method), ("params", params)]

/-! ## Reading messages -/

open Json (Shape Fault)

def Id.ofJson? : Json → Option Id
  -- Ids are signed words; an integer above them is no id.
  | .number (.int n) => if n ≤ Json.IntKind.i64.max then some (.number n) else none
  | .text s => some (.text s)
  | .null => some .null
  | _ => none

def Id.shape : Shape Id :=
  .refine .any fun value =>
    match Id.ofJson? value with
    | some id => .ok id
    | none => .error (.noVariant "Id")

def versionShape : Shape Unit :=
  .refine .text fun v =>
    if v = version then .ok () else .error (.wrongValue (.text v) "JSON-RPC version \"2.0\"")

/-- The JSON form of a request: a missing method is the empty one, and null parameters are not
    missing ones. -/
def Request.shape : Shape Request :=
  (Shape.record "Request" <|
    .required "jsonrpc" versionShape <| .defaulted "method" .text "" <|
    .defaulted "params" (Shape.any.map some) none <|
    .defaulted "id" (Id.shape.map some) none .nil).map
    fun ((), method, params?, id?, ()) => ⟨method, params?, id?⟩

def Error.shape : Shape Error :=
  (Shape.record "Error" <|
    .required "code" (.integer .i64) <| .required "message" .text <|
    .keyed "data" (.optional .any) none .nil).map
    fun (code, message, data?, ()) => ⟨code, message, data?⟩

/-- The error a tree stands for; an object with other keys stands for none. -/
def Error.ofJson? : Json → Option Error
  | .object fields =>
    if fields.all fun (key, _) => key = "code" ∨ key = "message" ∨ key = "data" then
      (Error.shape.ofJson (.object fields)).toOption
    else none
  | value => (Error.shape.ofJson value).toOption

def resultOf? (message : Json) : Option (Except Error Json) :=
  match message.field? "result" with
  | some value => some (.ok value)
  | none => ((message.field? "error").bind Error.ofJson?).map .error

def response? (message : Json) : Option (Id × Except Error Json) := do
  let mark ← message.field? "jsonrpc"
  let () ← (versionShape.ofJson mark).toOption
  return (← (message.field? "id").bind Id.ofJson?, ← resultOf? message)

def Incoming.ofJson (message : Json) : Incoming :=
  match response? message with
  | some (id, result) => .response id result
  | none =>
    match Request.shape.ofJson message with
    | .ok r => .request r
    | .error _ => .unreadable

end SchemaServer.Rpc
