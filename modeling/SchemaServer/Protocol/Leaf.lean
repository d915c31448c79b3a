import SchemaServer.Json.Tree
import SchemaServer.Json.Words
import SchemaServer.Position
import SchemaServer.Url.Parse

/-! # Parts of parameters

Readers for the parts that parameters of the editor are made of:

* `boolean`, `integer32`, `url`: single values.
* `union`: a value that may have one of several forms.
* `Fields.ofMembers`: some of the fields of an object that holds more.
* `inSequence`: the wording of such a field when it is a list that is too long. -/

namespace SchemaServer

namespace Json

def Shape.ofTree {α : Type} (read : Json → Except Fault α) : Shape α := .refine .any read

/-- Read some fields of an object; the other ones are not looked at. -/
def Fields.ofMembers {σ ρ : Type} (fields : Fields σ ρ) (members : List (String × Json)) :
    Except Fault ρ := do
  fields.finish (← members.foldlM (fun slots (key, value) => fields.ofMember key value slots)
    fields.none)

def Fields.optional {α σ ρ : Type} (key : String) (shape : Shape α) (rest : Fields σ ρ) :
    Fields (Option (Option α) × σ) (Option α × ρ) :=
  .keyed key (.optional shape) Option.none rest

end Json

namespace Protocol

open Json (Shape Fields Fault)

def boolean : Shape Bool :=
  .ofTree fun
    | .bool b => .ok b
    | value => Json.unexpected value "a boolean"

def integer32 : Shape Int := .integer .i32

/-- A URL, in its written form. -/
def url : Shape String :=
  .ofTree fun
    | .text source =>
      match Url.parse source with
      | .ok u => .ok u.text
      | .error fault => .error (.badUrl fault.message source)
    | value => Json.unexpected value "a string representing an URL"

def union {α : Type} (name : String) (forms : List (Shape α)) : Shape α :=
  .ofTree fun value =>
    match forms.findSome? fun form => (form.ofJson value).toOption with
    | some a => .ok a
    | none => .error (.noVariant name)

def token : Shape Json :=
  union "NumberOrString" [integer32.map .int, Shape.text.map .text]

/-- Say of a list that is too long how many elements it may have. -/
def inSequence {α : Type} (size : Nat) (shape : Shape α) : Shape α :=
  .ofTree fun value =>
    match value, shape.ofJson value with
    | .array items, .error (.wrongLength length expected) =>
      if length = items.length ∧ size < length then
        .error (.wrongLength length (toString size ++
          (if size = 1 then " element" else " elements") ++ " in sequence"))
      else .error (.wrongLength length expected)
    | _, outcome => outcome

/-! ## Places -/

def textDocument : Shape String :=
  (Shape.record "TextDocumentIdentifier" (.required "uri" url .nil)).map Prod.fst

def workDone := Fields.optional "workDoneToken" token .nil

def partialResult := Fields.optional "partialResultToken" token .nil

def documentPosition :=
  Fields.required "textDocument" (inSequence 1 textDocument) <|
    .required "position" (inSequence 2 Position.shape) .nil

end Protocol

end SchemaServer
