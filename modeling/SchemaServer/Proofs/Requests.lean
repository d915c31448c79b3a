import Mathlib.Logic.Function.Defs
import SchemaServer.Proofs.Bytes
import SchemaServer.Proofs.Resync
import SchemaServer.Proofs.RoundTrips

/-! # Requests arrive as they were put

A request is one line, whatever the paths and texts in it contain, and the line tells the request:
`Request.ofLine?` is a reader for the other end of the pipe, which knows nothing of how requests are
written and takes no field that it does not expect.  So lines that are written one after the other
come apart into the requests that were put, as bytes too (`allOf?_flatMap`). -/

namespace SchemaServer

/-! ## Trees on one line -/

namespace Json

variable {depth : Nat} {value : Json}

theorem digitChar_ne_newline : ∀ n < 16, n.digitChar ≠ '\n' := by decide

theorem newline_not_mem_escapedChar (c : Char) : '\n' ∉ escapedChar c := by
  unfold escapedChar
  split
  next => decide
  split
  next => decide
  split
  next => decide
  split
  next => decide
  split
  next => decide
  next other =>
    split
    next => decide
    split
    next => decide
    split
    next control =>
      have high := digitChar_ne_newline (c.toNat / 16) (by omega)
      have low := digitChar_ne_newline (c.toNat % 16) (by omega)
      simp [high.symm, low.symm]
    next => simpa using Ne.symm other

theorem newline_not_mem_quote (s : String) : '\n' ∉ quote s := by
  simp [quote, newline_not_mem_escapedChar]

theorem newline_not_mem_toString (i : Int) : '\n' ∉ (toString i).toList := by
  have digits : ∀ n, '\n' ∉ Nat.toDigits 10 n := by
    intro n member
    exact absurd (isDigit_of_mem_toDigits member) (by decide)
  cases i with
  | ofNat n =>
    rw [toList_toString_ofNat]
    exact digits n
  | negSucc n =>
    rw [toList_toString_negSucc]
    simpa using digits (n + 1)

theorem newline_not_mem_separated {α : Type} {write : α → List Char} {values : List α}
    (each : ∀ a ∈ values, '\n' ∉ write a) : '\n' ∉ separated write values := by
  cases values with
  | nil => exact List.not_mem_nil
  | cons a values =>
    have first := each a List.mem_cons_self
    have later : ∀ b ∈ values, '\n' ∉ write b := fun b member =>
      each b (List.mem_cons_of_mem _ member)
    simpa [separated, first] using later

theorem newline_not_mem_chars (writable : Writable depth value) : '\n' ∉ value.chars := by
  induction writable with
  | null => decide
  | bool value => cases value <;> decide
  | int lower upper =>
    rw [Json.int, chars, Number.text]
    exact newline_not_mem_toString _
  | text content =>
    rw [chars]
    exact newline_not_mem_quote content
  | array _ each =>
    rw [chars, itemChars_eq]
    simpa using newline_not_mem_separated each
  | @object _ fields _ each =>
    have plain : '\n' ∉ separated fieldText fields := newline_not_mem_separated fun field member => by
      simpa [fieldText, newline_not_mem_quote] using each field member
    rw [chars, fieldChars_eq]
    simpa using plain

/-- A line break after a tree is a blank to any reader. -/
theorem parse_print_newline {α : Type} {shape : Shape α} {a : α} (neat : Neat maxDepth value)
    (read : shape.ofJson value = .ok a) : shape.parse (value.print ++ "\n") = .ok a := by
  have stops : Stops ['\n'] := by
    rintro c ⟨⟩
    decide
  have ordered : parseOrdered (value.print ++ "\n") = .ok value := by
    rw [parseOrdered, String.toList_append, print, String.toList_ofList]
    show (readOrdered maxDepth (value.chars ++ ['\n']) >>= _) = _
    rw [readOrdered_chars neat.writable stops]
    rfl
  have parsed : parse (value.print ++ "\n") = .ok value := by
    rw [parse_eq, ordered]
    exact congrArg Except.ok neat.sorted
  have unrepeated : repeatsNoKey (value.print ++ "\n") = true := by
    rw [repeatsNoKey, ordered]
    exact neat.unrepeated
  exact (parse_eq_ok_iff parsed unrepeated a).2 read

end Json

/-! ## The trees of requests -/

theorem Snapshot.neat_toJson (s : Snapshot) (depth : Nat) : Json.Neat (depth + 1) s.toJson := by
  refine .object s.files.keys ?_ s.files.keys_sorted ?_
  · rw [SortedMap.keys, List.map_map]
    rfl
  · intro field member
    obtain ⟨entry, _, rfl⟩ := List.mem_map.1 member
    exact .text entry.2

/-- The names of the parameters of an operation. -/
def Operation.parameters : Operation → List String
  | .lint | .formatDocument => ["path", "unsaved_files"]
  | .findDefinitions | .completionItems => ["path", "position", "unsaved_files"]
  | .removeCachedSchema => ["path"]

theorem Operation.parameters_increasing (operation : Operation) :
    operation.parameters.Pairwise (· < ·) := by
  cases operation <;> decide

namespace Pipe

open Analyzer (Call)

/-- The parameters of a call, by name. -/
def fields : Call → List (String × Json)
  | .lint path files | .formatDocument path files =>
    [("path", .text path), ("unsaved_files", files.toJson)]
  | .findDefinitions path files position | .completionItems path files position =>
    [("path", .text path), ("position", position.toJson), ("unsaved_files", files.toJson)]
  | .removeCachedSchema path => [("path", .text path)]

theorem keys_fields (call : Call) : (fields call).map Prod.fst = call.operation.parameters := by
  cases call <;> rfl

theorem params_eq (call : Call) : params call = .object (fields call) := by
  have increasing : (fields call).Pairwise fun a b => a.1 < b.1 := by
    rw [← List.pairwise_map, keys_fields]
    exact call.operation.parameters_increasing
  have placed : params call = .ofFields (fields call) := by cases call <;> rfl
  rw [placed, Json.ofFields, SortedMap.ofList_entries ⟨fields call, increasing⟩]

theorem neat_params (call : Call) (depth : Nat) : Json.Neat (depth + 2) (params call) := by
  rw [params_eq]
  refine .object _ (keys_fields call) call.operation.parameters_increasing ?_
  cases call <;> simp [fields, Json.Neat.text, Snapshot.neat_toJson, AnalyzerPosition.neat_toJson]

theorem neat_requestTree (id : UInt64) (call : Call) (depth : Nat) :
    Json.Neat (depth + 3) (requestTree id call) := by
  refine .object ["id", "method", "params"] rfl (by decide) ?_
  simp [Json.Neat.text, neat_params, Json.ofWord64, Json.Neat.nat (toNat_word64_le id)]

/-- A call with its number. -/
structure Request where
  id : UInt64
  call : Call

namespace Request

def line (r : Request) : String := requestLine r.id r.call

def bytes (r : Request) : List UInt8 := Utf8.encode r.line

theorem parse_line (r : Request) : Json.parse r.line = .ok (requestTree r.id r.call) :=
  Json.parse_print_newline (neat_requestTree r.id r.call 124) rfl

/-- What a line holds before its line break. -/
def body (r : Request) : String := (requestTree r.id r.call).print

theorem newline_not_mem_body (r : Request) : '\n' ∉ r.body.toList := by
  rw [body, Json.print, String.toList_ofList]
  exact Json.newline_not_mem_chars (neat_requestTree r.id r.call 124).writable

/-! ## The other end -/

def fileOf? : String × Json → Option (String × String)
  | (path, .text text) => some (path, text)
  | _ => none

/-- Read a map from paths to texts. -/
def filesOf? : Json → Option Snapshot
  | .object fields => (fields.mapM fileOf?).map fun files => ⟨.ofList files⟩
  | _ => none

/-- Read the parameters of an operation, which have to be all of them and nothing more. -/
def callOf? : (name : String) → (params : List (String × Json)) → Option Call
  | "lint", [("path", .text path), ("unsaved_files", files)] =>
    (filesOf? files).map fun files => .lint path files
  | "format_document", [("path", .text path), ("unsaved_files", files)] =>
    (filesOf? files).map fun files => .formatDocument path files
  | "find_definitions", [("path", .text path), ("position", position), ("unsaved_files", files)] => do
    return .findDefinitions path (← filesOf? files) (← (AnalyzerPosition.shape.ofJson position).toOption)
  | "completion_items", [("path", .text path), ("position", position), ("unsaved_files", files)] => do
    return .completionItems path (← filesOf? files) (← (AnalyzerPosition.shape.ofJson position).toOption)
  | "remove_cached_schema", [("path", .text path)] => some (.removeCachedSchema path)
  | _, _ => none

/-- Read a request, which has to have these three fields and nothing more. -/
def ofTree? : Json → Option Request
  | .object [("id", id), ("method", .text name), ("params", .object params)] => do
    return ⟨← (word64.ofJson id).toOption, ← callOf? name params⟩
  | _ => none

def ofLine? (line : String) : Option Request := (Json.parse line).toOption.bind ofTree?

/-- Read the lines of a sequence of bytes as requests; nothing may follow the last line. -/
def allOf? (bytes : List UInt8) : Option (List Request) :=
  match splitLines bytes with
  | (lines, []) => lines.mapM fun line => (Utf8.decode line).toOption.bind ofLine?
  | _ => none

/-- Reading each of the values that were written one by one. -/
theorem mapM_map_eq_some {α β : Type} {write : α → β} {read : β → Option α}
    (each : ∀ a, read (write a) = some a) (values : List α) :
    (values.map write).mapM read = some values := by
  induction values with
  | nil => rfl
  | cons a values ih =>
    rw [List.map_cons, List.mapM_cons, each, ih]
    rfl

theorem filesOf?_toJson (s : Snapshot) : filesOf? s.toJson = some s := by
  have file : ∀ entry : String × String, fileOf? (entry.1, .text entry.2) = some entry := fun _ => rfl
  have read := mapM_map_eq_some file s.files.entries
  rw [Snapshot.toJson, filesOf?, read, Option.map_some, SortedMap.ofList_entries]

theorem ofJson_word64 (w : UInt64) : word64.ofJson (.ofWord64 w) = .ok w := ofJson_word rfl rfl w

theorem callOf?_fields (call : Call) : callOf? call.operation.name (fields call) = some call := by
  have position : ∀ p : AnalyzerPosition, AnalyzerPosition.shape.ofJson p.toJson = .ok p := fun p =>
    AnalyzerPosition.ofJson_eq_ok_iff.2 rfl
  cases call <;> simp [callOf?, fields, filesOf?_toJson, position, Call.operation, Operation.name, Except.toOption]

theorem ofLine?_line (r : Request) : ofLine? r.line = some r := by
  rw [ofLine?, parse_line, requestTree, params_eq]
  simp [Except.toOption, ofTree?, ofJson_word64, callOf?_fields]

/-! ## Lines one after the other -/

/-- The bytes of a request as a line. -/
def frame (r : Request) : Line := ⟨Utf8.encode r.body, Utf8.newline_not_mem_encode r.newline_not_mem_body⟩

theorem bytes_frame (r : Request) : r.frame.bytes = r.bytes := by
  rw [bytes, line, requestLine, Utf8.encode_append_newline]
  rfl

theorem splitLines_flatMap (requests : List Request) :
    splitLines (requests.flatMap bytes) = (requests.map bytes, []) := by
  have block := splitLines_block (requests.map frame)
  simpa only [List.map_map, List.flatMap_def, Function.comp_def, bytes_frame] using block

theorem allOf?_flatMap (requests : List Request) : allOf? (requests.flatMap bytes) = some requests := by
  rw [allOf?, splitLines_flatMap]
  refine mapM_map_eq_some (fun r => ?_) requests
  simp only [bytes, Utf8.decode_encode, Except.toOption, Option.bind_some, ofLine?_line]

end Request

/-- The request of a call. -/
def Passage.request (s : Passage) : Request := ⟨s.id, s.call⟩

theorem sent_pass (turn : Turn) (p : Pipe) :
    (p.pass turn).sent = if p.broken?.isNone then [(p.pass turn).request.line] else [] := by
  cases lawful_pass turn p with
  | broken broken unsent failed kept =>
    rw [before_pass] at broken
    simp [unsent, broken]
  | refused working refused sent failed kept | read working wrote sent shared stale fresh drained ends =>
    rw [before_pass] at working
    simp [sent, working, Passage.request, Request.line]

/-- What the analyzer is handed over a whole run are the requests of the calls that find the pipe
    working. -/
theorem sent_passages (p : Pipe) (turns : List Turn) :
    ((passages p turns).flatMap fun s => s.sent.flatMap Utf8.encode) =
      (((passages p turns).filter fun s => s.before.broken?.isNone).map Passage.request).flatMap
        Request.bytes := by
  induction turns generalizing p with
  | nil => rfl
  | cons turn turns ih =>
    rw [passages, List.flatMap_cons, ih, List.filter_cons, sent_pass, before_pass]
    split
    next => simp [Request.bytes]
    next => simp

/-! ## The whole of it -/

/-- The line of a request: one line break, at its end, and before it the tree of the request. -/
structure Request.Framed (r : Request) : Prop where
  ended : ∃ body, r.line.toList = body ++ ['\n'] ∧ '\n' ∉ body
  tree : ∃ params,
    Json.parse r.line = .ok (.object [("id", .nat r.id.toNat),
      ("method", .text r.call.operation.name), ("params", .object params)]) ∧
    params.map Prod.fst = r.call.operation.parameters ∧
    SortedMap.lookup "path" params = some (.text r.call.path) ∧
    SortedMap.lookup "position" params =
      r.call.position?.map (fun p => .array [.nat p.line.toNat, .nat p.column.toNat]) ∧
    SortedMap.lookup "unsaved_files" params =
      r.call.files?.map fun s => .object (s.files.entries.map fun (path, text) => (path, .text text))
  told : ofLine? r.line = some r

theorem Request.framed (r : Request) : r.Framed where
  ended := by
    refine ⟨r.body.toList, ?_, r.newline_not_mem_body⟩
    exact String.toList_append
  tree := by
    refine ⟨fields r.call, ?_, keys_fields r.call, ?_⟩
    · rw [parse_line, requestTree, params_eq]
      rfl
    · cases r.call <;> exact ⟨rfl, rfl, rfl⟩
  told := r.ofLine?_line

/-- Every request is one line that can be read back, and different requests have different lines.  The
    lines of any number of requests in a row are told apart again, so what the analyzer gets from a
    pipe is just the requests that were put while it worked, each whole and in turn. -/
theorem requests_arrive :
    (∀ r : Request, r.Framed) ∧ Function.Injective Request.line ∧
    (∀ requests : List Request,
      splitLines (requests.flatMap Request.bytes) = (requests.map Request.bytes, []) ∧
      Request.allOf? (requests.flatMap Request.bytes) = some requests) ∧
    ∀ (p : Pipe) (turns : List Turn),
      Request.allOf? ((passages p turns).flatMap fun s => s.sent.flatMap Utf8.encode) =
        some (((passages p turns).filter fun s => s.before.broken?.isNone).map Passage.request) := by
  refine ⟨Request.framed, ?_, fun requests => ?_, fun p turns => ?_⟩
  · intro first second same
    have told := first.ofLine?_line
    rw [same, second.ofLine?_line] at told
    exact (Option.some.inj told).symm
  · exact ⟨Request.splitLines_flatMap requests, Request.allOf?_flatMap requests⟩
  · rw [sent_passages, Request.allOf?_flatMap]

end Pipe

end SchemaServer
