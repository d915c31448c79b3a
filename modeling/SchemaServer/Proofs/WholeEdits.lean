import SchemaServer.Proofs.Forms
import SchemaServer.Proofs.Front
import SchemaServer.Proofs.TextEnds

/-! # Edits that replace a document

A laid out text goes to the editor as one edit from the start of the document to its end.  An editor
counts lines in its own way: a carriage return ends a line, with or without a line feed after it.
The end of a document is the end of its last line only if no carriage return stands alone
(`exists_ofText`).  Otherwise the place that is taken for the end is in an earlier line, and what ends
that line is left behind (`cutAll?_inner`). -/

namespace SchemaServer

open Text (charUnits units units_cons)

/-! ## Lines as editors count them -/

structure Line where
  content : List Char
  ending : List Char
deriving DecidableEq, Repr

namespace Line

def chars (line : Line) : List Char := line.content ++ line.ending

/-- The lines of a text.  A line feed, a carriage return or one of each in this order ends a line,
    and the end of the text ends the last one. -/
def ofText : List Char → List Line
  | [] => [⟨[], []⟩]
  | '\r' :: '\n' :: cs => ⟨[], ['\r', '\n']⟩ :: ofText cs
  | c :: cs =>
    if c = '\n' ∨ c = '\r' then ⟨[], [c]⟩ :: ofText cs
    else
      match ofText cs with
      | [] => [⟨[c], []⟩]
      | first :: rest => ⟨c :: first.content, first.ending⟩ :: rest

/-- The carriage returns of a text that no line feed follows. -/
def loneReturns : List Char → Nat
  | [] => 0
  | '\r' :: '\n' :: cs => loneReturns cs
  | c :: cs => loneReturns cs + if c = '\r' then 1 else 0

theorem ofText_ne_nil (cs : List Char) : ofText cs ≠ [] := by
  fun_cases ofText cs <;> simp

@[simp] theorem flatMap_chars_ofText (cs : List Char) : (ofText cs).flatMap chars = cs := by
  fun_induction ofText cs with
  | case1 => rfl
  | case2 cs ih => simp [chars, ih]
  | case3 c cs _ _ ih => simp [chars, ih]
  | case4 c cs _ _ none _ => exact absurd none (ofText_ne_nil cs)
  | case5 c cs _ _ first rest lines ih =>
    rw [lines] at ih
    simp [chars, ← ih]

theorem length_ofText (cs : List Char) :
    (ofText cs).length = lineBreaks cs + loneReturns cs + 1 := by
  fun_induction ofText cs with
  | case1 => rfl
  | case2 cs ih =>
    simp [ih, lineBreaks_eq_count, loneReturns]
    omega
  | case3 c cs _ ends ih =>
    simp only [List.length_cons, ih, lineBreaks_eq_count, loneReturns, List.count_cons]
    rcases ends with rfl | rfl <;> simp <;> omega
  | case4 c cs _ _ none _ => exact absurd none (ofText_ne_nil cs)
  | case5 c cs _ inside first rest lines ih =>
    rw [lines] at ih
    obtain ⟨feed, carriage⟩ := not_or.1 inside
    simp [lineBreaks_eq_count, loneReturns, feed, carriage] at ih ⊢
    exact ih

/-! ### The last line -/

/-- A text ends with a line that nothing ends, and something ends each line before it.  Without lone
    carriage returns the last line is what follows the last line feed. -/
theorem exists_ofText (cs : List Char) :
    ∃ before last, ofText cs = before ++ [⟨last, []⟩] ∧ (∀ line ∈ before, line.ending ≠ []) ∧
      (loneReturns cs = 0 → last = lastLine cs) := by
  fun_induction ofText cs with
  | case1 => exact ⟨[], [], rfl, by simp, fun _ => rfl⟩
  | case2 cs ih =>
    obtain ⟨before, last, lines, ended, same⟩ := ih
    refine ⟨⟨[], ['\r', '\n']⟩ :: before, last, by simp [lines], by simpa using ended, ?_⟩
    intro paired
    rw [same paired]
    exact (lastLine_append_newline ['\r'] cs).symm
  | case3 c cs _ ends ih =>
    obtain ⟨before, last, lines, ended, same⟩ := ih
    refine ⟨⟨[], [c]⟩ :: before, last, by simp [lines], by simpa using ended, ?_⟩
    intro paired
    rcases ends with rfl | rfl
    · simp [loneReturns] at paired
      rw [same paired]
      exact (lastLine_append_newline [] cs).symm
    · simp_all [loneReturns]
  | case4 c cs _ _ none _ => exact absurd none (ofText_ne_nil cs)
  | case5 c cs _ inside first rest lines ih =>
    obtain ⟨before, last, split, ended, same⟩ := ih
    have length := length_ofText cs
    rw [split] at lines length
    obtain ⟨feed, carriage⟩ := not_or.1 inside
    -- The character belongs to the last line if the rest of the text has no other.
    cases before with
    | nil =>
      cases lines
      refine ⟨[], c :: last, rfl, by simp, ?_⟩
      intro paired
      simp [loneReturns, carriage] at paired
      have unbroken : '\n' ∉ cs := by
        simp [lineBreaks_eq_count] at length
        exact List.count_eq_zero.1 length.1
      rw [same paired, lastLine_eq_self unbroken, lastLine_eq_self]
      simp [unbroken, Ne.symm feed]
    | cons line before =>
      cases lines
      refine ⟨⟨c :: first.content, first.ending⟩ :: before, last, rfl, by simpa using ended, ?_⟩
      intro paired
      simp [loneReturns, carriage] at paired
      have broken : '\n' ∈ cs := by
        simp [lineBreaks_eq_count, paired] at length
        apply List.count_pos_iff.1
        omega
      obtain ⟨early, late, rfl⟩ := List.append_of_mem broken
      rw [same paired, lastLine_append_newline]
      exact (lastLine_append_newline (c :: early) late).symm

/-! ### Places -/

/-- A line cut after this many UTF-16 units, or at its end if it has fewer.  There is no place inside
    a character. -/
def cut? : Nat → List Char → Option (List Char × List Char)
  | _, [] => some ([], [])
  | n, c :: cs =>
    if n = 0 then some ([], c :: cs)
    else if n < charUnits c then none
    else (cut? (n - charUnits c) cs).map fun parts => (c :: parts.1, parts.2)

/-- Lines cut at a place into what stands before it and what stands after it. -/
def cutAll? (character : Nat) : Nat → List Line → Option (List Char × List Char)
  | _, [] => none
  | 0, line :: lines =>
    (cut? character line.content).map fun parts =>
      (parts.1, parts.2 ++ line.ending ++ lines.flatMap chars)
  | number + 1, line :: lines =>
    (cutAll? character number lines).map fun parts => (line.chars ++ parts.1, parts.2)

theorem cut?_zero (content : List Char) : cut? 0 content = some ([], content) := by
  cases content <;> simp [cut?]

theorem cut?_units (content : List Char) : cut? (units content) content = some (content, []) := by
  induction content with
  | nil => rfl
  | cons c cs ih =>
    have positive : 0 < charUnits c := by
      unfold charUnits
      split <;> simp
    rw [units_cons, cut?, if_neg (by omega), if_neg (by omega), Nat.add_sub_cancel_left, ih]
    rfl

theorem cutAll?_origin (cs : List Char) : cutAll? 0 0 (ofText cs) = some ([], cs) := by
  have whole := flatMap_chars_ofText cs
  cases lines : ofText cs with
  | nil => exact absurd lines (ofText_ne_nil cs)
  | cons line rest =>
    rw [lines] at whole
    simpa [cutAll?, cut?_zero, chars] using whole

theorem cutAll?_last (before : List Line) (last : List Char) :
    cutAll? (units last) before.length (before ++ [⟨last, []⟩]) =
      some (before.flatMap chars ++ last, []) := by
  induction before with
  | nil => simp [cutAll?, cut?_units]
  | cons line before ih => simp [cutAll?, ih]

/-- After a place in a line that something ends there is at least what ends it. -/
theorem cutAll?_inner {before after : List Line} {number character : Nat}
    {parts : List Char × List Char} (ended : ∀ line ∈ before, line.ending ≠ [])
    (inner : number < before.length)
    (found : cutAll? character number (before ++ after) = some parts) : parts.2 ≠ [] := by
  induction before generalizing number parts with
  | nil => cases inner
  | cons line before ih =>
    obtain ⟨endedFirst, endedLater⟩ := List.forall_mem_cons.1 ended
    cases number with
    | zero =>
      obtain ⟨inside, -, rfl⟩ := Option.map_eq_some_iff.1 found
      simp [endedFirst]
    | succ number =>
      obtain ⟨later, foundLater, rfl⟩ := Option.map_eq_some_iff.1 found
      have left : later.2 ≠ [] := ih endedLater (Nat.lt_of_succ_lt_succ inner) foundLater
      exact left

/-- There are words for the number of lines of a text and for the length of each line. -/
structure Counted (text : String) : Prop where
  lines : (ofText text.toList).length < 4294967296
  units : ∀ line ∈ ofText text.toList, units line.content < 4294967296

end Line

/-! ## Edits -/

structure TextEdit where
  range : Range
  newText : String
deriving DecidableEq, Repr

namespace TextEdit

/-- The JSON form of an edit. -/
def shape : Json.Shape TextEdit :=
  (Json.Shape.record "TextEdit" <|
    .required "range" Range.shape <| .required "newText" .text .nil).map
    fun (range, newText, ()) => ⟨range, newText⟩

/-- The tree of an edit. -/
def toJson (e : TextEdit) : Json :=
  .object [("newText", .text e.newText), ("range", e.range.toJson)]

theorem ofJson_toJson (e : TextEdit) : shape.ofJson e.toJson = .ok e := by
  have neat : Json.Neat 3 e.toJson := by
    apply Json.Neat.object ["newText", "range"] rfl (by decide)
    simp [Json.Neat.text, Range.neat_toJson]
  apply Json.ofJson_of_written neat (e.range, e.newText, ()) (by decide)
  exact ⟨⟨_, rfl, e.range.ofJson_toJson⟩, ⟨_, rfl, rfl⟩, trivial⟩

/-- The text after an edit, if both ends of its range are places in the text. -/
def applied? (e : TextEdit) (text : String) : Option String := do
  let lines := Line.ofText text.toList
  let start ← Line.cutAll? e.range.start.character.toNat e.range.start.line.toNat lines
  let stop ← Line.cutAll? e.range.stop.character.toNat e.range.stop.line.toNat lines
  return String.ofList start.1 ++ e.newText ++ String.ofList stop.2

/-- The edit from the start of a document to its end. -/
def whole (document : Document) (newText : String) : TextEdit :=
  ⟨⟨Position.origin, document.endPosition⟩, newText⟩

theorem applied?_whole (document : Document) (newText : String) :
    (whole document newText).applied? document.text =
      (Line.cutAll? document.endPosition.character.toNat document.endPosition.line.toNat
        (Line.ofText document.text.toList)).map fun parts => newText ++ String.ofList parts.2 := by
  have start : Line.cutAll? Position.origin.character.toNat Position.origin.line.toNat
      (Line.ofText document.text.toList) = some ([], document.text.toList) :=
    Line.cutAll?_origin document.text.toList
  simp only [applied?, whole, start]
  cases Line.cutAll? document.endPosition.character.toNat document.endPosition.line.toNat
    (Line.ofText document.text.toList) <;> simp

theorem applied?_whole_eq_iff {document : Document} (counted : Line.Counted document.text)
    (newText : String) :
    (whole document newText).applied? document.text = some newText ↔
      Line.loneReturns document.text.toList = 0 := by
  obtain ⟨before, last, lines, ended, same⟩ := Line.exists_ofText document.text.toList
  have length := Line.length_ofText document.text.toList
  have fewer := counted.lines
  rw [lines, List.length_append, List.length_singleton] at length fewer
  have line : document.endPosition.line.toNat = lineBreaks document.text.toList :=
    toNat_saturate (by omega)
  rw [applied?_whole, line, lines]
  constructor
  · intro replaced
    by_contra lone
    obtain ⟨parts, found, text⟩ := Option.map_eq_some_iff.1 replaced
    have left : parts.2 ≠ [] := Line.cutAll?_inner ended (by omega) found
    have nothing := congrArg String.toList text
    simp [left] at nothing
  · intro paired
    have measured : units last < 4294967296 := counted.units ⟨last, []⟩ (by simp [lines])
    have character : document.endPosition.character.toNat = units last := by
      rw [same paired] at measured ⊢
      exact toNat_saturate measured
    have number : lineBreaks document.text.toList = before.length := by omega
    rw [character, number, Line.cutAll?_last]
    simp

end TextEdit

/-! ## Requests for layout -/

/-- The answer to a request for layout is a list of one edit. -/
theorem ofJson_formatResult (document : Document) (newText : String) :
    (Json.Shape.list TextEdit.shape).ofJson
      (Protocol.formatResult (some ⟨newText, document.endPosition⟩)) =
        .ok [TextEdit.whole document newText] := by
  have single : Protocol.formatResult (some ⟨newText, document.endPosition⟩) =
      .array [(TextEdit.whole document newText).toJson] := by
    rw [Protocol.formatResult, Json.ofFields_of_increasing ["newText", "range"] rfl (by decide)]
    rfl
  rw [single, Json.Shape.ofJson, mapM_eq_ok_iff]
  simp [TextEdit.ofJson_toJson]

section
variable {m : Type → Type} [Monad m] [LawfulMonad m] {server : Server} {session : Session}
  {params? : Option Json} {uri newText : String} {document : Document}

theorem receive_formatting (analyzer : Server.Answering m) (id : Rpc.Id)
    (ready : server.Ready session) (enabled : server.formatting = true)
    (readable : Server.readParams Protocol.formattingParams params? = .ok uri)
    (isOpen : session.store.get? uri = some document)
    (answers : analyzer (.formatDocument (pathOfUri uri) (.capture session.store)) =
      pure (some (.ok newText))) :
    ∃ result,
      server.receive analyzer (.request ⟨"textDocument/formatting", params?, some id⟩) =
        pure ([.response id (.ok result)], server) ∧
      (Json.Shape.list TextEdit.shape).ofJson result = .ok [TextEdit.whole document newText] := by
  have foreign : "textDocument/formatting" ∉ Server.ownMethods := by decide
  have routed : Server.route? server.formatting "textDocument/formatting" =
      some (.query (Protocol.formattingParams.map fun uri => .format uri)) := by
    rw [enabled]
    rfl
  have handled : session.handle (.format uri) =
      .ask (.analyzer (.formatDocument (pathOfUri uri) (.capture session.store))) fun answer =>
        .done (answer.map fun text => some ⟨text, document.endPosition⟩, session) := by
    show (session.format uri >>= _) = _
    rw [Session.format, isOpen]
    rfl
  have response := Server.receive_of_ask analyzer id ready foreign routed readable handled answers
  exact ⟨_, response, ofJson_formatResult document newText⟩

end

/-- A server that lays out documents answers with a single edit from the start of the document to its
    end.  As an editor counts lines, the text after the edit is the new one and nothing else exactly
    if every carriage return of the old one has a line feed after it. -/
theorem layout_replaces_document {m : Type → Type} [Monad m] [LawfulMonad m]
    (analyzer : Server.Answering m) (server : Server) (session : Session) (id : Rpc.Id)
    (params? : Option Json) (uri newText : String) (document : Document)
    (ready : server.Ready session) (enabled : server.formatting = true)
    (readable : Server.readParams Protocol.formattingParams params? = .ok uri)
    (isOpen : session.store.get? uri = some document) (counted : Line.Counted document.text)
    (answers : analyzer (.formatDocument (pathOfUri uri) (.capture session.store)) =
      pure (some (.ok newText))) :
    ∃ result edit,
      server.receive analyzer (.request ⟨"textDocument/formatting", params?, some id⟩) =
        pure ([.response id (.ok result)], server) ∧
      (Json.Shape.list TextEdit.shape).ofJson result = .ok [edit] ∧
      edit = ⟨⟨⟨0, 0⟩, document.endPosition⟩, newText⟩ ∧
      (edit.applied? document.text = some newText ↔ Line.loneReturns document.text.toList = 0) := by
  obtain ⟨result, response, edits⟩ :=
    receive_formatting analyzer id ready enabled readable isOpen answers
  exact ⟨result, _, response, edits, rfl, TextEdit.applied?_whole_eq_iff counted newText⟩

/-- One document is open, with this text. -/
def layoutSession (text : String) : Session where
  stdPath := "/std"
  store := Store.empty.openDocument "file:///a" text 1

def layoutServer (text : String) : Server where
  formatting := true
  phase := .connected
  worker := .idle (layoutSession text)

/-- An analyzer that lays out every document as one line. -/
def laconic : Server.Answering Id
  | .formatDocument _ _ => some (.ok "a 𝄞")
  | _ => none

/-- The parameters of a request for the layout of that document. -/
def layoutParams : Json :=
  .object [("options", .object [("insertSpaces", .bool true), ("tabSize", .nat 2)]),
    ("textDocument", .object [("uri", .text "file:///a")])]

/-- A text with an empty line, and a last line of one character that takes two units. -/
theorem layout_replaces_document_wide :
    ∃ result edit, (layoutServer "a\r\n\n𝄞").receive laconic
        (.request ⟨"textDocument/formatting", some layoutParams, some (.number 1)⟩) =
          ([.response (.number 1) (.ok result)], layoutServer "a\r\n\n𝄞") ∧
      (Json.Shape.list TextEdit.shape).ofJson result = .ok [edit] ∧
      edit.range = ⟨⟨0, 0⟩, ⟨2, 2⟩⟩ ∧ edit.applied? "a\r\n\n𝄞" = some "a 𝄞" := by
  have counted : Line.Counted "a\r\n\n𝄞" := by constructor <;> decide +kernel
  obtain ⟨result, edit, response, edits, rfl, applied⟩ :=
    layout_replaces_document laconic (layoutServer "a\r\n\n𝄞") _ (.number 1) (some layoutParams)
      "file:///a" "a 𝄞" ⟨"file:///a", "a\r\n\n𝄞", some 1⟩ ⟨rfl, rfl, rfl⟩ rfl rfl rfl counted rfl
  exact ⟨result, _, response, edits, by decide +kernel, applied.2 (by decide +kernel)⟩

/-- The place that is taken for the end of this text is behind the end of its first line. -/
theorem lone_return_left_behind :
    Line.Counted "a\rb" ∧
    ∃ result, (layoutServer "a\rb").receive laconic
        (.request ⟨"textDocument/formatting", some layoutParams, some (.number 1)⟩) =
          ([.response (.number 1) (.ok result)], layoutServer "a\rb") ∧
      (Json.Shape.list TextEdit.shape).ofJson result = .ok [⟨⟨⟨0, 0⟩, ⟨0, 3⟩⟩, "a 𝄞"⟩] ∧
      TextEdit.applied? ⟨⟨⟨0, 0⟩, ⟨0, 3⟩⟩, "a 𝄞"⟩ "a\rb" = some "a 𝄞\rb" := by
  have isOpen : (layoutSession "a\rb").store.get? "file:///a" =
    some ⟨"file:///a", "a\rb", some 1⟩ := rfl
  have ready : (layoutServer "a\rb").Ready (layoutSession "a\rb") := ⟨rfl, rfl, rfl⟩
  have readable : Server.readParams Protocol.formattingParams (some layoutParams) =
    .ok "file:///a" := rfl
  obtain ⟨result, response, edits⟩ :=
    receive_formatting laconic (.number 1) ready rfl readable isOpen rfl
  refine ⟨?_, result, response, edits, by decide +kernel⟩
  constructor <;> decide +kernel

end SchemaServer
