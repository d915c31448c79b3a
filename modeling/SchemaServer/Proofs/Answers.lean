import SchemaServer.Proofs.Forms
import SchemaServer.Proofs.RootedUrls
import SchemaServer.Proofs.Verdicts

/-! # What the editor gets for a query

The answer of the analyzer goes through records of the session into the trees of the response.  Here
the trees are said directly in terms of the analyzer's items:

* `linkTree?` is the link that comes of a definition, if its path has a URL.  A path that starts with
  a slash always has one (`linkTree?_eq_none_iff`).
* `entryOf?` reads a completion back from its tree, and finds every field of the analyzer's entry as
  it was (`entryOf?_completionItem`). -/

namespace SchemaServer

/-! ## Links -/

/-- The path of the file that a definition is in; `stdPath` is where the standard library can be read. -/
def DefinitionItem.filePath (stdPath : String) (item : DefinitionItem) : String :=
  if item.path = "(builtin)std.teo" then stdPath else item.path

/-- A path from the root is a file of this machine, any other is a URL already. -/
def pathUri? (path : String) : Option String :=
  ((Url.parse (if path.toList.head? = some '/' then "file://" ++ path else path)).map Url.text).toOption

/-- The link that the editor gets for a definition. -/
def linkTree? (stdPath : String) (item : DefinitionItem) : Option Json :=
  (pathUri? (item.filePath stdPath)).map fun uri =>
    .object [("originSelectionRange", item.selection.loweredTree),
      ("targetRange", item.target.loweredTree),
      ("targetSelectionRange", item.identifier.loweredTree), ("targetUri", .text uri)]

theorem pathUri?_eq (path : String) : pathUri? path = (Url.ofPath? path).map Url.text := by
  have start : (path.startsWith "/" = true) = (path.toList.head? = some '/') :=
    propext Url.startsWith_slash_iff
  simp only [pathUri?, Url.ofPath?, start]
  cases Url.parse (if path.toList.head? = some '/' then "file://" ++ path else path) <;> rfl

theorem definitionLink?_linkOf (stdPath : String) (item : DefinitionItem) :
    Protocol.definitionLink? (Gateway.linkOf stdPath item) = linkTree? stdPath item := by
  have path : (Gateway.linkOf stdPath item).targetPath = item.filePath stdPath := rfl
  rw [linkTree?, pathUri?_eq, Protocol.definitionLink?, path, Option.map_map]
  refine congrFun (congrArg Option.map (funext fun target => ?_)) _
  rw [Json.ofFields_of_increasing
    ["originSelectionRange", "targetRange", "targetSelectionRange", "targetUri"] rfl (by decide)]
  simp only [Gateway.linkOf, Span.toJson_toRange, Function.comp_apply]

theorem definitionResult_eq (stdPath : String) (items : List DefinitionItem) :
    Protocol.definitionResult (items.map (Gateway.linkOf stdPath)) =
      .array (items.filterMap (linkTree? stdPath)) := by
  rw [definitionResult_map]
  exact congrArg (fun form => Json.array (items.filterMap form))
    (funext (definitionLink?_linkOf stdPath))

theorem pathUri?_rooted (cs : List Char) :
    pathUri? (String.ofList ('/' :: cs)) = some (Url.localFile ('/' :: Url.trimEnd cs)).text := by
  rw [pathUri?_eq, Url.ofPath?_rooted]
  rfl

/-- A path without a URL neither starts at the root nor is a URL itself. -/
theorem pathUri?_eq_none_iff (path : String) :
    pathUri? path = none ↔ path.toList.head? ≠ some '/' ∧ ∀ u, Url.parse path ≠ .ok u := by
  by_cases rooted : path.toList.head? = some '/'
  · obtain ⟨cs, chars⟩ := List.head?_eq_some_iff.1 rooted
    obtain rfl : path = String.ofList ('/' :: cs) := by rw [← chars, String.ofList_toList]
    rw [pathUri?_rooted]
    simp
  · rw [pathUri?, if_neg rooted]
    cases Url.parse path <;> simp [Except.map, Except.toOption, rooted]

theorem filePath_of_rooted {item : DefinitionItem} (rooted : item.path.toList.head? = some '/')
    (stdPath : String) : item.filePath stdPath = item.path := by
  rw [DefinitionItem.filePath, if_neg]
  intro builtin
  rw [builtin] at rooted
  exact absurd rooted (by decide)

theorem linkTree?_eq_none_iff (stdPath : String) (item : DefinitionItem) :
    linkTree? stdPath item = none ↔ (item.filePath stdPath).toList.head? ≠ some '/' ∧
      ∀ u, Url.parse (item.filePath stdPath) ≠ .ok u := by
  rw [linkTree?, Option.map_eq_none_iff, pathUri?_eq_none_iff]

/-! ## Completions -/

/-- A field that is a text if it is there. -/
def absentOrText? : Option Json → Option (Option String)
  | none => some none
  | some (.text t) => some (some t)
  | some _ => none

/-- The proposal that a completion was made of. -/
def entryOf? (tree : Json) : Option CompletionEntry := do
  let label ← (← absentOrText? (tree.field? "label"))
  let namespacePath ← match tree.field? "labelDetails" with
    | none => some none
    | some details => (details.field? "description").bind fun path => absentOrText? (some path)
  let documentation ← absentOrText? (tree.field? "documentation")
  let detail ← absentOrText? (tree.field? "detail")
  return ⟨label, namespacePath, documentation, detail⟩

theorem entryOf?_completionItem (entry : CompletionEntry) :
    entryOf? (Protocol.completionItem (.ofEntry entry)) = some entry := by
  obtain ⟨label, namespacePath, documentation, detail⟩ := entry
  unfold entryOf? Protocol.completionItem
  simp only [Json.field?_ofFields]
  cases namespacePath <;> cases documentation <;> cases detail <;> rfl

/-! ## Responses -/

theorem toNat_saturatingSucc (w : UInt32) :
    (saturatingSucc w).toNat = min (w.toNat + 1) 4294967295 := by
  have small : w.toNat < UInt32.size := w.toNat_lt_size
  unfold saturatingSucc word32Max
  split
  next greatest =>
    subst greatest
    rfl
  next less =>
    have less : w.toNat ≠ 4294967295 := fun same => less (UInt32.toNat_inj.1 same)
    have room : w.toNat + 1 < UInt32.size := by
      unfold UInt32.size at small ⊢
      omega
    have next : (w + 1).toNat = w.toNat + 1 := by
      rw [UInt32.toNat_add]
      exact Nat.mod_eq_of_lt room
    unfold UInt32.size at room
    omega

/-- The place one line and one column further, up to the greatest word. -/
def Position.Raised (p : Position) (cursor : AnalyzerPosition) : Prop :=
  cursor.line.toNat = min (p.line.toNat + 1) 4294967295 ∧
    cursor.column.toNat = min (p.character.toNat + 1) 4294967295

theorem Position.raised (p : Position) : p.Raised p.toAnalyzer :=
  ⟨toNat_saturatingSucc p.line, toNat_saturatingSucc p.character⟩

theorem replyResult_definition {session : Session} {tree : Json} {items : List DefinitionItem}
    (uri : String) (position : Position)
    (decoded : (Json.Shape.list DefinitionItem.shape).ofJson tree = .ok items) :
    Server.replyResult (.definition uri position) (.ok tree >>= Gateway.linksOf session.stdPath) =
      .ok (.array (items.filterMap (linkTree? session.stdPath))) := by
  rw [replyResult_links uri position decoded, definitionResult_eq]

theorem replyResult_completion {tree : Json} {entries : List CompletionEntry} (uri : String)
    (position : Position)
    (decoded : (Json.Shape.list CompletionEntry.shape).ofJson tree = .ok entries) :
    Server.replyResult (.completion uri position) (.ok tree >>= Gateway.completionsOf) =
      .ok (.array (entries.map fun entry => Protocol.completionItem (.ofEntry entry))) := by
  have completions : (.ok tree >>= Gateway.completionsOf : Analyzer.Outcome (List CompletionItem)) =
      .ok (entries.map CompletionItem.ofEntry) := by
    change Gateway.completionsOf tree = _
    rw [Gateway.completionsOf, decoded]
    rfl
  have trees : entries.map (fun entry => Protocol.completionItem (.ofEntry entry)) =
      (entries.map CompletionItem.ofEntry).map Protocol.completionItem := by
    rw [List.map_map]
    rfl
  rw [completions, trees]
  rfl

/-- Looking up a definition and completing a text each take one call of the analyzer, at the place one
    line and one column further; a server that is ready puts it as soon as it is asked to.  Of an
    answer that lists items, the response to the first has the link of each item in turn; left out
    are the items whose path neither starts at the root nor is a URL.  The response to the second
    has a completion for each entry in turn, from which the entry can be read back. -/
theorem answers_faithful (session : Session) (uri : String) (position : Position) :
    ∃ cursor links completions, position.Raised cursor ∧
      session.Takes (.definition uri position) (definitionCall session uri cursor) links ∧
      (∀ tree items, (Json.Shape.list DefinitionItem.shape).ofJson tree = .ok items →
        Server.replyResult (.definition uri position) (links (.ok tree)) =
          .ok (.array (items.filterMap (linkTree? session.stdPath)))) ∧
      (∀ item : DefinitionItem, linkTree? session.stdPath item = none ↔
        (item.filePath session.stdPath).toList.head? ≠ some '/' ∧
          ∀ u, Url.parse (item.filePath session.stdPath) ≠ .ok u) ∧
      (∀ item : DefinitionItem, item.path.toList.head? = some '/' →
        item.filePath session.stdPath = item.path ∧ linkTree? session.stdPath item ≠ none) ∧
      session.Takes (.completion uri position) (completionCall session uri cursor) completions ∧
      (∀ tree entries, (Json.Shape.list CompletionEntry.shape).ofJson tree = .ok entries →
        ∃ trees, Server.replyResult (.completion uri position) (completions (.ok tree)) =
            .ok (.array trees) ∧ trees.map entryOf? = entries.map some) ∧
      ∀ (s : Server) (id : Rpc.Id) (params? : Option Json), s.Ready session →
        (Server.readParams Protocol.definitionParams params? = .ok (uri, position) →
          s.Asks (.request ⟨"textDocument/definition", params?, some id⟩)
            (definitionCall session uri cursor) (s.answered id (.definition uri position) links)) ∧
        (Server.readParams Protocol.completionParams params? = .ok (uri, position) →
          s.Asks (.request ⟨"textDocument/completion", params?, some id⟩)
            (completionCall session uri cursor)
            (s.answered id (.completion uri position) completions)) := by
  refine ⟨position.toAnalyzer, _, _, position.raised, takes_definition session uri position,
    fun tree items => replyResult_definition uri position, linkTree?_eq_none_iff session.stdPath, ?_,
    takes_completion session uri position, ?_, ?_⟩
  · intro item rooted
    have path := filePath_of_rooted rooted session.stdPath
    refine ⟨path, fun removed => ?_⟩
    have unrooted := ((linkTree?_eq_none_iff session.stdPath item).1 removed).1
    rw [path] at unrooted
    exact unrooted rooted
  · intro tree entries decoded
    refine ⟨_, replyResult_completion uri position decoded, ?_⟩
    rw [List.map_map]
    exact List.map_congr_left fun entry _ => entryOf?_completionItem entry
  · intro s id params? ready
    exact ⟨asks_definition id ready, asks_completion id ready⟩

/-- A span within a line, as editors count lines. -/
def spanIn (line : UInt32) : Span :=
  ⟨0, 0, Position.toAnalyzer ⟨line, 6⟩, Position.toAnalyzer ⟨line, 8⟩⟩

/-- Definitions in the standard library, under a relative path and in a file with a blank in its name. -/
def scattered : List DefinitionItem :=
  [⟨"(builtin)std.teo", spanIn 0, spanIn 1, spanIn 2⟩, ⟨"b.teo", startSpan, startSpan, startSpan⟩,
    ⟨"/b c.teo", spanIn 3, spanIn 4, spanIn 5⟩]

/-- A proposal without a detail and one that is only a label. -/
def proposals : List CompletionEntry := [⟨"a", some "n", some "d", none⟩, ⟨"b", none, none, none⟩]

/-- The parameters of a request about the last line that can be counted. -/
def endOfDocument : Json :=
  .object [("position", .object [("character", .int 0), ("line", .int 4294967295)]),
    ("textDocument", .object [("uri", .text "file:///a")])]

/-- The range of a span within a line. -/
def lineTree (line : Nat) : Json :=
  .object [("end", .object [("character", .nat 8), ("line", .nat line)]),
    ("start", .object [("character", .nat 6), ("line", .nat line)])]

theorem answers_faithful_scattered :
    ∃ cursor : AnalyzerPosition, cursor.line = 4294967295 ∧ cursor.column = 1 ∧
      ∃ (links : Analyzer.Outcome Json → Analyzer.Outcome (List DefinitionLink))
        (completions : Analyzer.Outcome Json → Analyzer.Outcome (List CompletionItem)),
        Server.replyResult (.definition "file:///a" ⟨4294967295, 0⟩)
            (links (.ok (.array (scattered.map DefinitionItem.toJson)))) =
          .ok (.array [
            .object [("originSelectionRange", lineTree 2), ("targetRange", lineTree 0),
              ("targetSelectionRange", lineTree 1), ("targetUri", .text "file:///std")],
            .object [("originSelectionRange", lineTree 5), ("targetRange", lineTree 3),
              ("targetSelectionRange", lineTree 4), ("targetUri", .text "file:///b%20c.teo")]]) ∧
        (∃ trees, Server.replyResult (.completion "file:///a" ⟨4294967295, 0⟩)
            (completions (.ok (.array (proposals.map CompletionEntry.toJson)))) =
              .ok (.array trees) ∧ trees.map entryOf? = proposals.map some) ∧
        connectedServer.Asks
          (.request ⟨"textDocument/definition", some endOfDocument, some (.number 1)⟩)
          (definitionCall { stdPath := "/std" } "file:///a" cursor)
          (connectedServer.answered (.number 1) (.definition "file:///a" ⟨4294967295, 0⟩) links) ∧
        connectedServer.Asks
          (.request ⟨"textDocument/completion", some endOfDocument, some (.number 1)⟩)
          (completionCall { stdPath := "/std" } "file:///a" cursor)
          (connectedServer.answered (.number 1) (.completion "file:///a" ⟨4294967295, 0⟩)
            completions) := by
  obtain ⟨cursor, links, completions, ⟨line, column⟩, -, response, -, -, -, response', server⟩ :=
    answers_faithful { stdPath := "/std" } "file:///a" ⟨4294967295, 0⟩
  have ready : connectedServer.Ready { stdPath := "/std" } := ⟨rfl, rfl, rfl⟩
  obtain ⟨definition, completion⟩ := server connectedServer (.number 1) (some endOfDocument) ready
  refine ⟨cursor, UInt32.toNat_inj.1 line, UInt32.toNat_inj.1 column, links, completions,
    (response _ scattered rfl).trans rfl,
    response' (.array (proposals.map CompletionEntry.toJson)) proposals rfl, definition rfl,
    completion rfl⟩

end SchemaServer
