import SchemaServer.Proofs.Front
import SchemaServer.Proofs.Paths

/-! # Where a definition leads

The analyzer names a document by its path, and a link to a definition needs a URL again.  The path of
a local file starts at the root, and the path of a URL with another scheme is the URL itself, so
either leads back to the document it came from.  The path of a file on another host starts with the
host: it is neither, and a link to it is dropped (`ofPath?_pathOfUri`). -/

namespace SchemaServer

namespace Url

variable {source : String} {u : Url} {host rest : List Char}

/-- A file on another host. -/
def isRemote (u : Url) : Bool := u.scheme == ['f', 'i', 'l', 'e'] && u.authority != some []

/-! ## Paths that start with a host -/

theorem dropWhile_append_cons {p : Char → Bool} {c : Char} (stops : p c = false) (cs later : List Char) :
    (cs ++ c :: later).dropWhile p = cs.dropWhile p ++ c :: later := by
  rw [List.dropWhile_append, List.dropWhile_cons_of_neg (by simp [stops])]
  split
  next all => rw [List.isEmpty_iff.1 all, List.nil_append]
  next => rfl

/-- Margins and dropped characters are taken from a host and from what follows it, and neither loses
    its place. -/
theorem kept_trim_append_slash (host rest : List Char) :
    ∃ more, kept (trim (host ++ '/' :: rest)) = kept (host.dropWhile isMargin) ++ '/' :: more := by
  have front := dropWhile_append_cons (p := isMargin) (c := '/') (by decide) host rest
  have back := dropWhile_append_cons (p := isMargin) (c := '/') (by decide) rest.reverse
    (host.dropWhile isMargin).reverse
  refine ⟨kept (rest.reverse.dropWhile isMargin).reverse, ?_⟩
  rw [trim, front, List.reverse_append, List.reverse_cons, List.append_assoc, List.singleton_append,
    back, List.reverse_append, List.reverse_cons, List.reverse_reverse, List.append_assoc,
    List.singleton_append, kept, List.filter_append, List.filter_cons]
  rfl

theorem HostForm.kept (form : HostForm host) : HostForm (kept (host.dropWhile isMargin)) := by
  rcases form with bracket | noColon
  · cases host with
    | nil => cases bracket
    | cons c host =>
      obtain rfl : c = '[' := by simpa using bracket
      exact .inl rfl
  · refine .inr fun member => noColon ?_
    exact (List.dropWhile_suffix isMargin).subset (List.mem_filter.1 member).1

/-- What is read as a scheme is followed by a colon. -/
theorem append_of_readScheme {cs scheme more : List Char} (read : readScheme cs = some (scheme, more)) :
    ∃ spelled, cs = spelled ++ ':' :: more ∧ ∀ c ∈ spelled, isSchemeChar c = true := by
  cases cs with
  | nil => cases read
  | cons c cs =>
    simp only [readScheme] at read
    split at read
    · split at read
      next after =>
        cases read
        refine ⟨(c :: cs).takeWhile isSchemeChar, ?_, List.all_eq_true.1 List.all_takeWhile⟩
        rw [← after, List.takeWhile_append_dropWhile]
      next => cases read
    · cases read

theorem parse_of_host (form : HostForm host) (rest : List Char) :
    parse (String.ofList (host ++ '/' :: rest)) = .error .noScheme := by
  obtain ⟨more, whole⟩ := kept_trim_append_slash host rest
  have unread : readScheme (kept (trim (host ++ '/' :: rest))) = none := by
    rw [Option.eq_none_iff_forall_ne_some]
    rintro ⟨scheme, after⟩ read
    obtain ⟨spelled, same, letters⟩ := append_of_readScheme read
    exact file_ne_other form.kept letters (whole.symm.trans same)
  rw [parse, String.toList_ofList]
  simp only [unread]

/-! ## Paths of documents -/

theorem startsWith_slash_iff {path : String} :
    path.startsWith "/" = true ↔ path.toList.head? = some '/' := by
  rw [String.startsWith_string_iff]
  show ['/'] <+: path.toList ↔ _
  cases path.toList with
  | nil => simp
  | cons c cs => simp [eq_comm]

theorem FileParts.path_eq (parts : FileParts u host rest) :
    pathOfUri u.text = String.ofList (host ++ '/' :: rest) := by
  rw [pathOfUri, text, String.toList_ofList, parts.chars, stripFileScheme_file rest parts.form]

theorem FileParts.isRemote_iff (parts : FileParts u host rest) : u.isRemote = true ↔ host ≠ [] := by
  simp [isRemote, parts.scheme, parts.authority]

/-- The path of a local file, with the scheme put back, is its URL. -/
theorem ofPath?_of_local (parts : FileParts u [] rest) (reread : parse u.text = .ok u) :
    ofPath? (pathOfUri u.text) = some u := by
  have rooted : (pathOfUri u.text).startsWith "/" = true := by
    rw [startsWith_slash_iff, parts.path_eq]
    simp
  have whole : "file://" ++ pathOfUri u.text = u.text := by
    rw [parts.path_eq, text, parts.chars, List.append_nil, List.nil_append, String.ofList_append]
    rfl
  rw [ofPath?, if_pos rooted, whole, reread]
  rfl

theorem ofPath?_of_remote (parts : FileParts u host rest) (remote : host ≠ []) :
    ofPath? (pathOfUri u.text) = none := by
  have unrooted : ¬ (pathOfUri u.text).startsWith "/" = true := by
    rw [startsWith_slash_iff, parts.path_eq, String.toList_ofList]
    obtain ⟨c, cs, rfl⟩ := List.exists_cons_of_ne_nil remote
    exact parts.unrooted
  rw [ofPath?, if_neg unrooted, parts.path_eq, parse_of_host parts.form]
  rfl

/-- The path of a URL that is no file is the URL itself. -/
theorem pathOfUri_of_other (differs : u.scheme ≠ ['f', 'i', 'l', 'e'])
    (spelled : ∀ c ∈ u.scheme, isSchemeChar c = true) : pathOfUri u.text = u.text := by
  obtain ⟨more, whole⟩ := exists_chars_eq u
  rw [pathOfUri, text, String.toList_ofList, whole, stripFileScheme_other more spelled differs]

theorem ofPath?_of_other (differs : u.scheme ≠ ['f', 'i', 'l', 'e'])
    (spelled : ∀ c ∈ u.scheme, isSchemeChar c = true) (reread : parse u.text = .ok u) :
    ofPath? (pathOfUri u.text) = some u := by
  have unrooted : ¬ u.text.startsWith "/" = true := by
    obtain ⟨more, whole⟩ := exists_chars_eq u
    rw [startsWith_slash_iff, text, String.toList_ofList, whole]
    intro rooted
    cases start : u.scheme with
    | nil => simp [start] at rooted
    | cons c scheme =>
      obtain rfl : c = '/' := by simpa [start] using rooted
      exact absurd (spelled '/' (by simp [start])) (by decide)
  rw [ofPath?, pathOfUri_of_other differs spelled, if_neg unrooted, reread]
  rfl

theorem ofPath?_pathOfUri (read : parse source = .ok u)
    (reread : u.isRemote = false → parse u.text = .ok u) :
    ofPath? (pathOfUri u.text) = if u.isRemote then none else some u := by
  rcases exists_of_parse read with ⟨host, rest, parts⟩ | ⟨differs, spelled⟩
  · by_cases remote : host = []
    · subst remote
      have same : u.isRemote = false := Bool.eq_false_iff.2 fun remote => parts.isRemote_iff.1 remote rfl
      rw [ofPath?_of_local parts (reread same), same]
      rfl
    · rw [ofPath?_of_remote parts remote, if_pos (parts.isRemote_iff.2 remote)]
  · have same : u.isRemote = false := by simp [isRemote, differs]
    rw [ofPath?_of_other differs spelled (reread same), same]
    rfl

/-- The path of a document is never the one that stands for the standard library: it has a slash or a
    colon. -/
theorem pathOfUri_ne_builtinPath (read : parse source = .ok u) :
    pathOfUri u.text ≠ Gateway.builtinPath := by
  intro same
  have chars := congrArg String.toList same
  rcases exists_of_parse read with ⟨host, rest, parts⟩ | ⟨differs, spelled⟩
  · rw [parts.path_eq, String.toList_ofList] at chars
    have slash : '/' ∈ Gateway.builtinPath.toList := by simp [← chars]
    exact absurd slash (by decide)
  · obtain ⟨more, whole⟩ := exists_chars_eq u
    rw [pathOfUri_of_other differs spelled, text, String.toList_ofList, whole] at chars
    have colon : ':' ∈ Gateway.builtinPath.toList := by simp [← chars]
    exact absurd colon (by decide)

end Url

/-! ## Links -/

open Protocol (definitionLink?)
open Gateway (linkOf)

/-- The URL to which a link leads. -/
def targetOf? (link : Json) : Option Json := link.field? "targetUri"

theorem targetOf?_definitionLink? (link : DefinitionLink) :
    (definitionLink? link).map targetOf? =
      (Url.ofPath? link.targetPath).map fun target => some (.text target.text) := by
  have written : ∀ fields : List (String × Json), targetOf? (.ofFields fields) =
      SortedMap.lookup "targetUri" fields.reverse := SortedMap.get?_ofList "targetUri"
  rw [definitionLink?, Option.map_map]
  refine congrFun (congrArg Option.map (funext fun target => ?_)) _
  rw [Function.comp_apply, written]
  rfl

theorem definitionResult_map (stdPath : String) (items : List DefinitionItem) :
    Protocol.definitionResult (items.map (linkOf stdPath)) =
      .array (items.filterMap fun item => definitionLink? (linkOf stdPath item)) := by
  rw [Protocol.definitionResult, List.filterMap_map, Function.comp_def]

theorem mem_links {stdPath : String} {items : List DefinitionItem} {item : DefinitionItem}
    {target : Json} (member : item ∈ items)
    (leads : (definitionLink? (linkOf stdPath item)).map targetOf? = some (some target)) :
    ∃ link ∈ items.filterMap (fun item => definitionLink? (linkOf stdPath item)),
      targetOf? link = some target := by
  obtain ⟨link, made, leads⟩ := Option.map_eq_some_iff.1 leads
  exact ⟨link, List.mem_filterMap.2 ⟨item, member, made⟩, leads⟩

/-- A definition in a document leads back to the document, unless that is a file on another host.  Of
    the URL is used that its text reads as itself.  In every session, the response to a request has
    a link to the document if the analyzer lists a definition in it; definitions in files on another
    host are left out of it. -/
theorem definition_leads_back {source : String} {u : Url} (read : Url.parse source = .ok u)
    (reread : u.isRemote = false → Url.parse u.text = .ok u) :
    Url.ofPath? (pathOfUri u.text) = (if u.isRemote then none else some u) ∧
    (∀ (stdPath : String) (item : DefinitionItem), item.path = pathOfUri u.text →
      (definitionLink? (linkOf stdPath item)).map targetOf? =
        if u.isRemote then none else some (some (.text u.text))) ∧
    ∀ (session : Session) (uri : String) (position : Position), ∃ links,
      session.Takes (.definition uri position) (definitionCall session uri position.toAnalyzer) links ∧
      ∀ tree items, (Json.Shape.list DefinitionItem.shape).ofJson tree = .ok items →
        ∃ trees, Server.replyResult (.definition uri position) (links (.ok tree)) =
            .ok (.array trees) ∧
          (u.isRemote = false → ∀ item ∈ items, item.path = pathOfUri u.text →
            ∃ link ∈ trees, targetOf? link = some (.text u.text)) ∧
          (u.isRemote = true → (∀ item ∈ items, item.path = pathOfUri u.text) → trees = []) := by
  have target := Url.ofPath?_pathOfUri read reread
  have leads : ∀ (stdPath : String) (item : DefinitionItem), item.path = pathOfUri u.text →
      (definitionLink? (linkOf stdPath item)).map targetOf? =
        if u.isRemote then none else some (some (.text u.text)) := by
    intro stdPath item named
    -- A document is never taken for the standard library, so its path stays.
    have path : (linkOf stdPath item).targetPath = pathOfUri u.text := by
      show Gateway.resolvePath stdPath item.path = _
      rw [named, Gateway.resolvePath, if_neg (Url.pathOfUri_ne_builtinPath read)]
    rw [targetOf?_definitionLink?, path, target]
    split <;> rfl
  refine ⟨target, leads, fun session uri position => ?_⟩
  refine ⟨_, takes_definition session uri position, fun tree items decoded => ?_⟩
  refine ⟨items.filterMap fun item => definitionLink? (linkOf session.stdPath item), ?_, ?_, ?_⟩
  · rw [← definitionResult_map]
    exact replyResult_links uri position decoded
  · intro here item member named
    have leads := leads session.stdPath item named
    rw [here] at leads
    exact mem_links member leads
  · intro remote named
    refine List.filterMap_eq_nil_iff.2 fun item member => ?_
    have leads := leads session.stdPath item (named item member)
    rw [remote] at leads
    exact Option.map_eq_none_iff.1 leads

/-- A local file whose URL has a drive letter, a percent code, a query and a fragment. -/
def codedFile : Url where
  scheme := ['f', 'i', 'l', 'e']
  authority := some []
  path := "/C:/b%20.teo".toList
  query := some ['q']
  fragment := some ['f']

/-- The start of a text. -/
def startSpan : Span := ⟨0, 0, Position.origin.toAnalyzer, Position.origin.toAnalyzer⟩

/-- An answer that lists one definition, at the start of `codedFile`. -/
def codedAnswer : Json :=
  let span : Json := .array [.int 0, .int 0, .array [.int 1, .int 1], .array [.int 1, .int 1]]
  .array [.array [.text "/C:/b%20.teo?q#f", span, span, span]]

theorem definition_leads_back_coded :
    Url.parse "file:///C:/b%20.teo?q#f" = .ok codedFile ∧
    Url.ofPath? "/C:/b%20.teo?q#f" = some codedFile ∧
    (definitionLink? (linkOf "/std"
        ⟨"/C:/b%20.teo?q#f", startSpan, startSpan, startSpan⟩)).map targetOf? =
      some (some (.text "file:///C:/b%20.teo?q#f")) ∧
    ∃ links trees, Session.Takes { stdPath := "/std" } (.definition "file:///a" .origin)
        (definitionCall { stdPath := "/std" } "file:///a" Position.origin.toAnalyzer) links ∧
      Server.replyResult (.definition "file:///a" .origin) (links (.ok codedAnswer)) =
        .ok (.array trees) ∧
      ∃ link ∈ trees, targetOf? link = some (.text "file:///C:/b%20.teo?q#f") := by
  have written : codedFile.text = "file:///C:/b%20.teo?q#f" := by decide +kernel
  have path : pathOfUri codedFile.text = "/C:/b%20.teo?q#f" := by decide +kernel
  have read : Url.parse codedFile.text = .ok codedFile := by rfl
  obtain ⟨target, leads, responds⟩ := definition_leads_back read fun _ => read
  obtain ⟨links, takes, replies⟩ := responds { stdPath := "/std" } "file:///a" .origin
  have decoded : (Json.Shape.list DefinitionItem.shape).ofJson codedAnswer =
      .ok [⟨"/C:/b%20.teo?q#f", startSpan, startSpan, startSpan⟩] := rfl
  obtain ⟨trees, response, here, -⟩ := replies codedAnswer _ decoded
  have link := leads "/std" ⟨pathOfUri codedFile.text, startSpan, startSpan, startSpan⟩ rfl
  have found := here rfl _ (List.mem_singleton_self _) path.symm
  rw [path] at target link
  rw [written] at read link found
  exact ⟨read, target, link, links, trees, takes, response, found⟩

/-- A file on the host `[::1]`. -/
def remoteFile : Url where
  scheme := ['f', 'i', 'l', 'e']
  authority := some "[::1]".toList
  path := "/x.teo".toList
  query := none
  fragment := none

/-- The path of a file on another host is taken for a relative one, and no URL comes of it. -/
theorem remote_definition_dropped :
    Url.parse "file://[::1]/x.teo" = .ok remoteFile ∧ remoteFile.text = "file://[::1]/x.teo" ∧
      pathOfUri remoteFile.text = "[::1]/x.teo" ∧ Url.ofPath? "[::1]/x.teo" = none := by
  exact ⟨rfl, by decide +kernel⟩

end SchemaServer
