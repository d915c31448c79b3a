import SchemaServer.Proofs.History
import SchemaServer.Proofs.Stripping
import SchemaServer.Proofs.WrittenUrls

/-! # Documents do not share paths

`stripFileScheme` takes every leading `file://` away, so texts in general may share a path: `/a` and
`file:///a` do.  Written URLs do not.  Of a file URL exactly one prefix is taken, because its host
and its root keep a second one from following (`stripFileScheme_file`); of any other URL nothing is
taken, and what is left of a file URL never starts with a scheme (`file_ne_other`).

So a snapshot holds one text per open document (`snapshot_per_document`).  Of the parser nothing is
used but the form of what it accepts. -/

namespace SchemaServer

/-! ## Written URLs -/

namespace Url

/-- What precedes the root of a file path is no scheme: it has no colon, or it starts with a
    bracket. -/
theorem file_ne_other {host scheme rest more : List Char} (form : HostForm host)
    (spelled : ∀ c ∈ scheme, isSchemeChar c = true) :
    host ++ '/' :: rest ≠ scheme ++ ':' :: more := by
  intro same
  rcases List.append_eq_append_iff.1 same with ⟨middle, whole, split⟩ | ⟨middle, whole, split⟩
  · cases middle with
    | nil => cases split
    | cons c middle =>
      -- The slash at the root would stand in the scheme.
      cases split
      exact absurd (spelled '/' (by simp [whole])) (by decide)
  · cases middle with
    | nil => cases split
    | cons c middle =>
      cases split
      rcases form with bracket | noColon
      · cases scheme with
        | nil => exact absurd (whole ▸ bracket) (by simp)
        | cons first scheme =>
          have opened : first = '[' := by simpa [whole] using bracket
          exact absurd (spelled first (by simp)) (opened ▸ by decide)
      · exact noColon (by simp [whole])

theorem colon_not_mem_scheme {scheme : List Char} (spelled : ∀ c ∈ scheme, isSchemeChar c = true) :
    ':' ∉ scheme :=
  fun member => absurd (spelled ':' member) (by decide)

/-- The scheme is what precedes the first colon. -/
theorem scheme_unique {scheme other rest more : List Char} (plain : ':' ∉ scheme)
    (otherPlain : ':' ∉ other) (same : scheme ++ ':' :: rest = other ++ ':' :: more) :
    scheme = other := by
  rcases List.append_eq_append_iff.1 same with ⟨middle, whole, split⟩ | ⟨middle, whole, split⟩
  · cases middle with
    | nil => simpa using whole.symm
    | cons c middle =>
      cases split
      exact absurd (by simp [whole]) otherPlain
  · cases middle with
    | nil => simpa using whole
    | cons c middle =>
      cases split
      exact absurd (by simp [whole]) plain

theorem stripFileScheme_file {host : List Char} (rest : List Char) (form : HostForm host) :
    stripFileScheme (fileScheme ++ host ++ '/' :: rest) = host ++ '/' :: rest := by
  rw [List.append_assoc, stripFileScheme_fileScheme_append]
  apply stripFileScheme_of_not_prefix
  rintro ⟨more, whole⟩
  have letters : ['f', 'i', 'l', 'e'].all isSchemeChar = true := by decide
  exact file_ne_other form (List.all_eq_true.1 letters) whole.symm

theorem stripFileScheme_other {scheme : List Char} (rest : List Char)
    (spelled : ∀ c ∈ scheme, isSchemeChar c = true) (differs : scheme ≠ ['f', 'i', 'l', 'e']) :
    stripFileScheme (scheme ++ ':' :: rest) = scheme ++ ':' :: rest := by
  apply stripFileScheme_of_not_prefix
  rintro ⟨more, whole⟩
  have same : ['f', 'i', 'l', 'e'] = scheme :=
    scheme_unique (by decide) (colon_not_mem_scheme spelled) whole
  exact differs same.symm

/-- Written URLs with the same path are the same. -/
theorem WrittenForm.eq_of_stripFileScheme {a b : List Char} (left : WrittenForm a)
    (right : WrittenForm b) (same : stripFileScheme a = stripFileScheme b) : a = b := by
  cases left with
  | file rest form =>
    rw [stripFileScheme_file rest form] at same
    cases right with
    | file rest' form' =>
      rw [stripFileScheme_file rest' form'] at same
      rw [List.append_assoc, List.append_assoc, same]
    | other rest' spelled differs =>
      rw [stripFileScheme_other rest' spelled differs] at same
      exact absurd same (file_ne_other form spelled)
  | other rest spelled differs =>
    rw [stripFileScheme_other rest spelled differs] at same
    cases right with
    | file rest' form' =>
      rw [stripFileScheme_file rest' form'] at same
      exact absurd same.symm (file_ne_other form' spelled)
    | other rest' spelled' differs' =>
      rwa [stripFileScheme_other rest' spelled' differs'] at same

theorem WrittenForm.eq_of_pathOfUri {u v : String} (left : WrittenForm u.toList)
    (right : WrittenForm v.toList) (same : pathOfUri u = pathOfUri v) : u = v :=
  String.toList_inj.1 (left.eq_of_stripFileScheme right (String.ofList_inj.1 same))

/-- Accepted URIs with the same path are the same. -/
theorem Accepted.eq_of_pathOfUri {u v : String} (left : Accepted u) (right : Accepted v)
    (same : pathOfUri u = pathOfUri v) : u = v :=
  left.writtenForm.eq_of_pathOfUri right.writtenForm same

end Url

/-! ## Snapshots -/

/-- Documents that are stored under their own URIs, no two of which have one path. -/
structure Store.Apart (s : Store) : Prop where
  stored : ∀ uri document, s.get? uri = some document → document.uri = uri
  distinct : ∀ u v, s.contains u = true → s.contains v = true → pathOfUri u = pathOfUri v → u = v

namespace Snapshot

variable {s : Store} (apart : s.Apart)

include apart

/-- Open documents with one path are one document. -/
theorem entry_eq_of_path {e e' : String × Document} (member : e ∈ s.documents.entries)
    (member' : e' ∈ s.documents.entries) (same : pathOfUri e.1 = pathOfUri e'.1) : e = e' := by
  obtain ⟨uri, document⟩ := e
  obtain ⟨uri', document'⟩ := e'
  have found := SortedMap.mem_entries_iff.1 member
  have found' := SortedMap.mem_entries_iff.1 member'
  obtain rfl : uri = uri' := by
    refine apart.distinct uri uri' ?_ ?_ same
    · simp [Store.contains, SortedMap.contains, found]
    · simp [Store.contains, SortedMap.contains, found']
  cases found.symm.trans found'
  rfl

theorem mem_entries_capture_iff {e : String × String} :
    e ∈ (capture s).files.entries ↔ e ∈ s.documents.entries.map entryOf := by
  obtain ⟨path, text⟩ := e
  rw [capture_eq apart.stored, SortedMap.mem_entries_iff, SortedMap.get?_ofList_eq_some_iff]
  intro other otherMember member
  obtain ⟨e, stored, entry⟩ := List.mem_map.1 member
  obtain ⟨e', stored', entry'⟩ := List.mem_map.1 otherMember
  have paths : pathOfUri e'.1 = pathOfUri e.1 :=
    (congrArg Prod.fst entry').trans (congrArg Prod.fst entry).symm
  obtain rfl := entry_eq_of_path apart stored' stored paths
  exact (congrArg Prod.snd entry').symm.trans (congrArg Prod.snd entry)

/-- A snapshot has one entry for each open document, and no other. -/
theorem entries_capture_perm :
    (capture s).files.entries.Perm (s.documents.entries.map entryOf) := by
  refine (List.perm_ext_iff_of_nodup ?_ ?_).2 fun e => mem_entries_capture_iff apart
  · refine (capture s).files.sorted.imp ?_
    rintro e e' less rfl
    exact String.lt_irrefl _ less
  · refine List.pairwise_map.2 (s.documents.sorted.imp_of_mem ?_)
    intro e e' member member' less same
    obtain rfl := entry_eq_of_path apart member member' (congrArg Prod.fst same)
    exact String.lt_irrefl _ less

theorem get?_capture {uri : String} {document : Document} (found : s.get? uri = some document) :
    (capture s).get? (pathOfUri uri) = some document.text := by
  apply SortedMap.mem_entries_iff.1
  rw [mem_entries_capture_iff apart]
  exact List.mem_map.2 ⟨(uri, document), SortedMap.mem_entries_iff.2 found, rfl⟩

end Snapshot

namespace Session

variable {stdPath : String} {events : List Event} {trace : List Exchange} {s : Session}

/-- Documents that follow the history of some events are stored under URIs that the events name. -/
theorem named_of_documents {store : Store} {P : String → Prop}
    (named : ∀ event ∈ events, ∀ uri, event.uri? = some uri → P uri)
    (follows : store.documents = documentsAfter events) {uri : String} {document : Document}
    (found : store.get? uri = some document) : P uri ∧ document.uri = uri := by
  have left : documentAfter? events uri = some document := by
    rwa [Store.get?, follows, get?_documentsAfter] at found
  obtain ⟨content, decided, -⟩ := Option.map_eq_some_iff.1 left
  obtain ⟨event, member, names⟩ := List.mem_filterMap.1 (exists_named_of_contentAfter decided)
  exact ⟨named event member uri names, uri_documentAfter? left⟩

theorem apart_of_documents {store : Store}
    (written : ∀ event ∈ events, ∀ uri, event.uri? = some uri → Url.WrittenForm uri.toList)
    (follows : store.documents = documentsAfter events) : store.Apart where
  stored uri document found := (named_of_documents written follows found).2
  distinct u v uOpen vOpen same := by
    obtain ⟨_, uFound⟩ := Option.isSome_iff_exists.1 uOpen
    obtain ⟨_, vFound⟩ := Option.isSome_iff_exists.1 vOpen
    exact (named_of_documents written follows uFound).1.eq_of_pathOfUri
      (named_of_documents written follows vFound).1 same

theorem apart_of_run
    (written : ∀ event ∈ events, ∀ uri, event.uri? = some uri → Url.WrittenForm uri.toList)
    (run : (handleAll events { stdPath }).Runs trace s) : s.store.Apart := by
  have start : ({ stdPath : Session }).store.documents = documentsAfter [] := rfl
  exact apart_of_documents written (documents_of_run start run)

/-- The events name documents by URIs that read as themselves. -/
def Rereading (events : List Event) : Prop :=
  ∀ event ∈ events, ∀ uri, event.uri? = some uri → Url.Rereads uri

theorem rereads_of_documents {store : Store} (rereading : Rereading events)
    (follows : store.documents = documentsAfter events) {uri : String}
    (isOpen : store.contains uri = true) : Url.Rereads uri := by
  obtain ⟨document, found⟩ := Option.isSome_iff_exists.1 isOpen
  exact (named_of_documents rereading follows found).1

/-- A document is evicted by its path, and only while it is open. -/
theorem evicted_of_leads {uri path : String} {exchanges : List Exchange}
    {next : Analyzer.Outcome Unit → Program (Unit × Session)}
    (reached : (s.handle (.closed uri)).Leads exchanges
      (.ask (.analyzer (.removeCachedSchema path)) next)) :
    path = pathOfUri uri ∧ s.store.contains uri = true := by
  have always : (s.handle (.closed uri)).Always
      (fun question => ∀ path, question = .analyzer (.removeCachedSchema path) →
        path = pathOfUri uri ∧ s.store.contains uri = true) (fun _ => True) := by
    refine Program.always_bind (?_ : (s.close uri).Always _ fun _ => True) fun _ _ => trivial
    unfold close
    split
    next isOpen =>
      refine ⟨?_, fun _ => ⟨nofun, fun _ => trivial⟩⟩
      rintro path ⟨⟩
      exact ⟨rfl, isOpen⟩
    next => trivial
  exact (always.of_leads reached).2.1 path rfl

/-- However a session came about, as long as the editor names documents by URIs that some parser
    accepts, one whose URLs have their written form: open documents have paths of their own, the
    snapshot has one entry for each of them with its text, and closing one evicts no path of a document
    that stays open. -/
theorem snapshot_per_document {accepts : String → Prop}
    (written : ∀ uri, accepts uri → Url.WrittenForm uri.toList) (stdPath : String)
    (events : List Event) (accepted : ∀ event ∈ events, ∀ uri, event.uri? = some uri → accepts uri)
    (trace : List Exchange) (s : Session) (run : (handleAll events { stdPath }).Runs trace s) :
    (∀ u v, s.store.contains u = true → s.store.contains v = true → u ≠ v →
      pathOfUri u ≠ pathOfUri v) ∧
    (Snapshot.capture s.store).files.entries.Perm
      (s.store.documents.entries.map fun (uri, document) => (pathOfUri uri, document.text)) ∧
    (∀ uri document, s.store.get? uri = some document →
      (Snapshot.capture s.store).get? (pathOfUri uri) = some document.text) ∧
    (∀ (uri path : String) (exchanges : List Exchange)
      (next : Analyzer.Outcome Unit → Program (Unit × Session)),
      (s.handle (.closed uri)).Leads exchanges
        (.ask (.analyzer (.removeCachedSchema path)) next) →
      path = pathOfUri uri ∧
        ∀ other, (s.store.close uri).contains other = true → pathOfUri other ≠ path) := by
  have apart : s.store.Apart :=
    apart_of_run (fun event member uri named => written uri (accepted event member uri named)) run
  refine ⟨?_, Snapshot.entries_capture_perm apart, ?_, ?_⟩
  · intro u v uOpen vOpen differ same
    exact differ (apart.distinct u v uOpen vOpen same)
  · intro uri document found
    exact Snapshot.get?_capture apart found
  · intro uri path exchanges next reached
    obtain ⟨rfl, isOpen⟩ := evicted_of_leads reached
    refine ⟨rfl, ?_⟩
    intro other stays same
    obtain ⟨document, found⟩ := Option.isSome_iff_exists.1 stays
    rw [← Store.get?, Store.get?_close] at found
    split at found
    next => cases found
    next differ =>
      have wasOpen : s.store.contains other = true := Option.isSome_iff_exists.2 ⟨document, found⟩
      exact differ (apart.distinct other uri wasOpen isOpen same).symm

/-- Three documents whose URIs differ only by schemes before one path are kept apart, also when one
    of them is closed. -/
theorem snapshot_per_document_nested :
    (∀ uri, Url.Accepted uri → Url.WrittenForm uri.toList) ∧
    ∃ (trace : List Exchange) (s : Session),
      (handleAll [.opened "file:///a" "one" 1, .opened "file:///file:///a" "two" 1,
        .opened "untitled:file:///a" "three" 1] { stdPath := "/std" }).Runs trace s ∧
      (Snapshot.capture s.store).get? "/a" = some "one" ∧
      (Snapshot.capture s.store).get? "/file:///a" = some "two" ∧
      (Snapshot.capture s.store).get? "untitled:file:///a" = some "three" := by
  have accepted : ∀ event ∈ [Event.opened "file:///a" "one" 1, .opened "file:///file:///a" "two" 1,
      .opened "untitled:file:///a" "three" 1], ∀ uri, event.uri? = some uri → Url.Accepted uri := by
    intro event member uri named
    simp only [List.mem_cons, List.not_mem_nil, or_false] at member
    rcases member with rfl | rfl | rfl
    · cases named
      exact ⟨"file:///a", _, rfl, rfl⟩
    · cases named
      exact ⟨"file:///file:///a", _, rfl, rfl⟩
    · cases named
      exact ⟨"untitled:file:///a", _, rfl, rfl⟩
  obtain ⟨trace, run⟩ := Program.exists_runs_run Program.outage
    (handleAll [.opened "file:///a" "one" 1, .opened "file:///file:///a" "two" 1,
      .opened "untitled:file:///a" "three" 1] { stdPath := "/std" }) ()
  have written : ∀ uri, Url.Accepted uri → Url.WrittenForm uri.toList :=
    fun _ accepted => accepted.writtenForm
  obtain ⟨-, -, texts, -⟩ := snapshot_per_document written _ _ accepted _ _ run
  exact ⟨written, trace, _, run, texts "file:///a" _ rfl, texts "file:///file:///a" _ rfl,
    texts "untitled:file:///a" _ rfl⟩

end Session

end SchemaServer
