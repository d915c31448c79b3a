import Mathlib.Data.List.Nodup
import Mathlib.Data.List.Perm.Subperm
import SchemaServer.Proofs.Operations

/-! # Snapshots of any store

A store lists its documents by URI, a snapshot lists texts by path, and different URIs may have one
path.  The documents are put into the snapshot in the order of their URIs, so among those with one
path the last one put is the one with the greatest URI, and its text stays
(`get?_capture_eq_some_iff`).  As many entries as documents are there exactly if no path is put twice
(`size_capture_eq_iff`). -/

namespace SchemaServer

namespace SortedMap

variable {β : Type} {l : List (String × β)} {key : String} {value : β}

theorem lookup_eq_some_iff :
    lookup key l = some value ↔
      ∃ before later, l = before ++ (key, value) :: later ∧ key ∉ before.map Prod.fst := by
  induction l with
  | nil => simp [lookup]
  | cons entry rest ih =>
    obtain ⟨k, v⟩ := entry
    constructor
    · intro found
      by_cases same : k = key
      · simp only [lookup, same, if_true, Option.some.injEq] at found
        exact ⟨[], rest, by simp [same, found], by simp⟩
      · rw [lookup, if_neg same] at found
        obtain ⟨before, later, rfl, fresh⟩ := ih.1 found
        exact ⟨(k, v) :: before, later, rfl, by simp [fresh, Ne.symm same]⟩
    · rintro ⟨before, later, whole, fresh⟩
      cases before with
      | nil =>
        cases whole
        simp [lookup]
      | cons first before =>
        cases whole
        obtain ⟨differs, fresh⟩ := not_or.1 (List.mem_cons.not.1 fresh)
        rw [lookup, if_neg (Ne.symm differs)]
        exact ih.2 ⟨before, later, rfl, fresh⟩

/-- The last entry under a key stays. -/
theorem get?_ofList_eq_some_iff_last :
    (ofList l).get? key = some value ↔
      ∃ before later, l = before ++ (key, value) :: later ∧ key ∉ later.map Prod.fst := by
  rw [get?_ofList, lookup_eq_some_iff]
  constructor
  · rintro ⟨before, later, whole, fresh⟩
    refine ⟨later.reverse, before.reverse, ?_, by simpa using fresh⟩
    rw [← l.reverse_reverse, whole]
    simp
  · rintro ⟨before, later, rfl, fresh⟩
    exact ⟨later.reverse, before.reverse, by simp, by simpa using fresh⟩

theorem mem_keys_ofList_iff : key ∈ (ofList l).keys ↔ key ∈ l.map Prod.fst := by
  rw [mem_keys_iff, contains, Option.isSome_iff_exists, get?_ofList]
  constructor
  · rintro ⟨value, found⟩
    exact List.mem_map.2 ⟨_, List.mem_reverse.1 (mem_of_lookup found), rfl⟩
  · intro member
    obtain ⟨⟨_, value⟩, inside, rfl⟩ := List.mem_map.1 member
    exact exists_lookup_of_mem (List.mem_reverse.2 inside)

theorem nodup_keys (m : SortedMap β) : m.keys.Nodup := by
  refine m.keys_sorted.imp ?_
  rintro key _ less rfl
  exact String.lt_irrefl key less

/-- No entry of a list is put over another one exactly if no key stands twice. -/
theorem size_ofList_eq_length_iff : (ofList l).size = l.length ↔ (l.map Prod.fst).Nodup := by
  have keys : (ofList l).keys.length = (ofList l).size := List.length_map ..
  have length : (l.map Prod.fst).length = l.length := List.length_map ..
  rw [← keys, ← length]
  have subset : (ofList l).keys ⊆ l.map Prod.fst := fun _ => mem_keys_ofList_iff.1
  have subperm : (ofList l).keys.Subperm (l.map Prod.fst) :=
    List.subperm_of_subset (nodup_keys _) subset
  constructor
  · intro same
    exact (subperm.perm_of_length_le (Nat.le_of_eq same.symm)).nodup_iff.1 (nodup_keys _)
  · intro single
    exact ((List.perm_ext_iff_of_nodup (nodup_keys _) single).2
      fun _ => mem_keys_ofList_iff).length_eq

end SortedMap

namespace Snapshot

/-! ## Texts by path -/

/-- An open document whose URI is the greatest, in the order of bytes, of those with a path. -/
structure Foremost (s : Store) (path uri : String) (document : Document) : Prop where
  found : s.get? uri = some document
  reaches : pathOfUri uri = path
  greatest : ∀ other, s.get? other ≠ none → pathOfUri other = path →
    other = uri ∨ Utf8.encode other < Utf8.encode uri

variable {s : Store} {path uri text : String} {document : Document}

/-- Documents stand in the order of their URIs, so the greatest URI with a path is the last one. -/
theorem foremost_iff :
    Foremost s path uri document ↔
      pathOfUri uri = path ∧ ∃ before later,
        s.documents.entries = before ++ (uri, document) :: later ∧
          ∀ e ∈ later, pathOfUri e.1 ≠ path := by
  have sorted := s.documents.sorted
  constructor
  · rintro ⟨found, reaches, greatest⟩
    obtain ⟨before, later, entries⟩ := List.append_of_mem (SortedMap.mem_entries_iff.2 found)
    refine ⟨reaches, before, later, entries, ?_⟩
    rintro ⟨other, document'⟩ behind same
    have found' : s.get? other = some document' :=
      SortedMap.mem_entries_iff.1 (by simp [entries, behind])
    rw [entries] at sorted
    have less : uri < other :=
      (List.pairwise_cons.1 (List.pairwise_append.1 sorted).2.1).1 _ behind
    rcases greatest other (by simp [found']) same with rfl | more
    · exact String.lt_irrefl _ less
    · exact List.lt_irrefl _ (List.lt_trans (Utf8.encode_lt_encode less) more)
  · rintro ⟨reaches, before, later, entries, last⟩
    refine ⟨SortedMap.mem_entries_iff.1 (by simp [entries]), reaches, ?_⟩
    intro other isOpen same
    obtain ⟨document', found⟩ := Option.ne_none_iff_exists'.1 isOpen
    have member : (other, document') ∈ s.documents.entries := SortedMap.mem_entries_iff.2 found
    rw [entries] at member sorted
    rcases List.mem_append.1 member with earlier | rest
    · have less := (List.pairwise_append.1 sorted).2.2 _ earlier (uri, document) (by simp)
      exact .inr (Utf8.encode_lt_encode less)
    · rcases List.mem_cons.1 rest with here | behind
      · exact .inl (congrArg Prod.fst here)
      · exact absurd same (last _ behind)

theorem map_fst_entryOf :
    (s.documents.entries.map entryOf).map Prod.fst = s.uris.map pathOfUri := by
  rw [Store.uris, SortedMap.keys, List.map_map, List.map_map]
  rfl

section
variable (stored : ∀ uri document, s.get? uri = some document → document.uri = uri)
include stored

theorem get?_capture_eq_some_iff :
    (capture s).get? path = some text ↔
      ∃ uri document, Foremost s path uri document ∧ document.text = text := by
  simp only [foremost_iff]
  rw [capture_eq stored, get?, SortedMap.get?_ofList_eq_some_iff_last]
  constructor
  · rintro ⟨early, late, whole, fresh⟩
    obtain ⟨before, rest, entries, rfl, tail⟩ := List.map_eq_append_iff.1 whole
    obtain ⟨⟨uri, document⟩, later, rfl, entry, rfl⟩ := List.map_eq_cons_iff.1 tail
    cases entry
    refine ⟨uri, document, ⟨rfl, before, later, entries, ?_⟩, rfl⟩
    intro e behind same
    exact fresh (List.mem_map.2 ⟨entryOf e, List.mem_map_of_mem behind, same⟩)
  · rintro ⟨uri, document, ⟨rfl, before, later, entries, last⟩, rfl⟩
    refine ⟨before.map entryOf, later.map entryOf, by simp [entries, entryOf], ?_⟩
    rw [List.map_map]
    intro member
    obtain ⟨e, behind, same⟩ := List.mem_map.1 member
    exact last e behind same

theorem mem_keys_capture_iff :
    path ∈ (capture s).files.keys ↔ ∃ uri, uri ∈ s.uris ∧ pathOfUri uri = path := by
  rw [capture_eq stored, SortedMap.mem_keys_ofList_iff, map_fst_entryOf]
  exact List.mem_map

theorem size_capture_eq_iff :
    (capture s).files.size = s.documents.size ↔
      ∀ u ∈ s.uris, ∀ v ∈ s.uris, pathOfUri u = pathOfUri v → u = v := by
  have size : s.documents.size = (s.documents.entries.map entryOf).length :=
    (List.length_map ..).symm
  rw [capture_eq stored, size, SortedMap.size_ofList_eq_length_iff, map_fst_entryOf]
  exact List.nodup_map_iff_inj_on s.documents.nodup_keys

end

/-! ## Stores with the same texts -/

theorem Foremost.of_same_texts {t : Store} (foremost : Foremost s path uri document)
    (same : ∀ uri, (s.get? uri).map Document.text = (t.get? uri).map Document.text) :
    ∃ document', Foremost t path uri document' ∧ document'.text = document.text := by
  obtain ⟨found, reaches, greatest⟩ := foremost
  have text := same uri
  rw [found, Option.map_some] at text
  obtain ⟨document', found', equal⟩ := Option.map_eq_some_iff.1 text.symm
  refine ⟨document', ⟨found', reaches, ?_⟩, equal⟩
  intro other isOpen
  have isOpen' : s.get? other ≠ none := by
    intro missing
    have texts := same other
    rw [missing, Option.map_none] at texts
    exact isOpen (Option.map_eq_none_iff.1 texts.symm)
  exact greatest other isOpen'

theorem get?_capture_of_same_texts {t : Store}
    (stored : ∀ uri document, s.get? uri = some document → document.uri = uri)
    (stored' : ∀ uri document, t.get? uri = some document → document.uri = uri)
    (same : ∀ uri, (s.get? uri).map Document.text = (t.get? uri).map Document.text)
    (found : (capture s).get? path = some text) : (capture t).get? path = some text := by
  obtain ⟨uri, document, foremost, rfl⟩ := (get?_capture_eq_some_iff stored).1 found
  obtain ⟨document', foremost', equal⟩ := foremost.of_same_texts same
  exact (get?_capture_eq_some_iff stored').2 ⟨uri, document', foremost', equal⟩

theorem capture_eq_of_same_texts {t : Store}
    (stored : ∀ uri document, s.get? uri = some document → document.uri = uri)
    (stored' : ∀ uri document, t.get? uri = some document → document.uri = uri)
    (same : ∀ uri, (s.get? uri).map Document.text = (t.get? uri).map Document.text) :
    capture s = capture t := by
  have files : (capture s).files = (capture t).files := by
    apply SortedMap.ext_get?
    intro path
    apply Option.ext
    intro text
    exact ⟨get?_capture_of_same_texts stored stored' same,
      get?_capture_of_same_texts stored' stored fun uri => (same uri).symm⟩
  exact congrArg Snapshot.mk files

/-! ## Stores that operations lead to -/

/-- A snapshot lists the paths of the open documents in the order of their bytes, each with the text
    of the foremost document that has it. -/
structure Shows (snapshot : Snapshot) (s : Store) : Prop where
  paths : ∀ path, path ∈ snapshot.files.keys ↔ ∃ uri, uri ∈ s.uris ∧ pathOfUri uri = path
  increasing : snapshot.files.keys.Pairwise fun a b => Utf8.encode a < Utf8.encode b
  texts : ∀ path text, snapshot.get? path = some text ↔
    ∃ uri document, Foremost s path uri document ∧ document.text = text
  size : snapshot.files.size = s.documents.size ↔
    ∀ u ∈ s.uris, ∀ v ∈ s.uris, pathOfUri u = pathOfUri v → u = v

/-- Whatever operations a store has been through, its snapshot shows it, and depends on nothing but
    the URIs and the texts of the open documents. -/
theorem capture_shows_store (operations : List Store.Operation) :
    (capture (Store.reached operations)).Shows (Store.reached operations) ∧
    ∀ others : List Store.Operation,
      (∀ uri, ((Store.reached operations).get? uri).map Document.text =
        ((Store.reached others).get? uri).map Document.text) →
      capture (Store.reached operations) = capture (Store.reached others) := by
  have stored := (Store.sound_reached operations).named
  refine ⟨⟨?_, ?_, ?_, ?_⟩, ?_⟩
  · exact fun path => mem_keys_capture_iff stored
  · exact (capture _).files.keys_sorted.imp Utf8.encode_lt_encode
  · exact fun path text => get?_capture_eq_some_iff stored
  · exact size_capture_eq_iff stored
  · intro others same
    exact capture_eq_of_same_texts stored (Store.sound_reached others).named same

/-- Two documents with one path, of which the second has the greater URI. -/
def sharedPath : List Store.Operation :=
  [.opened "/a" "plain" 1, .opened "file:///a" "full" 1]

/-- The same documents with other versions, one of them with settings. -/
def sharedPathAnew : List Store.Operation :=
  [.opened "file:///a" "old" 4, .kept "file:///a" ⟨7⟩, .updated "/a" "plain" 9,
    .updated "file:///a" "full" 5]

theorem capture_shows_store_shared :
    (capture (Store.reached sharedPath)).get? "/a" = some "full" ∧
    (capture (Store.reached sharedPath)).files.size ≠ (Store.reached sharedPath).documents.size ∧
    capture (Store.reached sharedPath) = capture (Store.reached sharedPathAnew) := by
  have missing (operations : List Store.Operation) (uri : String)
      (unnamed : operations.filter (Store.Operation.concerns uri) = []) :
      (Store.reached operations).get? uri = none := by
    have slot := Store.slot_reached operations uri
    rw [unnamed] at slot
    exact congrArg Store.Slot.document? slot
  have same : ∀ uri, ((Store.reached sharedPath).get? uri).map Document.text =
      ((Store.reached sharedPathAnew).get? uri).map Document.text := by
    intro uri
    by_cases plain : "/a" = uri
    · subst plain
      rfl
    · by_cases full : "file:///a" = uri
      · subst full
        rfl
      · rw [missing sharedPath uri, missing sharedPathAnew uri] <;>
          simp [sharedPath, sharedPathAnew, Store.Operation.concerns, Store.Operation.uri?, plain,
            full]
  obtain ⟨shows, equal⟩ := capture_shows_store sharedPath
  refine ⟨rfl, ?_, equal sharedPathAnew same⟩
  intro sizes
  have apart := shows.size.1 sizes "/a" (by decide) "file:///a" (by decide) rfl
  exact absurd apart (by decide)

end Snapshot

end SchemaServer
