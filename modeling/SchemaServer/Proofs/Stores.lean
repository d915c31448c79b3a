import SchemaServer.Snapshot

/-! # Lookups in stores and snapshots

What the operations of a store do to every lookup, and what a snapshot holds.

* `SortedMap.get?_ofList`: a map made from a list holds the last value of every key, so for a list
  that gives no key two values its lookups are the members of the list
  (`SortedMap.get?_ofList_eq_some_iff`).
* `Store.get?_openDocument`, `Store.get?_update`, `Store.get?_close`: the documents after an
  operation.
* `Store.settings?_close`, `Store.settings?_keepSettings`: the settings kept after an operation.
* `Snapshot.capture_congr`: a snapshot depends on the documents alone. -/

namespace SchemaServer

namespace SortedMap

variable {β : Type}

/-! ## Lists of entries -/

theorem lookup_append (key : String) (l₁ l₂ : List (String × β)) :
    lookup key (l₁ ++ l₂) = (lookup key l₁).or (lookup key l₂) := by
  induction l₁ with
  | nil => rfl
  | cons entry rest ih =>
    obtain ⟨k, v⟩ := entry
    by_cases same : k = key
    · simp [lookup, same]
    · simp [lookup, same, ih]

theorem mem_of_lookup {key : String} {value : β} {l : List (String × β)}
    (found : lookup key l = some value) : (key, value) ∈ l := by
  induction l with
  | nil => simp [lookup] at found
  | cons entry rest ih =>
    obtain ⟨k, v⟩ := entry
    rw [lookup] at found
    split at found
    next same =>
      subst same
      simp_all
    next => exact List.mem_cons_of_mem _ (ih found)

theorem exists_lookup_of_mem {key : String} {value : β} {l : List (String × β)}
    (member : (key, value) ∈ l) : ∃ found, lookup key l = some found := by
  induction l with
  | nil => cases member
  | cons entry rest ih =>
    obtain ⟨k, v⟩ := entry
    by_cases same : k = key
    · exact ⟨v, by simp [lookup, same]⟩
    · have tailMember : (key, value) ∈ rest := by
        rcases List.mem_cons.1 member with head | tail
        · exact absurd (congrArg Prod.fst head).symm same
        · exact tail
      obtain ⟨found, lookedUp⟩ := ih tailMember
      exact ⟨found, by simp [lookup, same, lookedUp]⟩

/-- In a sorted list a key stands once, so the first entry under it is the only one. -/
theorem lookup_of_mem {key : String} {value : β} {l : List (String × β)}
    (sorted : l.Pairwise (fun a b => a.1 < b.1)) (member : (key, value) ∈ l) :
    lookup key l = some value := by
  induction l with
  | nil => cases member
  | cons entry rest ih =>
    obtain ⟨k, v⟩ := entry
    obtain ⟨below, restSorted⟩ := List.pairwise_cons.1 sorted
    rcases List.mem_cons.1 member with head | tail
    · cases head
      simp [lookup]
    · have differs : k ≠ key := by
        rintro rfl
        exact String.lt_irrefl k (below (k, value) tail)
      rw [lookup, if_neg differs]
      exact ih restSorted tail

/-! ## Maps -/

theorem get?_foldl_insert (key : String) (l : List (String × β)) (m : SortedMap β) :
    (l.foldl (fun m e => m.insert e.1 e.2) m).get? key = (lookup key l.reverse).or (m.get? key) := by
  induction l generalizing m with
  | nil => rfl
  | cons entry rest ih =>
    obtain ⟨k, v⟩ := entry
    rw [List.foldl_cons, ih, List.reverse_cons, lookup_append, Option.or_assoc, get?_insert]
    by_cases same : k = key <;> simp [lookup, same]

/-- The last entry of a list under a key is the one that stays. -/
theorem get?_ofList (key : String) (l : List (String × β)) :
    (ofList l).get? key = lookup key l.reverse := by
  rw [ofList, get?_foldl_insert]
  simp

/-- A list that gives no key two values is looked up as it stands. -/
theorem get?_ofList_eq_some_iff {l : List (String × β)} {key : String} {value : β}
    (single : ∀ other, (key, other) ∈ l → (key, value) ∈ l → other = value) :
    (ofList l).get? key = some value ↔ (key, value) ∈ l := by
  rw [get?_ofList]
  constructor
  · intro found
    exact List.mem_reverse.1 (mem_of_lookup found)
  · intro member
    obtain ⟨other, found⟩ := exists_lookup_of_mem (List.mem_reverse.2 member)
    rw [found, single other (List.mem_reverse.1 (mem_of_lookup found)) member]

/-- The entries of a map are its lookups. -/
theorem mem_entries_iff {m : SortedMap β} {key : String} {value : β} :
    (key, value) ∈ m.entries ↔ m.get? key = some value :=
  ⟨lookup_of_mem m.sorted, mem_of_lookup⟩

theorem mem_keys_iff {m : SortedMap β} {key : String} : key ∈ m.keys ↔ m.contains key = true := by
  rw [contains, Option.isSome_iff_exists, keys, List.mem_map]
  constructor
  · rintro ⟨⟨_, value⟩, member, rfl⟩
    exact ⟨value, mem_entries_iff.1 member⟩
  · rintro ⟨value, found⟩
    exact ⟨(key, value), mem_entries_iff.2 found, rfl⟩

/-- Entries that are in their places stay there. -/
theorem ofList_entries (m : SortedMap β) : ofList m.entries = m := by
  apply ext_get?
  intro key
  apply Option.ext
  intro value
  rw [get?_ofList_eq_some_iff, mem_entries_iff]
  intro other one another
  exact Option.some.inj ((mem_entries_iff.1 one).symm.trans (mem_entries_iff.1 another))

/-- Forgetting a key without a value changes nothing. -/
theorem erase_of_not_contains {m : SortedMap β} {key : String} (absent : m.contains key = false) :
    m.erase key = m := by
  apply ext_get?
  intro other
  rw [get?_erase]
  split
  next same =>
    subst same
    have missing : m.get? key = none := by simpa [contains] using absent
    exact missing.symm
  next => rfl

end SortedMap

/-! ## Documents of a store -/

namespace Store

theorem mem_uris_iff {s : Store} {uri : String} : uri ∈ s.uris ↔ s.contains uri = true :=
  SortedMap.mem_keys_iff

theorem get?_openDocument (s : Store) (uri text other : String) (version : Int) :
    (s.openDocument uri text version).get? other =
      if uri = other then some ⟨uri, text, some version⟩ else s.get? other :=
  s.documents.get?_insert uri other _

/-- A change keeps the URI that the document has. -/
theorem get?_update (s : Store) (uri text other : String) (version : Int) :
    (s.update uri text version).get? other =
      if uri = other then
        some ⟨((s.get? uri).map Document.uri).getD uri, text, some version⟩
      else s.get? other := by
  unfold update get?
  cases s.documents.get? uri with
  | none => exact s.documents.get?_insert uri other _
  | some document => exact s.documents.get?_insert uri other _

theorem get?_close (s : Store) (uri other : String) :
    (s.close uri).get? other = if uri = other then none else s.get? other :=
  s.documents.get?_erase uri other

@[simp] theorem documents_keepSettings (s : Store) (uri : String) (settings : Settings) :
    (s.keepSettings uri settings).documents = s.documents := by
  unfold keepSettings
  split <;> rfl

/-- Closing a document that is not open leaves the documents as they are. -/
theorem documents_close_of_not_contains {s : Store} {uri : String}
    (absent : s.contains uri = false) : (s.close uri).documents = s.documents :=
  SortedMap.erase_of_not_contains absent

theorem settings?_openDocument (s : Store) (uri text other : String) (version : Int) :
    (s.openDocument uri text version).settings? other = s.settings? other := rfl

theorem settings?_update (s : Store) (uri text other : String) (version : Int) :
    (s.update uri text version).settings? other = s.settings? other := by
  unfold update
  split <;> rfl

theorem settings?_close (s : Store) (uri other : String) :
    (s.close uri).settings? other = if uri = other then none else s.settings? other :=
  s.fetched.get?_erase uri other

theorem settings?_keepSettings {s : Store} {uri : String} (isOpen : s.contains uri = true)
    (settings : Settings) (other : String) :
    (s.keepSettings uri settings).settings? other =
      if uri = other then some settings else s.settings? other := by
  rw [keepSettings, if_pos isOpen]
  exact s.fetched.get?_insert uri other settings

theorem keepSettings_of_not_contains {s : Store} {uri : String} (absent : ¬ s.contains uri = true)
    (settings : Settings) : s.keepSettings uri settings = s := if_neg absent

end Store

namespace Snapshot

/-- Snapshots of the same documents are the same, whatever the settings. -/
theorem capture_congr {s t : Store} (same : s.documents = t.documents) : capture s = capture t := by
  rw [capture, capture, same]

/-- The path and the text of an open document. -/
def entryOf (e : String × Document) : String × String := (pathOfUri e.1, e.2.text)

/-- Where documents are stored under their own URIs, these give the paths. -/
theorem capture_eq {s : Store}
    (stored : ∀ uri document, s.get? uri = some document → document.uri = uri) :
    capture s = ⟨.ofList (s.documents.entries.map entryOf)⟩ := by
  rw [capture, SortedMap.values, List.map_map]
  congr 2
  apply List.map_congr_left
  rintro ⟨uri, document⟩ member
  have named : document.uri = uri := stored uri document (SortedMap.mem_entries_iff.1 member)
  simp [entryOf, named]

end Snapshot

end SchemaServer
