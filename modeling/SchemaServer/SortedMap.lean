/-! # Maps from texts, kept in order

`SortedMap β` is a finite map whose keys are texts.  Its entries are held in strictly increasing
order of their keys (the order of code points, which is also the order of their UTF-8 bytes), so
listing a map always lists it in that order, and two maps with the same lookups are equal.

* `get?_insert`, `get?_erase` say what an update does to every lookup.
* `ext_get?` says that lookups determine the map. -/

namespace SchemaServer

/-- A finite map from texts, its entries in strictly increasing order of the keys. -/
structure SortedMap (β : Type) where
  entries : List (String × β)
  sorted : entries.Pairwise (fun a b => a.1 < b.1)

namespace SortedMap

variable {β γ : Type}

/-! ## Entries as a plain list -/

def lookup (key : String) : List (String × β) → Option β
  | [] => none
  | (k, v) :: rest => if k = key then some v else lookup key rest

def insertEntry (key : String) (value : β) : List (String × β) → List (String × β)
  | [] => [(key, value)]
  | (k, v) :: rest =>
    if key < k then (key, value) :: (k, v) :: rest
    else if key = k then (key, value) :: rest
    else (k, v) :: insertEntry key value rest

def eraseEntry (key : String) : List (String × β) → List (String × β)
  | [] => []
  | (k, v) :: rest => if k = key then rest else (k, v) :: eraseEntry key rest

theorem mem_insertEntry {key : String} {value : β} {e : String × β} {l : List (String × β)}
    (h : e ∈ insertEntry key value l) : e = (key, value) ∨ e ∈ l := by
  induction l with
  | nil => simpa [insertEntry] using h
  | cons hd tl ih =>
    obtain ⟨k, v⟩ := hd
    rw [insertEntry] at h
    split at h
    · simpa using h
    · split at h
      · grind
      · grind

theorem mem_of_mem_eraseEntry {key : String} {e : String × β} {l : List (String × β)}
    (h : e ∈ eraseEntry key l) : e ∈ l := by
  induction l with
  | nil => simp [eraseEntry] at h
  | cons hd tl ih =>
    obtain ⟨k, v⟩ := hd
    rw [eraseEntry] at h
    split at h <;> grind

theorem insertEntry_sorted (key : String) (value : β) {l : List (String × β)}
    (h : l.Pairwise (fun a b => a.1 < b.1)) :
    (insertEntry key value l).Pairwise (fun a b => a.1 < b.1) := by
  induction l with
  | nil => simp [insertEntry]
  | cons hd tl ih =>
    obtain ⟨k, v⟩ := hd
    rw [List.pairwise_cons] at h
    rw [insertEntry]
    split
    · rename_i hlt
      refine List.pairwise_cons.2 ⟨?_, List.pairwise_cons.2 h⟩
      intro e he
      rcases List.mem_cons.1 he with rfl | he
      · exact hlt
      · exact String.lt_trans hlt (h.1 e he)
    · split
      · rename_i heq
        subst heq
        exact List.pairwise_cons.2 ⟨h.1, h.2⟩
      · refine List.pairwise_cons.2 ⟨?_, ih h.2⟩
        intro e he
        rcases mem_insertEntry he with rfl | he
        · grind
        · exact h.1 e he

theorem eraseEntry_sorted (key : String) {l : List (String × β)}
    (h : l.Pairwise (fun a b => a.1 < b.1)) :
    (eraseEntry key l).Pairwise (fun a b => a.1 < b.1) := by
  induction l with
  | nil => simp [eraseEntry]
  | cons hd tl ih =>
    obtain ⟨k, v⟩ := hd
    rw [List.pairwise_cons] at h
    rw [eraseEntry]
    split
    · exact h.2
    · exact List.pairwise_cons.2 ⟨fun e he => h.1 e (mem_of_mem_eraseEntry he), ih h.2⟩

theorem lookup_insertEntry (key key' : String) (value : β) (l : List (String × β)) :
    lookup key' (insertEntry key value l) = if key = key' then some value else lookup key' l := by
  induction l with
  | nil => simp [insertEntry, lookup]
  | cons hd tl ih =>
    obtain ⟨k, v⟩ := hd
    rw [insertEntry]
    split
    · simp [lookup]
    · split
      · rename_i heq
        subst heq
        by_cases h : key = key' <;> simp [lookup, h]
      · by_cases hk : k = key' <;> simp [lookup, hk, ih]
        rename_i hne
        intro h
        exact absurd (h.trans hk.symm) hne

theorem lookup_eq_none_of_lt {key : String} {l : List (String × β)}
    (h : ∀ e ∈ l, key < e.1) : lookup key l = none := by
  induction l with
  | nil => rfl
  | cons hd tl ih =>
    obtain ⟨k, v⟩ := hd
    have hk : key < k := h (k, v) (by simp)
    have : k ≠ key := by rintro rfl; exact String.lt_irrefl _ hk
    simp only [lookup, this, if_false]
    exact ih fun e he => h e (by simp [he])

theorem lookup_eraseEntry (key key' : String) {l : List (String × β)}
    (hl : l.Pairwise (fun a b => a.1 < b.1)) :
    lookup key' (eraseEntry key l) = if key = key' then none else lookup key' l := by
  induction l with
  | nil => simp [eraseEntry, lookup]
  | cons hd tl ih =>
    obtain ⟨k, v⟩ := hd
    rw [List.pairwise_cons] at hl
    rw [eraseEntry]
    split
    · rename_i heq
      subst heq
      by_cases h : k = key'
      · subst h
        simpa using lookup_eq_none_of_lt hl.1
      · simp [lookup, h]
    · rename_i hne
      by_cases hk : k = key'
      · subst hk
        simp [lookup, Ne.symm hne]
      · simp [lookup, hk, ih hl.2]

/-- Lookups determine a sorted list of entries: the smallest key of either list must be the smallest
    key of the other. -/
theorem eq_of_lookup_eq {l₁ l₂ : List (String × β)}
    (h₁ : l₁.Pairwise (fun a b => a.1 < b.1)) (h₂ : l₂.Pairwise (fun a b => a.1 < b.1))
    (h : ∀ key, lookup key l₁ = lookup key l₂) : l₁ = l₂ := by
  induction l₁ generalizing l₂ with
  | nil =>
    cases l₂ with
    | nil => rfl
    | cons hd tl => exact absurd (h hd.1) (by simp [lookup])
  | cons hd tl ih =>
    obtain ⟨k, v⟩ := hd
    cases l₂ with
    | nil => exact absurd (h k) (by simp [lookup])
    | cons hd' tl' =>
      obtain ⟨k', v'⟩ := hd'
      rw [List.pairwise_cons] at h₁ h₂
      have hk : k = k' := by
        by_cases hlt : k < k'
        · have hn : lookup k ((k', v') :: tl') = none := lookup_eq_none_of_lt fun e he => by
            rcases List.mem_cons.1 he with rfl | he
            · exact hlt
            · exact String.lt_trans hlt (h₂.1 e he)
          exact absurd ((h k).trans hn) (by simp [lookup])
        · by_cases hgt : k' < k
          · have hn : lookup k' ((k, v) :: tl) = none := lookup_eq_none_of_lt fun e he => by
              rcases List.mem_cons.1 he with rfl | he
              · exact hgt
              · exact String.lt_trans hgt (h₁.1 e he)
            exact absurd ((h k').symm.trans hn) (by simp [lookup])
          · grind
      subst hk
      have hv : v = v' := by simpa [lookup] using h k
      subst hv
      congr 1
      refine ih h₁.2 h₂.2 fun key => ?_
      by_cases hkey : k = key
      · subst hkey
        rw [lookup_eq_none_of_lt h₁.1, lookup_eq_none_of_lt h₂.1]
      · simpa [lookup, hkey] using h key

/-! ## The map -/

def empty : SortedMap β := ⟨[], List.Pairwise.nil⟩

instance : EmptyCollection (SortedMap β) := ⟨empty⟩
instance : Inhabited (SortedMap β) := ⟨empty⟩

def get? (m : SortedMap β) (key : String) : Option β := lookup key m.entries

def contains (m : SortedMap β) (key : String) : Bool := (m.get? key).isSome

def insert (m : SortedMap β) (key : String) (value : β) : SortedMap β :=
  ⟨insertEntry key value m.entries, insertEntry_sorted key value m.sorted⟩

def erase (m : SortedMap β) (key : String) : SortedMap β :=
  ⟨eraseEntry key m.entries, eraseEntry_sorted key m.sorted⟩

def remove (m : SortedMap β) (key : String) : Option β × SortedMap β := (m.get? key, m.erase key)

def keys (m : SortedMap β) : List String := m.entries.map Prod.fst

def values (m : SortedMap β) : List β := m.entries.map Prod.snd

def size (m : SortedMap β) : Nat := m.entries.length

def isEmpty (m : SortedMap β) : Bool := m.entries.isEmpty

/-- Store entries one after another; the last one under a key stays. -/
def ofList (l : List (String × β)) : SortedMap β :=
  l.foldl (fun m e => m.insert e.1 e.2) empty

@[simp]
theorem get?_empty (key : String) : (empty : SortedMap β).get? key = none := rfl

theorem get?_insert (m : SortedMap β) (key key' : String) (value : β) :
    (m.insert key value).get? key' = if key = key' then some value else m.get? key' :=
  lookup_insertEntry key key' value m.entries

@[simp]
theorem get?_insert_self (m : SortedMap β) (key : String) (value : β) :
    (m.insert key value).get? key = some value := by
  simp [get?_insert]

theorem get?_erase (m : SortedMap β) (key key' : String) :
    (m.erase key).get? key' = if key = key' then none else m.get? key' :=
  lookup_eraseEntry key key' m.sorted

@[simp]
theorem get?_erase_self (m : SortedMap β) (key : String) : (m.erase key).get? key = none := by
  simp [get?_erase]

theorem ext_get? {m₁ m₂ : SortedMap β} (h : ∀ key, m₁.get? key = m₂.get? key) : m₁ = m₂ := by
  obtain ⟨l₁, s₁⟩ := m₁
  obtain ⟨l₂, s₂⟩ := m₂
  have := eq_of_lookup_eq s₁ s₂ h
  subst this
  rfl

theorem keys_sorted (m : SortedMap β) : m.keys.Pairwise (· < ·) :=
  List.pairwise_map.2 m.sorted

end SortedMap

end SchemaServer
