import SchemaServer.FileTree.Walk
import SchemaServer.Proofs.Outcomes
import SchemaServer.Proofs.Stores

/-! # File trees, place by place

A tree is known by what stands at each place: a file with its bytes, a directory, or nothing
(`look`).  What an operation does to a tree is what it does to these looks.

* `alters_of_alter`: a change at a place leaves every place alone that is not below it.
* `Puts`, `Moves`, `Grows`: what writing a file, moving one and making directories may change.
* `locateFrom_of_keeps`: a path still ends where it did as long as no directory goes away. -/

namespace SchemaServer.FileTree

/-! ## Looking -/

inductive Kind where
  | file (content : List UInt8)
  | directory
deriving DecidableEq

def kind : FileTree → Kind
  | .file content => .file content
  | .directory _ => .directory

/-- What stands at a place. -/
def look (place : List String) (t : FileTree) : Option Kind := (t.find place).toOption.map kind

variable {place rest : List String} {name : String} {t t' sub : FileTree}
  {entries : List (String × FileTree)} {content : List UInt8} {fault : FileFault}

theorem look_of_find (found : t.find place = .ok sub) : look place t = some sub.kind := by
  rw [look, found]
  rfl

theorem look_of_error (missing : t.find place = .error fault) : look place t = none := by
  rw [look, missing]
  rfl

@[simp] theorem look_nil : look [] t = some t.kind := rfl

@[simp] theorem look_file : look (name :: place) (.file content) = none := rfl

theorem look_directory :
    look (name :: place) (.directory entries) =
      (SortedMap.lookup name entries).bind (look place) := by
  rw [look, find]
  cases SortedMap.lookup name entries <;> rfl

/-- There is nothing below a place that is no directory. -/
theorem look_below (flat : look place t ≠ some .directory) (below : rest ≠ []) :
    look (place ++ rest) t = none := by
  induction place generalizing t with
  | nil =>
    obtain ⟨name, rest, rfl⟩ := List.exists_cons_of_ne_nil below
    cases t with
    | file content => rfl
    | directory entries => simp [kind] at flat
  | cons name place ih =>
    cases t with
    | file content => rfl
    | directory entries =>
      rw [look_directory] at flat
      rw [List.cons_append, look_directory]
      cases found : SortedMap.lookup name entries with
      | none => rfl
      | some sub =>
        rw [found] at flat
        exact ih flat

theorem look_above (found : look (place ++ [name]) t ≠ none) : look place t = some .directory := by
  by_cases flat : look place t = some .directory
  · exact flat
  · exact absurd (look_below flat (by simp)) found

theorem look_insertEntry (name other : String) (place : List String) (new : FileTree)
    (entries : List (String × FileTree)) :
    look (other :: place) (.directory (SortedMap.insertEntry name new entries)) =
      if name = other then look place new else look (other :: place) (.directory entries) := by
  rw [look_directory, look_directory, SortedMap.lookup_insertEntry]
  split <;> rfl

/-! ## Changing what stands at a place -/

/-- A tree and one with something else at a place, which `new` is the tree of. -/
structure Alters (place : List String) (new t t' : FileTree) : Prop where
  inside : ∀ rest, look (place ++ rest) t' = look rest new
  outside : ∀ other, ¬ place <+: other → look other t' = look other t

theorem Alters.insertEntry {new : FileTree} (path : List String)
    (inside : ∀ rest, look (path ++ rest) sub = look rest new)
    (outside : ∀ other, ¬ path <+: other →
      look other sub = look (name :: other) (.directory entries)) :
    Alters (name :: path) new (.directory entries)
      (.directory (SortedMap.insertEntry name sub entries)) where
  inside rest := by
    rw [List.cons_append, look_insertEntry, if_pos rfl]
    exact inside rest
  outside other apart := by
    cases other with
    | nil => rfl
    | cons first other =>
      rw [look_insertEntry]
      split
      next same =>
        subst same
        exact outside other fun below => apart (List.cons_prefix_cons.2 ⟨rfl, below⟩)
      next => rfl

theorem alters_of_alter {change : Option FileTree → Except FileFault FileTree}
    (altered : alter change place t = .ok t') :
    ∃ old new, change old = .ok new ∧ old.map kind = look place t ∧ Alters place new t t' := by
  induction place generalizing t t' with
  | nil =>
    refine ⟨some t, t', altered, rfl, fun _ => rfl, ?_⟩
    exact fun _ apart => absurd List.nil_prefix apart
  | cons name path ih =>
    cases t with
    | file content => simp [alter] at altered
    | directory entries =>
      cases path with
      | nil =>
        obtain ⟨new, changed, done⟩ := exists_of_bind_eq_ok altered
        cases done
        refine ⟨SortedMap.lookup name entries, new, changed, ?_, .insertEntry [] (fun _ => rfl) ?_⟩
        · rw [look_directory]
          cases SortedMap.lookup name entries <;> rfl
        · exact fun _ apart => absurd List.nil_prefix apart
      | cons next path =>
        cases found : SortedMap.lookup name entries with
        | none => simp [alter, found] at altered
        | some below =>
          simp only [alter, found] at altered
          obtain ⟨sub, deeper, done⟩ := exists_of_bind_eq_ok altered
          cases done
          obtain ⟨old, new, changed, kinds, alters⟩ := ih deeper
          have looks (place : List String) :
              look (name :: place) (.directory entries) = look place below := by
            rw [look_directory, found]
            rfl
          refine ⟨old, new, changed, kinds.trans (looks _).symm, .insertEntry _ alters.inside ?_⟩
          exact fun other apart => (alters.outside other apart).trans (looks other).symm

/-! ## Writing, removing and moving files -/

/-- A file is written where there was no directory. -/
structure Puts (place : List String) (content : List UInt8) (t t' : FileTree) : Prop where
  free : look place t ≠ some .directory
  here : look place t' = some (.file content)
  elsewhere : ∀ other, other ≠ place → look other t' = look other t

theorem Puts.above (puts : Puts (place ++ [name]) content t t') :
    look place t = some .directory := by
  rw [← puts.elsewhere place (by simp)]
  apply look_above
  rw [puts.here]
  simp

theorem puts_of_putBytes (put : putBytes place content t = .ok t') : Puts place content t t' := by
  obtain ⟨old, new, changed, kinds, alters⟩ := alters_of_alter put
  have written : old.map kind ≠ some .directory ∧ new = .file content := by
    cases old with
    | none => exact ⟨by simp, (Except.ok.inj changed).symm⟩
    | some before =>
      cases before with
      | file _ => exact ⟨by simp [kind], (Except.ok.inj changed).symm⟩
      | directory _ => cases changed
  rw [kinds] at written
  obtain ⟨free, rfl⟩ := written
  refine ⟨free, by simpa [kind] using alters.inside [], ?_⟩
  intro other differs
  by_cases below : place <+: other
  · obtain ⟨rest, rfl⟩ := below
    have more : rest ≠ [] := by simpa using differs
    obtain ⟨name, rest, rfl⟩ := List.exists_cons_of_ne_nil more
    rw [alters.inside, look_below free more, look_file]
  · exact alters.outside other below

theorem lookup_filter (name other : String) (entries : List (String × FileTree)) :
    SortedMap.lookup other (entries.filter (·.1 ≠ name)) =
      if name = other then none else SortedMap.lookup other entries := by
  induction entries with
  | nil => simp [SortedMap.lookup]
  | cons e entries ih =>
    obtain ⟨first, sub⟩ := e
    by_cases same : first = name
    · subst same
      rw [List.filter_cons_of_neg (by simp), ih]
      split
      next => rfl
      next differs => rw [SortedMap.lookup, if_neg differs]
    · rw [List.filter_cons_of_pos (by simpa using same), SortedMap.lookup, SortedMap.lookup, ih]
      by_cases here : first = other
      · rw [if_pos here, if_pos here, if_neg fun named => same (here.trans named.symm)]
      · rw [if_neg here, if_neg here]

theorem look_remove (inner : place ≠ []) (rest : List String) :
    look (place ++ rest) (remove place t) = none := by
  fun_induction remove place t with
  | case1 t => exact absurd rfl inner
  | case2 => rfl
  | case3 name entries =>
    rw [List.cons_append, look_directory, lookup_filter, if_pos rfl]
    rfl
  | case4 name path entries more sub found ih =>
    rw [List.cons_append, look_insertEntry, if_pos rfl]
    exact ih more
  | case5 name path entries more missing =>
    rw [List.cons_append, look_directory, missing]
    rfl

theorem look_remove_outside {other : List String} (apart : ¬ place <+: other) :
    look other (remove place t) = look other t := by
  fun_induction remove place t generalizing other with
  | case1 t => rfl
  | case2 => rfl
  | case3 name entries =>
    cases other with
    | nil => rfl
    | cons first other =>
      have differs : name ≠ first := by
        rintro rfl
        exact apart (by simp)
      rw [look_directory, look_directory, lookup_filter, if_neg differs]
  | case4 name path entries more sub found ih =>
    cases other with
    | nil => rfl
    | cons first other =>
      rw [look_insertEntry]
      split
      next same =>
        subst same
        rw [look_directory, found]
        exact ih fun below => apart (List.cons_prefix_cons.2 ⟨rfl, below⟩)
      next => rfl
  | case5 => rfl

theorem look_of_bytesAt (read : bytesAt place t = .ok content) :
    look place t = some (.file content) := by
  obtain ⟨sub, found, bytes⟩ := exists_of_bind_eq_ok read
  rw [look_of_find found]
  cases sub with
  | file _ => exact congrArg (fun content => some (Kind.file content)) (Except.ok.inj bytes)
  | directory _ => cases bytes

theorem bytesAt_of_look (found : look place t = some (.file content)) :
    bytesAt place t = .ok content := by
  cases at_place : t.find place with
  | error fault => simp [look_of_error at_place] at found
  | ok sub =>
    rw [look_of_find at_place] at found
    cases sub with
    | file _ =>
      cases found
      rw [bytesAt, at_place]
      rfl
    | directory _ => cases found

/-- The bytes of the regular file at a place. -/
def contentAt? (place : List String) (t : FileTree) : Option (List UInt8) :=
  (bytesAt place t).toOption

theorem contentAt?_eq_some_iff :
    contentAt? place t = some content ↔ look place t = some (.file content) := by
  constructor
  · intro read
    cases bytes : bytesAt place t with
    | error fault => simp [contentAt?, bytes, Except.toOption] at read
    | ok _ =>
      simp only [contentAt?, bytes, Except.toOption, Option.some.injEq] at read
      exact read ▸ look_of_bytesAt bytes
  · intro found
    rw [contentAt?, bytesAt_of_look found]
    rfl

theorem contentAt?_congr {u : FileTree} {other : List String} (same : look place t = look other u) :
    contentAt? place t = contentAt? other u := by
  apply Option.ext
  intro content
  rw [contentAt?_eq_some_iff, contentAt?_eq_some_iff, same]

theorem contentAt?_eq_none (other : ∀ content, look place t ≠ some (.file content)) :
    contentAt? place t = none := by
  apply Option.eq_none_iff_forall_ne_some.2
  intro content read
  exact other content (contentAt?_eq_some_iff.1 read)

theorem textAt?_eq (place : List String) (t : FileTree) : t.textAt? place =
    (contentAt? place t).bind fun content => (Utf8.decode content).toOption := rfl

theorem look_of_textAt? {text : String} (read : t.textAt? place = some text) :
    look place t ≠ none := by
  rw [textAt?_eq] at read
  obtain ⟨content, bytes, -⟩ := Option.bind_eq_some_iff.1 read
  rw [contentAt?_eq_some_iff.1 bytes]
  simp

/-- A file is moved to where no directory is. -/
structure Moves (source target : List String) (t t' : FileTree) : Prop where
  flat : look source t ≠ some .directory
  free : look target t ≠ some .directory
  moved : look target t' = look source t
  gone : look source t' = none
  elsewhere : ∀ other, other ≠ source → other ≠ target → look other t' = look other t

theorem moves_of_moveFile {source target : List String} (inner : source ≠ [])
    (differ : source ≠ target) (move : moveFile source target t = .ok t') :
    Moves source target t t' := by
  obtain ⟨content, read, put⟩ := exists_of_bind_eq_ok move
  have puts := puts_of_putBytes put
  have file := look_of_bytesAt read
  have flat : look source t ≠ some .directory := by simp [file]
  -- Nothing is below a file, so only the look at `source` itself is lost.
  have removed (other : List String) (apart : other ≠ source) :
      look other (remove source t) = look other t := by
    by_cases below : source <+: other
    · obtain ⟨rest, rfl⟩ := below
      rw [look_remove inner, look_below flat (by simpa using apart)]
    · exact look_remove_outside below
  refine ⟨flat, ?_, puts.here.trans file.symm, ?_, ?_⟩
  · rw [← removed target differ.symm]
    exact puts.free
  · rw [puts.elsewhere source differ]
    simpa using look_remove inner []
  · intro other apart apart'
    rw [puts.elsewhere other apart', removed other apart]

/-! ## Making directories -/

/-- Directories may have been made where nothing was. -/
def Grows (t t' : FileTree) : Prop :=
  ∀ place, look place t' = look place t ∨ look place t = none ∧ look place t' = some .directory

theorem Grows.refl (t : FileTree) : Grows t t := fun _ => .inl rfl

theorem Grows.trans {u : FileTree} (first : Grows t t') (second : Grows t' u) : Grows t u := by
  intro place
  rcases first place with same | ⟨missing, made⟩
  · rw [← same]
    exact second place
  · rcases second place with same' | ⟨missing', -⟩
    · exact .inr ⟨missing, same'.trans made⟩
    · simp [made] at missing'

theorem Grows.contentAt? (grows : Grows t t') (place : List String) :
    FileTree.contentAt? place t' = FileTree.contentAt? place t := by
  rcases grows place with same | ⟨missing, made⟩
  · exact contentAt?_congr same
  · rw [contentAt?_eq_none (by simp [made]), contentAt?_eq_none (by simp [missing])]

theorem look_append_of_find (found : t.find place = .ok sub) (rest : List String) :
    look (place ++ rest) t = look rest sub := by
  induction place generalizing t with
  | nil =>
    cases found
    rfl
  | cons name place ih =>
    cases t with
    | file content => cases found
    | directory entries =>
      rw [List.cons_append, look_directory]
      cases entry : SortedMap.lookup name entries with
      | none => simp [find, entry] at found
      | some below =>
        simp only [find, entry] at found
        exact ih found

theorem lookup_of_entry_notFound (missing : entry name entries = .error .notFound) :
    SortedMap.lookup name entries = none := by
  rw [entry] at missing
  split at missing
  next => cases missing
  next =>
    cases found : SortedMap.lookup name entries with
    | none => rfl
    | some sub => simp [found] at missing

theorem grows_of_alter (free : look place t = none)
    (made : alter (fun _ => .ok empty) place t = .ok t') : Grows t t' := by
  obtain ⟨_, new, changed, -, alters⟩ := alters_of_alter made
  cases changed
  intro other
  by_cases below : place <+: other
  · obtain ⟨rest, rfl⟩ := below
    cases rest with
    | nil => exact .inr ⟨by simpa using free, alters.inside []⟩
    | cons name rest =>
      rw [alters.inside, look_below (by simp [free]) (by simp)]
      exact .inl rfl
  · exact .inl (alters.outside other below)

theorem grows_of_makeDirectory {steps : List Step} (made : makeDirectory steps t = .ok t') :
    Grows t t' := by
  cases steps with
  | nil => cases made
  | cons last before =>
    obtain ⟨place, -, made⟩ := exists_of_bind_eq_ok made
    obtain ⟨sub, found, made⟩ := exists_of_bind_eq_ok made
    cases sub with
    | file content => cases made
    | directory entries =>
      cases last with
      | stay | up => cases made
      | into name =>
        simp only at made
        split at made
        next => cases made
        next missing =>
          have free : look (place ++ [name]) t = none := by
            rw [look_append_of_find found, look_directory, lookup_of_entry_notFound missing]
            rfl
          exact grows_of_alter free made
        next => cases made

theorem grows_ensureDirectory (steps : List Step) (t : FileTree) :
    Grows t (t.ensureDirectory steps).2 := by
  rw [ensureDirectory]
  split
  next made => exact grows_of_makeDirectory made
  next => split <;> exact .refl t
  next => exact .refl t

theorem grows_makeDirectories (steps : List Step) (t : FileTree) :
    Grows t (t.makeDirectories steps).2 := by
  fun_induction makeDirectories steps t with
  | case1 t => exact .refl t
  | case2 t => exact .refl t
  -- The path was missing a parent: a first try, then the parents, then a second try.
  | case3 t last before _ t₁ first t₂ parents ih =>
    have start := grows_ensureDirectory (last :: before) t
    rw [first] at start
    rw [parents] at ih
    exact start.trans (ih.trans (grows_ensureDirectory (last :: before) t₂))
  | case4 t last before _ t₁ first _ ih =>
    have start := grows_ensureDirectory (last :: before) t
    rw [first] at start
    exact start.trans ih
  | case5 t last before => exact grows_ensureDirectory (last :: before) t

/-! ## Paths -/

/-- Every directory is still there. -/
def Keeps (t t' : FileTree) : Prop :=
  ∀ place, look place t = some .directory → look place t' = some .directory

theorem Grows.keeps (grows : Grows t t') : Keeps t t' := by
  intro place isDirectory
  rcases grows place with same | ⟨missing, -⟩
  · exact same.trans isDirectory
  · simp [isDirectory] at missing

theorem Puts.keeps (puts : Puts place content t t') : Keeps t t' := by
  intro other isDirectory
  by_cases here : other = place
  · subst here
    exact absurd isDirectory puts.free
  · rwa [puts.elsewhere other here]

theorem Moves.keeps {source target : List String} (moves : Moves source target t t') :
    Keeps t t' := by
  intro other isDirectory
  by_cases left : other = source
  · subst left
    exact absurd isDirectory moves.flat
  · by_cases reached : other = target
    · subst reached
      exact absurd isDirectory moves.free
    · rwa [moves.elsewhere other left reached]

theorem find_of_look_directory (isDirectory : look place t = some .directory) :
    ∃ entries, t.find place = .ok (.directory entries) := by
  cases found : t.find place with
  | error fault => simp [look_of_error found] at isDirectory
  | ok sub =>
    rw [look_of_find found] at isDirectory
    cases sub with
    | file content => cases isDirectory
    | directory entries => exact ⟨entries, rfl⟩

theorem entry_eq_ok_iff :
    entry name entries = .ok sub ↔
      name.utf8ByteSize ≤ maxName ∧ SortedMap.lookup name entries = some sub := by
  rw [entry]
  by_cases long : maxName < name.utf8ByteSize
  · simp [long, Nat.not_le.2 long]
  · cases SortedMap.lookup name entries <;> simp [long, Nat.le_of_not_lt long]

variable {steps : List Step} {last : List String}

/-- A path that ends in a directory starts in one. -/
theorem directory_of_locateFrom (located : t.locateFrom place steps = .ok last)
    (ends : look last t = some .directory) : look place t = some .directory := by
  cases steps with
  | nil =>
    cases located
    exact ends
  | cons step steps =>
    obtain ⟨sub, found, rest⟩ := exists_of_bind_eq_ok located
    cases sub with
    | file content => cases rest
    | directory entries => exact look_of_find found

theorem locateFrom_of_keeps (keeps : Keeps t t') (located : t.locateFrom place steps = .ok last)
    (ends : look last t = some .directory) : t'.locateFrom place steps = .ok last := by
  induction steps generalizing place with
  | nil => exact located
  | cons step steps ih =>
    have starts := directory_of_locateFrom located ends
    obtain ⟨entries', found'⟩ := find_of_look_directory (keeps place starts)
    obtain ⟨sub, found, rest⟩ := exists_of_bind_eq_ok located
    rw [locateFrom, found']
    cases sub with
    | file content => cases rest
    | directory entries =>
      cases step with
      | stay => exact ih rest
      | up => exact ih rest
      | into name =>
        obtain ⟨below, present, rest⟩ := exists_of_bind_eq_ok rest
        -- The entry is a directory, since the path goes on there or ends there.
        have kept := keeps (place ++ [name]) (directory_of_locateFrom rest ends)
        rw [look_append_of_find found', look_directory] at kept
        obtain ⟨below', lookup, -⟩ := Option.bind_eq_some_iff.1 kept
        have present' : entry name entries' = .ok below' :=
          entry_eq_ok_iff.2 ⟨(entry_eq_ok_iff.1 present).1, lookup⟩
        show (do let _ ← entry name entries'; t'.locateFrom (place ++ [name]) steps) = _
        rw [present']
        exact ih rest

theorem locateFrom_into (short : name.utf8ByteSize ≤ maxName)
    (found : look (place ++ [name]) t ≠ none) :
    t.locateFrom place [.into name] = .ok (place ++ [name]) := by
  obtain ⟨entries, directory⟩ := find_of_look_directory (look_above found)
  rw [look_append_of_find directory, look_directory] at found
  cases lookup : SortedMap.lookup name entries with
  | none => simp [lookup] at found
  | some sub =>
    have present := entry_eq_ok_iff.2 ⟨short, lookup⟩
    rw [locateFrom, directory]
    show (do let _ ← entry name entries; t.locateFrom (place ++ [name]) []) = _
    rw [present]
    rfl

theorem locateFrom_append (place : List String) (steps more : List Step) (t : FileTree) :
    t.locateFrom place (steps ++ more) =
      t.locateFrom place steps >>= fun last => t.locateFrom last more := by
  induction steps generalizing place with
  | nil => rfl
  | cons step steps ih =>
    rw [List.cons_append, locateFrom, locateFrom, bind_assoc]
    congr 1
    funext sub
    cases sub with
    | file content => rfl
    | directory entries =>
      cases step with
      | stay => exact ih place
      | up => exact ih place.dropLast
      | into name =>
        simp only [bind_assoc, ih]

end SchemaServer.FileTree
