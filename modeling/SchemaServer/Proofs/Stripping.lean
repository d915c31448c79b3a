import SchemaServer.Path

/-! # Leading schemes

`stripFileScheme` goes on until no `file://` is left at the front.  `Strips` tells this turn by turn,
so that a loop which went on for ever would have no derivation:

* `exists_strips`: from every text the loop comes to its end, and leaves what `stripFileScheme` gives.
* `strips_iff`: a loop of `n` turns has `n` schemes before a text that starts with none.

What is left is therefore the only path of its kind (`barePath_iff`), and all else that is said of
paths here comes from that, without going through the loop again. -/

namespace SchemaServer

/-! ## One turn -/

theorem stripFileScheme_fileScheme_append (rest : List Char) :
    stripFileScheme (fileScheme ++ rest) = stripFileScheme rest := by
  simp only [fileScheme, List.cons_append, List.nil_append]
  rw [stripFileScheme]

theorem stripFileScheme_of_not_prefix {cs : List Char} (plain : ¬ fileScheme <+: cs) :
    stripFileScheme cs = cs := by
  unfold stripFileScheme
  split
  next rest => exact absurd ⟨rest, rfl⟩ plain
  next => rfl

/-! ## The loop -/

/-- Taking one scheme after the other from the front of a text ends after so many turns, and this is
    what is left. -/
inductive Strips : Nat → List Char → List Char → Prop
  | done {cs : List Char} (plain : ¬ fileScheme <+: cs) : Strips 0 cs cs
  | turn {turns : Nat} {rest left : List Char} (later : Strips turns rest left) :
      Strips (turns + 1) (fileScheme ++ rest) left

theorem exists_strips (cs : List Char) : ∃ turns, Strips turns cs (stripFileScheme cs) := by
  fun_induction stripFileScheme cs with
  | case1 rest ih =>
    obtain ⟨turns, later⟩ := ih
    exact ⟨turns + 1, .turn later⟩
  | case2 cs differs =>
    -- `differs` is about seven characters one by one; the end of the loop is about the scheme.
    refine ⟨0, .done ?_⟩
    rintro ⟨rest, rfl⟩
    exact differs rest rfl

namespace Strips

variable {turns : Nat} {cs left : List Char}

theorem stripFileScheme_eq (strips : Strips turns cs left) : stripFileScheme cs = left := by
  induction strips with
  | done plain => exact stripFileScheme_of_not_prefix plain
  | turn later ih => rw [stripFileScheme_fileScheme_append, ih]

theorem length_eq (strips : Strips turns cs left) : cs.length = 7 * turns + left.length := by
  induction strips with
  | done plain => simp
  | turn later ih =>
    rw [List.length_append, ih]
    simp only [fileScheme, List.length_cons, List.length_nil]
    omega

/-- The loop has one end. -/
theorem unique {turns' : Nat} {left' : List Char} (strips : Strips turns cs left)
    (other : Strips turns' cs left') : turns = turns' ∧ left = left' := by
  have same : left = left' := strips.stripFileScheme_eq.symm.trans other.stripFileScheme_eq
  -- Both loops shorten the same text to the same rest, so they take the same number of turns.
  have length := strips.length_eq
  have length' := other.length_eq
  subst same
  exact ⟨by omega, rfl⟩

end Strips

theorem strips_iff {turns : Nat} {cs left : List Char} :
    Strips turns cs left ↔
      cs = (List.replicate turns fileScheme).flatten ++ left ∧ ¬ fileScheme <+: left := by
  constructor
  · intro strips
    induction strips with
    | done plain => exact ⟨rfl, plain⟩
    | turn later ih =>
      obtain ⟨rfl, plain⟩ := ih
      exact ⟨by simp [List.replicate_succ], plain⟩
  · rintro ⟨rfl, plain⟩
    -- Here the schemes are given and their number is what gets smaller.
    induction turns with
    | zero => exact .done plain
    | succ turns ih =>
      rw [List.replicate_succ, List.flatten_cons, List.append_assoc]
      exact .turn ih

/-! ## Bare paths -/

/-- The path follows a number of schemes in the URI and does not start with one itself. -/
structure BarePath (uri path : String) : Prop where
  leading : ∃ n, uri = String.join (List.replicate n "file://") ++ path
  bare : path.startsWith "file://" = false

theorem startsWith_file_eq_false_iff {path : String} :
    path.startsWith "file://" = false ↔ ¬ fileScheme <+: path.toList := by
  rw [← Bool.not_eq_true, String.startsWith_string_iff]
  rfl

theorem toList_join_schemes (n : Nat) :
    (String.join (List.replicate n "file://")).toList = (List.replicate n fileScheme).flatten := by
  rw [String.toList_join, List.flatMap_replicate]
  rfl

theorem barePath_iff_strips {uri path : String} :
    BarePath uri path ↔ ∃ turns, Strips turns uri.toList path.toList := by
  have spelled : ∀ n, uri = String.join (List.replicate n "file://") ++ path ↔
      uri.toList = (List.replicate n fileScheme).flatten ++ path.toList := by
    intro n
    rw [← String.toList_inj, String.toList_append, toList_join_schemes]
  simp only [strips_iff, ← spelled, ← startsWith_file_eq_false_iff, exists_and_right]
  exact ⟨fun ⟨leading, bare⟩ => ⟨leading, bare⟩, fun ⟨leading, bare⟩ => ⟨leading, bare⟩⟩

theorem strips_pathOfUri (uri : String) :
    ∃ turns, Strips turns uri.toList (pathOfUri uri).toList := by
  rw [pathOfUri, String.toList_ofList]
  exact exists_strips uri.toList

theorem barePath_iff {uri path : String} : BarePath uri path ↔ path = pathOfUri uri := by
  rw [barePath_iff_strips]
  constructor
  · rintro ⟨turns, strips⟩
    rw [pathOfUri, strips.stripFileScheme_eq, String.ofList_toList]
  · rintro rfl
    exact strips_pathOfUri uri

theorem barePath_pathOfUri (uri : String) : BarePath uri (pathOfUri uri) := barePath_iff.2 rfl

namespace BarePath

variable {uri path : String}

/-- A text that starts with no scheme is its own path. -/
theorem self (bare : uri.startsWith "file://" = false) : BarePath uri uri :=
  ⟨⟨0, by simp⟩, bare⟩

theorem scheme_append (form : BarePath uri path) : BarePath ("file://" ++ uri) path := by
  obtain ⟨⟨n, rfl⟩, bare⟩ := form
  refine ⟨⟨n + 1, ?_⟩, bare⟩
  rw [List.replicate_succ, String.join_cons, String.append_assoc]

theorem suffix (form : BarePath uri path) : path.toList <:+ uri.toList := by
  obtain ⟨⟨n, rfl⟩, -⟩ := form
  rw [String.toList_append]
  exact List.suffix_append ..

end BarePath

/-- Taking leading schemes away comes to an end after as many turns as there are schemes, and what is
    left is the one text that follows them and starts with none.  So doing it again changes nothing,
    nor does it matter how many schemes there were. -/
theorem pathOfUri_normal_form (uri : String) :
    (∃ turns, 7 * turns ≤ uri.length ∧ ∀ n left,
      Strips n uri.toList left ↔ n = turns ∧ left = (pathOfUri uri).toList) ∧
    (∀ path, BarePath uri path ↔ path = pathOfUri uri) ∧
    pathOfUri (pathOfUri uri) = pathOfUri uri ∧
    (pathOfUri uri).toList <:+ uri.toList ∧
    (pathOfUri uri = uri ↔ uri.startsWith "file://" = false) ∧
    pathOfUri ("file://" ++ uri) = pathOfUri uri := by
  have path := barePath_pathOfUri uri
  refine ⟨?_, fun _ => barePath_iff, ?_, path.suffix, ?_, ?_⟩
  · obtain ⟨turns, strips⟩ := strips_pathOfUri uri
    have length := strips.length_eq
    refine ⟨turns, ?_, ?_⟩
    · rw [← String.length_toList]
      omega
    · intro n left
      constructor
      · exact fun other => other.unique strips
      · rintro ⟨rfl, rfl⟩
        exact strips
  · exact (barePath_iff.1 (.self path.bare)).symm
  · constructor
    · intro same
      exact same ▸ path.bare
    · intro bare
      exact (barePath_iff.1 (.self bare)).symm
  · exact (barePath_iff.1 path.scheme_append).symm

example : pathOfUri "file://file:///a" = "/a" ∧ pathOfUri "file:/file://b" = "file:/file://b" := by
  decide

end SchemaServer
