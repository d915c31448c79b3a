import Mathlib.Data.List.Flatten
import Mathlib.Data.List.TakeWhile
import SchemaServer.Proofs.PercentCodes
import SchemaServer.Proofs.Targets

/-! # URLs of rooted paths

`file://` before any path that starts with a slash is read as a URL of this machine (`ofPath?_rooted`).
The path of that URL is read from the path as from a text that is already written: its percent codes
are codes, a backslash is a slash, tabs and line breaks are dropped, a question mark or a number sign
ends it.  Without dot segments that is all (`filePath_of_plain`).  No step makes the path longer than
the text it is read from, and each dot segment makes it shorter (`extent_follow_le`). -/

namespace SchemaServer.Url

/-! ## Reading -/

/-- A text without the margin at its end. -/
def trimEnd (cs : List Char) : List Char := (cs.reverse.dropWhile isMargin).reverse

theorem trimEnd_prefix_self (cs : List Char) : trimEnd cs <+: cs := by
  have suffix := List.dropWhile_suffix isMargin (l := cs.reverse)
  rw [trimEnd, ← List.reverse_reverse cs, List.reverse_prefix, List.reverse_reverse]
  exact suffix

/-- The file that a text after `file://` names. -/
def localFile (cs : List Char) : Url :=
  fileUrl [] (readSegments .file cs).1 (kept (readSegments .file cs).2)

theorem trim_rooted (cs : List Char) :
    trim (fileScheme ++ '/' :: cs) = fileScheme ++ '/' :: trimEnd cs := by
  have front : (fileScheme ++ '/' :: cs).dropWhile isMargin = fileScheme ++ '/' :: cs := rfl
  have back := dropWhile_append_cons (p := isMargin) (c := '/') (by decide) cs.reverse fileScheme.reverse
  rw [trim, front, List.reverse_append, List.reverse_cons, List.append_assoc, List.singleton_append,
    back, List.reverse_append, List.reverse_cons, List.reverse_reverse, List.append_assoc,
    List.singleton_append]
  rfl

theorem readFileUrl_rooted (cs : List Char) :
    readFileUrl ('/' :: '/' :: '/' :: cs) = .ok (localFile ('/' :: cs)) := rfl

theorem parse_rooted (cs : List Char) :
    parse (String.ofList (fileScheme ++ '/' :: cs)) = .ok (localFile ('/' :: trimEnd cs)) := by
  rw [parse, String.toList_ofList, trim_rooted]
  exact readFileUrl_rooted (trimEnd cs)

/-- A path that starts with a slash always has a URL. -/
theorem ofPath?_rooted (cs : List Char) :
    ofPath? (String.ofList ('/' :: cs)) = some (localFile ('/' :: trimEnd cs)) := by
  have rooted : (String.ofList ('/' :: cs)).startsWith "/" = true := by
    rw [startsWith_slash_iff, String.toList_ofList]
    rfl
  have whole : "file://" ++ String.ofList ('/' :: cs) = String.ofList (fileScheme ++ '/' :: cs) := by
    rw [String.ofList_append]
    rfl
  rw [ofPath?, if_pos rooted, whole, parse_rooted]
  rfl

/-! ## Segments -/

theorem flatMap_splitOn (cut : Char → Bool) (cs : List Char) :
    (Text.splitOn cut cs).flatMap ('/' :: ·) = '/' :: cs.map fun c => if cut c then '/' else c := by
  induction cs with
  | nil => rfl
  | cons c cs ih =>
    rw [Text.splitOn, List.map_cons]
    split
    · rw [List.flatMap_cons, ih]
      rfl
    · cases segments : Text.splitOn cut cs with
      | nil => simp [segments] at ih
      | cons first rest =>
        rw [segments, List.flatMap_cons, List.cons_append, List.cons.injEq] at ih
        rw [List.flatMap_cons, List.cons_append, List.cons_append, ih.2]

theorem splitOn_congr {p q : Char → Bool} {cs : List Char} (same : ∀ c ∈ cs, p c = q c) :
    Text.splitOn p cs = Text.splitOn q cs := by
  induction cs with
  | nil => rfl
  | cons c cs ih =>
    rw [Text.splitOn, Text.splitOn, same c (by simp), ih fun c member => same c (by simp [member])]

/-- A segment stands in the text it was cut from. -/
theorem infix_of_mem_splitOn (cut : Char → Bool) (cs : List Char) :
    (∀ first ∈ (Text.splitOn cut cs).head?, first <+: cs) ∧
      ∀ segment ∈ Text.splitOn cut cs, segment <:+: cs := by
  induction cs with
  | nil => simp [Text.splitOn]
  | cons c cs ih =>
    rw [Text.splitOn]
    split
    · simp only [List.head?_cons, Option.mem_some_iff, List.mem_cons]
      refine ⟨?_, ?_⟩
      · rintro first rfl
        exact List.nil_prefix
      · rintro segment (rfl | member)
        · exact List.nil_infix
        · exact (ih.2 segment member).trans (List.suffix_cons c cs).isInfix
    · cases segments : Text.splitOn cut cs with
      | nil => exact absurd segments (Text.splitOn_ne_nil cut cs)
      | cons first rest =>
        rw [segments] at ih
        have front : c :: first <+: c :: cs := List.cons_prefix_cons.2 ⟨rfl, ih.1 first rfl⟩
        simp only [List.head?_cons, Option.mem_some_iff, List.mem_cons]
        refine ⟨?_, ?_⟩
        · rintro _ rfl
          exact front
        · rintro segment (rfl | member)
          · exact front.isInfix
          · exact (ih.2 segment (by simp [member])).trans (List.suffix_cons c cs).isInfix

/-! ## The text after `file://` -/

/-- What follows the path of a URL: its query and its fragment. -/
def afterPath (u : Url) : List Char :=
  (match u.query with
    | some q => '?' :: q
    | none => []) ++
  match u.fragment with
    | some f => '#' :: f
    | none => []

theorem endsPath_of_head_afterPath (u : Url) : ∀ c ∈ u.afterPath.head?, endsPath c = true := by
  unfold afterPath
  cases u.query with
  | some q => simp [endsPath]
  | none => cases u.fragment <;> simp [endsPath]

theorem chars_of_authority {u : Url} {host : List Char} (named : u.authority = some host) :
    u.chars = u.scheme ++ ':' :: '/' :: '/' :: (host ++ (u.path ++ u.afterPath)) := by
  unfold chars afterPath
  rw [named]
  cases u.query <;> cases u.fragment <;> simp

theorem chars_localFile (cs : List Char) :
    (localFile cs).chars =
      fileScheme ++ ((readSegments .file cs).1.filePath ++ (localFile cs).afterPath) := by
  have noHost : (localFile cs).authority = some [] := congrArg some (ite_self _)
  rw [chars_of_authority noHost]
  rfl

theorem afterPath_localFile {cs : List Char} (whole : (readSegments .file cs).2 = []) :
    (localFile cs).afterPath = [] := by
  rw [localFile, whole]
  rfl

/-- The segments of a rooted path start with an empty one. -/
theorem readSegments_rooted (cs : List Char) :
    readSegments .file ('/' :: cs) =
      (Trail.follow true { segments := [[]] }
          (Text.splitOn (isSlash .file) (cs.takeWhile fun c => !endsPath c)),
        cs.dropWhile fun c => !endsPath c) := by
  have more := Text.splitOn_ne_nil (isSlash .file) (cs.takeWhile fun c => !endsPath c)
  obtain ⟨first, rest, segments⟩ := List.exists_cons_of_ne_nil more
  have raw : Text.splitOn (isSlash .file) (('/' :: cs).takeWhile fun c => !endsPath c) =
      [] :: first :: rest := by
    rw [← segments]
    rfl
  rw [readSegments, raw, segments]
  rfl

/-! ## Trails without dot segments -/

/-- Whether a raw segment is resolved and not added. -/
def isDots (raw : List Char) : Bool := isDoubleDot (kept raw) || isSingleDot (kept raw)

theorem pushRaw_of_ne_nil {t : Trail} (below : t.segments ≠ []) (raw : List Char) :
    t.pushRaw true raw = { t with segments := percentEncode codedPath (kept raw) :: t.segments } := by
  have rooted : t.segments.isEmpty = false := by simpa using below
  simp only [Trail.pushRaw, Trail.push, rooted, Bool.and_false, Bool.false_and]

theorem follow_of_plain {t : Trail} {raws : List (List Char)} (below : t.segments ≠ [])
    (plain : ∀ raw ∈ raws, isDots raw = false) :
    (t.follow true raws).segments =
      (raws.map fun raw => percentEncode codedPath (kept raw)).reverse ++ t.segments := by
  induction raws generalizing t with
  | nil => rfl
  | cons raw raws ih =>
    obtain ⟨noDouble, noSingle⟩ := Bool.or_eq_false_iff.1 (plain raw (by simp))
    have later := ih (t := t.pushRaw true raw) (by simp [pushRaw_of_ne_nil below])
      fun raw member => plain raw (by simp [member])
    have step : t.follow true (raw :: raws) = (t.pushRaw true raw).follow true raws := by
      cases raws <;> simp [Trail.follow, noDouble, noSingle]
    rw [step, later, pushRaw_of_ne_nil below]
    simp

/-- A character of a path, with the backslash read as a slash. -/
def slashed (c : Char) : Char := if isSlash .file c then '/' else c

theorem slashed_eq_self_iff (c : Char) : slashed c = c ↔ c ≠ '\\' := by
  unfold slashed
  by_cases backslash : c = '\\'
  · subst backslash
    decide
  · split
    next slash =>
      have same : c = '/' := by simpa [isSlash, backslash] using slash
      simp [same]
    next => simp [backslash]

theorem kept_append (first second : List Char) : kept (first ++ second) = kept first ++ kept second :=
  List.filter_append ..

theorem percentEncode_append (coded : Char → Bool) (first second : List Char) :
    percentEncode coded (first ++ second) = percentEncode coded first ++ percentEncode coded second :=
  List.flatMap_append

theorem dropWhile_percentEncode (cs : List Char) :
    (percentEncode codedPath cs).dropWhile (· == '/') =
      percentEncode codedPath (cs.dropWhile (· == '/')) := by
  induction cs with
  | nil => rfl
  | cons c cs ih =>
    by_cases slash : c = '/'
    · subst slash
      exact ih
    · rw [List.dropWhile_cons_of_neg (by simpa using slash), percentEncode_cons]
      split
      · obtain ⟨more, chars⟩ := exists_percentChar c
        rw [chars]
        rfl
      · exact List.dropWhile_cons_of_neg (by simpa using slash)

theorem flatMap_percentEncode_kept (raws : List (List Char)) :
    (raws.map fun raw => percentEncode codedPath (kept raw)).flatMap ('/' :: ·) =
      percentEncode codedPath (kept (raws.flatMap ('/' :: ·))) := by
  induction raws with
  | nil => rfl
  | cons raw raws ih =>
    have front : percentEncode codedPath (kept ('/' :: raw)) =
        '/' :: percentEncode codedPath (kept raw) := rfl
    rw [List.map_cons, List.flatMap_cons, List.flatMap_cons, ih, kept_append, percentEncode_append,
      front]

/-- Without dot segments the path is written as the text stands, up to what is dropped from it. -/
theorem filePath_of_plain {body : List Char}
    (plain : ∀ raw ∈ Text.splitOn (isSlash .file) body, isDots raw = false) :
    (Trail.follow true { segments := [[]] } (Text.splitOn (isSlash .file) body)).filePath =
      '/' :: percentEncode codedPath ((kept (body.map slashed)).dropWhile (· == '/')) := by
  have path : (Trail.follow true { segments := [[]] } (Text.splitOn (isSlash .file) body)).path =
      '/' :: '/' :: percentEncode codedPath (kept (body.map slashed)) := by
    rw [Trail.path, follow_of_plain (by simp) plain, List.reverse_append, List.reverse_reverse,
      List.flatMap_append, flatMap_percentEncode_kept, flatMap_splitOn]
    rfl
  rw [Trail.filePath, path, ← dropWhile_percentEncode]
  rfl

/-! ## How much of a path is read -/

/-- How many bytes a text has. -/
def size (cs : List Char) : Nat := (bytesOf cs).length

/-- How many bytes are read from a text. -/
def weight (cs : List Char) : Nat := (percentDecodeBytes (bytesOf cs)).length

theorem weight_le_size (cs : List Char) : weight cs ≤ size cs := length_percentDecodeBytes_le _

/-- If as many bytes are read from a text as it has, it holds no code. -/
theorem not_holdsCode_of_size_le {cs : List Char} (full : size cs ≤ weight cs) :
    holdsCode cs = false := by
  refine Bool.eq_false_iff.2 fun code => ?_
  have fewer : weight cs < size cs := length_percentDecodeBytes_of_holdsCode code
  omega

theorem size_append (first second : List Char) : size (first ++ second) = size first + size second := by
  rw [size, bytesOf_append, List.length_append, size, size]

theorem size_cons (c : Char) (cs : List Char) : size (c :: cs) = size [c] + size cs :=
  size_append [c] cs

theorem size_pos {cs : List Char} (some : cs ≠ []) : 0 < size cs := by
  obtain ⟨c, later, rfl⟩ := List.exists_cons_of_ne_nil some
  have byte := List.length_pos_iff.2 (String.utf8EncodeChar_ne_nil (c := c))
  rw [size, bytesOf_cons, List.length_append]
  omega

@[simp] theorem size_nil : size [] = 0 := rfl

@[simp] theorem weight_nil : weight [] = 0 := rfl

theorem size_cons_slash (cs : List Char) : size ('/' :: cs) = 1 + size cs := by
  rw [size, bytesOf_slash_cons, List.length_cons, size, Nat.add_comm]

theorem weight_append_slash (first second : List Char) :
    weight (first ++ '/' :: second) = weight first + 1 + weight second := by
  rw [weight, bytesOf_append, bytesOf_slash_cons, percentDecodeBytes_append_slash, List.length_append,
    List.length_cons, weight, weight]
  omega

theorem weight_cons_slash (cs : List Char) : weight ('/' :: cs) = 1 + weight cs := by
  have whole := weight_append_slash [] cs
  rw [List.nil_append] at whole
  exact whole.trans (by simp)

theorem sublist_bytesOf {first second : List Char} (part : first.Sublist second) :
    (bytesOf first).Sublist (bytesOf second) :=
  part.flatMap _

theorem size_le_of_sublist {first second : List Char} (part : first.Sublist second) :
    size first ≤ size second :=
  (sublist_bytesOf part).length_le

/-- A part of a text with as many bytes is all of it. -/
theorem eq_of_sublist_of_size_le {first second : List Char} (part : first.Sublist second)
    (large : size second ≤ size first) : first = second :=
  bytesOf_inj.1 ((sublist_bytesOf part).eq_of_length_le large)

theorem codedPath_of_lt : ∀ n < 128, (Json.hexValue? (Char.ofNat n)).isSome = true →
    codedPath (Char.ofNat n) = false := by
  decide

theorem codedPath_of_digit (c : Char) (digit : (Json.hexValue? c).isSome = true) :
    codedPath c = false := by
  obtain ⟨n, value⟩ := Option.isSome_iff_exists.1 digit
  have plain := codedPath_of_lt c.toNat (ascii_of_hexValue? value)
  rw [Char.ofNat_toNat] at plain
  exact plain digit

theorem percentDecodeBytes_codedPath (cs : List Char) :
    percentDecodeBytes (bytesOf (percentEncode codedPath cs)) = percentDecodeBytes (bytesOf cs) :=
  percentDecodeBytes_percentEncode (by decide) codedPath_of_digit cs

theorem weight_percentEncode (cs : List Char) : weight (percentEncode codedPath cs) = weight cs :=
  congrArg List.length (percentDecodeBytes_codedPath cs)

theorem weight_dropWhile_slash_le (cs : List Char) : weight (cs.dropWhile (· == '/')) ≤ weight cs := by
  induction cs with
  | nil => exact Nat.le_refl _
  | cons c cs ih =>
    by_cases slash : c = '/'
    · subst slash
      rw [weight_cons_slash]
      exact Nat.le_trans ih (Nat.le_add_left _ _)
    · rw [List.dropWhile_cons_of_neg (by simpa using slash)]

/-- How many bytes are read from the path of a file.  The slashes at its start count as one, and a path
    of slashes counts for nothing. -/
def extent (path : List Char) : Nat :=
  if path.dropWhile (· == '/') = [] then 0 else 1 + weight (path.dropWhile (· == '/'))

theorem extent_append_slash_le (path segment : List Char) :
    extent (path ++ '/' :: segment) ≤ extent path + (1 + weight segment) := by
  have below := weight_dropWhile_slash_le segment
  unfold extent
  rw [List.dropWhile_append]
  cases path.dropWhile (· == '/') with
  | nil =>
    have drop : ('/' :: segment).dropWhile (· == '/') = segment.dropWhile (· == '/') := rfl
    simp only [List.isEmpty_nil, if_true, drop]
    split <;> omega
  | cons c rest =>
    simp only [List.isEmpty_cons, Bool.false_eq_true, if_false, List.cons_append, reduceCtorEq]
    rw [← List.cons_append, weight_append_slash]
    omega

theorem extent_le_append_slash (path segment : List Char) :
    extent path ≤ extent (path ++ '/' :: segment) := by
  unfold extent
  rw [List.dropWhile_append]
  cases path.dropWhile (· == '/') with
  | nil => simp
  | cons c rest =>
    simp only [List.isEmpty_cons, Bool.false_eq_true, if_false, List.cons_append, reduceCtorEq]
    rw [← List.cons_append, weight_append_slash]
    omega

theorem weight_filePath_le (t : Trail) : weight t.filePath ≤ max 1 (extent t.path) := by
  rw [Trail.filePath, weight_cons_slash, extent]
  split
  next root => simp [root]
  next => exact Nat.le_max_right _ _

/-! ## Trails with dot segments -/

theorem path_cons (t : Trail) (segment : List Char) :
    { t with segments := segment :: t.segments : Trail }.path = t.path ++ '/' :: segment := by
  simp [Trail.path]

/-- A segment adds no more than its own bytes and a slash. -/
theorem extent_path_cons_le (t : Trail) (segment : List Char) :
    extent { t with segments := segment :: t.segments : Trail }.path ≤
      extent t.path + (1 + weight segment) := by
  rw [path_cons]
  exact extent_append_slash_le t.path segment

theorem extent_dropLastSegment_le (t : Trail) :
    extent { t with segments := dropLastSegment t.segments : Trail }.path ≤ extent t.path := by
  obtain ⟨segments, drive⟩ := t
  cases segments with
  | nil => exact Nat.le_refl _
  | cons segment rest =>
    dsimp only [dropLastSegment]
    split
    · exact Nat.le_refl _
    · rw [path_cons ⟨rest, drive⟩ segment]
      exact extent_le_append_slash _ _

theorem size_kept_le (cs : List Char) : size (kept cs) ≤ size cs :=
  size_le_of_sublist List.filter_sublist

/-- A drive is broken off where a dropped character follows its colon. -/
theorem exists_of_driveBreak? {raw drive rest : List Char}
    (cut : driveBreak? raw = some (drive, rest)) :
    ∃ letter d more, drive = [letter, ':'] ∧ rest = kept more ∧
      (letter :: ':' :: d :: more).Sublist raw := by
  unfold driveBreak? at cut
  have first := (List.dropWhile_suffix isDropped (l := raw)).sublist
  split at cut
  next => cases cut
  next letter later start =>
    rw [start] at first
    have second := (List.dropWhile_suffix isDropped (l := later)).sublist
    split at cut
    next after colon =>
      rw [colon] at second
      split at cut
      next broken =>
        simp only [Option.some.injEq, Prod.mk.injEq] at cut
        cases after with
        | nil => simp at broken
        | cons d more =>
          have dropped : isDropped d = true := by simp_all
          have unkept : kept (d :: more) = kept more := List.filter_cons_of_neg (by simp [dropped])
          exact ⟨letter, d, more, cut.1.symm, cut.2.symm.trans unkept, (second.cons_cons letter).trans first⟩
      next => cases cut
    next => cases cut

/-- A drive, a slash and the rest take no more than the text they were read from. -/
theorem size_of_driveBreak? {raw drive rest : List Char} (cut : driveBreak? raw = some (drive, rest)) :
    size drive + (1 + size rest) ≤ size raw := by
  obtain ⟨letter, d, more, rfl, rfl, part⟩ := exists_of_driveBreak? cut
  have whole := size_le_of_sublist part
  have byte := size_pos (List.cons_ne_nil d [])
  have less := size_kept_le more
  rw [size_cons letter, size_cons ':', size_cons d] at whole
  rw [size_cons letter]
  omega

/-- The two letters of a drive are no code. -/
theorem weight_drive {letter : Char} {more : List Char} (drive : isDrive (letter :: more) = true) :
    weight [letter, ':'] = weight (letter :: more) := by
  have plain : ∀ d, weight [letter, d] = size [letter] + size [d] := by
    intro d
    rw [← size_cons, weight, percentDecodeBytes_of_not_holdsCode (by simp [holdsCode, codeOf?]), size]
  cases more with
  | nil => simp [isDrive] at drive
  | cons d later =>
    cases later with
    | nil =>
      have bar : d = ':' ∨ d = '|' := by simp_all [isDrive]
      rw [plain, plain]
      rcases bar with rfl | rfl <;> rfl
    | cons e later => simp [isDrive] at drive

theorem extent_push_le (t : Trail) (segment : List Char) :
    extent (t.push true segment).path ≤ extent t.path + (1 + weight segment) := by
  unfold Trail.push
  split
  next letter more isFirst =>
    simp only [Bool.true_and, Bool.and_eq_true, List.isEmpty_iff] at isFirst
    obtain ⟨segments, drive⟩ := t
    obtain ⟨rfl, isDrive⟩ : segments = [] ∧ _ := isFirst
    rw [← weight_drive isDrive]
    exact extent_path_cons_le ⟨[], drive⟩ [letter, ':']
  next => exact extent_path_cons_le t _

theorem extent_pushRaw_le (t : Trail) (raw : List Char) :
    extent (t.pushRaw true raw).path ≤ extent t.path + (1 + size raw) := by
  unfold Trail.pushRaw
  split
  next drive rest isFirst cut =>
    simp only [Bool.true_and, List.isEmpty_iff] at isFirst
    obtain ⟨segments, fromDrive⟩ := t
    obtain rfl : segments = [] := isFirst
    have first := extent_path_cons_le ⟨[], fromDrive⟩ drive
    have second := extent_path_cons_le ⟨[drive], fromDrive⟩ (percentEncode codedPath rest)
    have room := size_of_driveBreak? cut
    have light := weight_le_size drive
    have light' := weight_le_size rest
    rw [weight_percentEncode] at second
    dsimp only at first second ⊢
    omega
  next =>
    have added := extent_push_le t (percentEncode codedPath (kept raw))
    have light := weight_le_size (kept raw)
    have less := size_kept_le raw
    rw [weight_percentEncode] at added
    omega

theorem size_pos_of_isDots {raw : List Char} (dots : isDots raw = true) : 0 < size raw := by
  refine size_pos ?_
  rintro rfl
  cases dots

theorem size_flatMap_cons (raw : List Char) (raws : List (List Char)) :
    size ((raw :: raws).flatMap ('/' :: ·)) = 1 + size raw + size (raws.flatMap ('/' :: ·)) := by
  rw [List.flatMap_cons, size_append, size_cons_slash]

/-- A trail grows by no more than the text it follows, and each dot segment takes at least a byte. -/
theorem extent_follow_le (t : Trail) (raws : List (List Char)) :
    extent (t.follow true raws).path + raws.countP isDots ≤
      extent t.path + size (raws.flatMap ('/' :: ·)) := by
  fun_induction Trail.follow true t raws with
  | case1 t => simp
  -- A dot segment at the end leaves an empty segment, so here its own bytes are needed.
  | case2 t last double =>
    have dots : isDots last = true := by simp [isDots, double]
    have taken := size_pos_of_isDots dots
    have dropped := extent_dropLastSegment_le t
    have added := extent_path_cons_le { t with segments := dropLastSegment t.segments } []
    dsimp only [weight_nil] at added
    rw [List.countP_cons_of_pos dots, size_flatMap_cons, List.countP_nil]
    omega
  | case3 t last noDouble single =>
    have dots : isDots last = true := by simp [isDots, single]
    have taken := size_pos_of_isDots dots
    have added := extent_path_cons_le t []
    rw [weight_nil] at added
    rw [List.countP_cons_of_pos dots, size_flatMap_cons, List.countP_nil]
    omega
  | case4 t last noDouble noSingle =>
    have plain : ¬ isDots last = true := by simp [isDots, noDouble, noSingle]
    have added := extent_pushRaw_le t last
    rw [List.countP_cons_of_neg plain, size_flatMap_cons, List.countP_nil]
    omega
  | case5 t segment rest later double ih =>
    have dots : isDots segment = true := by simp [isDots, double]
    have dropped := extent_dropLastSegment_le t
    rw [List.countP_cons_of_pos dots, size_flatMap_cons]
    omega
  | case6 t segment rest later noDouble single ih =>
    have dots : isDots segment = true := by simp [isDots, single]
    rw [List.countP_cons_of_pos dots, size_flatMap_cons]
    omega
  | case7 t segment rest later noDouble noSingle ih =>
    have plain : ¬ isDots segment = true := by simp [isDots, noDouble, noSingle]
    have added := extent_pushRaw_le t segment
    rw [List.countP_cons_of_neg plain, size_flatMap_cons]
    omega

theorem size_map_slashed (cs : List Char) : size (cs.map slashed) = size cs := by
  induction cs with
  | nil => rfl
  | cons c cs ih =>
    have one : size [slashed c] = size [c] := by
      by_cases backslash : c = '\\'
      · subst backslash
        rfl
      · rw [(slashed_eq_self_iff c).2 backslash]
    rw [List.map_cons, size_cons, one, ih, ← size_cons]

/-- With a dot segment in it, a rooted path is read as less than it is. -/
theorem weight_filePath_of_dots {body : List Char}
    (dots : ∃ raw ∈ Text.splitOn (isSlash .file) body, isDots raw = true) :
    weight (Trail.follow true { segments := [[]] } (Text.splitOn (isSlash .file) body)).filePath ≤
      max 1 (size body) := by
  have counted := List.countP_pos_iff.2 dots
  have bound := extent_follow_le { segments := [[]] } (Text.splitOn (isSlash .file) body)
  have root : extent ({ segments := [[]] } : Trail).path = 0 := rfl
  have whole : size ((Text.splitOn (isSlash .file) body).flatMap ('/' :: ·)) = 1 + size body := by
    rw [flatMap_splitOn, size_cons_slash]
    exact congrArg (1 + ·) (size_map_slashed body)
  have light := weight_filePath_le
    (Trail.follow true { segments := [[]] } (Text.splitOn (isSlash .file) body))
  omega

end SchemaServer.Url
