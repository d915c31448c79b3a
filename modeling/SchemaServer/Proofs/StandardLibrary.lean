import SchemaServer.Proofs.Answers
import SchemaServer.Proofs.Chapters

/-! # Where the standard library opens

A definition in the standard library leads to the path under which the server was told to find it.
The link is a URI, and `Url.denoted?` says which path a URI denotes.  The path goes into the URI as a
text that is already written, so the URI denotes it exactly if nothing in it has a meaning in a URL
(`Url.Verbatim`): no question mark or number sign, no percent code, no backslash, nothing that is
dropped.  All other characters are kept, blanks, letters of any script and single percent signs
among them. -/

namespace SchemaServer

namespace Url

/-- The bytes of the path that the URI of a file denotes.  A URI with a host, a query or a fragment
    denotes none. -/
def denoted? (uri : String) : Option (List UInt8) :=
  let path := uri.toList.drop fileScheme.length
  if fileScheme.isPrefixOf uri.toList && path.head? == some '/' && path.all fun c => !endsPath c then
    some (percentDecode (String.ofList path))
  else none

/-- A path from the root without empty segments and without dot segments. -/
structure NamesFile (path : List Char) : Prop where
  rooted : path.head? = some '/'
  segments : ∀ segment ∈ Text.splitOn (· == '/') (path.drop 1),
    segment ∉ [[], ['.'], ['.', '.']]

/-- A path in which every character stands for itself. -/
structure Verbatim (path : List Char) : Prop where
  plain : ∀ c ∈ path, c ∉ ['?', '#', '\\', '\t', '\n', '\r']
  ending : ∀ c ∈ path.getLast?, 0x20 < c.toNat
  uncoded : holdsCode path = false

theorem verbatim_iff_all (path : List Char) : Verbatim path ↔
    (path.all (fun c => c ∉ ['?', '#', '\\', '\t', '\n', '\r']) &&
      path.getLast?.all (fun c => 0x20 < c.toNat) && !holdsCode path) = true := by
  simp only [Bool.and_eq_true, List.all_eq_true, Option.all_eq_true, Bool.not_eq_true',
    decide_eq_true_eq]
  constructor
  · intro verbatim
    exact ⟨⟨verbatim.plain, verbatim.ending⟩, verbatim.uncoded⟩
  · rintro ⟨⟨plain, ending⟩, uncoded⟩
    exact ⟨plain, ending, uncoded⟩

instance (path : List Char) : Decidable (Verbatim path) :=
  decidable_of_decidable_of_iff (verbatim_iff_all path).symm

variable {rest : List Char}

theorem denoted?_of_chars {uri : String} {coded : List Char}
    (chars : uri.toList = fileScheme ++ '/' :: coded) :
    denoted? uri =
      if coded.all (fun c => !endsPath c) then some (47 :: percentDecodeBytes (bytesOf coded))
      else none := by
  have first : endsPath '/' = false := by decide
  have read : percentDecode (String.ofList ('/' :: coded)) =
      47 :: percentDecodeBytes (bytesOf coded) := by
    rw [percentDecode, encode_ofList, bytesOf_slash_cons, percentDecodeBytes_of_ne (by decide)]
  unfold denoted?
  simp only [chars, List.drop_left, read]
  simp [first, fileScheme]

/-! ## Paths that are denoted -/

theorem trimEnd_eq_self_iff (cs : List Char) :
    trimEnd cs = cs ↔ ∀ c ∈ cs.getLast?, isMargin c = false := by
  rw [trimEnd, List.reverse_eq_iff, List.getLast?_eq_head?_reverse]
  cases cs.reverse with
  | nil => simp
  | cons c cs =>
    simp only [List.head?_cons, Option.mem_some_iff, forall_eq']
    by_cases margin : isMargin c = true
    · have shorter := (List.dropWhile_suffix isMargin (l := cs)).length_le
      simp only [List.dropWhile_cons_of_pos margin, margin, Bool.true_eq_false, iff_false]
      intro same
      have length := congrArg List.length same
      simp only [List.length_cons] at length
      omega
    · simp [List.dropWhile_cons_of_neg margin, margin]

/-- The path that is written for a rooted path, after its root. -/
theorem exists_text_localFile (cs : List Char) :
    ∃ coded, (readSegments .file cs).1.filePath = '/' :: coded ∧
      (localFile cs).text.toList = fileScheme ++ '/' :: (coded ++ (localFile cs).afterPath) := by
  refine ⟨_, rfl, ?_⟩
  rw [text, String.toList_ofList, chars_localFile]
  rfl

/-- What is denoted is read from the path alone: a query or a fragment after it would show. -/
theorem read_of_denoted? {cs coded : List Char} {bytes : List UInt8}
    (path : (readSegments .file cs).1.filePath = '/' :: coded)
    (denotes : denoted? (localFile cs).text = some (47 :: bytes)) :
    percentDecodeBytes (bytesOf coded) = bytes := by
  obtain ⟨_, path', chars⟩ := exists_text_localFile cs
  obtain rfl : coded = _ := (List.cons.inj (path.symm.trans path')).2
  rw [denoted?_of_chars chars] at denotes
  split at denotes
  next plain =>
    have bare : (localFile cs).afterPath = [] := by
      cases after : (localFile cs).afterPath with
      | nil => rfl
      | cons c later =>
        have ends := endsPath_of_head_afterPath (localFile cs) c (by simp [after])
        rw [after, List.all_eq_true] at plain
        have goesOn := plain c (by simp)
        simp [ends] at goesOn
    rw [bare, List.append_nil] at denotes
    simpa using denotes
  next => cases denotes

theorem NamesFile.ne_nil (names : NamesFile ('/' :: rest)) : rest ≠ [] := by
  rintro rfl
  exact names.segments [] (by simp [Text.splitOn]) (by simp)

theorem NamesFile.dropWhile_slash (names : NamesFile ('/' :: rest)) :
    rest.dropWhile (· == '/') = rest := by
  cases rest with
  | nil => rfl
  | cons c later =>
    refine List.dropWhile_cons_of_neg fun slash => names.segments [] ?_ (by simp)
    simp [Text.splitOn, slash]

/-- The text before a query or a fragment, without its margin. -/
def bodyOf (rest : List Char) : List Char := (trimEnd rest).takeWhile fun c => !endsPath c

theorem size_bodyOf_le (rest : List Char) : size (bodyOf rest) ≤ size rest :=
  size_le_of_sublist ((List.takeWhile_prefix _).sublist.trans (trimEnd_prefix_self rest).sublist)

theorem path_localFile (rest : List Char) :
    (readSegments .file ('/' :: trimEnd rest)).1 =
      Trail.follow true { segments := [[]] } (Text.splitOn (isSlash .file) (bodyOf rest)) := by
  rw [readSegments_rooted, bodyOf]

/-- A path with a dot segment is denoted by no URI that is made of it. -/
theorem plain_of_denoted? (names : NamesFile ('/' :: rest))
    (denotes : denoted? (localFile ('/' :: trimEnd rest)).text = some (bytesOf ('/' :: rest))) :
    ∀ raw ∈ Text.splitOn (isSlash .file) (bodyOf rest), isDots raw = false := by
  intro raw member
  refine Bool.eq_false_iff.2 fun dots => ?_
  have short := weight_filePath_of_dots ⟨raw, member, dots⟩
  obtain ⟨coded, path, -⟩ := exists_text_localFile ('/' :: trimEnd rest)
  have read : weight coded = size rest := congrArg List.length (read_of_denoted? path denotes)
  have some := size_pos names.ne_nil
  have less := size_bodyOf_le rest
  rw [← path_localFile, path, weight_cons_slash] at short
  omega

/-- The steps from a path to its URI leave a character alone if it is none of these six. -/
theorem not_mem_iff (c : Char) : c ∉ ['?', '#', '\\', '\t', '\n', '\r'] ↔
    endsPath c = false ∧ slashed c = c ∧ isDropped c = false := by
  rw [slashed_eq_self_iff]
  simp only [List.mem_cons, List.not_mem_nil, or_false, not_or, endsPath, isDropped,
    Bool.or_eq_false_iff, beq_eq_false_iff_ne]
  tauto

theorem verbatim_iff (some : rest ≠ []) : Verbatim ('/' :: rest) ↔
    (∀ c ∈ rest, endsPath c = false ∧ slashed c = c ∧ isDropped c = false) ∧
      trimEnd rest = rest ∧ holdsCode rest = false := by
  have last : ('/' :: rest).getLast? = rest.getLast? := by
    obtain ⟨c, later, rfl⟩ := List.exists_cons_of_ne_nil some
    rfl
  have code : holdsCode ('/' :: rest) = holdsCode rest := rfl
  have margin : ∀ c, isMargin c = false ↔ 0x20 < c.toNat := by simp [isMargin]
  constructor
  · rintro ⟨plain, ending, uncoded⟩
    refine ⟨fun c member => (not_mem_iff c).1 (plain c (by simp [member])), ?_, uncoded⟩
    rw [trimEnd_eq_self_iff]
    exact fun c isLast => (margin c).2 (ending c (last ▸ isLast))
  · rintro ⟨plain, ending, uncoded⟩
    rw [trimEnd_eq_self_iff] at ending
    refine ⟨fun c member => ?_, fun c isLast => (margin c).1 (ending c (last ▸ isLast)), uncoded⟩
    rcases List.mem_cons.1 member with rfl | member
    · decide
    · exact (not_mem_iff c).2 (plain c member)

/-- Every step from a path to what is read from its URI takes bytes away or none.  If none are gone in
    the end, no step has changed the path, but for its backslashes. -/
theorem unchanged_of_read
    (read : percentDecodeBytes (bytesOf ((kept ((bodyOf rest).map slashed)).dropWhile (· == '/'))) =
      bytesOf rest) :
    trimEnd rest = rest ∧ bodyOf rest = rest ∧ kept (rest.map slashed) = rest.map slashed ∧
      percentDecodeBytes (bytesOf (rest.map slashed)) = bytesOf rest := by
  have weighs : weight ((kept ((bodyOf rest).map slashed)).dropWhile (· == '/')) = size rest :=
    congrArg List.length read
  have light := weight_le_size ((kept ((bodyOf rest).map slashed)).dropWhile (· == '/'))
  have trimmed := (trimEnd_prefix_self rest).sublist
  have cut : (bodyOf rest).Sublist (trimEnd rest) := (List.takeWhile_prefix _).sublist
  have filtered : (kept ((bodyOf rest).map slashed)).Sublist _ := List.filter_sublist
  have dropped := (List.dropWhile_suffix (· == '/') (l := kept ((bodyOf rest).map slashed))).sublist
  have trimmedSize := size_le_of_sublist trimmed
  have cutSize := size_le_of_sublist cut
  have filteredSize := size_le_of_sublist filtered
  have droppedSize := size_le_of_sublist dropped
  have slashedSize := size_map_slashed (bodyOf rest)
  have ends := eq_of_sublist_of_size_le trimmed (by omega)
  have whole := eq_of_sublist_of_size_le cut (by omega)
  have keeps := eq_of_sublist_of_size_le filtered (by omega)
  have rooted := eq_of_sublist_of_size_le dropped (by omega)
  rw [ends] at whole
  rw [rooted, keeps, whole] at read
  rw [whole] at keeps
  exact ⟨ends, whole, keeps, read⟩

theorem verbatim_of_denoted? (names : NamesFile ('/' :: rest))
    (denotes : denoted? (localFile ('/' :: trimEnd rest)).text = some (bytesOf ('/' :: rest))) :
    Verbatim ('/' :: rest) := by
  have path := filePath_of_plain (plain_of_denoted? names denotes)
  rw [← path_localFile] at path
  have read := read_of_denoted? path denotes
  rw [percentDecodeBytes_codedPath] at read
  obtain ⟨ends, whole, keeps, read⟩ := unchanged_of_read read
  have full : weight (rest.map slashed) = size rest := congrArg List.length read
  have uncoded : holdsCode (rest.map slashed) = false :=
    not_holdsCode_of_size_le (by rw [full, size_map_slashed])
  rw [percentDecodeBytes_of_not_holdsCode uncoded, bytesOf_inj] at read
  rw [read] at keeps uncoded
  refine (verbatim_iff names.ne_nil).2 ⟨fun c member => ⟨?_, ?_, ?_⟩, ends, uncoded⟩
  · rw [bodyOf, ends] at whole
    simpa using List.takeWhile_eq_self_iff.1 whole c member
  · exact List.map_inj_left.1 (read.trans (List.map_id rest).symm) c member
  · simpa using List.filter_eq_self.1 keeps c member

/-! ## Verbatim paths -/

theorem plainDots_of_not_holdsCode {cs : List Char} (uncoded : holdsCode cs = false) :
    plainDots cs = cs := by
  fun_induction plainDots cs with
  | case1 rest ih => cases uncoded
  | case2 rest ih => cases uncoded
  | case3 c rest _ _ ih =>
    rw [ih (holdsCode_eq_false_of_part (List.suffix_cons c rest).isInfix uncoded)]
  | case4 => rfl

theorem endsPath_of_mem_percentEncode {c : Char} {cs : List Char}
    (member : c ∈ percentEncode codedPath cs) : endsPath c = false := by
  obtain ⟨d, -, member⟩ := List.mem_flatMap.1 member
  split at member
  · have digits : ∀ n < 16, endsPath (hexDigit n) = false := by decide
    obtain ⟨b, -, member⟩ := List.mem_flatMap.1 member
    have small : b.toNat < 256 := b.toNat_lt
    simp only [percentByte, List.mem_cons, List.not_mem_nil, or_false] at member
    rcases member with rfl | rfl | rfl
    · decide
    · exact digits _ (by omega)
    · exact digits _ (by omega)
  next plain =>
    obtain rfl := List.mem_singleton.1 member
    simp only [codedPath, Bool.or_eq_true, beq_iff_eq, not_or] at plain
    simp [endsPath, plain]

/-- The segments of a verbatim path are added as they stand. -/
theorem Verbatim.plain_segments (names : NamesFile ('/' :: rest)) (verbatim : Verbatim ('/' :: rest)) :
    ∀ raw ∈ Text.splitOn (isSlash .file) rest, isDots raw = false := by
  obtain ⟨plain, -, uncoded⟩ := (verbatim_iff names.ne_nil).1 verbatim
  have slashes : ∀ c ∈ rest, isSlash .file c = (c == '/') := by
    intro c member
    have noBackslash := (slashed_eq_self_iff c).1 (plain c member).2.1
    simp [isSlash, noBackslash]
  rw [splitOn_congr slashes]
  intro raw member
  have inside := (infix_of_mem_splitOn (· == '/') rest).2 raw member
  have keeps : kept raw = raw := by
    refine List.filter_eq_self.2 fun c present => ?_
    simp [(plain c (inside.subset present)).2.2]
  have named := names.segments raw member
  simp only [List.mem_cons, List.not_mem_nil, or_false, not_or] at named
  simp [isDots, isDoubleDot, isSingleDot, keeps, named,
    plainDots_of_not_holdsCode (holdsCode_eq_false_of_part inside uncoded)]

theorem denoted?_of_verbatim (names : NamesFile ('/' :: rest)) (verbatim : Verbatim ('/' :: rest)) :
    denoted? (localFile ('/' :: trimEnd rest)).text = some (bytesOf ('/' :: rest)) := by
  obtain ⟨plain, ends, uncoded⟩ := (verbatim_iff names.ne_nil).1 verbatim
  have goesOn : ∀ c ∈ rest, (!endsPath c) = true := fun c member => by simp [(plain c member).1]
  have body : bodyOf rest = rest := by
    rw [bodyOf, ends]
    exact List.takeWhile_eq_self_iff.2 goesOn
  have slashes : rest.map slashed = rest :=
    (List.map_congr_left fun c member => (plain c member).2.1).trans (List.map_id rest)
  have keeps : kept rest = rest :=
    List.filter_eq_self.2 fun c member => by simp [(plain c member).2.2]
  have path := path_localFile rest
  rw [body] at path
  have written := filePath_of_plain (verbatim.plain_segments names)
  rw [← path, slashes, keeps, names.dropWhile_slash] at written
  have after : (localFile ('/' :: trimEnd rest)).afterPath = [] := by
    apply afterPath_localFile
    rw [readSegments_rooted, ends]
    exact List.dropWhile_eq_nil_iff.2 goesOn
  obtain ⟨coded, path', chars⟩ := exists_text_localFile ('/' :: trimEnd rest)
  obtain rfl : coded = _ := (List.cons.inj (path'.symm.trans written)).2
  rw [after, List.append_nil] at chars
  rw [denoted?_of_chars chars, if_pos, percentDecodeBytes_codedPath,
    percentDecodeBytes_of_not_holdsCode uncoded, bytesOf_slash_cons]
  exact List.all_eq_true.2 fun c member => by simp [endsPath_of_mem_percentEncode member]

theorem denoted?_localFile_iff (names : NamesFile ('/' :: rest)) :
    denoted? (localFile ('/' :: trimEnd rest)).text = some (bytesOf ('/' :: rest)) ↔
      Verbatim ('/' :: rest) :=
  ⟨verbatim_of_denoted? names, denoted?_of_verbatim names⟩

end Url

/-! ## Links into the standard library -/

namespace Session

variable {s s' : Session}

theorem Chooses.stdPath {uri : String} {fetched? : Option Client.Fetched} {settings : Settings}
    (chooses : Chooses s uri fetched? settings s') : s'.stdPath = s.stdPath := by
  cases chooses <;> rfl

theorem Validates.stdPath {v : Validation} (validates : Validates s v s') : s'.stdPath = s.stdPath := by
  obtain ⟨-, settings, chooses, -⟩ := validates
  exact chooses.stdPath

theorem ValidatesAll.stdPath {validations : List Validation}
    (validates : ValidatesAll s validations s') : s'.stdPath = s.stdPath := by
  induction validates with
  | nil s => rfl
  | cons first rest ih => exact ih.trans first.stdPath

theorem Handles.stdPath {chapter : Chapter} (handles : Handles s chapter s') :
    s'.stdPath = s.stdPath := by
  cases handles with
  | opened text version validates => exact validates.stdPath
  | changed text version validates => exact validates.stdPath
  | configured validates uris =>
    refine validates.stdPath.trans ?_
    unfold Session.configured
    split <;> rfl
  | connected | closed | notOpen | passing => rfl

theorem Told.stdPath {chapters : List Chapter} (told : Told s chapters s') :
    s'.stdPath = s.stdPath := by
  induction told with
  | start => rfl
  | next earlier handles ih => exact handles.stdPath.trans ih

theorem stdPath_of_runs {events : List Event} {trace : List Exchange}
    (run : (handleAll events s).Runs trace s') : s'.stdPath = s.stdPath := by
  obtain ⟨chapters, -, told, -⟩ := chronicle_of_runs run
  exact told.stdPath

end Session

theorem exists_pathUri? {path : String} (names : Url.NamesFile path.toList) :
    ∃ target, pathUri? path = some target ∧
      (Url.denoted? target = some (Utf8.encode path) ↔ Url.Verbatim path.toList) := by
  obtain ⟨rest, chars⟩ := List.head?_eq_some_iff.1 names.rooted
  obtain rfl : path = String.ofList ('/' :: rest) := by rw [← chars, String.ofList_toList]
  rw [chars] at names ⊢
  refine ⟨_, pathUri?_rooted rest, ?_⟩
  rw [Url.encode_ofList, Url.denoted?_localFile_iff names]

/-- However a session has gone on since the server was started with the path of a file, a definition
    in the standard library is answered by a link to one and the same URI.  It denotes that file
    exactly if the path is verbatim. -/
theorem builtin_target_denotes_path {path : String} (names : Url.NamesFile path.toList)
    {events : List Session.Event} {trace : List Exchange} {session : Session}
    (run : (Session.handleAll events { stdPath := path }).Runs trace session) :
    ∃ target, (Url.denoted? target = some (Utf8.encode path) ↔ Url.Verbatim path.toList) ∧
      ∀ (uri : String) (position : Position), ∃ links,
        session.Takes (.definition uri position)
          (definitionCall session uri position.toAnalyzer) links ∧
        ∀ tree items, (Json.Shape.list DefinitionItem.shape).ofJson tree = .ok items →
          ∃ trees, Server.replyResult (.definition uri position) (links (.ok tree)) =
              .ok (.array trees) ∧
            ∀ item ∈ items, item.path = "(builtin)std.teo" →
              ∃ link ∈ trees, linkTree? path item = some link ∧
                targetOf? link = some (.text target) := by
  obtain ⟨target, found, denotes⟩ := exists_pathUri? names
  have configured : session.stdPath = path := Session.stdPath_of_runs run
  refine ⟨target, denotes, fun uri position => ⟨_, takes_definition session uri position, ?_⟩⟩
  intro tree items decoded
  refine ⟨_, replyResult_definition uri position decoded, fun item member builtin => ?_⟩
  have linked : ∃ link, linkTree? path item = some link ∧ targetOf? link = some (.text target) := by
    rw [linkTree?, DefinitionItem.filePath, if_pos builtin, found]
    exact ⟨_, rfl, rfl⟩
  obtain ⟨link, made, leads⟩ := linked
  refine ⟨link, List.mem_filterMap.2 ⟨item, member, ?_⟩, made, leads⟩
  rw [configured, made]

/-- A path with blanks, a percent sign and a letter beyond ASCII. -/
def unusualPath : String := "/opt/my std/100% ü.teo"

theorem builtin_target_denotes_path_unusual :
    Url.NamesFile unusualPath.toList ∧ Url.Verbatim unusualPath.toList ∧
    ∃ trace session,
      (Session.handleAll [.opened "file:///a" "" 1] { stdPath := unusualPath }).Runs trace session ∧
      ∃ target, Url.denoted? target = some (Utf8.encode unusualPath) ∧
        ∃ links, session.Takes (.definition "file:///a" ⟨0, 0⟩)
            (definitionCall session "file:///a" (Position.toAnalyzer ⟨0, 0⟩)) links ∧
          ∃ trees, Server.replyResult (.definition "file:///a" ⟨0, 0⟩)
              (links (.ok (.array (scattered.map DefinitionItem.toJson)))) = .ok (.array trees) ∧
            ∃ link ∈ trees, targetOf? link = some (.text target) := by
  have names : Url.NamesFile unusualPath.toList := ⟨by decide +kernel, by decide +kernel⟩
  have verbatim : Url.Verbatim unusualPath.toList := by decide +kernel
  have run := Program.runs_transcript Program.outage
    (Session.handleAll [.opened "file:///a" "" 1] { stdPath := unusualPath }) ()
  obtain ⟨target, denotes, answers⟩ := builtin_target_denotes_path names run
  obtain ⟨links, takes, replies⟩ := answers "file:///a" ⟨0, 0⟩
  obtain ⟨trees, response, leads⟩ := replies (.array (scattered.map DefinitionItem.toJson)) scattered rfl
  obtain ⟨link, member, -, target'⟩ := leads _ (List.mem_cons_self ..) rfl
  exact ⟨names, verbatim, _, _, run, target, denotes.2 verbatim, links, takes, trees, response, link,
    member, target'⟩

/-- A number sign in the path cuts the target off: the URI has a fragment and denotes no path.  Its
    percent code would have denoted the file. -/
theorem number_sign_cuts_target :
    Url.NamesFile "/opt/c#/std.teo".toList ∧
      pathUri? "/opt/c#/std.teo" = some "file:///opt/c#/std.teo" ∧
      Url.denoted? "file:///opt/c#/std.teo" = none ∧
      Url.denoted? "file:///opt/c%23/std.teo" = some (Utf8.encode "/opt/c#/std.teo") := by
  exact ⟨⟨by decide +kernel, by decide +kernel⟩, by decide +kernel, by decide +kernel,
    by decide +kernel⟩

end SchemaServer
