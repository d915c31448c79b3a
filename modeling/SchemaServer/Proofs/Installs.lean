import SchemaServer.Launch
import SchemaServer.Proofs.Bytes
import SchemaServer.Proofs.FileTrees
import SchemaServer.Proofs.RootedUrls

/-! # Installing the reference file is safe

An installation makes directories, writes a file under a name of its own and moves that file to its
place; each of these may fail.  `Installs` lists the ways it can end.  Every tree on the way is an
advance over the first one (`Advances`): directories stay, and a reference file stays as it was or
is the bundled one.  Advances go on through any number of installations, so what is installed once
is found by every later one. -/

namespace SchemaServer

open FileTree

theorem stagingName_ne (process : String) : stagingName process ≠ installedName := by
  intro same
  have lengths := congrArg String.length same
  have dot : ".".length = 1 := rfl
  simp only [stagingName, String.length_append] at lengths
  omega

theorem staging_ne_installed (process : String) (place other : List String) :
    place ++ [stagingName process] ≠ other ++ [installedName] := by
  intro same
  have names := (List.append_inj' same rfl).2
  exact stagingName_ne process (by simpa using names)

/-! ## Advances -/

/-- Directories stay, and the reference file of a directory stays as it was or is the bundled one. -/
structure Advances (t t' : FileTree) : Prop where
  keeps : Keeps t t'
  whole : ∀ place,
    contentAt? (place ++ [installedName]) t' = contentAt? (place ++ [installedName]) t ∨
      contentAt? (place ++ [installedName]) t' = some (Utf8.encode bundledText)

variable {t t' : FileTree} {place : List String} {process : String}

theorem Advances.refl (t : FileTree) : Advances t t :=
  ⟨fun _ isDirectory => isDirectory, fun _ => .inl rfl⟩

theorem Advances.trans {u : FileTree} (first : Advances t t') (second : Advances t' u) :
    Advances t u where
  keeps place := second.keeps place ∘ first.keeps place
  whole place := by
    rcases second.whole place with same | bundled
    · rw [same]
      exact first.whole place
    · exact .inr bundled

theorem advances_of_grows (grows : Grows t t') : Advances t t' :=
  ⟨grows.keeps, fun _ => .inl (grows.contentAt? _)⟩

theorem advances_of_puts {content : List UInt8}
    (puts : Puts (place ++ [stagingName process]) content t t') : Advances t t' where
  keeps := puts.keeps
  whole other :=
    .inl (contentAt?_congr (puts.elsewhere _ (staging_ne_installed process place other).symm))

theorem advances_of_moves
    (moves : Moves (place ++ [stagingName process]) (place ++ [installedName]) t t')
    (written : look (place ++ [stagingName process]) t = some (.file (Utf8.encode bundledText))) :
    Advances t t' where
  keeps := moves.keeps
  whole other := by
    by_cases here : other ++ [installedName] = place ++ [installedName]
    · rw [here]
      exact .inr (contentAt?_eq_some_iff.2 (moves.moved.trans written))
    · have left := (staging_ne_installed process place other).symm
      exact .inl (contentAt?_congr (moves.elsewhere _ left here))

/-! ## What an advance keeps installed -/

theorem isInstalled_iff {directory : List Step} : isInstalled directory t = true ↔
    ∃ place, t.locate directory = .ok place ∧
      t.textAt? (place ++ [installedName]) = some bundledText := by
  rw [isInstalled]
  cases t.locate directory <;> simp

theorem textAt?_of_bundled
    (bundled : contentAt? place t = some (Utf8.encode bundledText)) :
    t.textAt? place = some bundledText := by
  rw [textAt?_eq, bundled, Option.bind_some, Utf8.decode_encode]
  rfl

theorem isInstalled_of_advances {directory : List Step} (advances : Advances t t')
    (installed : isInstalled directory t = true) : isInstalled directory t' = true := by
  obtain ⟨place, ends, read⟩ := isInstalled_iff.1 installed
  have isDirectory := look_above (look_of_textAt? read)
  refine isInstalled_iff.2 ⟨place, locateFrom_of_keeps advances.keeps ends isDirectory, ?_⟩
  rcases advances.whole place with same | bundled
  · rwa [textAt?_eq, same]
  · exact textAt?_of_bundled bundled

namespace Launch

/-! ## The ways an installation can end -/

inductive Installs (around : Surroundings) (directory : String) (t : FileTree) :
    Installation → Prop where
  /-- The directory has no proper path. -/
  | refused {fault : FileFault} : Installs around directory t ⟨.error fault, []⟩
  | present (proper : pathFault? directory = none)
      (fits : (joinPath directory installedName).utf8ByteSize ≤ maxPath)
      (installed : isInstalled (steps around directory) t = true) :
      Installs around directory t ⟨.ok (), []⟩
  | stopped {fault : FileFault} {made : FileTree} (grows : Grows t made) :
      Installs around directory t ⟨.error fault, [made]⟩
  | staged {fault : FileFault} {made staged : FileTree} {place : List String} (grows : Grows t made)
      (ends : made.locate (steps around directory) = .ok place)
      (puts : Puts (place ++ [stagingName around.process]) (Utf8.encode bundledText) made staged) :
      Installs around directory t ⟨.error fault, [made, staged]⟩
  | moved {made staged installed : FileTree} {place : List String}
      (proper : pathFault? directory = none)
      (fits : (joinPath directory (stagingName around.process)).utf8ByteSize ≤ maxPath)
      (grows : Grows t made) (ends : made.locate (steps around directory) = .ok place)
      (puts : Puts (place ++ [stagingName around.process]) (Utf8.encode bundledText) made staged)
      (moves : Moves (place ++ [stagingName around.process]) (place ++ [installedName]) staged
        installed) :
      Installs around directory t ⟨.ok (), [made, staged, installed]⟩

variable {around : Surroundings} {directory : String} {i : Installation}

theorem installs_writeBundled {made : FileTree} (proper : pathFault? directory = none)
    (fits : (joinPath directory (stagingName around.process)).utf8ByteSize ≤ maxPath)
    (grows : Grows t made) (ends : made.locate (steps around directory) = .ok place) :
    Installs around directory t (writeBundled around.process place made) := by
  simp only [writeBundled]
  split
  next => exact .stopped grows
  next staged put =>
    have puts := puts_of_putBytes put
    split
    next => exact .staged grows ends puts
    next installed move =>
      have differ := staging_ne_installed around.process place place
      exact .moved proper fits grows ends puts (moves_of_moveFile (by simp) differ move)

theorem installs_installation (around : Surroundings) (directory : String) (t : FileTree) :
    Installs around directory t (installation around directory t) := by
  rw [installation]
  split
  next => exact .refused
  next proper =>
    have grows := grows_makeDirectories (steps around directory).reverse t
    rw [install]
    split
    next found =>
      simp only [Bool.and_eq_true, decide_eq_true_eq] at found
      exact .present proper found.1 found.2
    next =>
      split
      next failed =>
        rw [failed] at grows
        exact .stopped grows
      next done =>
        rw [done] at grows
        split
        next => exact .stopped grows
        next fits =>
          split
          next => exact .stopped grows
          next place ends =>
            exact installs_writeBundled proper (by simpa using fits) grows ends

/-- Every tree on the way of an installation is an advance. -/
theorem Installs.advances (installs : Installs around directory t i) :
    ∀ step ∈ i.history, Advances t step := by
  cases installs with
  | refused | present => simp
  | stopped grows => simpa using advances_of_grows grows
  | staged grows ends puts =>
    have made := advances_of_grows grows
    simpa using ⟨made, made.trans (advances_of_puts puts)⟩
  | moved proper fits grows ends puts moves =>
    have made := advances_of_grows grows
    have staged := made.trans (advances_of_puts puts)
    simpa using ⟨made, staged, staged.trans (advances_of_moves moves puts.here)⟩

theorem Installs.advances_result (installs : Installs around directory t i) :
    Advances t (i.result t) := by
  rw [Installation.result]
  cases last : i.history.getLast? with
  | none => exact .refl t
  | some step => exact installs.advances step (List.mem_of_getLast? last)

/-- Install into some directories, one after the other. -/
def installAll (around : Surroundings) (directories : List String) (t : FileTree) : FileTree :=
  directories.foldl (fun t directory => (installInto around directory t).2) t

theorem installInto_snd (around : Surroundings) (directory : String) (t : FileTree) :
    (installInto around directory t).2 = (installation around directory t).result t := by
  simp only [installInto]
  split <;> rfl

theorem advances_installAll (around : Surroundings) (directories : List String) (t : FileTree) :
    Advances t (installAll around directories t) := by
  induction directories generalizing t with
  | nil => exact .refl t
  | cons directory directories ih =>
    have first := (installs_installation around directory t).advances_result
    rw [← installInto_snd] at first
    exact first.trans (ih _)

/-! ## The path of the installed file -/

theorem splitOn_append {cut : Char → Bool} {c : Char} (cs ds : List Char) (isCut : cut c = true) :
    Text.splitOn cut (cs ++ c :: ds) = Text.splitOn cut cs ++ Text.splitOn cut ds := by
  induction cs with
  | nil => simp [Text.splitOn, isCut]
  | cons d cs ih =>
    rw [List.cons_append, Text.splitOn, Text.splitOn, ih]
    split
    next => rfl
    next =>
      cases parts : Text.splitOn cut cs with
      | nil => exact absurd parts (Text.splitOn_ne_nil cut cs)
      | cons first rest => rfl

theorem stepsOf_slash (first second : String) :
    stepsOf (first ++ "/" ++ second) = stepsOf first ++ stepsOf second := by
  have chars : (first ++ "/" ++ second).toList = first.toList ++ '/' :: second.toList := by
    simp [String.toList_append]
  rw [stepsOf, chars, splitOn_append _ _ rfl, List.filterMap_append]
  rfl

theorem endsWith_slash {path : String} (slash : path.endsWith "/" = true) :
    ∃ front, path = front ++ "/" := by
  rw [← String.endsWith_toSlice, String.Slice.endsWith_string_iff, String.copy_toSlice] at slash
  obtain ⟨front, whole⟩ := slash
  refine ⟨String.ofList front, String.toList_inj.1 ?_⟩
  rw [String.toList_append, String.toList_ofList, whole]

theorem stepsOf_joinPath (directory name : String) :
    stepsOf (joinPath directory name) = stepsOf directory ++ stepsOf name := by
  rw [joinPath]
  split
  next ends =>
    rcases Bool.or_eq_true_iff.1 ends with none | slash
    · rw [String.isEmpty_iff.1 none, String.empty_append]
      rfl
    · obtain ⟨front, rfl⟩ := endsWith_slash slash
      have bare := stepsOf_slash front ""
      rw [String.append_empty] at bare
      rw [stepsOf_slash, bare]
      simp [stepsOf, Text.splitOn, Step.ofPart?]
  next => exact stepsOf_slash directory name

theorem startsWith_joinPath (directory : String) {name : String}
    (unrooted : ¬ name.startsWith "/" = true) :
    (joinPath directory name).startsWith "/" = true ↔ directory.startsWith "/" = true := by
  rw [Url.startsWith_slash_iff] at unrooted
  rw [Url.startsWith_slash_iff, Url.startsWith_slash_iff, joinPath]
  by_cases none : directory = ""
  · simp [none, unrooted]
  · obtain ⟨c, cs, whole⟩ := List.exists_cons_of_ne_nil (mt String.toList_eq_nil_iff.1 none)
    split <;> simp [String.toList_append, whole]

theorem steps_joinPath (around : Surroundings) (directory : String) {name : String}
    (unrooted : ¬ name.startsWith "/" = true) :
    steps around (joinPath directory name) = steps around directory ++ stepsOf name := by
  rw [steps, steps]
  by_cases rooted : directory.startsWith "/" = true
  · rw [if_pos rooted, if_pos ((startsWith_joinPath directory unrooted).2 rooted), stepsOf_joinPath]
  · rw [if_neg rooted, if_neg (mt (startsWith_joinPath directory unrooted).1 rooted)]
    simp only [stepsOf_joinPath, List.append_assoc]

theorem joinPath_append (directory name more : String) :
    joinPath directory (name ++ more) = joinPath directory name ++ more := by
  rw [joinPath, joinPath]
  split <;> simp only [String.append_assoc]

theorem locate_installed {text : String} (ends : t.locate (steps around directory) = .ok place)
    (read : t.textAt? (place ++ [installedName]) = some text) :
    t.locate (steps around (joinPath directory installedName)) = .ok (place ++ [installedName]) := by
  have unrooted : ¬ installedName.startsWith "/" = true := by
    rw [Url.startsWith_slash_iff]
    decide
  have step : stepsOf installedName = [.into installedName] := by decide
  rw [locate] at ends
  rw [steps_joinPath around directory unrooted, step, locate, locateFrom_append, ends]
  exact locateFrom_into (by decide) (look_of_textAt? read)

/-! ## Safety -/

/-- What an installation has done that ended well. -/
structure Installed (around : Surroundings) (directory path : String) (t result : FileTree)
    (place : List String) : Prop where
  named : path = joinPath directory installedName
  ends : result.locate (steps around directory) = .ok place
  leads : result.locate (steps around path) = .ok (place ++ [installedName])
  reads : result.textAt? (place ++ [installedName]) = some bundledText
  /-- Nothing is left under the other name, unless the text was there before. -/
  clears : look (place ++ [stagingName around.process]) result = none ∨
    result = t ∧ isInstalled (steps around directory) t = true
  others : ∀ other, other ≠ place ++ [installedName] →
    other ≠ place ++ [stagingName around.process] → contentAt? other result = contentAt? other t

/-- What an installation has left alone that failed. -/
structure Refused (around : Surroundings) (directory : String) (t result : FileTree) : Prop where
  others : ∀ other, contentAt? other result = contentAt? other t ∨
    ∃ place, result.locate (steps around directory) = .ok place ∧
      other = place ++ [stagingName around.process]
  reference : ∀ place,
    contentAt? (place ++ [installedName]) result = contentAt? (place ++ [installedName]) t

/-- An installation into a directory harms no file, whether it ends well or not. -/
structure Safe (around : Surroundings) (directory : String) (t : FileTree) : Prop where
  installed : ∀ path result, installInto around directory t = (.ok path, result) →
    ∃ place, Installed around directory path t result place
  refused : ∀ fault result, installInto around directory t = (.error fault, result) →
    Refused around directory t result
  /-- Nobody ever reads a part of the text. -/
  whole : ∀ step ∈ (installation around directory t).history, ∀ place,
    contentAt? (place ++ [installedName]) step = contentAt? (place ++ [installedName]) t ∨
      contentAt? (place ++ [installedName]) step = some (Utf8.encode bundledText)
  /-- The installation can be repeated at any time, and then does nothing. -/
  lasts : ∀ path result, installInto around directory t = (.ok path, result) →
    ∀ later, installInto around directory (installAll around later result) =
      (.ok path, installAll around later result)

theorem installInto_eq_ok_iff {path : String} {result : FileTree} :
    installInto around directory t = (.ok path, result) ↔
      (installation around directory t).outcome = .ok () ∧
        path = joinPath directory installedName ∧
        result = (installation around directory t).result t := by
  simp only [installInto]
  split
  next done => simp [done, eq_comm]
  next failed => simp [failed]

theorem installInto_eq_error_iff {fault : Fault} {result : FileTree} :
    installInto around directory t = (.error fault, result) ↔
      (∃ cause, (installation around directory t).outcome = .error cause ∧ fault = .files cause) ∧
        result = (installation around directory t).result t := by
  simp only [installInto]
  split
  next done => simp [done]
  next failed => simp [failed, eq_comm]

theorem Installs.installed (installs : Installs around directory t i) (done : i.outcome = .ok ()) :
    ∃ place, Installed around directory (joinPath directory installedName) t (i.result t) place := by
  cases installs with
  | refused | stopped | staged => cases done
  | present proper fits installed =>
    obtain ⟨place, ends, reads⟩ := isInstalled_iff.1 installed
    exact ⟨place, rfl, ends, locate_installed ends reads, reads, .inr ⟨rfl, installed⟩,
      fun _ _ _ => rfl⟩
  | @moved made staged installed place proper fits grows ends puts moves =>
    -- Neither writing nor moving takes a directory away, so the path still ends at `place`.
    have ends' : installed.locate (steps around directory) = .ok place :=
      locateFrom_of_keeps (fun other => moves.keeps other ∘ puts.keeps other) ends puts.above
    have reads : installed.textAt? (place ++ [installedName]) = some bundledText :=
      textAt?_of_bundled (contentAt?_eq_some_iff.2 (moves.moved.trans puts.here))
    refine ⟨place, rfl, ends', locate_installed ends' reads, reads, .inl moves.gone, ?_⟩
    intro other apart apart'
    have same := (moves.elsewhere other apart' apart).trans (puts.elsewhere other apart')
    exact (contentAt?_congr same).trans (grows.contentAt? other)

theorem Installs.unharmed {fault : FileFault} (installs : Installs around directory t i)
    (failed : i.outcome = .error fault) (other : List String) :
    contentAt? other (i.result t) = contentAt? other t ∨
      ∃ place, (i.result t).locate (steps around directory) = .ok place ∧
        other = place ++ [stagingName around.process] := by
  cases installs with
  | present | moved => cases failed
  | refused => exact .inl rfl
  | stopped grows => exact .inl (grows.contentAt? other)
  | @staged fault made staged place grows ends puts =>
    by_cases here : other = place ++ [stagingName around.process]
    · exact .inr ⟨place, locateFrom_of_keeps puts.keeps ends puts.above, here⟩
    · have same := contentAt?_congr (puts.elsewhere other here)
      exact .inl (same.trans (grows.contentAt? other))

theorem Installs.refusal {fault : FileFault} (installs : Installs around directory t i)
    (failed : i.outcome = .error fault) : Refused around directory t (i.result t) where
  others := installs.unharmed failed
  reference place := by
    rcases installs.unharmed failed (place ++ [installedName]) with same | ⟨other, -, staging⟩
    · exact same
    · exact absurd staging.symm (staging_ne_installed around.process other place)

theorem Installs.fits (installs : Installs around directory t i) (done : i.outcome = .ok ()) :
    pathFault? directory = none ∧ (joinPath directory installedName).utf8ByteSize ≤ maxPath := by
  cases installs with
  | refused | stopped | staged => cases done
  | present proper fits installed => exact ⟨proper, fits⟩
  | moved proper fits grows ends puts moves =>
    simp only [stagingName, joinPath_append, String.utf8ByteSize_append] at fits
    exact ⟨proper, by omega⟩

theorem installInto_of_isInstalled (proper : pathFault? directory = none)
    (fits : (joinPath directory installedName).utf8ByteSize ≤ maxPath)
    (installed : isInstalled (steps around directory) t = true) :
    installInto around directory t = (.ok (joinPath directory installedName), t) := by
  simp [installInto, installation, install, proper, fits, installed, Installation.result]

/-- After any number of installations, one more is safe, and if it ends well it can be repeated at
    any time without effect.  No two names share a file in a tree: there are no links. -/
theorem installInto_safe (around : Surroundings) (t : FileTree) (before : List String)
    (directory : String) : Safe around directory (installAll around before t) := by
  have installs := installs_installation around directory (installAll around before t)
  refine ⟨?_, ?_, fun step member => (installs.advances step member).whole, ?_⟩
  · intro path result ran
    obtain ⟨done, rfl, rfl⟩ := installInto_eq_ok_iff.1 ran
    exact installs.installed done
  · intro fault result ran
    obtain ⟨⟨cause, failed, -⟩, rfl⟩ := installInto_eq_error_iff.1 ran
    exact installs.refusal failed
  · intro path result ran later
    obtain ⟨done, rfl, rfl⟩ := installInto_eq_ok_iff.1 ran
    obtain ⟨proper, fits⟩ := installs.fits done
    obtain ⟨place, installed⟩ := installs.installed done
    have found := isInstalled_iff.2 ⟨place, installed.ends, installed.reads⟩
    refine installInto_of_isInstalled proper fits (isInstalled_of_advances ?_ found)
    exact advances_installAll around later _

def seventh : Surroundings where
  environment _ := none
  temporary := "/tmp"
  process := "7"
  workingDirectory := "/w"
  search := []
  isProgram _ := false

/-- A reference file that is no text, and a file where a directory may be looked for. -/
def spoiledCopy : FileTree :=
  .directory [("f", .file []), ("tmp", .directory [(installedName, .file [255])])]

/-- The spoiled copy is replaced, after one installation that fails and another that does not. -/
theorem installInto_safe_spoiledCopy :
    ∃ result place, installInto seventh "/tmp" (installAll seventh ["/f/x", "/tmp/new"] spoiledCopy) =
        (.ok "/tmp/std.teo", result) ∧
      Installed seventh "/tmp" "/tmp/std.teo" (installAll seventh ["/f/x", "/tmp/new"] spoiledCopy)
        result place ∧
      installInto seventh "/tmp" result = (.ok "/tmp/std.teo", result) := by
  have safe := installInto_safe seventh spoiledCopy ["/f/x", "/tmp/new"] "/tmp"
  have done : (installInto seventh "/tmp"
      (installAll seventh ["/f/x", "/tmp/new"] spoiledCopy)).1.toOption = some "/tmp/std.teo" := by
    decide +kernel
  cases ran : installInto seventh "/tmp" (installAll seventh ["/f/x", "/tmp/new"] spoiledCopy) with
  | mk outcome result =>
    rw [ran] at done
    cases outcome with
    | error fault => cases done
    | ok path =>
      cases done
      obtain ⟨place, installed⟩ := safe.installed _ result ran
      exact ⟨result, place, rfl, installed, safe.lasts _ result ran []⟩

end Launch

end SchemaServer
