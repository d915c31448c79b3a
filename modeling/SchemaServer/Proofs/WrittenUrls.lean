import SchemaServer.Path
import SchemaServer.Proofs.Hosts
import SchemaServer.Url.Parse

/-! # How written URLs look

A URL in its written form starts with its scheme and a colon; a file URL is `file://`, a host and a
path that starts with a slash.  `writtenForm_of_parse` says so of every URL that `Url.parse`
accepts.  Nothing else of the parser is used to tell the paths of documents apart. -/

namespace SchemaServer.Url

/-- The characters of a URL, as far as its scheme and its host go. -/
inductive WrittenForm : List Char → Prop where
  | file {host : List Char} (rest : List Char) (form : HostForm host) :
      WrittenForm (fileScheme ++ host ++ '/' :: rest)
  | other {scheme : List Char} (rest : List Char) (spelled : ∀ c ∈ scheme, isSchemeChar c = true)
      (differs : scheme ≠ ['f', 'i', 'l', 'e']) : WrittenForm (scheme ++ ':' :: rest)

/-- A text that is the written form of a URL. -/
def Accepted (uri : String) : Prop := ∃ source u, parse source = .ok u ∧ uri = u.text

/-- Reading the text as a URL and writing the URL gives the text back. -/
def Rereads (uri : String) : Prop := ∃ u, parse uri = .ok u ∧ u.text = uri

theorem Rereads.accepted {uri : String} (rereads : Rereads uri) : Accepted uri := by
  obtain ⟨u, read, written⟩ := rereads
  exact ⟨uri, u, read, written.symm⟩

theorem Rereads.reread?_eq {uri : String} (rereads : Rereads uri) : reread? uri = some uri := by
  obtain ⟨u, read, written⟩ := rereads
  rw [reread?, read, ← written]
  rfl

theorem filterMap_reread? {uris : List String} (rereads : ∀ uri ∈ uris, Rereads uri) :
    uris.filterMap reread? = uris := by
  induction uris with
  | nil => rfl
  | cons uri uris ih =>
    obtain ⟨first, rest⟩ := List.forall_mem_cons.1 rereads
    rw [List.filterMap_cons_some first.reread?_eq, ih rest]

/-! ## Schemes -/

theorem isSchemeChar_of_lower {c : Char} (low : 97 ≤ c.val.toNat) (high : c.val.toNat ≤ 122) :
    isSchemeChar c = true := by
  have lower : c.isLower = true := Bool.and_eq_true_iff.2 ⟨decide_eq_true low, decide_eq_true high⟩
  have letter : c.isAlpha = true := Bool.or_eq_true_iff.2 (.inr lower)
  have alphanumeric : c.isAlphanum = true := Bool.or_eq_true_iff.2 (.inl letter)
  simp [isSchemeChar, alphanumeric]

theorem isSchemeChar_toLower {c : Char} (spelled : isSchemeChar c = true) :
    isSchemeChar c.toLower = true := by
  unfold Char.toLower
  split
  next upper =>
    have lower : 97 ≤ (c.val + 32).toNat ∧ (c.val + 32).toNat ≤ 122 := by
      have low : 65 ≤ c.val.toNat := upper.1
      have high : c.val.toNat ≤ 90 := upper.2
      have distance : (32 : UInt32).toNat = 32 := rfl
      rw [UInt32.toNat_add]
      omega
    exact isSchemeChar_of_lower lower.1 lower.2
  next => exact spelled

theorem spelled_of_readScheme {cs scheme rest : List Char}
    (read : readScheme cs = some (scheme, rest)) : ∀ c ∈ scheme, isSchemeChar c = true := by
  unfold readScheme at read
  split at read
  · cases read
  · split at read
    · split at read
      · cases read
        intro c member
        obtain ⟨d, taken, rfl⟩ := List.mem_map.1 member
        exact isSchemeChar_toLower (List.all_eq_true.1 List.all_takeWhile d taken)
      · cases read
    · cases read

theorem scheme_of_readWithAuthority {scheme : List Char} {kind : SchemeKind} {cs : List Char}
    {u : Url} (read : readWithAuthority scheme kind cs = .ok u) : u.scheme = scheme := by
  unfold readWithAuthority at read
  dsimp only at read
  obtain ⟨⟨authority, left⟩, -, read⟩ := exists_of_bind_eq_ok read
  split at read
  · cases read
    rfl
  · cases read
    rfl

theorem scheme_of_readOther {scheme cs : List Char} {u : Url}
    (read : readOther scheme cs = .ok u) : u.scheme = scheme := by
  unfold readOther at read
  split at read
  · exact scheme_of_readWithAuthority read
  · cases read
    rfl
  · cases read
    rfl

/-- A URL starts with its scheme and a colon. -/
theorem exists_chars_eq (u : Url) : ∃ rest, u.chars = u.scheme ++ ':' :: rest := by
  unfold chars
  simp only [List.append_assoc, List.cons_append]
  exact ⟨_, rfl⟩

/-! ## Files -/

/-- A file URL is its scheme, its host and a path from the root. -/
theorem chars_fileUrl (host : List Char) (trail : Trail) (rest : List Char) :
    ∃ more, (fileUrl host trail rest).chars =
      fileScheme ++ (if trail.drive then [] else host) ++ '/' :: more := by
  simp only [fileUrl, fileScheme, withTail, chars, Trail.filePath, List.append_assoc, List.cons_append,
    List.nil_append]
  exact ⟨_, rfl⟩

theorem exists_of_readFileUrl {cs : List Char} {u : Url} (read : readFileUrl cs = .ok u) :
    ∃ host trail rest, u = fileUrl host trail rest ∧
      (host = [] ∨ ∃ name, specialHost name = .ok host) := by
  unfold readFileUrl at read
  dsimp only at read
  split at read
  · cases read
    exact ⟨_, _, _, rfl, .inl rfl⟩
  · split at read
    · cases read
      exact ⟨_, _, _, rfl, .inl rfl⟩
    · split at read
      · cases read
        exact ⟨_, _, _, rfl, .inl rfl⟩
      · split at read
        · cases read
          exact ⟨_, _, _, rfl, .inl rfl⟩
        · split at read
          · cases read
            exact ⟨_, _, _, rfl, .inl rfl⟩
          · obtain ⟨host, named, read⟩ := exists_of_bind_eq_ok read
            split at read
            · cases read
              exact ⟨_, _, _, rfl, .inl rfl⟩
            · cases read
              exact ⟨_, _, _, rfl, .inr ⟨_, named⟩⟩

/-- The parts of a file URL: its host, which may be empty, and what follows the root. -/
structure FileParts (u : Url) (host rest : List Char) : Prop where
  scheme : u.scheme = ['f', 'i', 'l', 'e']
  authority : u.authority = some host
  form : HostForm host
  unrooted : host.head? ≠ some '/'
  chars : u.chars = fileScheme ++ host ++ '/' :: rest

theorem fileParts_of_readFileUrl {cs : List Char} {u : Url} (read : readFileUrl cs = .ok u) :
    ∃ host rest, FileParts u host rest := by
  obtain ⟨host, trail, tail, rfl, named⟩ := exists_of_readFileUrl read
  obtain ⟨more, whole⟩ := chars_fileUrl host trail tail
  have clean : HostForm host ∧ host.head? ≠ some '/' := by
    rcases named with rfl | ⟨name, named⟩
    · exact ⟨.inr (by simp), by simp⟩
    · exact ⟨specialHost_form named, head?_specialHost named⟩
  have written : HostForm (if trail.drive then [] else host) ∧
      (if trail.drive then [] else host).head? ≠ some '/' := by
    split
    · exact ⟨.inr (by simp), by simp⟩
    · exact clean
  exact ⟨_, more, rfl, rfl, written.1, written.2, whole⟩

/-! ## Parsing -/

/-- What a URL that is accepted can be: a file URL, or one with another scheme. -/
theorem exists_of_parse {source : String} {u : Url} (read : parse source = .ok u) :
    (∃ host rest, FileParts u host rest) ∨
      u.scheme ≠ ['f', 'i', 'l', 'e'] ∧ ∀ c ∈ u.scheme, isSchemeChar c = true := by
  unfold parse at read
  dsimp only at read
  split at read
  · cases read
  next scheme rest schemeRead =>
    have spelled := spelled_of_readScheme schemeRead
    -- Only the scheme `file` is of its own kind.
    have other (kind : schemeKind scheme ≠ .file) (same : u.scheme = scheme) :
        u.scheme ≠ ['f', 'i', 'l', 'e'] ∧ ∀ c ∈ u.scheme, isSchemeChar c = true := by
      rw [same]
      refine ⟨?_, spelled⟩
      rintro rfl
      exact kind rfl
    split at read
    next => exact .inl (fileParts_of_readFileUrl read)
    next special => exact .inr (other (by simp [special]) (scheme_of_readWithAuthority read))
    next plain => exact .inr (other (by simp [plain]) (scheme_of_readOther read))

/-- Every URL that is accepted has the written form. -/
theorem writtenForm_of_parse {source : String} {u : Url} (read : parse source = .ok u) :
    WrittenForm u.chars := by
  rcases exists_of_parse read with ⟨host, rest, parts⟩ | ⟨differs, spelled⟩
  · rw [parts.chars]
    exact .file rest parts.form
  · obtain ⟨more, whole⟩ := exists_chars_eq u
    rw [whole]
    exact .other more spelled differs

theorem Accepted.writtenForm {uri : String} (accepted : Accepted uri) : WrittenForm uri.toList := by
  obtain ⟨source, u, read, rfl⟩ := accepted
  rw [text, String.toList_ofList]
  exact writtenForm_of_parse read

end SchemaServer.Url
