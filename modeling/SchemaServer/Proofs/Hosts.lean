import Mathlib.Algebra.Group.Nat.Defs
import SchemaServer.Proofs.Outcomes
import SchemaServer.Url.Host

/-! # The characters of hosts

A host in its written form is an address in brackets or holds no colon (`specialHost_form`).  For a
name in ASCII the check of its labels says so; for a label in the digits of `Punycode` the check is
made on the characters that the digits stand for, so both directions of that code have to be
followed: a character that is written is one of the label, a hyphen or a digit (`mem_encode`), and a
character that is read is one of the label, a hyphen or a digit (`mem_of_decode?`). -/

namespace SchemaServer

namespace Url

/-! ## Labels in digits -/

namespace Punycode

/-- A digit in base 36. -/
abbrev IsDigit (c : Char) : Prop := (digitValue? c).isSome = true

theorem isDigit_digit : ∀ d < 36, IsDigit (digit d) := by decide

theorem mem_marker {c : Char} (member : c ∈ marker) : c = '-' ∨ IsDigit c := by
  simp only [marker, List.mem_cons, List.not_mem_nil, or_false] at member
  rcases member with rfl | rfl | rfl | rfl
  · exact .inr rfl
  · exact .inr rfl
  · exact .inl rfl
  · exact .inl rfl

theorem threshold_bounds (place bias : Nat) :
    1 ≤ threshold place bias ∧ threshold place bias ≤ 26 := by
  unfold threshold
  omega

/-- A difference is written in digits.  Every place divides what is left by ten at least, so a
    number below `2 ^ fuel` is used up before the fuel is. -/
theorem isDigit_of_mem_digits {fuel bias place q : Nat} {c : Char} (bound : q < 2 ^ fuel)
    (member : c ∈ digits fuel bias place q) : IsDigit c := by
  induction fuel generalizing place q with
  | zero =>
    obtain rfl : q = 0 := by simpa using bound
    obtain rfl : c = digit 0 := by simpa [digits] using member
    decide
  | succ fuel ih =>
    obtain ⟨low, high⟩ := threshold_bounds place bias
    rw [digits] at member
    split at member
    next small =>
      obtain rfl : c = digit q := by simpa using member
      exact isDigit_digit q (by omega)
    next =>
      rcases List.mem_cons.1 member with rfl | tail
      · have remainder := Nat.mod_lt (q - threshold place bias)
          (show 36 - threshold place bias > 0 by omega)
        exact isDigit_digit _ (by omega)
      · refine ih ?_ tail
        -- One unit of fuel pays for a half, and what is left is a tenth at most.
        have tenth : (q - threshold place bias) / (36 - threshold place bias) ≤ q / 10 :=
          Nat.div_le_div (by omega) (by omega) (by decide)
        have doubled : 2 ^ (fuel + 1) = 2 * 2 ^ fuel := Nat.pow_succ'
        omega

theorem isDigit_of_mem_scan {basic point : Nat} {s : State} {d : Char}
    (out : ∀ c ∈ s.out, IsDigit c) : ∀ c ∈ (scan basic point s d).out, IsDigit c := by
  unfold scan
  split
  · exact out
  · split
    · intro c member
      rcases List.mem_append.1 member with old | new
      · exact out c old
      · exact isDigit_of_mem_digits Nat.lt_log2_self new
    · exact out

theorem isDigit_of_mem_foldl_scan {basic point : Nat} {label : List Char} {s : State}
    (out : ∀ c ∈ s.out, IsDigit c) : ∀ c ∈ (label.foldl (scan basic point) s).out, IsDigit c := by
  induction label generalizing s with
  | nil => exact out
  | cons d label ih => exact ih (isDigit_of_mem_scan out)

theorem isDigit_of_mem_writeAll {label : List Char} {basic next : Nat} {points : List Nat}
    {s : State} (out : ∀ c ∈ s.out, IsDigit c) :
    ∀ c ∈ (writeAll label basic points next s).out, IsDigit c := by
  induction points generalizing next s with
  | nil => exact out
  | cons point points ih =>
    rw [writeAll]
    refine ih ?_
    exact isDigit_of_mem_foldl_scan (s := { s with delta := _ }) out

/-- What is written of a label: its own characters, hyphens and digits. -/
theorem mem_encode {label : List Char} {c : Char} (member : c ∈ encode label) :
    c ∈ label ∨ c = '-' ∨ IsDigit c := by
  unfold encode at member
  dsimp only at member
  split at member
  next => exact .inl member
  next =>
    simp only [List.mem_append] at member
    -- The parts of the written form in order: marker, ASCII characters, hyphen, differences.
    rcases member with ((mark | basic) | hyphen) | coded
    · exact .inr (mem_marker mark)
    · exact .inl (List.mem_filter.1 basic).1
    · split at hyphen
      · cases hyphen
      · exact .inr (.inl (List.mem_singleton.1 hyphen))
    · exact .inr (.inr (isDigit_of_mem_writeAll (by simp) c coded))

/-- A digit that is read only ever adds to the label. -/
theorem Reading.next_eq_some {r r' : Reading} {c : Char} (read : r.next c = some r') :
    IsDigit c ∧ ∀ d ∈ r.label, d ∈ r'.label := by
  unfold next at read
  cases value : digitValue? c with
  | none => simp [value] at read
  | some d =>
    refine ⟨congrArg Option.isSome value, ?_⟩
    simp only [value, Option.bind_eq_bind, Option.bind_some] at read
    split at read
    · cases read
    · split at read
      · unfold finish at read
        dsimp only at read
        split at read
        · cases read
          intro e member
          have place : (r.sum + d * r.weight) % (r.label.length + 1) ≤ r.label.length :=
            Nat.le_of_lt_succ (Nat.mod_lt _ (by omega))
          exact (List.mem_insertIdx place).2 (.inr member)
        · cases read
      · split at read
        · cases read
        · cases read
          exact fun e member => member

theorem foldlM_next_eq_some {coded : List Char} {r r' : Reading}
    (read : coded.foldlM Reading.next r = some r') :
    (∀ c ∈ coded, IsDigit c) ∧ ∀ d ∈ r.label, d ∈ r'.label := by
  induction coded generalizing r with
  | nil =>
    cases read
    exact ⟨by simp, fun d member => member⟩
  | cons c coded ih =>
    rw [List.foldlM_cons] at read
    obtain ⟨middle, first, rest⟩ := Option.bind_eq_some_iff.1 read
    obtain ⟨digit, kept⟩ := Reading.next_eq_some first
    obtain ⟨digits, restKept⟩ := ih rest
    exact ⟨List.forall_mem_cons.2 ⟨digit, digits⟩, fun d member => restKept d (kept d member)⟩

/-- A text is what precedes its last hyphen, that hyphen and what follows it. -/
theorem mem_cut {coded : List Char} {c : Char} (member : c ∈ coded) :
    let digits := (coded.reverse.takeWhile (· ≠ '-')).reverse
    c ∈ coded.take (coded.length - digits.length - 1) ∨ c = '-' ∨ c ∈ digits := by
  intro digits
  have whole : coded = (coded.reverse.dropWhile (· ≠ '-')).reverse ++ digits := by
    rw [← List.reverse_append, List.takeWhile_append_dropWhile, List.reverse_reverse]
  cases front : coded.reverse.dropWhile (· ≠ '-') with
  | nil =>
    rw [front, List.reverse_nil, List.nil_append] at whole
    rw [whole] at member
    exact .inr (.inr member)
  | cons hyphen before =>
    -- From the back, the first character that is not taken is the last hyphen.
    have isHyphen : hyphen = '-' := by
      have stopped := List.head?_dropWhile_not (· ≠ '-') coded.reverse
      rw [front] at stopped
      simpa using stopped
    rw [front, List.reverse_cons, List.append_assoc] at whole
    have taken : coded.take (coded.length - digits.length - 1) = before.reverse := by
      rw [whole]
      refine List.take_left' ?_
      simp only [List.length_append, List.length_cons, List.length_nil]
      omega
    rw [taken]
    rw [whole] at member
    rcases List.mem_append.1 member with early | late
    · exact .inl early
    · rcases List.mem_cons.1 late with same | digit
      · exact .inr (.inl (same.trans isHyphen))
      · exact .inr (.inr digit)

/-- What is read into a label: all the characters that are read but hyphens and digits. -/
theorem mem_of_decode? {coded chars : List Char} {c : Char} (read : decode? coded = some chars)
    (member : c ∈ coded) : c ∈ chars ∨ c = '-' ∨ IsDigit c := by
  unfold decode? at read
  dsimp only at read
  obtain ⟨r, folded, ended⟩ := Option.bind_eq_some_iff.1 read
  obtain ⟨digits, kept⟩ := foldlM_next_eq_some folded
  split at ended
  · cases ended
    -- Without a hyphen all that is read are digits.
    split at digits
    · exact .inr (.inr (digits c member))
    · rcases mem_cut member with early | hyphen | digit
      · exact .inl (kept c early)
      · exact .inr (.inl hyphen)
      · exact .inr (.inr (digits c digit))
  · cases ended

end Punycode

/-! ## Names -/

namespace Domain

/-- What is written of a label: the characters that it stands for, hyphens and digits. -/
theorem Label.mem_written {raw : List Char} {l : Label} {c : Char} (read : read? raw = some l)
    (member : c ∈ l.written) : c ∈ l.chars ∨ c = '-' ∨ Punycode.IsDigit c := by
  unfold read? at read
  split at read
  next coded =>
    -- A label that comes with the marker is written as it was read.
    obtain ⟨chars, readCoded, rfl⟩ := Option.map_eq_some_iff.1 read
    have whole : Punycode.marker ++ raw.drop Punycode.marker.length = raw :=
      List.prefix_iff_eq_append.1 (List.isPrefixOf_iff_prefix.1 coded)
    rw [← whole] at member
    rcases List.mem_append.1 member with mark | rest
    · exact .inr (Punycode.mem_marker mark)
    · unfold readCoded? at readCoded
      split at readCoded
      · cases readCoded
      · obtain ⟨decoded, decodes, checked⟩ := Option.bind_eq_some_iff.1 readCoded
        split at checked
        · cases checked
          exact Punycode.mem_of_decode? decodes rest
        · cases checked
  next =>
    split at read
    · cases read
      exact .inl member
    · split at read
      · cases read
      · cases read
        exact Punycode.mem_encode member

/-- A character that stands in no name: no label may hold it, and it neither parts labels nor is used
    to write them. -/
structure Barred (c : Char) : Prop where
  denied : denied c = true
  noDot : c ≠ '.'
  noHyphen : c ≠ '-'
  noDigit : ¬ Punycode.IsDigit c

theorem barred_colon : Barred ':' := ⟨by decide, by decide, by decide, by decide⟩

theorem barred_slash : Barred '/' := ⟨by decide, by decide, by decide, by decide⟩

/-- A label that may stand in a name is written without a barred character. -/
theorem Label.not_mem_written {raw : List Char} {l : Label} {c : Char} (barred : Barred c)
    (read : read? raw = some l) (fits : l.fits = true) : c ∉ l.written := by
  intro member
  rcases mem_written read member with inside | hyphen | digit
  · simp only [Label.fits, Bool.and_eq_true, Bool.not_eq_true', List.any_eq_false] at fits
    exact fits.1.1 c inside barred.denied
  · exact barred.noHyphen hyphen
  · exact barred.noDigit digit

theorem not_mem_intercalate {parts : List (List Char)} {c : Char} (noDot : c ≠ '.')
    (clean : ∀ p ∈ parts, c ∉ p) : c ∉ List.intercalate ['.'] parts := by
  induction parts with
  | nil => simp
  | cons part rest ih =>
    cases rest with
    | nil => simpa using clean part
    | cons next rest =>
      obtain ⟨head, others⟩ := List.forall_mem_cons.1 clean
      rw [List.intercalate_cons_cons]
      simp only [List.mem_append, not_or]
      exact ⟨⟨head, by simpa using noDot⟩, ih others⟩

/-- What a list of readings holds has been read from something. -/
theorem exists_of_mem_mapM {α β : Type} {f : α → Option β} {l : List α} {results : List β}
    {b : β} (read : l.mapM f = some results) (member : b ∈ results) : ∃ a ∈ l, f a = some b := by
  induction l generalizing results with
  | nil =>
    cases read
    cases member
  | cons a rest ih =>
    rw [List.mapM_cons] at read
    obtain ⟨first, firstRead, read⟩ := Option.bind_eq_some_iff.1 read
    obtain ⟨others, othersRead, whole⟩ := Option.bind_eq_some_iff.1 read
    cases whole
    rcases List.mem_cons.1 member with rfl | later
    · exact ⟨a, List.mem_cons_self, firstRead⟩
    · obtain ⟨source, sourceMember, sourceRead⟩ := ih othersRead later
      exact ⟨source, List.mem_cons_of_mem _ sourceMember, sourceRead⟩

/-- The written form of a name holds no barred character. -/
theorem not_mem_written? {name ascii : List Char} {c : Char} (barred : Barred c)
    (written : written? name = some ascii) : c ∉ ascii := by
  unfold written? at written
  obtain ⟨spelled, -, rest⟩ := Option.bind_eq_some_iff.1 written
  obtain ⟨labels, read, checked⟩ := Option.bind_eq_some_iff.1 rest
  dsimp only at checked
  split at checked
  next accepted =>
    cases checked
    simp only [Bool.and_eq_true] at accepted
    refine not_mem_intercalate barred.noDot ?_
    intro part member
    obtain ⟨l, labelMember, rfl⟩ := List.mem_map.1 member
    obtain ⟨raw, -, labelRead⟩ := exists_of_mem_mapM read labelMember
    exact Label.not_mem_written barred labelRead (List.all_eq_true.1 accepted.1 l labelMember)
  next => cases checked

end Domain

/-! ## Hosts -/

/-- An address in brackets, or a name without a colon. -/
def HostForm (host : List Char) : Prop := host.head? = some '[' ∨ ':' ∉ host

theorem not_mem_ipv4Text {c : Char} (barred : Domain.Barred c) (noDigit : c.isDigit = false)
    (address : Nat) : c ∉ ipv4Text address := by
  have digits (n : Nat) : c ∉ Nat.toDigits 10 n := by
    intro member
    have digit := Nat.isDigit_of_mem_toDigits (by decide) (by decide) member
    exact absurd digit (by simp [noDigit])
  simp [ipv4Text, digits, barred.noDot]

theorem not_mem_domain {cs name : List Char} {c : Char} (barred : Domain.Barred c)
    (named : domain cs = .ok name) : c ∉ name := by
  unfold domain at named
  split at named
  · cases named
  · split at named
    · cases named
    · cases named
    next written =>
      cases named
      exact Domain.not_mem_written? barred written

/-- A host is an address in brackets or holds no barred character. -/
theorem specialHost_clean {cs host : List Char} {c : Char} (barred : Domain.Barred c)
    (noDigit : c.isDigit = false) (read : specialHost cs = .ok host) :
    host.head? = some '[' ∨ c ∉ host := by
  unfold specialHost at read
  split at read
  next =>
    unfold bracketed at read
    split at read
    · split at read
      · cases read
        exact .inl rfl
      · cases read
    · cases read
  next =>
    obtain ⟨name, named, read⟩ := exists_of_bind_eq_ok read
    split at read
    · split at read
      · cases read
        exact .inr (not_mem_ipv4Text barred noDigit _)
      · cases read
    · cases read
      exact .inr (not_mem_domain barred named)

theorem specialHost_form {cs host : List Char} (read : specialHost cs = .ok host) :
    HostForm host :=
  specialHost_clean Domain.barred_colon (by decide) read

/-- A host cannot be taken for a path from the root. -/
theorem head?_specialHost {cs host : List Char} (read : specialHost cs = .ok host) :
    host.head? ≠ some '/' := by
  intro rooted
  rcases specialHost_clean Domain.barred_slash (by decide) read with bracket | clean
  · cases rooted.symm.trans bracket
  · exact clean (List.mem_of_mem_head? rooted)

end Url

end SchemaServer
