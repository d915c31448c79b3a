import SchemaServer.Json.Scan
import SchemaServer.Proofs.Bytes
import SchemaServer.Url.Percent

/-! # Reading percent codes

The bytes of a text are read code by code.  Writing characters as percent codes changes nothing of
what is read, as long as percent signs and hexadecimal digits stand for themselves
(`percentDecodeBytes_percentEncode`): the codes that are written are read back, and a code that the
text held before is still there.  So a text reads as itself exactly if it holds no code
(`percentDecodeBytes_bytesOf_eq_iff`). -/

namespace SchemaServer.Url

/-- The bytes of a list of characters. -/
def bytesOf (cs : List Char) : List UInt8 := cs.flatMap String.utf8EncodeChar

@[simp] theorem bytesOf_nil : bytesOf [] = [] := rfl

theorem bytesOf_cons (c : Char) (cs : List Char) :
    bytesOf (c :: cs) = String.utf8EncodeChar c ++ bytesOf cs := rfl

@[simp] theorem bytesOf_percent_cons (cs : List Char) : bytesOf ('%' :: cs) = 37 :: bytesOf cs := rfl

@[simp] theorem bytesOf_slash_cons (cs : List Char) : bytesOf ('/' :: cs) = 47 :: bytesOf cs := rfl

theorem bytesOf_append (first second : List Char) :
    bytesOf (first ++ second) = bytesOf first ++ bytesOf second :=
  List.flatMap_append

theorem encode_ofList (cs : List Char) : Utf8.encode (String.ofList cs) = bytesOf cs := by
  rw [Utf8.encode_eq, String.toList_ofList]
  rfl

/-- Two texts with the same bytes are the same text. -/
theorem bytesOf_inj {first second : List Char} : bytesOf first = bytesOf second ↔ first = second := by
  refine ⟨fun same => ?_, fun same => by rw [same]⟩
  have read : Utf8.decode (Utf8.encode (String.ofList first)) =
      Utf8.decode (Utf8.encode (String.ofList second)) := by
    rw [encode_ofList, encode_ofList, same]
  rw [Utf8.decode_encode, Utf8.decode_encode] at read
  exact String.ofList_injective (Except.ok.inj read)

/-! ## Hexadecimal digits -/

theorem utf8EncodeChar_of_ascii {c : Char} (ascii : c.toNat < 128) :
    String.utf8EncodeChar c = [UInt8.ofNat c.toNat] := by
  have low : c.val.toNat ≤ 127 := by
    change c.toNat ≤ 127
    omega
  simp only [String.utf8EncodeChar, if_pos low]
  rfl

theorem hexByte?_ofNat_of_lt : ∀ n < 128, hexByte? (UInt8.ofNat n) = Json.hexValue? (Char.ofNat n) := by
  decide

theorem hexByte?_of_ascii {c : Char} (ascii : c.toNat < 128) :
    hexByte? (UInt8.ofNat c.toNat) = Json.hexValue? c := by
  rw [hexByte?_ofNat_of_lt c.toNat ascii, Char.ofNat_toNat]

theorem hexByte?_of_high {b : UInt8} (high : 128 ≤ b.toNat) : hexByte? b = none := by
  simp only [hexByte?, UInt8.le_iff_toNat_le, Bool.and_eq_true, decide_eq_true_eq]
  rw [if_neg, if_neg, if_neg]
  all_goals
    rintro ⟨-, low⟩
    have bound := Nat.le_trans high low
    revert bound
    decide

theorem ascii_of_hexValue? {c : Char} {n : Nat} (digit : Json.hexValue? c = some n) :
    c.toNat < 128 := by
  have below : ∀ d : Char, d.toNat < 128 → c ≤ d → c.toNat < 128 := fun d low le =>
    Nat.lt_of_le_of_lt le low
  unfold Json.hexValue? at digit
  split at digit
  next decimal => exact below '9' (by decide) (of_decide_eq_true (Bool.and_eq_true_iff.1 decimal).2)
  split at digit
  next lower => exact below 'f' (by decide) (of_decide_eq_true (Bool.and_eq_true_iff.1 lower).2)
  split at digit
  next upper => exact below 'F' (by decide) (of_decide_eq_true (Bool.and_eq_true_iff.1 upper).2)
  next => cases digit

/-- The first byte of a character is a digit if the character is one, and then it is the only byte. -/
theorem utf8EncodeChar_cases (c : Char) :
    ∃ b more, String.utf8EncodeChar c = b :: more ∧ hexByte? b = Json.hexValue? c ∧
      ((Json.hexValue? c).isSome → more = []) := by
  by_cases ascii : c.toNat < 128
  · exact ⟨_, [], utf8EncodeChar_of_ascii ascii, hexByte?_of_ascii ascii, fun _ => rfl⟩
  · have plain : Json.hexValue? c = none := by
      rw [Option.eq_none_iff_forall_ne_some]
      exact fun n digit => ascii (ascii_of_hexValue? digit)
    obtain ⟨b, more, bytes⟩ := List.exists_cons_of_ne_nil (String.utf8EncodeChar_ne_nil (c := c))
    have high : 128 ≤ b.toNat := by
      refine Nat.le_of_not_lt fun low => ascii ?_
      rw [Utf8.toNat_eq_of_mem_utf8EncodeChar low (by simp [bytes])]
      exact low
    exact ⟨b, more, bytes, by rw [hexByte?_of_high high, plain], by simp [plain]⟩

/-! ## Codes -/

/-- The byte that two digits stand for after a percent sign, and what follows them. -/
def codeOf? {α : Type} (digit? : α → Option Nat) : List α → Option (UInt8 × List α)
  | x :: y :: rest =>
    match digit? x, digit? y with
    | some high, some low => some (UInt8.ofNat (high * 16 + low), rest)
    | _, _ => none
  | _ => none

/-- Whether a percent code stands anywhere in a text. -/
def holdsCode : List Char → Bool
  | [] => false
  | c :: cs => (c == '%' && (codeOf? Json.hexValue? cs).isSome) || holdsCode cs

theorem isSome_codeOf?_append {α : Type} {digit? : α → Option Nat} {xs : List α}
    (code : (codeOf? digit? xs).isSome = true) (ys : List α) :
    (codeOf? digit? (xs ++ ys)).isSome = true := by
  match xs with
  | [] | [_] => cases code
  | x :: y :: rest =>
    simp only [codeOf?, List.cons_append] at code ⊢
    split at code
    · rfl
    · cases code

theorem holdsCode_append {first second : List Char}
    (code : holdsCode first = true ∨ holdsCode second = true) :
    holdsCode (first ++ second) = true := by
  induction first with
  | nil => simpa [holdsCode] using code
  | cons c cs ih =>
    rw [List.cons_append, holdsCode, Bool.or_eq_true_iff]
    by_cases later : holdsCode cs = true ∨ holdsCode second = true
    · exact .inr (ih later)
    · obtain ⟨notLater, notSecond⟩ := not_or.1 later
      have here : c = '%' ∧ (codeOf? Json.hexValue? cs).isSome = true := by
        simpa [holdsCode, notLater, notSecond] using code
      exact .inl (by simp [here.1, isSome_codeOf?_append here.2])

/-- No part of a text without codes is a code. -/
theorem holdsCode_eq_false_of_part {part cs : List Char} (inside : part <:+: cs)
    (plain : holdsCode cs = false) : holdsCode part = false := by
  obtain ⟨before, after, rfl⟩ := inside
  refine Bool.eq_false_iff.2 fun code => Bool.eq_false_iff.1 plain ?_
  exact holdsCode_append (.inl (holdsCode_append (.inr code)))

theorem length_of_codeOf? {α : Type} {digit? : α → Option Nat} {xs rest : List α} {b : UInt8}
    (code : codeOf? digit? xs = some (b, rest)) : rest.length < xs.length := by
  unfold codeOf? at code
  split at code
  next x y more =>
    split at code
    · simp only [Option.some.injEq, Prod.mk.injEq] at code
      simp only [← code.2, List.length_cons]
      omega
    · cases code
  next => cases code

theorem percentDecodeBytes_of_ne {b : UInt8} (plain : b ≠ 37) (rest : List UInt8) :
    percentDecodeBytes (b :: rest) = b :: percentDecodeBytes rest := by
  rw [percentDecodeBytes.eq_def]
  exact if_neg plain

theorem percentDecodeBytes_percent (rest : List UInt8) :
    percentDecodeBytes (37 :: rest) =
      match codeOf? hexByte? rest with
      | some (b, rest) => b :: percentDecodeBytes rest
      | none => 37 :: percentDecodeBytes rest := by
  rw [percentDecodeBytes.eq_def]
  match rest with
  | [] => rfl
  | [_] => rfl
  | x :: y :: rest =>
    dsimp only [codeOf?]
    rw [if_pos rfl]
    cases hexByte? x with
    | none => rfl
    | some high => cases hexByte? y <;> rfl

/-- A character other than the percent sign is read as its bytes. -/
theorem percentDecodeBytes_utf8EncodeChar {c : Char} (plain : c ≠ '%') (rest : List UInt8) :
    percentDecodeBytes (String.utf8EncodeChar c ++ rest) =
      String.utf8EncodeChar c ++ percentDecodeBytes rest := by
  have unsigned : ∀ b ∈ String.utf8EncodeChar c, b ≠ 37 := by
    rintro b member rfl
    have same : c.toNat = '%'.toNat := Utf8.toNat_eq_of_mem_utf8EncodeChar (by decide) member
    exact plain (Char.toNat_inj.1 same)
  generalize String.utf8EncodeChar c = bytes at unsigned
  induction bytes with
  | nil => rfl
  | cons b bytes ih =>
    have later : ∀ b ∈ bytes, b ≠ 37 := fun b member => unsigned b (by simp [member])
    rw [List.cons_append, percentDecodeBytes_of_ne (unsigned b (by simp)), ih later, List.cons_append]

theorem utf8EncodeChar_hexDigit :
    ∀ n < 16, (String.utf8EncodeChar (hexDigit n)).map hexByte? = [some n] := by
  decide

/-- A written code is read as its byte. -/
theorem percentDecodeBytes_percentByte (b : UInt8) (rest : List UInt8) :
    percentDecodeBytes (bytesOf (percentByte b) ++ rest) = b :: percentDecodeBytes rest := by
  have small : b.toNat < 256 := b.toNat_lt
  obtain ⟨x, first, high⟩ := List.map_eq_singleton_iff.1
    (utf8EncodeChar_hexDigit (b.toNat / 16) (by omega))
  obtain ⟨y, second, low⟩ := List.map_eq_singleton_iff.1
    (utf8EncodeChar_hexDigit (b.toNat % 16) (by omega))
  have value : UInt8.ofNat (b.toNat / 16 * 16 + b.toNat % 16) = b := by
    rw [Nat.div_add_mod', UInt8.ofNat_toNat]
  rw [percentByte, bytesOf_percent_cons, bytesOf_cons, bytesOf_cons, first, second, bytesOf_nil]
  simp only [List.cons_append, List.nil_append, percentDecodeBytes_percent, codeOf?, high, low, value]

theorem percentDecodeBytes_percentChar (c : Char) (rest : List UInt8) :
    percentDecodeBytes (bytesOf (percentChar c) ++ rest) =
      String.utf8EncodeChar c ++ percentDecodeBytes rest := by
  rw [percentChar]
  induction String.utf8EncodeChar c with
  | nil => rfl
  | cons b bytes ih =>
    rw [List.flatMap_cons, bytesOf_append, List.append_assoc, percentDecodeBytes_percentByte, ih,
      List.cons_append]

/-! ## Reading what was written -/

section Written

variable {coded : Char → Bool}

theorem percentEncode_cons (c : Char) (cs : List Char) :
    percentEncode coded (c :: cs) = (if coded c then percentChar c else [c]) ++ percentEncode coded cs :=
  rfl

theorem percentEncode_false (cs : List Char) : percentEncode (fun _ => false) cs = cs := by
  induction cs with
  | nil => rfl
  | cons c cs ih =>
    rw [percentEncode_cons, ih]
    rfl

theorem exists_percentChar (c : Char) : ∃ more, percentChar c = '%' :: more := by
  obtain ⟨b, bytes, chars⟩ := List.exists_cons_of_ne_nil (String.utf8EncodeChar_ne_nil (c := c))
  rw [percentChar, chars, List.flatMap_cons, percentByte]
  exact ⟨_, rfl⟩

/-- The first byte of a written text is a digit if its first character is one. -/
theorem bytesOf_percentEncode_cons (digits : ∀ c, (Json.hexValue? c).isSome → coded c = false)
    (c : Char) (cs : List Char) :
    ∃ b more, bytesOf (percentEncode coded (c :: cs)) = b :: more ∧ hexByte? b = Json.hexValue? c ∧
      ((Json.hexValue? c).isSome → more = bytesOf (percentEncode coded cs)) := by
  rw [percentEncode_cons, bytesOf_append]
  by_cases written : coded c = true
  · have plain : Json.hexValue? c = none := by
      cases digit : Json.hexValue? c with
      | none => rfl
      | some n => simp [digits c (by simp [digit])] at written
    obtain ⟨more, chars⟩ := exists_percentChar c
    rw [if_pos written, chars, plain]
    exact ⟨37, _, rfl, by decide, by simp⟩
  · obtain ⟨b, more, bytes, digit, single⟩ := utf8EncodeChar_cases c
    rw [if_neg written, bytesOf_cons, bytes]
    exact ⟨b, _, rfl, digit, fun isDigit => by simp [single isDigit]⟩

/-- A code is there after writing if it was there before. -/
theorem codeOf?_percentEncode (digits : ∀ c, (Json.hexValue? c).isSome → coded c = false)
    (cs : List Char) :
    codeOf? hexByte? (bytesOf (percentEncode coded cs)) =
      (codeOf? Json.hexValue? cs).map fun code => (code.1, bytesOf (percentEncode coded code.2)) := by
  match cs with
  | [] => rfl
  | [x] =>
    obtain ⟨b, more, bytes, digit, single⟩ := bytesOf_percentEncode_cons digits x []
    rw [bytes]
    cases value : Json.hexValue? x with
    | none =>
      cases more <;> simp [codeOf?, digit, value]
    | some n =>
      rw [single (by simp [value])]
      rfl
  | x :: y :: rest =>
    obtain ⟨b, more, bytes, digit, single⟩ := bytesOf_percentEncode_cons digits x (y :: rest)
    rw [bytes]
    cases value : Json.hexValue? x with
    | none =>
      cases more <;> simp [codeOf?, digit, value]
    | some high =>
      obtain ⟨b', later, bytes', digit', single'⟩ := bytesOf_percentEncode_cons digits y rest
      rw [single (by simp [value]), bytes']
      cases value' : Json.hexValue? y with
      | none => simp [codeOf?, digit', value']
      | some low => simp [codeOf?, digit, value, digit', value', single']

theorem codeOf?_bytesOf (cs : List Char) :
    codeOf? hexByte? (bytesOf cs) =
      (codeOf? Json.hexValue? cs).map fun code => (code.1, bytesOf code.2) := by
  have written : codeOf? hexByte? (bytesOf (percentEncode (fun _ => false) cs)) = _ :=
    codeOf?_percentEncode (fun _ _ => rfl) cs
  simpa only [percentEncode_false] using written

theorem percentDecodeBytes_percentEncode (signs : coded '%' = false)
    (digits : ∀ c, (Json.hexValue? c).isSome → coded c = false) (cs : List Char) :
    percentDecodeBytes (bytesOf (percentEncode coded cs)) = percentDecodeBytes (bytesOf cs) := by
  -- A code takes two more characters with it, so the recursion is on the length and not on the list.
  match cs with
  | [] => rfl
  | c :: cs =>
    by_cases sign : c = '%'
    · subst sign
      rw [percentEncode_cons, signs, if_neg (by simp), List.singleton_append, bytesOf_percent_cons,
        bytesOf_percent_cons, percentDecodeBytes_percent, percentDecodeBytes_percent,
        codeOf?_percentEncode digits, codeOf?_bytesOf]
      cases code : codeOf? Json.hexValue? cs with
      | none => simp [percentDecodeBytes_percentEncode signs digits cs]
      | some found =>
        have shorter := length_of_codeOf? code
        simp [percentDecodeBytes_percentEncode signs digits found.2]
    · have later := percentDecodeBytes_percentEncode signs digits cs
      rw [percentEncode_cons, bytesOf_append, bytesOf_cons, percentDecodeBytes_utf8EncodeChar sign]
      split
      · rw [percentDecodeBytes_percentChar, later]
      · rw [bytesOf_cons, bytesOf_nil, List.append_nil, percentDecodeBytes_utf8EncodeChar sign, later]
termination_by cs.length

end Written

/-! ## How much is read -/

theorem length_percentDecodeBytes_le (bytes : List UInt8) :
    (percentDecodeBytes bytes).length ≤ bytes.length := by
  match bytes with
  | [] => exact Nat.le_refl _
  | b :: rest =>
    have later := length_percentDecodeBytes_le rest
    by_cases sign : b = 37
    · subst sign
      rw [percentDecodeBytes_percent]
      cases code : codeOf? hexByte? rest with
      | none => simpa using later
      | some found =>
        have shorter := length_of_codeOf? code
        have bound := length_percentDecodeBytes_le found.2
        simp only [List.length_cons]
        omega
    · rw [percentDecodeBytes_of_ne sign]
      simpa using later
termination_by bytes.length

theorem codeOf?_append_slash (first second : List UInt8) :
    codeOf? hexByte? (first ++ 47 :: second) =
      (codeOf? hexByte? first).map fun code => (code.1, code.2 ++ 47 :: second) := by
  have slash : hexByte? 47 = none := by decide
  match first with
  | [] => cases second <;> simp [codeOf?, slash]
  | [x] => simp [codeOf?, slash]
  | x :: y :: rest =>
    simp only [List.cons_append, codeOf?]
    split <;> rfl

/-- No code goes on after a slash. -/
theorem percentDecodeBytes_append_slash (first second : List UInt8) :
    percentDecodeBytes (first ++ 47 :: second) =
      percentDecodeBytes first ++ 47 :: percentDecodeBytes second := by
  match first with
  | [] => exact percentDecodeBytes_of_ne (by decide) second
  | b :: first =>
    have later := percentDecodeBytes_append_slash first second
    by_cases sign : b = 37
    · subst sign
      rw [List.cons_append, percentDecodeBytes_percent, percentDecodeBytes_percent,
        codeOf?_append_slash]
      cases code : codeOf? hexByte? first with
      | none => simp [later]
      | some found =>
        have shorter := length_of_codeOf? code
        simp [percentDecodeBytes_append_slash found.2 second]
    · rw [List.cons_append, percentDecodeBytes_of_ne sign, percentDecodeBytes_of_ne sign, later,
        List.cons_append]
termination_by first.length

theorem percentDecodeBytes_of_not_holdsCode {cs : List Char} (plain : holdsCode cs = false) :
    percentDecodeBytes (bytesOf cs) = bytesOf cs := by
  induction cs with
  | nil => rfl
  | cons c cs ih =>
    simp only [holdsCode, Bool.or_eq_false_iff] at plain
    by_cases sign : c = '%'
    · subst sign
      have single : codeOf? Json.hexValue? cs = none := by simpa using plain.1
      rw [bytesOf_percent_cons, percentDecodeBytes_percent, codeOf?_bytesOf, single]
      exact congrArg (37 :: ·) (ih plain.2)
    · rw [bytesOf_cons, percentDecodeBytes_utf8EncodeChar sign, ih plain.2]

theorem length_percentDecodeBytes_of_holdsCode {cs : List Char} (code : holdsCode cs = true) :
    (percentDecodeBytes (bytesOf cs)).length < (bytesOf cs).length := by
  induction cs with
  | nil => cases code
  | cons c cs ih =>
    by_cases sign : c = '%'
    · subst sign
      rw [bytesOf_percent_cons, percentDecodeBytes_percent]
      cases found : codeOf? hexByte? (bytesOf cs) with
      | none =>
        have later : holdsCode cs = true := by
          have single : codeOf? Json.hexValue? cs = none := by
            simpa [codeOf?_bytesOf] using found
          simpa [holdsCode, single] using code
        simpa using ih later
      | some found' =>
        have shorter := length_of_codeOf? found
        have bound := length_percentDecodeBytes_le found'.2
        simp only [List.length_cons]
        omega
    · have later : holdsCode cs = true := by simpa [holdsCode, sign] using code
      rw [bytesOf_cons, percentDecodeBytes_utf8EncodeChar sign, List.length_append, List.length_append]
      have shorter := ih later
      omega

/-- A text is read as itself if it holds no code, and only then. -/
theorem percentDecodeBytes_bytesOf_eq_iff (cs : List Char) :
    percentDecodeBytes (bytesOf cs) = bytesOf cs ↔ holdsCode cs = false := by
  refine ⟨fun same => Bool.eq_false_iff.2 fun code => ?_, percentDecodeBytes_of_not_holdsCode⟩
  have shorter := length_percentDecodeBytes_of_holdsCode code
  simp [same] at shorter

end SchemaServer.Url
