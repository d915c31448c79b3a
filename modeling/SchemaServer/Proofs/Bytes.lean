import SchemaServer.Text.Utf8

/-! # Texts as bytes

A text is written as the bytes of its characters, one character after the other, and reading those
bytes gives the text back (`decode_encode`).  The byte of a line break stands for a line break and
for nothing else, so a text can be cut into lines before or after it is written.  Texts are ordered
as their bytes are (`encode_lt_encode`). -/

namespace SchemaServer.Utf8

variable {m n : Nat}

/-! ## The bytes of a text -/

/-- The bytes from `i` on are put behind those that have been read, last first. -/
theorem toList_loop (bytes : ByteArray) (i : Nat) (read : List UInt8) :
    ByteArray.toList.loop bytes i read = read.reverse ++ bytes.data.toList.drop i := by
  fun_induction ByteArray.toList.loop bytes i read with
  | case1 i read more ih =>
    have within : i < bytes.data.toList.length := by simpa using more
    rw [ih, List.reverse_cons, List.append_assoc, List.singleton_append,
      List.drop_eq_getElem_cons within]
    simp [ByteArray.get!, more]
  | case2 i read all =>
    have beyond : bytes.data.toList.length ≤ i := by simpa using all
    rw [List.drop_of_length_le beyond, List.append_nil]

theorem encode_eq (text : String) :
    encode text = text.toList.flatMap String.utf8EncodeChar := by
  have bytes : text.toByteArray = (text.toList.flatMap String.utf8EncodeChar).toByteArray := by
    rw [← List.utf8Encode, ← String.toByteArray_ofList, String.ofList_toList]
  rw [encode, String.toUTF8_eq_toByteArray, bytes, ByteArray.toList, toList_loop,
    List.toList_data_toByteArray]
  rfl

theorem encode_append (first second : String) :
    encode (first ++ second) = encode first ++ encode second := by
  rw [encode_eq, encode_eq, encode_eq, String.toList_append, List.flatMap_append]

theorem encode_append_newline (s : String) : encode (s ++ "\n") = encode s ++ [10] := by
  have ending : encode "\n" = [10] := by decide +kernel
  rw [encode_append, ending]

theorem toNat_ofNat_byte (small : n < 256) : (UInt8.ofNat n).toNat = n :=
  UInt8.toNat_ofNat_of_lt' small

/-- The bytes of a character beyond ASCII are all beyond ASCII, so a byte within ASCII is a character
    of its own. -/
theorem toNat_eq_of_mem_utf8EncodeChar {c : Char} {b : UInt8} (ascii : b.toNat < 128)
    (member : b ∈ String.utf8EncodeChar c) : c.toNat = b.toNat := by
  have high : ∀ n, 128 ≤ n → n < 256 → b ≠ UInt8.ofNat n := by
    intro n low high same
    have value : b.toNat = n := by rw [same, toNat_ofNat_byte high]
    omega
  unfold String.utf8EncodeChar at member
  dsimp only at member
  split at member
  next ascii =>
    have value := congrArg UInt8.toNat (List.mem_singleton.1 member)
    rw [toNat_ofNat_byte (by omega)] at value
    exact value.symm
  split at member
  next =>
    simp only [List.mem_cons, List.not_mem_nil, or_false] at member
    rcases member with same | same <;> exact absurd same (high _ (by omega) (by omega))
  split at member
  next =>
    simp only [List.mem_cons, List.not_mem_nil, or_false] at member
    rcases member with same | same | same <;> exact absurd same (high _ (by omega) (by omega))
  next =>
    simp only [List.mem_cons, List.not_mem_nil, or_false] at member
    rcases member with same | same | same | same <;>
      exact absurd same (high _ (by omega) (by omega))

theorem newline_not_mem_encode {text : String} (plain : '\n' ∉ text.toList) :
    10 ∉ encode text := by
  intro member
  rw [encode_eq] at member
  obtain ⟨c, present, member⟩ := List.mem_flatMap.1 member
  have same : c.toNat = '\n'.toNat := toNat_eq_of_mem_utf8EncodeChar (by decide) member
  exact plain (Char.toNat_inj.1 same ▸ present)

/-! ## Reading a character back

The first byte of a character says how many follow, and each that follows carries six bits. -/

theorem isContinuation_tail (n : Nat) : isContinuation (UInt8.ofNat (n % 64 + 128)) = true := by
  have value := toNat_ofNat_byte (show n % 64 + 128 < 256 by omega)
  simp only [isContinuation, Bool.and_eq_true, decide_eq_true_eq, UInt8.le_iff_toNat_le, value,
    UInt8.reduceToNat]
  omega

theorem tailBits_tail (n : Nat) : tailBits (UInt8.ofNat (n % 64 + 128)) = n % 64 := by
  rw [tailBits, toNat_ofNat_byte (by omega)]
  omega

/-- What a character of three bytes starts with is neither an overlong form nor a surrogate. -/
theorem isSecondOfThree_tail (valid : n.isValidChar) (low : 2048 ≤ n) (high : n < 65536) :
    isSecondOfThree (UInt8.ofNat (n / 4096 % 16 + 224)) (UInt8.ofNat (n / 64 % 64 + 128)) =
      true := by
  have first := toNat_ofNat_byte (show n / 4096 % 16 + 224 < 256 by omega)
  have second := toNat_ofNat_byte (show n / 64 % 64 + 128 < 256 by omega)
  unfold isSecondOfThree
  split
  next lowest =>
    simp only [beq_iff_eq, ← UInt8.toNat_inj, first, UInt8.reduceToNat] at lowest
    simp only [Bool.and_eq_true, decide_eq_true_eq, UInt8.le_iff_toNat_le, second,
      UInt8.reduceToNat]
    omega
  split
  next surrogates =>
    simp only [beq_iff_eq, ← UInt8.toNat_inj, first, UInt8.reduceToNat] at surrogates
    simp only [Bool.and_eq_true, decide_eq_true_eq, UInt8.le_iff_toNat_le, second,
      UInt8.reduceToNat]
    unfold Nat.isValidChar at valid
    omega
  next => exact isContinuation_tail _

/-- What a character of four bytes starts with is neither an overlong form nor beyond the last
    code point. -/
theorem isSecondOfFour_tail (low : 65536 ≤ n) (high : n < 1114112) :
    isSecondOfFour (UInt8.ofNat (n / 262144 % 8 + 240)) (UInt8.ofNat (n / 4096 % 64 + 128)) =
      true := by
  have first := toNat_ofNat_byte (show n / 262144 % 8 + 240 < 256 by omega)
  have second := toNat_ofNat_byte (show n / 4096 % 64 + 128 < 256 by omega)
  unfold isSecondOfFour
  split
  next lowest =>
    simp only [beq_iff_eq, ← UInt8.toNat_inj, first, UInt8.reduceToNat] at lowest
    simp only [Bool.and_eq_true, decide_eq_true_eq, UInt8.le_iff_toNat_le, second,
      UInt8.reduceToNat]
    omega
  split
  next highest =>
    simp only [beq_iff_eq, ← UInt8.toNat_inj, first, UInt8.reduceToNat] at highest
    simp only [Bool.and_eq_true, decide_eq_true_eq, UInt8.le_iff_toNat_le, second,
      UInt8.reduceToNat]
    omega
  next => exact isContinuation_tail _

section
variable (index : Nat) (rest : List UInt8)

theorem decodeFrom_one (ascii : n < 128) :
    decodeFrom index (UInt8.ofNat n :: rest) =
      (decodeFrom (index + 1) rest).map (Char.ofNat n :: ·) := by
  have first := toNat_ofNat_byte (show n < 256 by omega)
  have leads : UInt8.ofNat n < 0x80 := by
    simp only [UInt8.lt_iff_toNat_lt, first, UInt8.reduceToNat]
    exact ascii
  rw [decodeFrom.eq_def]
  dsimp only
  rw [if_pos leads, first]
  cases decodeFrom (index + 1) rest <;> rfl

theorem decodeFrom_two (low : 128 ≤ n) (high : n < 2048) :
    decodeFrom index (UInt8.ofNat (n / 64 % 32 + 192) :: UInt8.ofNat (n % 64 + 128) :: rest) =
      (decodeFrom (index + 2) rest).map (Char.ofNat n :: ·) := by
  have first := toNat_ofNat_byte (show n / 64 % 32 + 192 < 256 by omega)
  have value : (n / 64 % 32 + 192) % 32 * 64 + n % 64 = n := by omega
  rw [decodeFrom.eq_def]
  dsimp only
  rw [if_neg, if_pos, if_pos (isContinuation_tail n), tailBits_tail, first, value]
  · cases decodeFrom (index + 2) rest <;> rfl
  · simp only [Bool.and_eq_true, decide_eq_true_eq, UInt8.le_iff_toNat_le, first,
      UInt8.reduceToNat]
    omega
  · simp only [UInt8.lt_iff_toNat_lt, first, UInt8.reduceToNat]
    omega

theorem decodeFrom_three (valid : n.isValidChar) (low : 2048 ≤ n) (high : n < 65536) :
    decodeFrom index (UInt8.ofNat (n / 4096 % 16 + 224) :: UInt8.ofNat (n / 64 % 64 + 128) ::
        UInt8.ofNat (n % 64 + 128) :: rest) =
      (decodeFrom (index + 3) rest).map (Char.ofNat n :: ·) := by
  have first := toNat_ofNat_byte (show n / 4096 % 16 + 224 < 256 by omega)
  have value : (n / 4096 % 16 + 224) % 16 * 4096 + n / 64 % 64 * 64 + n % 64 = n := by omega
  rw [decodeFrom.eq_def]
  dsimp only
  rw [if_neg, if_neg, if_pos, if_pos (isSecondOfThree_tail valid low high),
    if_pos (isContinuation_tail n), tailBits_tail, tailBits_tail, first, value]
  · cases decodeFrom (index + 3) rest <;> rfl
  all_goals
    simp only [Bool.and_eq_true, decide_eq_true_eq, UInt8.le_iff_toNat_le,
      UInt8.lt_iff_toNat_lt, first, UInt8.reduceToNat]
    omega

theorem decodeFrom_four (low : 65536 ≤ n) (high : n < 1114112) :
    decodeFrom index (UInt8.ofNat (n / 262144 % 8 + 240) :: UInt8.ofNat (n / 4096 % 64 + 128) ::
        UInt8.ofNat (n / 64 % 64 + 128) :: UInt8.ofNat (n % 64 + 128) :: rest) =
      (decodeFrom (index + 4) rest).map (Char.ofNat n :: ·) := by
  have first := toNat_ofNat_byte (show n / 262144 % 8 + 240 < 256 by omega)
  have value : (n / 262144 % 8 + 240) % 8 * 262144 + n / 4096 % 64 * 4096 + n / 64 % 64 * 64
      + n % 64 = n := by omega
  rw [decodeFrom.eq_def]
  dsimp only
  rw [if_neg, if_neg, if_neg, if_pos, if_pos (isSecondOfFour_tail low high),
    if_pos (isContinuation_tail _), if_pos (isContinuation_tail n), tailBits_tail, tailBits_tail,
    tailBits_tail, first, value]
  · cases decodeFrom (index + 4) rest <;> rfl
  all_goals
    simp only [Bool.and_eq_true, decide_eq_true_eq, UInt8.le_iff_toNat_le,
      UInt8.lt_iff_toNat_lt, first, UInt8.reduceToNat]
    omega

theorem decodeFrom_utf8EncodeChar (c : Char) :
    decodeFrom index (String.utf8EncodeChar c ++ rest) =
      (decodeFrom (index + (String.utf8EncodeChar c).length) rest).map (c :: ·) := by
  obtain ⟨n, valid, whole⟩ : ∃ n, n.isValidChar ∧ n = c.val.toNat := ⟨_, c.valid, rfl⟩
  have char : Char.ofNat n = c := by
    rw [whole]
    exact Char.ofNat_toNat c
  unfold String.utf8EncodeChar
  rw [← whole, ← char]
  dsimp only
  split
  next => exact decodeFrom_one index rest (by omega)
  split
  next => exact decodeFrom_two index rest (by omega) (by omega)
  split
  next => exact decodeFrom_three index rest valid (by omega) (by omega)
  next =>
    have bound : n < 1114112 := by
      unfold Nat.isValidChar at valid
      omega
    exact decodeFrom_four index rest (by omega) bound

end

/-! ## Reading a text back -/

theorem decodeFrom_flatMap (index : Nat) (cs : List Char) :
    decodeFrom index (cs.flatMap String.utf8EncodeChar) = .ok cs := by
  induction cs generalizing index with
  | nil => rfl
  | cons c cs ih =>
    rw [List.flatMap_cons, decodeFrom_utf8EncodeChar, ih]
    rfl

theorem decode_encode (text : String) : decode (encode text) = .ok text := by
  rw [decode, encode_eq, decodeFrom_flatMap]
  exact congrArg Except.ok (String.ofList_toList)

/-! ## The order of texts -/

theorem ofNat_lt_ofNat_iff (small : m < 256) (small' : n < 256) :
    UInt8.ofNat m < UInt8.ofNat n ↔ m < n := by
  rw [UInt8.lt_iff_toNat_lt, toNat_ofNat_byte small, toNat_ofNat_byte small']

theorem ofNat_eq_ofNat_iff (small : m < 256) (small' : n < 256) :
    UInt8.ofNat m = UInt8.ofNat n ↔ m = n := by
  rw [← UInt8.toNat_inj, toNat_ofNat_byte small, toNat_ofNat_byte small']

/-- Of two numbers the smaller one has the smaller digit where they first differ. -/
theorem digits_lt (less : m < n) :
    m / 262144 < n / 262144 ∨ m / 262144 = n / 262144 ∧ (m / 4096 % 64 < n / 4096 % 64 ∨
      m / 4096 % 64 = n / 4096 % 64 ∧ (m / 64 % 64 < n / 64 % 64 ∨
        m / 64 % 64 = n / 64 % 64 ∧ m % 64 < n % 64)) := by
  by_cases first : m / 262144 = n / 262144
  · refine .inr ⟨first, ?_⟩
    by_cases second : m / 4096 % 64 = n / 4096 % 64
    · have upper : m / 4096 = n / 4096 := by omega
      refine .inr ⟨second, ?_⟩
      omega
    · exact .inl (by omega)
  · exact .inl (by omega)

theorem utf8EncodeChar_lt {c d : Char} (less : c < d) (x y : List UInt8) :
    String.utf8EncodeChar c ++ x < String.utf8EncodeChar d ++ y := by
  have below : c.val.toNat < d.val.toNat := less
  have bound : d.val.toNat < 1114112 := by
    have valid := d.valid
    simp only [UInt32.isValidChar, Nat.isValidChar] at valid
    omega
  unfold String.utf8EncodeChar
  generalize c.val.toNat = m at below
  generalize d.val.toNat = n at below bound
  dsimp only
  repeat' split
  -- The smaller character has no more bytes than the greater one.
  any_goals omega
  all_goals simp (disch := omega) only [List.cons_append, List.nil_append, List.cons_lt_cons_iff,
    ofNat_lt_ofNat_iff, ofNat_eq_ofNat_iff]
  -- With fewer bytes it has the smaller first byte; with as many its digits decide.
  any_goals omega
  have first : m / 262144 % 8 = m / 262144 ∧ n / 262144 % 8 = n / 262144 := by omega
  simp only [first, Nat.add_lt_add_iff_right, Nat.add_right_cancel_iff]
  rcases digits_lt below with less | ⟨same, less | ⟨same', less | ⟨same'', less⟩⟩⟩
  · exact .inl less
  · exact .inr ⟨same, .inl less⟩
  · exact .inr ⟨same, .inr ⟨same', .inl less⟩⟩
  · exact .inr ⟨same, .inr ⟨same', .inr ⟨same'', .inl less⟩⟩⟩

theorem flatMap_utf8EncodeChar_lt {cs ds : List Char} (less : cs < ds) :
    cs.flatMap String.utf8EncodeChar < ds.flatMap String.utf8EncodeChar := by
  induction cs generalizing ds with
  | nil =>
    cases ds with
    | nil => cases less
    | cons d ds =>
      obtain ⟨b, bs, form⟩ := List.exists_cons_of_ne_nil (String.utf8EncodeChar_ne_nil (c := d))
      rw [List.flatMap_nil, List.flatMap_cons, form]
      exact List.Lex.nil
  | cons c cs ih =>
    cases ds with
    | nil => cases less
    | cons d ds =>
      rw [List.flatMap_cons, List.flatMap_cons]
      rcases List.cons_lt_cons_iff.1 less with below | ⟨rfl, later⟩
      · exact utf8EncodeChar_lt below _ _
      · exact List.append_left_lt (ih later)

/-- The order of texts is that of their bytes. -/
theorem encode_lt_encode {first second : String} (less : first < second) :
    encode first < encode second := by
  rw [encode_eq, encode_eq]
  exact flatMap_utf8EncodeChar_lt (String.lt_iff.1 less)

end SchemaServer.Utf8
