import LuauWorkspace.Uri.Percent

/-!
# Encodings read back

The bytes of a text decode to the text, and so does its percent encoding for every set that holds
the percent sign: what is written as it stands is no escape, and an escape stands for its byte.
-/
namespace LuauWorkspace

namespace Text.Utf8

theorem encode_append (a b : List Char) : encode (a ++ b) = encode a ++ encode b :=
  List.flatMap_append

theorem encode_cons (c : Char) (rest : List Char) :
    encode (c :: rest) = encodeChar c ++ encode rest := List.flatMap_cons

theorem encode_singleton (c : Char) : encode [c] = encodeChar c := List.flatMap_singleton ..

theorem encodeChar_of_ascii {c : Char} (ascii : c.toNat < 0x80) : encodeChar c = [c.toNat] := by
  simp [encodeChar, ascii]

theorem isContinuation_add_mod (n : Nat) : isContinuation (0x80 + n % 64) = true := by
  simp only [isContinuation, Bool.and_eq_true, decide_eq_true_eq]
  omega

/-- The four widths of a character, told by its first byte. -/
theorem decodeFirst_encodeChar (c : Char) (rest : List Nat) :
    ∃ first more, encodeChar c = first :: more ∧
      decodeFirst first (more ++ rest) = (c, more.length + 1) := by
  have valid : c.toNat < 0xD800 ∨ 0xDFFF < c.toNat ∧ c.toNat < 0x110000 := c.valid
  have same : Char.ofNat c.toNat = c := Char.ofNat_toNat c
  revert valid same
  unfold encodeChar
  generalize c.toNat = n
  intro valid same
  by_cases one : n < 0x80
  · refine ⟨n, [], by simp [one], ?_⟩
    simp [decodeFirst, one, same]
  by_cases two : n < 0x800
  · refine ⟨0xC0 + n / 64, [0x80 + n % 64], by simp [one, two], ?_⟩
    have value : (0xC0 + n / 64 - 0xC0) * 64 + (0x80 + n % 64 - 0x80) = n := by omega
    unfold decodeFirst
    rw [if_neg (by omega), if_pos (by omega)]
    simp only [List.cons_append, isContinuation_add_mod, if_true, value, same]
    rfl
  by_cases three : n < 0x10000
  · refine ⟨0xE0 + n / 4096, [0x80 + n / 64 % 64, 0x80 + n % 64], by simp [one, two, three], ?_⟩
    have value : (0xE0 + n / 4096 - 0xE0) * 4096 + (0x80 + n / 64 % 64 - 0x80) * 64 +
        (0x80 + n % 64 - 0x80) = n := by omega
    -- Overlong forms and surrogates are what no character has.
    have second : isSecondOfThree (0xE0 + n / 4096) (0x80 + n / 64 % 64) = true := by
      unfold isSecondOfThree
      split
      · simp only [Bool.and_eq_true, decide_eq_true_eq]; omega
      · split
        · simp only [Bool.and_eq_true, decide_eq_true_eq]; omega
        · exact isContinuation_add_mod (n / 64)
    unfold decodeFirst
    rw [if_neg (by omega), if_neg (by omega), if_pos (by omega)]
    simp only [List.cons_append, second, isContinuation_add_mod, if_true, value, same]
    rfl
  · refine ⟨0xF0 + n / 262144, [0x80 + n / 4096 % 64, 0x80 + n / 64 % 64, 0x80 + n % 64],
      by simp [one, two, three], ?_⟩
    have value : (0xF0 + n / 262144 - 0xF0) * 262144 + (0x80 + n / 4096 % 64 - 0x80) * 4096 +
        (0x80 + n / 64 % 64 - 0x80) * 64 + (0x80 + n % 64 - 0x80) = n := by omega
    have second : isSecondOfFour (0xF0 + n / 262144) (0x80 + n / 4096 % 64) = true := by
      unfold isSecondOfFour
      split
      · simp only [Bool.and_eq_true, decide_eq_true_eq]; omega
      · split
        · simp only [Bool.and_eq_true, decide_eq_true_eq]; omega
        · exact isContinuation_add_mod (n / 4096)
    unfold decodeFirst
    rw [if_neg (by omega), if_neg (by omega), if_neg (by omega), if_pos (by omega)]
    simp only [List.cons_append, second, isContinuation_add_mod, if_true, value, same]
    rfl

theorem decode_encode (text : List Char) : decode (encode text) = text := by
  induction text with
  | nil => rw [encode, List.flatMap_nil, decode]
  | cons c rest ih =>
    obtain ⟨first, more, written, reads⟩ := decodeFirst_encodeChar c (encode rest)
    rw [encode_cons, written, List.cons_append, decode, reads]
    simpa using ih

theorem lt_of_mem_encodeChar {c : Char} {byte : Nat} (member : byte ∈ encodeChar c) :
    byte < 256 := by
  have valid : c.toNat < 0xD800 ∨ 0xDFFF < c.toNat ∧ c.toNat < 0x110000 := c.valid
  simp only [encodeChar] at member
  split at member
  · simp only [List.mem_singleton] at member
    omega
  · split at member
    · simp only [List.mem_cons, List.not_mem_nil, or_false] at member
      omega
    · split at member
      · simp only [List.mem_cons, List.not_mem_nil, or_false] at member
        omega
      · simp only [List.mem_cons, List.not_mem_nil, or_false] at member
        omega

end Text.Utf8

namespace Uri.Percent

theorem hexDigit_ascii (n : Nat) (small : n < 16) :
    (hexDigit n).toNat < 0x80 ∧ hexDigit n ≠ '/' := by
  have all : ∀ m ∈ List.range 16, (hexDigit m).toNat < 0x80 ∧ hexDigit m ≠ '/' := by decide
  exact all n (List.mem_range.mpr small)

theorem decodeBytes_cons_of_ne {byte : Nat} (plain : byte ≠ 0x25) (rest : List Nat) :
    decodeBytes (byte :: rest) = byte :: decodeBytes rest := by
  rw [decodeBytes]
  exact fun _ _ _ mark _ => plain mark

theorem decodeBytes_encodeByte {byte : Nat} (small : byte < 256) (rest : List Nat) :
    decodeBytes (Text.Utf8.encode (encodeByte byte) ++ rest) = byte :: decodeBytes rest := by
  have high := hexDigit_ascii (byte / 16) (by omega)
  have low := hexDigit_ascii (byte % 16) (by omega)
  have written : Text.Utf8.encode (encodeByte byte) =
      [0x25, (hexDigit (byte / 16)).toNat, (hexDigit (byte % 16)).toNat] := by
    simp only [Text.Utf8.encode, encodeByte, List.flatMap_cons, List.flatMap_nil,
      Text.Utf8.encodeChar_of_ascii high.1, Text.Utf8.encodeChar_of_ascii low.1]
    rfl
  rw [written, List.cons_append, List.cons_append, List.cons_append, List.nil_append, decodeBytes,
    Char.ofNat_toNat, Char.ofNat_toNat, hexValue?_hexDigit _ (by omega),
    hexValue?_hexDigit _ (by omega)]
  simp only [show byte / 16 * 16 + byte % 16 = byte by omega]

theorem decodeBytes_encodeBytes (bytes rest : List Nat) (small : ∀ byte ∈ bytes, byte < 256) :
    decodeBytes (Text.Utf8.encode (bytes.flatMap encodeByte) ++ rest) =
      bytes ++ decodeBytes rest := by
  induction bytes with
  | nil => rfl
  | cons byte more ih =>
    have first := small byte (List.mem_cons_self ..)
    have others := ih fun other member => small other (List.mem_cons_of_mem _ member)
    rw [List.flatMap_cons, Text.Utf8.encode_append, List.append_assoc,
      decodeBytes_encodeByte first, others, List.cons_append]

theorem decodeBytes_encodeChar {set : EncodeSet} (marked : '%' ∈ set) (c : Char)
    (rest : List Nat) :
    decodeBytes (Text.Utf8.encode (encodeChar set c) ++ rest) =
      Text.Utf8.encodeChar c ++ decodeBytes rest := by
  unfold encodeChar
  split
  next written =>
    exact decodeBytes_encodeBytes _ _ fun _ => Text.Utf8.lt_of_mem_encodeChar
  next plain =>
    -- What is written as it stands is ASCII, and no percent sign.
    have kept : c.toNat < 0x7F ∧ c ∉ set := by
      simp only [isEncoded, Bool.or_eq_true, decide_eq_true_eq, List.contains_iff_mem, not_or,
        Nat.not_le] at plain
      exact ⟨plain.1.2, plain.2⟩
    have ascii : Text.Utf8.encodeChar c = [c.toNat] :=
      Text.Utf8.encodeChar_of_ascii (Nat.lt_succ_of_lt kept.1)
    have other : c.toNat ≠ 0x25 := by
      intro same
      have sign : c = '%' := by rw [← Char.ofNat_toNat c, same]
      exact kept.2 (sign ▸ marked)
    rw [Text.Utf8.encode_singleton, ascii, List.cons_append, List.nil_append,
      decodeBytes_cons_of_ne other, List.cons_append, List.nil_append]

/-- Percent encoding reads back as long as it escapes its own sign. -/
theorem decode_encode {set : EncodeSet} (marked : '%' ∈ set) (text : List Char) :
    decode (encode set text) = text := by
  have bytes : decodeBytes (Text.Utf8.encode (encode set text)) = Text.Utf8.encode text := by
    induction text with
    | nil => rfl
    | cons c rest ih =>
      rw [encode, List.flatMap_cons, Text.Utf8.encode_append, decodeBytes_encodeChar marked,
        ← encode, ih, Text.Utf8.encode_cons]
  rw [decode, bytes, Text.Utf8.decode_encode]

theorem slash_not_mem_encode {set : EncodeSet} (marked : '/' ∈ set) (text : List Char) :
    '/' ∉ encode set text := by
  intro member
  obtain ⟨c, -, here⟩ := List.mem_flatMap.mp member
  unfold encodeChar at here
  split at here
  next written =>
    obtain ⟨byte, present, digit⟩ := List.mem_flatMap.mp here
    have small := Text.Utf8.lt_of_mem_encodeChar present
    have high := (hexDigit_ascii (byte / 16) (by omega)).2
    have low := (hexDigit_ascii (byte % 16) (by omega)).2
    simp [encodeByte, high.symm, low.symm] at digit
  next plain =>
    obtain rfl : '/' = c := List.mem_singleton.mp here
    simp [isEncoded, marked] at plain

end Uri.Percent

end LuauWorkspace
