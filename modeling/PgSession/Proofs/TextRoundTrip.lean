import PgSession.Text.Utf8
import PgSession.Wire.Reader

/-!
Texts on the wire. Decoding gives back every text that was encoded, and only bytes that are an
encoding are decoded. The encoding of a text holds a zero byte exactly where the text holds the
character of that code, so a text that is ended by a zero byte is read back whole if it does not
contain one.
-/

namespace PgSession.Proofs
open Text Wire

private theorem decodeChars_followed {offset code : Nat} {byte : UInt8}
    {rest remaining : List UInt8} (lead : Lead) (announced : Lead.of? byte.toNat = some lead)
    (found : followers lead.following lead.low lead.high 1 lead.bits rest = .ok (code, remaining)) :
    decodeChars offset (byte :: rest) =
      (decodeChars (offset + 1 + lead.following) remaining).map (Char.ofNat code :: ·) := by
  rw [decodeChars]
  simp only [announced]
  split
  · next missing =>
    rw [found] at missing
    cases missing
  · next got =>
    rw [found] at got
    cases got
    rfl

private theorem ofNat_toNat {byte : Nat} (small : byte < 256) :
    (UInt8.ofNat byte).toNat = byte := by
  rw [UInt8.toNat_ofNat', Nat.mod_eq_of_lt small]

private theorem followers_ofNat {following low high seen code byte : Nat} {rest : List UInt8}
    (small : byte < 256) (least : low ≤ byte) (most : byte ≤ high) :
    followers (following + 1) low high seen code (UInt8.ofNat byte :: rest) =
      followers following 0x80 0xBF (seen + 1) (code * 64 + (byte - 0x80)) rest := by
  rw [followers, ofNat_toNat small, if_pos ⟨least, most⟩]

section

variable {code : Nat}

private theorem lead_two (least : 0x80 ≤ code) (most : code < 0x800) :
    Lead.of? (0xC0 + code / 64) = some ⟨code / 64, 1, 0x80, 0xBF⟩ := by
  have high : 2 ≤ code / 64 ∧ code / 64 < 32 := by omega
  generalize code / 64 = bits at high
  rw [Lead.of?, if_neg (by omega), if_neg (by omega), if_pos (by omega), Nat.add_sub_cancel_left]

private theorem lead_three (least : 0x800 ≤ code) (most : code < 0x10000)
    (scalar : code < 0xD800 ∨ 0xDFFF < code) :
    ∃ low high, Lead.of? (0xE0 + code / 4096) = some ⟨code / 4096, 2, low, high⟩ ∧
      low ≤ 0x80 + code / 64 % 64 ∧ 0x80 + code / 64 % 64 ≤ high := by
  unfold Lead.of?
  rw [if_neg (by omega), if_neg (by omega), if_neg (by omega)]
  split
  · exact ⟨0xA0, 0xBF, by rw [show code / 4096 = 0 by omega], by omega, by omega⟩
  split
  · exact ⟨0x80, 0x9F, by rw [show code / 4096 = 0xD by omega], by omega, by omega⟩
  · refine ⟨0x80, 0xBF, ?_, by omega, by omega⟩
    rw [if_pos (by omega), Nat.add_sub_cancel_left]

private theorem lead_four (least : 0x10000 ≤ code) (most : code < 0x110000) :
    ∃ low high, Lead.of? (0xF0 + code / 262144) = some ⟨code / 262144, 3, low, high⟩ ∧
      low ≤ 0x80 + code / 4096 % 64 ∧ 0x80 + code / 4096 % 64 ≤ high := by
  unfold Lead.of?
  rw [if_neg (by omega), if_neg (by omega), if_neg (by omega), if_neg (by omega), if_neg (by omega),
    if_neg (by omega)]
  split
  · exact ⟨0x90, 0xBF, by rw [show code / 262144 = 0 by omega], by omega, by omega⟩
  split
  · exact ⟨0x80, 0xBF, by rw [Nat.add_sub_cancel_left], by omega, by omega⟩
  · refine ⟨0x80, 0x8F, ?_, by omega, by omega⟩
    rw [if_pos (by omega), show code / 262144 = 4 by omega]

variable {rest : List UInt8} {low high : Nat}

/-- The bits of the bytes that follow make up the code again. -/
private theorem followers_two : followers 1 0x80 0xBF 1 (code / 64)
    (UInt8.ofNat (0x80 + code % 64) :: rest) = .ok (code, rest) := by
  rw [followers_ofNat (by omega) (by omega) (by omega), followers,
    show code / 64 * 64 + (0x80 + code % 64 - 0x80) = code by omega]

private theorem followers_three (above : low ≤ 0x80 + code / 64 % 64)
    (below : 0x80 + code / 64 % 64 ≤ high) : followers 2 low high 1 (code / 4096)
      (UInt8.ofNat (0x80 + code / 64 % 64) :: UInt8.ofNat (0x80 + code % 64) :: rest) =
        .ok (code, rest) := by
  rw [followers_ofNat (by omega) above below, followers_ofNat (by omega) (by omega) (by omega),
    followers, show (code / 4096 * 64 + (0x80 + code / 64 % 64 - 0x80)) * 64 +
      (0x80 + code % 64 - 0x80) = code by omega]

private theorem followers_four (above : low ≤ 0x80 + code / 4096 % 64)
    (below : 0x80 + code / 4096 % 64 ≤ high) : followers 3 low high 1 (code / 262144)
      (UInt8.ofNat (0x80 + code / 4096 % 64) :: UInt8.ofNat (0x80 + code / 64 % 64) ::
        UInt8.ofNat (0x80 + code % 64) :: rest) = .ok (code, rest) := by
  rw [followers_ofNat (by omega) above below, followers_ofNat (by omega) (by omega) (by omega),
    followers_ofNat (by omega) (by omega) (by omega), followers,
    show ((code / 262144 * 64 + (0x80 + code / 4096 % 64 - 0x80)) * 64 +
      (0x80 + code / 64 % 64 - 0x80)) * 64 + (0x80 + code % 64 - 0x80) = code by omega]

end

/-- Every character is read back, whatever follows it. -/
theorem decodeChars_encodeChar (offset : Nat) (char : Char) (rest : List UInt8) :
    decodeChars offset (encodeChar char ++ rest) =
      (decodeChars (offset + (encodeChar char).length) rest).map (char :: ·) := by
  -- A character is no surrogate, which is why the narrowed ranges of the second byte let it through.
  have scalar : char.toNat < 0xD800 ∨ 0xDFFF < char.toNat ∧ char.toNat < 0x110000 := char.valid
  have back : Char.ofNat char.toNat = char := Char.ofNat_toNat char
  unfold encodeChar
  generalize char.toNat = code at scalar back
  subst back
  dsimp only
  split
  · next one =>
    refine decodeChars_followed ⟨code, 0, 0x80, 0xBF⟩ ?_ rfl
    rw [ofNat_toNat (by omega), Lead.of?, if_pos one]
  split
  · next least most =>
    refine decodeChars_followed ⟨code / 64, 1, 0x80, 0xBF⟩ ?_ followers_two
    rw [ofNat_toNat (by omega), lead_two (by omega) most]
  split
  · next least most =>
    obtain ⟨low, high, announced, above, below⟩ :=
      lead_three (Nat.le_of_not_lt least) most (by omega)
    refine decodeChars_followed ⟨code / 4096, 2, low, high⟩ ?_ (followers_three above below)
    rw [ofNat_toNat (by omega), announced]
  · next least =>
    obtain ⟨low, high, announced, above, below⟩ := lead_four (Nat.le_of_not_lt least) (by omega)
    refine decodeChars_followed ⟨code / 262144, 3, low, high⟩ ?_ (followers_four above below)
    rw [ofNat_toNat (by omega), announced]

theorem decodeChars_flatMap (offset : Nat) (chars : List Char) :
    decodeChars offset (chars.flatMap encodeChar) = .ok chars := by
  induction chars generalizing offset with
  | nil => rw [List.flatMap_nil, decodeChars]
  | cons char chars ih =>
    rw [List.flatMap_cons, decodeChars_encodeChar, ih]
    rfl

theorem decodeUtf8_utf8 (text : String) : decodeUtf8 (utf8 text) = .ok text := by
  rw [decodeUtf8, utf8, decodeChars_flatMap]
  exact congrArg Except.ok String.ofList_toList

private theorem followers_inv {following low high seen code : Nat} {bytes : List UInt8}
    {result : Nat × List UInt8}
    (found : followers (following + 1) low high seen code bytes = .ok result) :
    ∃ byte rest, bytes = byte :: rest ∧ low ≤ byte.toNat ∧ byte.toNat ≤ high ∧
      followers following 0x80 0xBF (seen + 1) (code * 64 + (byte.toNat - 0x80)) rest =
        .ok result := by
  cases bytes with
  | nil => cases found
  | cons byte rest =>
    rw [followers] at found
    split at found
    · next within => exact ⟨byte, rest, rfl, within.1, within.2, found⟩
    · cases found

section

variable {code : Nat}

private theorem toNat_ofNat (scalar : code < 0xD800 ∨ 0xDFFF < code ∧ code < 0x110000) :
    (Char.ofNat code).toNat = code := by
  rw [Char.ofNat, dif_pos scalar]
  rfl

private theorem ofNat_eq (byte : UInt8) {value : Nat} (same : value = byte.toNat) :
    UInt8.ofNat value = byte := by
  rw [same, UInt8.ofNat_toNat]

variable {lead : UInt8} {bytes rest : List UInt8} {low high number : Nat}

private theorem read_one (most : lead.toNat < 0x80) :
    lead :: rest = encodeChar (Char.ofNat lead.toNat) ++ rest := by
  unfold encodeChar
  rw [toNat_ofNat (by omega)]
  dsimp only
  rw [if_pos most, UInt8.ofNat_toNat]
  rfl

private theorem read_two (least : 0xC2 ≤ lead.toNat) (most : lead.toNat < 0xE0)
    (found : followers 1 0x80 0xBF 1 (lead.toNat - 0xC0) bytes = .ok (code, rest)) :
    lead :: bytes = encodeChar (Char.ofNat code) ++ rest := by
  obtain ⟨second, more, rfl, above, below, found⟩ := followers_inv found
  obtain ⟨same, rfl⟩ := Prod.mk.inj (Except.ok.inj found)
  unfold encodeChar
  rw [toNat_ofNat (by omega)]
  dsimp only
  rw [if_neg (by omega), if_pos (by omega), ofNat_eq lead (by omega),
    ofNat_eq second (by omega)]
  rfl

private theorem read_three (least : 0xE0 ≤ lead.toNat) (most : lead.toNat < 0xF0)
    (bits : lead.toNat - 0xE0 = number) (wide : 0x80 ≤ low ∧ high ≤ 0xBF)
    (shortest : number = 0 → 0xA0 ≤ low) (scalar : number = 0xD → high ≤ 0x9F)
    (found : followers 2 low high 1 number bytes = .ok (code, rest)) :
    lead :: bytes = encodeChar (Char.ofNat code) ++ rest := by
  obtain ⟨second, more, rfl, above, below, found⟩ := followers_inv found
  obtain ⟨third, more, rfl, above', below', found⟩ := followers_inv found
  obtain ⟨same, rfl⟩ := Prod.mk.inj (Except.ok.inj found)
  unfold encodeChar
  rw [toNat_ofNat (by omega)]
  dsimp only
  rw [if_neg (by omega), if_neg (by omega), if_pos (by omega), ofNat_eq lead (by omega),
    ofNat_eq second (by omega), ofNat_eq third (by omega)]
  rfl

private theorem read_four (least : 0xF0 ≤ lead.toNat) (most : lead.toNat < 0xF5)
    (bits : lead.toNat - 0xF0 = number) (wide : 0x80 ≤ low ∧ high ≤ 0xBF)
    (shortest : number = 0 → 0x90 ≤ low) (scalar : number = 4 → high ≤ 0x8F)
    (found : followers 3 low high 1 number bytes = .ok (code, rest)) :
    lead :: bytes = encodeChar (Char.ofNat code) ++ rest := by
  obtain ⟨second, more, rfl, above, below, found⟩ := followers_inv found
  obtain ⟨third, more, rfl, above', below', found⟩ := followers_inv found
  obtain ⟨fourth, more, rfl, above'', below'', found⟩ := followers_inv found
  obtain ⟨same, rfl⟩ := Prod.mk.inj (Except.ok.inj found)
  unfold encodeChar
  rw [toNat_ofNat (by omega)]
  dsimp only
  rw [if_neg (by omega), if_neg (by omega), if_neg (by omega), ofNat_eq lead (by omega),
    ofNat_eq second (by omega), ofNat_eq third (by omega),
    ofNat_eq fourth (by omega)]
  rfl

end

/-- The bytes a character was read from are its encoding. -/
theorem encodeChar_followers {byte : UInt8} {lead : Lead} {bytes rest : List UInt8} {code : Nat}
    (announced : Lead.of? byte.toNat = some lead)
    (found : followers lead.following lead.low lead.high 1 lead.bits bytes = .ok (code, rest)) :
    byte :: bytes = encodeChar (Char.ofNat code) ++ rest := by
  unfold Lead.of? at announced
  split at announced
  · next one =>
    obtain rfl := Option.some.inj announced
    obtain ⟨rfl, rfl⟩ := Prod.mk.inj (Except.ok.inj found)
    exact read_one one
  split at announced
  · cases announced
  split at announced
  · obtain rfl := Option.some.inj announced
    dsimp only at found
    exact read_two (by omega) (by omega) found
  split at announced
  · obtain rfl := Option.some.inj announced
    dsimp only at found
    exact read_three (by omega) (by omega) (by omega) (by omega) (by omega) (by omega) found
  split at announced
  · obtain rfl := Option.some.inj announced
    dsimp only at found
    exact read_three (by omega) (by omega) (by omega) (by omega) (by omega) (by omega) found
  split at announced
  · obtain rfl := Option.some.inj announced
    dsimp only at found
    exact read_three (by omega) (by omega) rfl (by omega) (by omega) (by omega) found
  split at announced
  · obtain rfl := Option.some.inj announced
    dsimp only at found
    exact read_four (by omega) (by omega) (by omega) (by omega) (by omega) (by omega) found
  split at announced
  · obtain rfl := Option.some.inj announced
    dsimp only at found
    exact read_four (by omega) (by omega) rfl (by omega) (by omega) (by omega) found
  split at announced
  · obtain rfl := Option.some.inj announced
    dsimp only at found
    exact read_four (by omega) (by omega) (by omega) (by omega) (by omega) (by omega) found
  · cases announced

theorem flatMap_decodeChars {offset : Nat} {bytes : List UInt8} {chars : List Char}
    (decoded : decodeChars offset bytes = .ok chars) : chars.flatMap encodeChar = bytes := by
  fun_induction decodeChars offset bytes generalizing chars with
  | case1 =>
    cases decoded
    rfl
  | case2 => cases decoded
  | case3 => cases decoded
  | case4 offset byte rest lead announced code remaining found ih =>
    cases later : decodeChars (offset + 1 + lead.following) remaining with
    | error fault =>
      rw [later] at decoded
      cases decoded
    | ok more =>
      rw [later] at decoded
      cases decoded
      rw [List.flatMap_cons, ih later, encodeChar_followers announced found]

theorem utf8_decodeUtf8 {bytes : List UInt8} {text : String} (decoded : decodeUtf8 bytes = .ok text) :
    utf8 text = bytes := by
  unfold decodeUtf8 at decoded
  cases read : decodeChars 0 bytes with
  | error fault =>
    rw [read] at decoded
    cases decoded
  | ok chars =>
    rw [read] at decoded
    cases decoded
    rw [utf8, String.toList_ofList, flatMap_decodeChars read]

/-- The character whose encoding is a zero byte. -/
def nul : Char := Char.ofNat 0

private theorem zero_mem_encodeChar {char : Char} : 0 ∈ encodeChar char ↔ char = nul := by
  have zero {byte : Nat} (small : byte < 256) : 0 = UInt8.ofNat byte ↔ byte = 0 := by
    rw [← UInt8.toNat_inj, ofNat_toNat small, eq_comm]
    rfl
  have scalar : char.toNat < 0xD800 ∨ 0xDFFF < char.toNat ∧ char.toNat < 0x110000 := char.valid
  have same : char = nul ↔ char.toNat = 0 := by
    rw [← Char.toNat_inj]
    rfl
  rw [same]
  unfold encodeChar
  generalize char.toNat = code at scalar
  dsimp only
  split
  · rw [List.mem_singleton, zero (by omega)]
  split
  · simp only [List.mem_cons, List.not_mem_nil, or_false]
    rw [zero (by omega), zero (by omega)]
    omega
  split
  · simp only [List.mem_cons, List.not_mem_nil, or_false]
    rw [zero (by omega), zero (by omega), zero (by omega)]
    omega
  · simp only [List.mem_cons, List.not_mem_nil, or_false]
    rw [zero (by omega), zero (by omega), zero (by omega), zero (by omega)]
    omega

theorem zero_mem_utf8 {text : String} : 0 ∈ utf8 text ↔ nul ∈ text.toList := by
  rw [utf8, List.mem_flatMap]
  constructor
  · rintro ⟨char, member, zero⟩
    rwa [← zero_mem_encodeChar.mp zero]
  · exact fun member => ⟨nul, member, zero_mem_encodeChar.mpr rfl⟩

theorem utf8_injective {first second : String} (same : utf8 first = utf8 second) :
    first = second := by
  have decoded := decodeUtf8_utf8 first
  rw [same, decodeUtf8_utf8] at decoded
  cases decoded
  rfl

theorem splitZero_free {bytes before after : List UInt8}
    (found : Reader.splitZero bytes = some (before, after)) : 0 ∉ before := by
  induction bytes generalizing before with
  | nil => cases found
  | cons byte rest ih =>
    rw [Reader.splitZero] at found
    split at found
    · cases found
      exact List.not_mem_nil
    · next nonzero =>
      obtain ⟨⟨left, right⟩, split, same⟩ := Option.map_eq_some_iff.mp found
      cases same
      intro member
      rcases List.mem_cons.mp member with zero | later
      · exact nonzero zero.symm
      · exact ih split later

theorem splitZero_append {before : List UInt8} (free : 0 ∉ before) (after : List UInt8) :
    Reader.splitZero (before ++ 0 :: after) = some (before, after) := by
  induction before with
  | nil => rfl
  | cons byte before ih =>
    obtain ⟨nonzero, free⟩ := not_or.mp (fun zero => free (List.mem_cons.mpr zero))
    rw [List.cons_append, Reader.splitZero, if_neg (Ne.symm nonzero), ih free]
    rfl

/-- A text is read back whole if it holds no zero byte itself. -/
theorem text_utf8 {text : String} (free : nul ∉ text.toList) (rest : List UInt8) :
    Reader.text (utf8 text ++ 0 :: rest) = .ok text rest := by
  unfold Reader.text
  rw [splitZero_append (mt zero_mem_utf8.mp free)]
  simp only [decodeUtf8_utf8]

end PgSession.Proofs
