import PgSession.Text.Decimal

/-!
Numbers that are written in decimal digits. A number is read exactly if digits are all there is, apart
from one sign in front of them, and if it is small enough; what is printed is read back.
-/

namespace PgSession.Proofs
open Text

/-- Digits in their usual order, with or without a plus sign in front of them. -/
def Decimal (text : List Char) (value : Nat) : Prop :=
  ∃ digits, (text = digits ∨ text = '+' :: digits) ∧ digits ≠ [] ∧
    (∀ digit ∈ digits, digit.isDigit = true) ∧ Nat.ofDigitChars 10 digits 0 = value

private theorem digitValue?_iff {digit : Char} {value : Nat} :
    digitValue? digit = some value ↔ digit.isDigit = true ∧ digit.toNat - '0'.toNat = value := by
  have within : digit.isDigit = true ↔ '0' ≤ digit ∧ digit ≤ '9' := by
    rw [Char.isDigit, Bool.and_eq_true, decide_eq_true_eq, decide_eq_true_eq]
    rfl
  rw [digitValue?, within]
  split
  · next inside => exact ⟨fun same => ⟨inside, Option.some.inj same⟩, fun both => congrArg some both.2⟩
  · next outside => exact ⟨nofun, fun both => absurd both.1 outside⟩

private theorem ofDigitChars_cons (digit : Char) (digits : List Char) (before : Nat) :
    Nat.ofDigitChars 10 (digit :: digits) before =
      Nat.ofDigitChars 10 digits (before * 10 + (digit.toNat - '0'.toNat)) := by
  rw [Nat.ofDigitChars, List.foldl_cons, Nat.mul_comm, Nat.ofDigitChars]

private theorem digitsValue?_iff {digits : List Char} {before value : Nat} :
    digitsValue? before digits = some value ↔
      (∀ digit ∈ digits, digit.isDigit = true) ∧ Nat.ofDigitChars 10 digits before = value := by
  induction digits generalizing before with
  | nil => simp [digitsValue?, Nat.ofDigitChars]
  | cons digit digits ih =>
    rw [digitsValue?, Option.bind_eq_some_iff, List.forall_mem_cons, ofDigitChars_cons]
    constructor
    · rintro ⟨next, read, rest⟩
      obtain ⟨isDigit, rfl⟩ := digitValue?_iff.mp read
      obtain ⟨all, same⟩ := ih.mp rest
      exact ⟨⟨isDigit, all⟩, same⟩
    · rintro ⟨⟨isDigit, all⟩, same⟩
      exact ⟨_, digitValue?_iff.mpr ⟨isDigit, rfl⟩, ih.mpr ⟨all, same⟩⟩

/-- A text without the sign in front. -/
def unsigned : List Char → List Char
  | '+' :: rest => rest
  | text => text

private theorem unsigned_digits {digits : List Char}
    (all : ∀ digit ∈ digits, digit.isDigit = true) : unsigned digits = digits := by
  unfold unsigned
  split
  · next rest => exact absurd (all '+' List.mem_cons_self) (by decide)
  · rfl

private theorem eq_unsigned (text : List Char) :
    text = unsigned text ∨ text = '+' :: unsigned text := by
  unfold unsigned
  split
  · exact .inr rfl
  · exact .inl rfl

theorem decimal_iff {text : List Char} {value : Nat} :
    Decimal text value ↔ unsigned text ≠ [] ∧ (∀ digit ∈ unsigned text, digit.isDigit = true) ∧
      Nat.ofDigitChars 10 (unsigned text) 0 = value := by
  constructor
  · rintro ⟨digits, rfl | rfl, some, all, same⟩
    · rw [unsigned_digits all]
      exact ⟨some, all, same⟩
    · exact ⟨some, all, same⟩
  · rintro ⟨some, all, same⟩
    exact ⟨unsigned text, eq_unsigned text, some, all, same⟩

private theorem natural?_unsigned (bound : Nat) (text : List Char) :
    natural? bound text = if (unsigned text).isEmpty then none
      else (digitsValue? 0 (unsigned text)).filter (· < bound) := by
  have same : (match text with | '+' :: rest => rest | _ => text) = unsigned text := by
    unfold unsigned
    split <;> rfl
  exact congrArg (fun digits => if digits.isEmpty then none
    else (digitsValue? 0 digits).filter (· < bound)) same

theorem natural?_iff {bound value : Nat} {text : List Char} :
    natural? bound text = some value ↔ Decimal text value ∧ value < bound := by
  rw [natural?_unsigned, decimal_iff]
  split
  · next empty => exact ⟨nofun, fun both => absurd (List.isEmpty_iff.mp empty) both.1.1⟩
  · next some =>
    rw [Option.filter_eq_some_iff, digitsValue?_iff, decide_eq_true_eq]
    exact and_congr_left' (and_iff_right (mt List.isEmpty_iff.mpr some)).symm

theorem isDigit_toString (value : Nat) : ∀ digit ∈ (toString value).toList, digit.isDigit = true := by
  rw [Nat.toString_eq_repr, Nat.toList_repr]
  exact fun _ member => Nat.isDigit_of_mem_toDigits (by decide) (by decide) member

private theorem decimal_toString (value : Nat) : Decimal (toString value).toList value := by
  refine ⟨_, .inl rfl, ?_, isDigit_toString value, ?_⟩ <;> rw [Nat.toString_eq_repr, Nat.toList_repr]
  · exact Nat.toDigits_ne_nil
  · exact Nat.ofDigitChars_ten_toDigits

theorem natural?_toString {bound value : Nat} (small : value < bound) :
    natural? bound (toString value).toList = some value :=
  natural?_iff.mpr ⟨decimal_toString value, small⟩

end PgSession.Proofs
