/-! Words of four bytes, the highest byte first. -/

namespace PgSession.Wire

/-- Only the lowest 32 bits of the value are kept. -/
def word (value : Nat) : List UInt8 :=
  [UInt8.ofNat (value / 16777216), UInt8.ofNat (value / 65536), UInt8.ofNat (value / 256),
    UInt8.ofNat value]

def wordValue (first second third fourth : UInt8) : Nat :=
  ((first.toNat * 256 + second.toNat) * 256 + third.toNat) * 256 + fourth.toNat

def int32 (value : Int32) : List UInt8 := word value.toUInt32.toNat

def int32Value (first second third fourth : UInt8) : Int32 :=
  (UInt32.ofNat (wordValue first second third fourth)).toInt32

@[simp] theorem word_length (value : Nat) : (word value).length = 4 := rfl

@[simp] theorem int32_length (value : Int32) : (int32 value).length = 4 := rfl

theorem wordValue_lt (first second third fourth : UInt8) :
    wordValue first second third fourth < 4294967296 := by
  have := first.toNat_lt; have := second.toNat_lt
  have := third.toNat_lt; have := fourth.toNat_lt
  unfold wordValue
  omega

theorem word_wordValue (first second third fourth : UInt8) :
    word (wordValue first second third fourth) = [first, second, third, fourth] := by
  have := first.toNat_lt; have := second.toNat_lt
  have := third.toNat_lt; have := fourth.toNat_lt
  simp only [word, wordValue, List.cons.injEq, and_true, ← UInt8.toNat_inj, UInt8.toNat_ofNat']
  omega

theorem wordValue_word (value : Nat) (small : value < 4294967296) :
    wordValue (UInt8.ofNat (value / 16777216)) (UInt8.ofNat (value / 65536))
      (UInt8.ofNat (value / 256)) (UInt8.ofNat value) = value := by
  simp only [wordValue, UInt8.toNat_ofNat']
  omega

theorem int32_int32Value (first second third fourth : UInt8) :
    int32 (int32Value first second third fourth) = [first, second, third, fourth] := by
  have small := wordValue_lt first second third fourth
  simp only [int32, int32Value, UInt32.toUInt32_toInt32, UInt32.toNat_ofNat']
  rw [Nat.mod_eq_of_lt small, word_wordValue]

end PgSession.Wire
