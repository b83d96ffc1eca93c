/-! Unsigned decimal numbers as they appear in urls and environment variables: ASCII digits, after
an optional plus sign, within a bound. -/

namespace PgSession.Text

def digitValue? (digit : Char) : Option Nat :=
  if '0' ≤ digit ∧ digit ≤ '9' then some (digit.toNat - 48) else none

def digitsValue? (value : Nat) : List Char → Option Nat
  | [] => some value
  | digit :: rest => (digitValue? digit).bind fun next => digitsValue? (value * 10 + next) rest

/-- The digits after the sign must exist, so neither nothing nor a lone sign is a number. -/
def natural? (bound : Nat) (text : List Char) : Option Nat :=
  let digits := match text with
    | '+' :: rest => rest
    | _ => text
  if digits.isEmpty then none
  else (digitsValue? 0 digits).filter (· < bound)

end PgSession.Text
