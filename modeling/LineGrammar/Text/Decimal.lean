import LineGrammar.Text

/-!
Decimal numerals: the value that a run of ASCII digits denotes, and the digits of a number.
-/

namespace LineGrammar.Text

/-- The number that a run of ASCII digits denotes in base ten; leading zeros do not count. -/
def decimalValue (digits : Text) : Nat := Nat.ofDigitChars 10 digits 0

/-- The digits of a number in base ten, without leading zeros. -/
def ofNat (n : Nat) : Text := Nat.toDigits 10 n

/-- The 64-bit number that a run of digits denotes, if it has one. -/
def word64? (digits : Text) : Option UInt64 :=
  let n := decimalValue digits
  if n < UInt64.size then some (UInt64.ofNat n) else none

/-- A run of digits denotes no 64-bit number when it denotes too large a number. -/
theorem word64?_eq_none_iff {digits : Text} :
    word64? digits = none ↔ UInt64.size ≤ decimalValue digits := by
  constructor
  · intro h
    by_cases small : decimalValue digits < UInt64.size
    · have found : word64? digits = some (UInt64.ofNat (decimalValue digits)) := if_pos small
      rw [found] at h
      cases h
    · exact Nat.le_of_not_lt small
  · intro large
    exact if_neg (Nat.not_lt.mpr large)

end LineGrammar.Text
