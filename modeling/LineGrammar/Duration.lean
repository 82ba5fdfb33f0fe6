import LineGrammar.Text.Decimal

/-!
Durations of whole nanoseconds and how they are written. The range of a duration is that of a
signed 64-bit number of milliseconds without its lowest value. A duration is written in whole
microseconds, rounded toward zero; from a millisecond on, and again from a second on, in the larger
unit with two decimals. The decimals are those of the quotient as a binary number of 53 significant
bits, with a half rounded to the even neighbour.
-/

namespace LineGrammar

/-- The longest duration, in nanoseconds. -/
def longestNanos : Int := 9223372036854775807 * 1000000

/-- A duration of whole nanoseconds, of either sign. -/
structure Duration where
  nanos : Int
  inRange : -longestNanos ≤ nanos ∧ nanos ≤ longestNanos
  deriving DecidableEq, Repr

namespace Duration

/-- The duration of so many nanoseconds, if it is in range. -/
def ofNanos? (nanos : Int) : Option Duration :=
  if h : -longestNanos ≤ nanos ∧ nanos ≤ longestNanos then some ⟨nanos, h⟩ else none

/-- No time at all. -/
def zero : Duration := ⟨0, by decide⟩

/-- The longest duration. -/
def longest : Duration := ⟨longestNanos, by decide⟩

/-- The longest duration back in time. -/
def shortest : Duration := ⟨-longestNanos, by decide⟩

/-- The sum, if it is in range. -/
def add? (a b : Duration) : Option Duration := ofNanos? (a.nanos + b.nanos)

/-- The sum of all durations from left to right, if it and every sum on the way to it are in
range. -/
def total (ds : List Duration) : Option Duration := ds.foldlM add? zero

/-! ### Rounding -/

/-- The whole number nearest to a quotient; of two that are equally near, the even one. -/
def roundHalfEven (num den : Nat) : Nat :=
  let whole := num / den
  let rest := 2 * (num % den)
  if rest < den then whole
  else if den < rest then whole + 1
  else whole + whole % 2

/-- The rounded quotient is at most half a unit away. -/
theorem roundHalfEven_close (num : Nat) {den : Nat} (h : 0 < den) :
    2 * num ≤ 2 * (den * roundHalfEven num den) + den ∧
      2 * (den * roundHalfEven num den) ≤ 2 * num + den := by
  have whole := Nat.div_add_mod num den
  have rest := Nat.mod_lt num h
  simp only [roundHalfEven]
  split
  · omega
  · split
    · rw [Nat.mul_add]; omega
    · rcases Nat.mod_two_eq_zero_or_one (num / den) with even | odd
      · rw [even, Nat.add_zero]; omega
      · rw [odd, Nat.mul_add]; omega

/-- The binary number of 53 significant bits nearest to a quotient, as a quotient again. -/
def roundBinary (num den : Nat) : Nat × Nat :=
  let shift := 53 + Nat.log2 den
  let scaled := num <<< shift
  let drop := Nat.log2 (scaled / den) - 52
  (roundHalfEven scaled (den <<< drop) <<< drop, 1 <<< shift)

/-! ### Writing -/

/-- A quotient with two decimals. -/
def twoDecimals (num den : Nat) : Text :=
  let hundredths := roundHalfEven (100 * num) den
  let decimals := Text.ofNat (hundredths % 100)
  Text.ofNat (hundredths / 100) ++ ".".toList ++
    (if decimals.length < 2 then '0' :: decimals else decimals)

/-- A number of microseconds in a larger unit. -/
def inUnit (micros scale : Nat) : Text :=
  let (num, den) := roundBinary micros 1
  let (num, den) := roundBinary num (den * scale)
  twoDecimals num den

/-- A number of microseconds in the largest unit that it reaches. -/
def formatMicros (micros : Nat) : Text :=
  if 1000000 ≤ micros then inUnit micros 1000000 ++ "s".toList
  else if 1000 ≤ micros then inUnit micros 1000 ++ "ms".toList
  else Text.ofNat micros ++ "µs".toList

/-- The whole microseconds of a duration, rounded toward zero, if they fit in 64 bits. -/
def micros? (d : Duration) : Option Int :=
  let micros := d.nanos.tdiv 1000
  if -0x8000000000000000 ≤ micros ∧ micros < 0x8000000000000000 then some micros else none

/-- A duration as it is reported. -/
def format (d : Duration) : Text :=
  match d.micros? with
  | none => "N/A".toList
  | some micros =>
    if micros < 0 then '-' :: formatMicros micros.natAbs else formatMicros micros.natAbs

end Duration

end LineGrammar
