import LineGrammar.Proofs.Decimals
import LineGrammar.Proofs.Totals

/-!
How a duration is written, up to the limits of its range. Only whole microseconds count, rounded
toward zero, so the sign and the size of that one number decide everything: whether it fits in 64
bits, whether a hyphen is written, and in which unit. The same number comes out of the seconds and
nanoseconds that a duration is kept as, where the seconds are rounded down and must first be brought
to the sign of the duration.

* `Duration.Fields.micros?_eq_word?`, `Duration.micros?_fields`: the microseconds from seconds and
  nanoseconds, each part of them checked against the range of 64 bits.
* `Duration.ShowsMicros`, `Duration.formatMicros_shows`: numeral and unit of an amount.
* `Duration.format_of_fits`, `Duration.format_of_not_fits`: the text of a duration.
* `Duration.format_by_truncated_micros` puts them together.
-/

namespace LineGrammar

namespace Duration

open Text (IsRun Hundredths)

/-! ### Whole microseconds -/

/-- The whole microseconds of a duration, rounded toward zero. -/
def wholeMicros (d : Duration) : Int := d.nanos.tdiv 1000

/-- Whether a number fits in 64 bits, one of them for its sign. -/
def FitsWord (n : Int) : Prop := -2 ^ 63 ≤ n ∧ n ≤ 2 ^ 63 - 1

instance (n : Int) : Decidable (FitsWord n) := inferInstanceAs (Decidable (_ ∧ _))

/-- A number, if it fits in 64 bits. -/
def word? (n : Int) : Option Int := if FitsWord n then some n else none

namespace Fields

/-- Whole seconds, rounded toward zero, and the nanoseconds beyond them. -/
def towardZero (f : Fields) : Int × Int :=
  if f.seconds < 0 ∧ 0 < f.nanos then (f.seconds + 1, f.nanos - 1000000000)
  else (f.seconds, f.nanos)

/-- The whole microseconds, rounded toward zero: those of the seconds and those of the nanoseconds
beyond them. Both the former and the sum must fit in 64 bits. -/
def micros? (f : Fields) : Option Int := do
  let seconds ← word? (f.towardZero.1 * 1000000)
  word? (seconds + f.towardZero.2.tdiv 1000)

/-- The two parts of a duration have one sign. -/
theorem towardZero_cases (f : Fields) :
    f.towardZero.1 * 1000000000 + f.towardZero.2 = f.exact ∧
      (0 ≤ f.towardZero.1 ∧ 0 ≤ f.towardZero.2 ∨ f.towardZero.1 ≤ 0 ∧ f.towardZero.2 ≤ 0) := by
  have := f.nanos_lt
  rw [towardZero, exact]
  split <;> dsimp only <;> omega

end Fields

theorem tdiv_thousand (n : Int) : n.tdiv 1000 = if 0 ≤ n then n / 1000 else -(-n / 1000) := by
  split
  · next nonneg => exact Int.tdiv_eq_ediv_of_nonneg nonneg
  · next negative =>
    rw [← Int.tdiv_eq_ediv_of_nonneg (by omega), Int.neg_tdiv, Int.neg_neg]

/-- **Seconds and nanoseconds are checked as the whole is.** The microseconds of the seconds are no
further from zero than those of both parts, so they are out of range only where these are. -/
theorem Fields.micros?_eq_word? (f : Fields) : f.micros? = word? (f.exact.tdiv 1000) := by
  obtain ⟨parts, oneSign⟩ := f.towardZero_cases
  rw [micros?]
  generalize f.towardZero.1 = seconds at *
  generalize f.towardZero.2 = nanos at *
  have sum : seconds * 1000000 + nanos.tdiv 1000 = f.exact.tdiv 1000 := by
    rw [tdiv_thousand, tdiv_thousand]
    omega
  have nearer : FitsWord (f.exact.tdiv 1000) → FitsWord (seconds * 1000000) := by
    unfold FitsWord
    rw [tdiv_thousand]
    omega
  by_cases fits : FitsWord (seconds * 1000000)
  · have found : word? (seconds * 1000000) = some (seconds * 1000000) := if_pos fits
    rw [found, Option.bind_eq_bind, Option.bind_some, sum]
  · have missing : word? (seconds * 1000000) = none := if_neg fits
    rw [missing]
    exact (if_neg (mt nearer fits)).symm

theorem micros?_eq_word? (d : Duration) : d.micros? = word? d.wholeMicros := by
  have bounds : (-0x8000000000000000 ≤ d.wholeMicros ∧ d.wholeMicros < 0x8000000000000000) ↔
      FitsWord d.wholeMicros := by
    unfold FitsWord
    omega
  exact if_congr bounds rfl rfl

/-- **The microseconds are those of the seconds and nanoseconds.** -/
theorem micros?_fields (d : Duration) : d.fields.micros? = d.micros? := by
  rw [Fields.micros?_eq_word?, exact_fields, micros?_eq_word?, wholeMicros]

/-! ### Numeral and unit -/

/-- The units that durations are written in. -/
inductive TimeUnit where
  | micros
  | millis
  | seconds
  deriving DecidableEq, Repr

namespace TimeUnit

/-- How a unit is written. -/
def symbol : TimeUnit → Text
  | micros => "µs".toList
  | millis => "ms".toList
  | seconds => "s".toList

/-- How many microseconds a unit has. -/
def scale : TimeUnit → Nat
  | micros => 1
  | millis => 1000
  | seconds => 1000000

end TimeUnit

/-- Whether a character may stand in a numeral. -/
def inNumeral (c : Char) : Bool := c.isDigit || c == '.'

/-- What the numeral and the unit of a number of microseconds are. The unit goes by the size of the
number. Microseconds are written exactly. In a larger unit there are two decimals, and what they
show is the exact quotient up to half of the last decimal and a 2^51st part. -/
structure ShowsMicros (micros : Nat) (numeral : Text) (unit : TimeUnit) : Prop where
  run : IsRun inNumeral numeral
  micros_iff : unit = .micros ↔ micros < 1000
  millis_iff : unit = .millis ↔ 1000 ≤ micros ∧ micros < 1000000
  seconds_iff : unit = .seconds ↔ 1000000 ≤ micros
  unrounded : unit = .micros → numeral = Text.ofNat micros
  rounded : unit ≠ .micros → ∃ count, Hundredths numeral count ∧
    |(count / 100 : ℚ) - micros / unit.scale| ≤ 1 / 200 + micros / unit.scale / 2 ^ 51

theorem inNumeral_of_isDigit {c : Char} (h : c.isDigit = true) : inNumeral c = true := by
  rw [inNumeral, h, Bool.true_or]

theorem isRun_of_isDigit {digits : Text} (h : IsRun Char.isDigit digits) :
    IsRun inNumeral digits where
  ne_nil := h.ne_nil
  all := fun c hc => inNumeral_of_isDigit (h.all c hc)

theorem isRun_of_hundredths {numeral : Text} {count : Nat} (h : Hundredths numeral count) :
    IsRun inNumeral numeral := by
  obtain ⟨whole, decimals, rfl, hwhole, hdecimals, -, -⟩ := h
  refine ⟨List.append_ne_nil_of_left_ne_nil hwhole.ne_nil _, ?_⟩
  intro c hc
  rcases List.mem_append.mp hc with hc | hc
  · exact inNumeral_of_isDigit (hwhole.all c hc)
  · rcases List.mem_cons.mp hc with rfl | hc
    · rfl
    · exact inNumeral_of_isDigit (hdecimals.all c hc)

/-- **An amount is written in the largest unit that it reaches.** -/
theorem formatMicros_shows (micros : Nat) :
    ∃ numeral unit, formatMicros micros = numeral ++ unit.symbol ∧
      ShowsMicros micros numeral unit := by
  rw [formatMicros]
  by_cases second : 1000000 ≤ micros
  · obtain ⟨count, shown, close⟩ := exists_hundredths_inUnit micros (by decide : 0 < 1000000)
    refine ⟨inUnit micros 1000000, .seconds, if_pos second, isRun_of_hundredths shown, ?_, ?_, ?_,
      nofun, fun _ => ⟨count, shown, close⟩⟩
    · exact iff_of_false nofun (by omega)
    · exact iff_of_false nofun (by omega)
    · exact iff_of_true rfl second
  rw [if_neg second]
  by_cases milli : 1000 ≤ micros
  · obtain ⟨count, shown, close⟩ := exists_hundredths_inUnit micros (by decide : 0 < 1000)
    refine ⟨inUnit micros 1000, .millis, if_pos milli, isRun_of_hundredths shown, ?_, ?_, ?_,
      nofun, fun _ => ⟨count, shown, close⟩⟩
    · exact iff_of_false nofun (by omega)
    · exact iff_of_true rfl (by omega)
    · exact iff_of_false nofun (by omega)
  · refine ⟨Text.ofNat micros, .micros, if_neg milli, isRun_of_isDigit (Text.isRun_ofNat micros),
      ?_, ?_, ?_, fun _ => rfl, fun larger => absurd rfl larger⟩
    · exact iff_of_true rfl (by omega)
    · exact iff_of_false nofun (by omega)
    · exact iff_of_false nofun (by omega)

/-- A microsecond below a second is still written in the smaller unit, though its numeral is
rounded up. -/
example : formatMicros 999999 = "1000.00ms".toList ∧ formatMicros 1000000 = "1.00s".toList := by
  decide +kernel

/-! ### The text of a duration -/

/-- What is written in front of a number. -/
def sign (n : Int) : Text := if n < 0 then "-".toList else []

variable {d : Duration}

theorem format_of_fits (fits : FitsWord d.wholeMicros) :
    d.format = sign d.wholeMicros ++ formatMicros d.wholeMicros.natAbs := by
  have found : d.micros? = some d.wholeMicros := d.micros?_eq_word?.trans (if_pos fits)
  rw [format, found, sign]
  dsimp only
  split <;> rfl

theorem format_of_not_fits (outside : ¬FitsWord d.wholeMicros) : d.format = "N/A".toList := by
  have missing : d.micros? = none := d.micros?_eq_word?.trans (if_neg outside)
  rw [format, missing]

/-- A duration of the same length in the other direction of time. -/
def opposite (d : Duration) : Duration where
  nanos := -d.nanos
  inRange := by
    have := d.inRange
    omega

theorem wholeMicros_opposite (d : Duration) : d.opposite.wholeMicros = -d.wholeMicros :=
  Int.neg_tdiv d.nanos 1000

/-- Only what is a microsecond or more before zero is written with a hyphen. -/
theorem wholeMicros_neg_iff : d.wholeMicros < 0 ↔ d.nanos ≤ -1000 := by
  rw [wholeMicros, tdiv_thousand]
  omega

/-- What is written of a number that fits begins with its sign or with a digit. -/
theorem head?_format (fits : FitsWord d.wholeMicros) :
    ∃ c, d.format.head? = some c ∧ (c = '-' ∧ d.wholeMicros < 0 ∨
      inNumeral c = true ∧ 0 ≤ d.wholeMicros) := by
  obtain ⟨numeral, unit, written, shows⟩ := formatMicros_shows d.wholeMicros.natAbs
  rw [format_of_fits fits, written, sign]
  by_cases negative : d.wholeMicros < 0
  · rw [if_pos negative]
    exact ⟨'-', rfl, .inl ⟨rfl, negative⟩⟩
  · rw [if_neg negative]
    obtain ⟨c, more, rfl⟩ := List.exists_cons_of_ne_nil shows.run.ne_nil
    exact ⟨c, rfl, .inr ⟨shows.run.all c List.mem_cons_self, Int.not_lt.mp negative⟩⟩

theorem format_eq_unavailable_iff : d.format = "N/A".toList ↔ ¬FitsWord d.wholeMicros := by
  constructor
  · intro unavailable fits
    obtain ⟨c, head, begins⟩ := head?_format fits
    rw [unavailable] at head
    obtain rfl : 'N' = c := Option.some.inj head
    rcases begins with ⟨hyphen, -⟩ | ⟨numeral, -⟩
    · exact absurd hyphen (by decide)
    · exact absurd numeral (by decide)
  · exact format_of_not_fits

theorem head?_format_eq_hyphen_iff (fits : FitsWord d.wholeMicros) :
    d.format.head? = some '-' ↔ d.wholeMicros < 0 := by
  obtain ⟨c, head, begins⟩ := head?_format fits
  rw [head]
  rcases begins with ⟨rfl, negative⟩ | ⟨numeral, nonneg⟩
  · exact iff_of_true rfl negative
  · refine iff_of_false ?_ (by omega)
    rintro ⟨⟩
    exact absurd numeral (by decide)

/-- **A duration is written by its whole microseconds, rounded toward zero.** The seconds and
nanoseconds that it is kept as come to the same number. It is not written as an amount exactly when
that number does not fit in 64 bits. Otherwise a hyphen is written exactly when the number is below
zero, which is from a whole microsecond below zero on, and then the numeral and the unit of the
number without its sign. So the durations of opposite numbers are written alike but for the hyphen;
and the lowest number of 64 bits, which has no opposite, is written as any other. -/
theorem format_by_truncated_micros (d : Duration) :
    (d.fields.exact = d.nanos ∧ d.fields.micros? = word? d.wholeMicros) ∧
    (d.format = "N/A".toList ↔ ¬FitsWord d.wholeMicros) ∧
    (FitsWord d.wholeMicros →
      (d.format.head? = some '-' ↔ d.wholeMicros < 0) ∧
      (d.wholeMicros < 0 ↔ d.nanos ≤ -1000) ∧
      ∃ numeral unit, ShowsMicros d.wholeMicros.natAbs numeral unit ∧
        d.format = sign d.wholeMicros ++ numeral ++ unit.symbol) ∧
    (FitsWord d.wholeMicros → FitsWord (-d.wholeMicros) → 0 < d.wholeMicros →
      d.opposite.format = '-' :: d.format) ∧
    (d.wholeMicros = -2 ^ 63 → d.format = "-9223372036854.78s".toList) := by
  refine ⟨⟨exact_fields d, ?_⟩, format_eq_unavailable_iff, ?_, ?_, ?_⟩
  · rw [micros?_fields, micros?_eq_word?]
  · intro fits
    obtain ⟨numeral, unit, written, shows⟩ := formatMicros_shows d.wholeMicros.natAbs
    refine ⟨head?_format_eq_hyphen_iff fits, wholeMicros_neg_iff, numeral, unit, shows, ?_⟩
    rw [format_of_fits fits, written, List.append_assoc]
  · intro fits oppositeFits positive
    rw [← wholeMicros_opposite] at oppositeFits
    rw [format_of_fits oppositeFits, format_of_fits fits, wholeMicros_opposite, Int.natAbs_neg,
      sign, sign, if_pos (by omega), if_neg (by omega)]
    rfl
  · intro lowest
    have fits : FitsWord d.wholeMicros := by
      rw [lowest]
      decide
    rw [format_of_fits fits, lowest]
    decide +kernel

/-- The lowest number of 64 bits, its opposite and the number below it, the highest one, and a
duration of less than a microsecond before zero. -/
theorem format_by_truncated_micros_at_limits :
    let lowest : Duration := ⟨-9223372036854775808999, by decide⟩
    let below : Duration := ⟨-9223372036854775809000, by decide⟩
    let highest : Duration := ⟨9223372036854775807999, by decide⟩
    let instant : Duration := ⟨-999, by decide⟩
    lowest.format = "-9223372036854.78s".toList ∧ lowest.opposite.format = "N/A".toList ∧
      below.format = "N/A".toList ∧ highest.opposite.format = '-' :: highest.format ∧
      instant.format.head? ≠ some '-' := by
  intro lowest below highest instant
  refine ⟨?_, ?_, ?_, ?_, ?_⟩
  · exact (format_by_truncated_micros lowest).2.2.2.2 (by decide)
  · exact (format_by_truncated_micros lowest.opposite).2.1.mpr (by decide)
  · exact (format_by_truncated_micros below).2.1.mpr (by decide)
  · exact (format_by_truncated_micros highest).2.2.2.1 (by decide) (by decide) (by decide)
  · intro hyphen
    have negative := ((format_by_truncated_micros instant).2.2.1 (by decide)).1.mp hyphen
    exact absurd negative (by decide)

end Duration

end LineGrammar
