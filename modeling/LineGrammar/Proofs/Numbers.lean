import LineGrammar.Proofs.Directions
import Mathlib.Data.Nat.Digits.Defs

/-!
What a run of digits is read as. The digits are counted by their places, as many of them as there
are; only the number that they denote decides whether it is read, so leading zeros do no harm and a
number of 64 bits is read back from its decimal numeral whatever stands behind it but a digit.

* `Text.placeValue`, `Text.decimalValue_eq_placeValue`: the value of digits by their places is the
  value that reading adds up.
* `Parser.number_run_append`, `Parser.number_eq_ok_iff`: the number at the front of an input.
* `Text.decimalValue_zeros_append`: a numeral behind zeros denotes its number.
* `Parser.number_decodes_decimals` puts them together.
-/

namespace LineGrammar

namespace Text

/-- The number that digits denote by their places. The last digit counts once, and each digit ten
times as much as the one behind it. -/
def placeValue (digits : Text) : Nat :=
  Nat.ofDigits 10 (digits.reverse.map fun c => c.toNat - '0'.toNat)

/-- **Reading adds up the digits by their places.** -/
theorem decimalValue_eq_placeValue (digits : Text) : decimalValue digits = placeValue digits := by
  calc decimalValue digits
      = digits.foldl (fun value c => 10 * value + (c.toNat - '0'.toNat)) 0 :=
        Nat.ofDigitChars_eq_foldl
    _ = digits.reverse.foldr (fun c value => 10 * value + (c.toNat - '0'.toNat)) 0 :=
        List.foldl_eq_foldr_reverse
    _ = digits.reverse.foldr (fun c value => c.toNat - '0'.toNat + 10 * value) 0 := by
        simp only [Nat.add_comm]
    _ = placeValue digits := by
        rw [placeValue, Nat.ofDigits_eq_foldr, List.foldr_map]
        rfl

/-- The digits of a number are a run. -/
theorem isRun_zeros_append (zeros n : Nat) :
    IsRun Char.isDigit (List.replicate zeros '0' ++ ofNat n) where
  ne_nil := List.append_ne_nil_of_right_ne_nil _ Nat.toDigits_ne_nil
  all := by
    intro c hc
    rcases List.mem_append.mp hc with hzero | hdigit
    · rw [List.eq_of_mem_replicate hzero]
      rfl
    · exact Nat.isDigit_of_mem_toDigits (by decide) (by decide) hdigit

/-- Zeros in front of a numeral do not count. -/
theorem decimalValue_zeros_append (zeros n : Nat) :
    decimalValue (List.replicate zeros '0' ++ ofNat n) = n := by
  rw [decimalValue, Nat.ofDigitChars_append, Nat.ofDigitChars_replicate_zero, Nat.mul_zero, ofNat,
    Nat.ofDigitChars_ten_toDigits]

end Text

namespace Parser

open Text (IsRun Stops LongestRun placeValue decimalValue)

variable {input digits rest : Text}

/-- **The number at the front of an input.** A run of digits is consumed as a whole, and read if the
number that it denotes has 64 bits. -/
theorem number_run_append (run : IsRun Char.isDigit digits) (stops : Stops Char.isDigit rest) :
    number (digits ++ rest) =
      if decimalValue digits < 2 ^ 64 then .ok ⟨UInt64.ofNat (decimalValue digits), rest⟩
      else .error (.numberOutOfRange digits) := by
  have taken : takeWhile1 "number".toList Char.isDigit (digits ++ rest) = .ok ⟨digits, rest⟩ :=
    takeWhile1_eq_ok_iff.mpr ⟨run, stops, rfl⟩
  rw [number, taken]
  by_cases small : decimalValue digits < 2 ^ 64
  · have found : Text.word64? digits = some (UInt64.ofNat (decimalValue digits)) := if_pos small
    rw [if_pos small]
    simp only [ParseResult.andThen, found]
  · have missing : Text.word64? digits = none :=
      Text.word64?_eq_none_iff.mpr (Nat.le_of_not_lt small)
    rw [if_neg small]
    simp only [ParseResult.andThen, missing]

/-- The number at the front of an input that is cut behind its digits. -/
theorem number_of_longestRun (cut : LongestRun Char.isDigit input digits rest)
    (nonempty : digits ≠ []) :
    number input =
      if placeValue digits < 2 ^ 64 then .ok ⟨UInt64.ofNat (placeValue digits), rest⟩
      else .error (.numberOutOfRange digits) := by
  rw [cut.text_eq, number_run_append ⟨nonempty, cut.all⟩ cut.stops,
    Text.decimalValue_eq_placeValue]

/-- The value read is the one that the digits denote, and what is left is all that is behind
them. -/
theorem number_eq_ok_iff (cut : LongestRun Char.isDigit input digits rest) (nonempty : digits ≠ [])
    {value : UInt64} {residue : Text} :
    number input = .ok ⟨value, residue⟩ ↔ value.toNat = placeValue digits ∧ residue = rest := by
  rw [number_of_longestRun cut nonempty]
  by_cases small : placeValue digits < 2 ^ 64
  · rw [if_pos small]
    constructor
    · intro h
      cases h
      exact ⟨UInt64.toNat_ofNat_of_lt' small, rfl⟩
    · rintro ⟨hvalue, rfl⟩
      obtain rfl : UInt64.ofNat (placeValue digits) = value := by
        rw [← hvalue, UInt64.ofNat_toNat]
      rfl
  · rw [if_neg small]
    constructor
    · intro h
      cases h
    · rintro ⟨hvalue, -⟩
      -- A value of 64 bits is never that large.
      have bounded := value.toNat_lt
      omega

/-- Where no digit is in front, no number is. -/
theorem number_of_stops (stops : Stops Char.isDigit input) :
    number input = .error (.noMatch "number".toList input) := by
  rw [number, takeWhile1_eq_error_iff.mpr ⟨stops, rfl⟩, ParseResult.andThen_error]

/-- **Numbers are exactly the decimals of 64 bits.** Every input is cut behind the longest run of
digits in front of it. Without digits the number is an empty match that shows 32 characters of the
input at most. With digits it is the number that they denote by their places, however many they
are, and what is behind them is left; it is read exactly when it is at most `2 ^ 64 - 1`, and is
otherwise out of range with an error that holds all of the digits. So the numeral of a number of 64
bits, with zeros in front of it and any text that does not begin with a digit behind it, is read as
that number. -/
theorem number_decodes_decimals :
    (∀ input, (∃ digits rest, LongestRun Char.isDigit input digits rest) ∧
      ∀ digits rest, LongestRun Char.isDigit input digits rest →
        (digits = [] → number input = .error (.emptyMatch "number".toList (input.cutTo 32))) ∧
        (digits ≠ [] →
          (∀ (value : UInt64) residue, number input = .ok ⟨value, residue⟩ ↔
            value.toNat = placeValue digits ∧ residue = rest) ∧
          (number input = .ok ⟨UInt64.ofNat (placeValue digits), rest⟩ ↔
            placeValue digits ≤ 2 ^ 64 - 1) ∧
          (2 ^ 64 - 1 < placeValue digits → number input = .error (.numberOutOfRange digits)))) ∧
    ∀ n zeros rest, n < 2 ^ 64 → Stops Char.isDigit rest →
      number (List.replicate zeros '0' ++ Text.ofNat n ++ rest) = .ok ⟨UInt64.ofNat n, rest⟩ := by
  refine ⟨?_, ?_⟩
  · intro input
    refine ⟨⟨_, _, Text.longestRun_takeWhile Char.isDigit input⟩, ?_⟩
    intro digits rest cut
    refine ⟨?_, ?_⟩
    · rintro rfl
      rw [cut.text_eq, List.nil_append, number_of_stops cut.stops, ParseError.noMatch,
        Text.snippet_eq_cutTo]
    · intro nonempty
      refine ⟨fun value residue => number_eq_ok_iff cut nonempty, ?_, ?_⟩
      · rw [number_eq_ok_iff cut nonempty]
        constructor
        · rintro ⟨same, -⟩
          have bounded := (UInt64.ofNat (placeValue digits)).toNat_lt
          omega
        · intro small
          have fits : placeValue digits < 2 ^ 64 := by omega
          exact ⟨UInt64.toNat_ofNat_of_lt' fits, rfl⟩
      · intro large
        rw [number_of_longestRun cut nonempty, if_neg (by omega)]
  · intro n zeros rest small stops
    have answer := number_run_append (Text.isRun_zeros_append zeros n) stops
    rw [Text.decimalValue_zeros_append] at answer
    rw [answer, if_pos small]

/-- The last number of 64 bits behind zeros, and the first one that has more. -/
theorem number_decodes_decimals_at_limit :
    number (List.replicate 3 '0' ++ Text.ofNat (2 ^ 64 - 1) ++ ";1".toList) =
      .ok ⟨UInt64.ofNat (2 ^ 64 - 1), ";1".toList⟩ ∧
    number "18446744073709551616;1".toList =
      .error (.numberOutOfRange "18446744073709551616".toList) := by
  obtain ⟨decodes, written⟩ := number_decodes_decimals
  refine ⟨written _ 3 _ (by decide) (Text.stops_cons rfl _), ?_⟩
  have cut : LongestRun Char.isDigit "18446744073709551616;1".toList
      "18446744073709551616".toList ";1".toList := by
    have found := Text.longestRun_takeWhile Char.isDigit "18446744073709551616;1".toList
    have front : "18446744073709551616;1".toList.takeWhile Char.isDigit =
        "18446744073709551616".toList := by
      decide +kernel
    have back : "18446744073709551616;1".toList.dropWhile Char.isDigit = ";1".toList := by
      decide +kernel
    rwa [front, back] at found
  exact (((decodes _).2 _ _ cut).2 (by decide)).2.2 (by decide +kernel)

end Parser

end LineGrammar
