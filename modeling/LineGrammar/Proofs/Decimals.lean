import LineGrammar.Duration
import LineGrammar.Proofs.Numbers
import Mathlib.Algebra.Order.Field.Basic
import Mathlib.Algebra.Order.Field.Rat
import Mathlib.Tactic.FieldSimp
import Mathlib.Tactic.Linarith
import Mathlib.Tactic.Positivity

/-!
Amounts with two decimals. An amount in a larger unit is rounded three times: the number of
microseconds and its quotient by the unit to binary numbers of 53 bits, and that quotient to
hundredths. Each rounding is as close as its grid allows, so what is written is the amount up to
half a hundredth and a small part of the amount itself.

* `Duration.abs_roundBinary_sub_le`: a binary rounding changes an amount by a 2^53rd at most.
* `Text.Hundredths`, `Duration.hundredths_twoDecimals`: the numeral of a number of hundredths.
* `Duration.exists_hundredths_inUnit`: how close a written amount is.
-/

namespace LineGrammar

/-! ### Numerals with two decimals -/

namespace Text

/-- A numeral with a point in front of its last two digits, which denotes so many hundredths. -/
def Hundredths (numeral : Text) (count : Nat) : Prop :=
  ∃ whole decimals, numeral = whole ++ '.' :: decimals ∧ IsRun Char.isDigit whole ∧
    IsRun Char.isDigit decimals ∧ decimals.length = 2 ∧ decimalValue (whole ++ decimals) = count

/-- The digits of a number are a run. -/
theorem isRun_ofNat (n : Nat) : IsRun Char.isDigit (ofNat n) := isRun_zeros_append 0 n

end Text

namespace Duration

open Text (IsRun Hundredths decimalValue ofNat)

/-- Two decimals are the digits of a number below a hundred, with a zero in front of a single
one. -/
theorem exists_zeros_append {n : Nat} (small : n < 100) :
    ∃ zeros, (if (ofNat n).length < 2 then '0' :: ofNat n else ofNat n) =
        List.replicate zeros '0' ++ ofNat n ∧
      (List.replicate zeros '0' ++ ofNat n).length = 2 := by
  have most : (ofNat n).length ≤ 2 := (Nat.length_toDigits_le_iff (by decide) (by decide)).mpr small
  by_cases one : (ofNat n).length < 2
  · rw [if_pos one]
    have some : 0 < (ofNat n).length := List.length_pos_of_ne_nil (Text.isRun_ofNat n).ne_nil
    refine ⟨1, rfl, ?_⟩
    rw [List.length_append, List.length_replicate]
    omega
  · rw [if_neg one]
    refine ⟨0, rfl, ?_⟩
    rw [List.length_append, List.length_replicate]
    omega

theorem hundredths_twoDecimals (num den : Nat) :
    Hundredths (twoDecimals num den) (roundHalfEven (100 * num) den) := by
  generalize hcount : roundHalfEven (100 * num) den = count
  obtain ⟨zeros, padded, two⟩ := exists_zeros_append (Nat.mod_lt count (by decide : 0 < 100))
  refine ⟨ofNat (count / 100), List.replicate zeros '0' ++ ofNat (count % 100), ?_,
    Text.isRun_ofNat _, Text.isRun_zeros_append zeros _, two, ?_⟩
  · rw [twoDecimals, hcount, padded, List.append_assoc]
    rfl
  · -- The digits in front of the decimals count a hundred times as much.
    have value : decimalValue (List.replicate zeros '0' ++ ofNat (count % 100)) = count % 100 :=
      Text.decimalValue_zeros_append zeros _
    rw [decimalValue] at value
    rw [decimalValue, Nat.ofDigitChars_append, Nat.ofDigitChars_eq_ofDigitChars_zero, two, value,
      ofNat, Nat.ofDigitChars_ten_toDigits]
    exact Nat.div_add_mod count 100

/-! ### Rounding to a grid -/

variable (num : Nat) {den : Nat}

/-- The whole number nearest to a quotient is half a unit away at most. -/
theorem abs_roundHalfEven_sub_le (positive : 0 < den) :
    |(roundHalfEven num den : ℚ) - num / den| ≤ 1 / 2 := by
  obtain ⟨low, high⟩ := roundHalfEven_close num positive
  have hden : (0 : ℚ) < den := by exact_mod_cast positive
  have low : (2 * num : ℚ) ≤ 2 * (den * roundHalfEven num den) + den := by exact_mod_cast low
  have high : (2 * (den * roundHalfEven num den) : ℚ) ≤ 2 * num + den := by exact_mod_cast high
  rw [abs_le]
  constructor
  · have : (num / den : ℚ) ≤ roundHalfEven num den + 1 / 2 := by
      rw [div_le_iff₀ hden]
      linarith
    linarith
  · have : (roundHalfEven num den - 1 / 2 : ℚ) ≤ num / den := by
      rw [le_div_iff₀ hden]
      linarith
    linarith

/-- A quotient is scaled so far up that its whole part has 53 bits at least; so the bits that are
dropped from it are worth a 2^52nd of it at most. -/
theorem two_pow_drop_le (some : 0 < num) (positive : 0 < den) :
    den * 2 ^ (Nat.log2 (num * 2 ^ (53 + Nat.log2 den) / den) - 52) * 2 ^ 52 ≤
      num * 2 ^ (53 + Nat.log2 den) := by
  generalize hscaled : num * 2 ^ (53 + Nat.log2 den) = scaled
  have large : 2 ^ 52 ≤ scaled / den := by
    rw [Nat.le_div_iff_mul_le positive, ← hscaled]
    calc 2 ^ 52 * den ≤ 2 ^ 52 * 2 ^ (Nat.log2 den + 1) :=
          Nat.mul_le_mul_left _ (Nat.le_of_lt Nat.lt_log2_self)
      _ = 1 * 2 ^ (53 + Nat.log2 den) := by rw [← Nat.pow_add, Nat.one_mul]; congr 1; omega
      _ ≤ num * 2 ^ (53 + Nat.log2 den) := Nat.mul_le_mul_right _ some
  have nonzero : scaled / den ≠ 0 := by
    have := Nat.two_pow_pos 52
    omega
  have bits : 52 ≤ Nat.log2 (scaled / den) := (Nat.le_log2 nonzero).mpr large
  calc den * 2 ^ (Nat.log2 (scaled / den) - 52) * 2 ^ 52
      = den * 2 ^ Nat.log2 (scaled / den) := by
        rw [Nat.mul_assoc, ← Nat.pow_add, Nat.sub_add_cancel bits]
    _ ≤ den * (scaled / den) := Nat.mul_le_mul_left den (Nat.log2_self_le nonzero)
    _ ≤ scaled := Nat.mul_div_le scaled den

/-- **A binary rounding changes a quotient by a 2^53rd at most.** -/
theorem abs_roundBinary_sub_le (positive : 0 < den) :
    |((roundBinary num den).1 : ℚ) / (roundBinary num den).2 - num / den| ≤
      num / den / 2 ^ 53 := by
  rcases Nat.eq_zero_or_pos num with rfl | some
  · simp [roundBinary, roundHalfEven]
  have dropped := two_pow_drop_le num some positive
  rw [roundBinary]
  simp only [Nat.shiftLeft_eq, Nat.one_mul]
  generalize 53 + Nat.log2 den = shift at *
  generalize Nat.log2 (num * 2 ^ shift / den) - 52 = drop at *
  have near := abs_roundHalfEven_sub_le (num * 2 ^ shift)
    (Nat.mul_pos positive (Nat.two_pow_pos drop))
  generalize roundHalfEven (num * 2 ^ shift) (den * 2 ^ drop) = whole at *
  have hden : (0 : ℚ) < den := by exact_mod_cast positive
  -- One step of the grid that the quotient is rounded to.
  obtain ⟨step, hstep⟩ : ∃ step : ℚ, step = 2 ^ drop / 2 ^ shift := ⟨_, rfl⟩
  have hpos : 0 < step := by rw [hstep]; positivity
  have small : step ≤ num / den / 2 ^ 52 := by
    have dropped : (den * 2 ^ drop * 2 ^ 52 : ℚ) ≤ num * 2 ^ shift := by exact_mod_cast dropped
    rw [hstep, div_div, div_le_div_iff₀ (by positivity) (by positivity)]
    linarith
  have scaled : ((whole * 2 ^ drop : ℕ) : ℚ) / (2 ^ shift : ℕ) - num / den =
      step * (whole - ((num * 2 ^ shift : ℕ) : ℚ) / (den * 2 ^ drop : ℕ)) := by
    rw [hstep]
    push_cast
    field_simp
  calc |((whole * 2 ^ drop : ℕ) : ℚ) / (2 ^ shift : ℕ) - num / den|
      = step * |whole - ((num * 2 ^ shift : ℕ) : ℚ) / (den * 2 ^ drop : ℕ)| := by
        rw [scaled, abs_mul, abs_of_pos hpos]
    _ ≤ step * (1 / 2) := mul_le_mul_of_nonneg_left near hpos.le
    _ ≤ num / den / 2 ^ 53 := by linarith

/-! ### Amounts in a unit -/

theorem roundBinary_snd_pos (num den : Nat) : 0 < (roundBinary num den).2 := by
  rw [roundBinary]
  simp only [Nat.shiftLeft_eq, Nat.one_mul]
  exact Nat.two_pow_pos _

/-- **What is written of an amount is close to it.** The numeral of a number of microseconds in a
larger unit has two decimals. It differs from the exact quotient by half of the last decimal at
most, up to a 2^51st part of the quotient. -/
theorem exists_hundredths_inUnit (micros : Nat) {scale : Nat} (positive : 0 < scale) :
    ∃ count, Hundredths (inUnit micros scale) count ∧
      |(count / 100 : ℚ) - micros / scale| ≤ 1 / 200 + micros / scale / 2 ^ 51 := by
  have first := abs_roundBinary_sub_le micros Nat.one_pos
  have firstPos := roundBinary_snd_pos micros 1
  rw [inUnit]
  generalize roundBinary micros 1 = binary at *
  have second := abs_roundBinary_sub_le binary.1 (Nat.mul_pos firstPos positive)
  have secondPos := roundBinary_snd_pos binary.1 (binary.2 * scale)
  dsimp only
  generalize roundBinary binary.1 (binary.2 * scale) = quotient at *
  have third := abs_roundHalfEven_sub_le (100 * quotient.1) secondPos
  refine ⟨_, hundredths_twoDecimals quotient.1 quotient.2, ?_⟩
  generalize roundHalfEven (100 * quotient.1) quotient.2 = count at *
  have hscale : (0 : ℚ) < scale := by exact_mod_cast positive
  -- All three roundings in the larger unit.
  have inScale : |(binary.1 / (binary.2 * scale : ℕ) : ℚ) - micros / scale| ≤
      micros / scale / 2 ^ 53 := by
    have divided : (binary.1 / (binary.2 * scale : ℕ) : ℚ) - micros / scale =
        (binary.1 / binary.2 - micros / (1 : ℕ)) / scale := by
      rw [Nat.cast_mul, Nat.cast_one, div_one, sub_div, div_div]
    calc |(binary.1 / (binary.2 * scale : ℕ) : ℚ) - micros / scale|
        = |(binary.1 / binary.2 : ℚ) - micros / (1 : ℕ)| / scale := by
          rw [divided, abs_div, abs_of_pos hscale]
      _ ≤ micros / (1 : ℕ) / 2 ^ 53 / scale := div_le_div_of_nonneg_right first hscale.le
      _ = micros / scale / 2 ^ 53 := by rw [Nat.cast_one, div_one, div_right_comm]
  have amount : (0 : ℚ) ≤ micros / scale := by positivity
  push_cast at third
  rw [abs_le] at *
  rw [mul_div_assoc] at third
  constructor <;> linarith [inScale.1, inScale.2, second.1, second.2, third.1, third.2]

end Duration

end LineGrammar
