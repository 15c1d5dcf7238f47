import ConstantResolution.Decimal.Shortest
import ConstantResolution.Proofs.Binary64.Arithmetic

/-! # Where the shortest decimal lies

The shortest decimal of a number that is not zero lies in the interval of the values that are read back as that
number (`covers_shortest`).  So it has digits, and it exceeds the number by at most half a unit in the last
place. -/

namespace ConstantResolution.Decimal

variable {x : Binary64}

/-- The value of a decimal. -/
def value (d : Decimal) : ℚ := d.digits * (10 : ℚ) ^ d.exponent

/-- A decimal lies between the ends of an interval. -/
def Interval.Covers (i : Interval) (d : Decimal) : Prop :=
  (i.low : ℚ) / i.denominator ≤ d.value ∧ d.value ≤ i.high / i.denominator

theorem ten_zpow (e : ℤ) : (10 : ℚ) ^ e = (10 : ℚ) ^ e.toNat / (10 : ℚ) ^ (-e).toNat := by
  rcases le_total 0 e with he | he
  · obtain ⟨n, rfl⟩ := Int.eq_ofNat_of_zero_le he
    simp
  · obtain ⟨n, hn⟩ := Int.eq_ofNat_of_zero_le (Int.neg_nonneg_of_nonpos he)
    obtain rfl : e = -n := by omega
    simp

/-! ### Grids -/

/-- A rounded quotient is one of the two neighbours of the exact one. -/
theorem roundDiv_eq_or (tie : Tie) (num den : Nat) :
    roundDiv tie num den = num / den ∨ roundDiv tie num den = num / den + 1 := by
  unfold roundDiv
  cases tie with
  | up =>
      dsimp only
      split_ifs
      · exact Or.inl rfl
      · exact Or.inr rfl
      · exact Or.inr rfl
  | toEven =>
      dsimp only
      split_ifs
      · exact Or.inl rfl
      · exact Or.inr rfl
      · exact Or.inl rfl
      · exact Or.inr rfl

/-- What an interval holds in a grid lies between its ends. -/
theorem Interval.covers_of_holds {i : Interval} (hd : 0 < i.denominator) {place : ℤ} {c : Nat}
    (h : i.holds (Nat.pow 10 (-place).toNat) (i.denominator * Nat.pow 10 place.toNat) c = true) :
    i.Covers ⟨c, place⟩ := by
  have hbounds : i.low * Nat.pow 10 (-place).toNat ≤ c * (i.denominator * Nat.pow 10 place.toNat) ∧
      c * (i.denominator * Nat.pow 10 place.toNat) ≤ i.high * Nat.pow 10 (-place).toNat := by
    unfold holds at h
    split at h
    · simpa only [Bool.and_eq_true, decide_eq_true_eq] using h
    · simp only [Bool.and_eq_true, decide_eq_true_eq] at h
      exact ⟨h.1.le, h.2.le⟩
  have hd' : (0 : ℚ) < i.denominator := Nat.cast_pos.mpr hd
  have hp : (0 : ℚ) < (10 : ℚ) ^ (-place).toNat := by positivity
  have hlow : (i.low : ℚ) * (10 : ℚ) ^ (-place).toNat ≤ c * (i.denominator * (10 : ℚ) ^ place.toNat) := by
    exact_mod_cast hbounds.1
  have hhigh : (c : ℚ) * (i.denominator * (10 : ℚ) ^ place.toNat) ≤ i.high * (10 : ℚ) ^ (-place).toNat := by
    exact_mod_cast hbounds.2
  unfold Covers Decimal.value
  dsimp only
  rw [ten_zpow, ← mul_div_assoc]
  constructor
  · rw [div_le_div_iff₀ hd' hp]
    linarith
  · rw [div_le_div_iff₀ hp hd']
    linarith

theorem Interval.covers_inGrid {i : Interval} (hd : 0 < i.denominator) {tie : Tie} {place : ℤ} {d : Decimal}
    (h : i.inGrid tie place = some d) : i.Covers d := by
  unfold inGrid at h
  dsimp only at h
  split at h
  · rename_i hbelow habove
    rw [← Option.some.inj h]
    refine covers_of_holds hd ?_
    rcases roundDiv_eq_or tie (i.value * Nat.pow 10 (-place).toNat) (i.denominator * Nat.pow 10 place.toNat)
      with heq | heq <;> rw [heq]
    · exact hbelow
    · exact habove
  · rename_i hbelow _
    rw [← Option.some.inj h]
    exact covers_of_holds hd hbelow
  · rename_i _ habove
    rw [← Option.some.inj h]
    exact covers_of_holds hd habove
  · exact nomatch h

/-! ### Other decimals -/

/-- Zeros that go from the digits to the exponent leave the value. -/
theorem value_strip (fuel : Nat) (d : Decimal) : (strip fuel d).value = d.value := by
  induction fuel generalizing d with
  | zero => rfl
  | succ fuel ih =>
      unfold strip
      split
      · rename_i h
        have hdigits : (d.digits : ℚ) = (d.digits / 10 : Nat) * 10 := by
          have : d.digits = d.digits / 10 * 10 := by omega
          exact_mod_cast this
        rw [ih]
        unfold value
        dsimp only
        rw [zpow_add_one₀ (by norm_num), hdigits]
        ring
      · rfl

/-- The value itself, when the denominator is a power of two. -/
theorem value_exact {i : Interval} {k : Nat} (h : i.denominator = 2 ^ k) :
    i.exact.value = (i.value : ℚ) / i.denominator := by
  have hlog : i.denominator.log2 = k := by rw [h, Nat.log2_two_pow]
  unfold Interval.exact value
  dsimp only
  rw [hlog, h, zpow_neg, zpow_natCast]
  push_cast [Nat.pow_eq]
  rw [show (10 : ℚ) = 2 * 5 by norm_num, mul_pow]
  field_simp

/-! ### The interval of a number -/

theorem interval_denominator (x : Binary64) : (interval x).denominator = 2 ^ (2 - x.exponent).toNat := rfl

theorem significand_pos (h : x.isZero = false) : 0 < x.significand := by
  rw [Binary64.isZero, beq_eq_false_iff_ne] at h
  unfold Binary64.significand
  split
  · rename_i hb
    unfold Binary64.biased at hb
    unfold Binary64.fraction
    unfold Binary64.hiddenBit at *
    omega
  · unfold Binary64.hiddenBit
    omega

/-- The upper end is half a unit of the last place above the number. -/
theorem interval_high (x : Binary64) : ((interval x).high : ℚ) / (interval x).denominator =
    (x.significand + 1 / 2) * (2 : ℚ) ^ x.exponent := by
  have hquarter : (2 : ℚ) ^ x.exponent = 4 * (2 : ℚ) ^ (x.exponent - 2) := by
    rw [zpow_sub₀ two_ne_zero, zpow_ofNat]
    ring
  have hneg : (-(x.exponent - 2)).toNat = (2 - x.exponent).toNat := by
    congr 1
    ring
  rw [hquarter, Binary64.two_zpow, hneg]
  unfold interval
  push_cast [Nat.pow_eq]
  ring

/-- **The shortest decimal lies in the interval of its number.** -/
theorem covers_shortest (tie : Tie) (h : x.isZero = false) : (interval x).Covers (shortest tie x) := by
  have hd : 0 < (interval x).denominator := by
    rw [interval_denominator]
    positivity
  have hcovers : ∀ d : Decimal, (interval x).Covers d → (interval x).Covers (strip 800 d) := by
    intro d hd
    unfold Interval.Covers
    rw [value_strip]
    exact hd
  unfold shortest
  rw [h, if_neg Bool.false_ne_true]
  dsimp only
  apply hcovers
  cases hfound : (List.range 17).findSome? fun n =>
      (interval x).inGrid tie ((interval x).scale - (n + 1 : Nat)) with
  | some d =>
      obtain ⟨n, -, hn⟩ := List.exists_of_findSome?_eq_some hfound
      exact Interval.covers_inGrid hd hn
  | none =>
      have hle : (interval x).low ≤ (interval x).value ∧ (interval x).value ≤ (interval x).high := by
        unfold interval
        dsimp only
        exact ⟨Nat.mul_le_mul_right _ (Nat.sub_le _ _), Nat.mul_le_mul_right _ (Nat.le_add_right _ _)⟩
      unfold Interval.Covers
      rw [Option.getD_none, value_exact (interval_denominator x)]
      have hd' : (0 : ℚ) < (interval x).denominator := Nat.cast_pos.mpr hd
      exact ⟨div_le_div_of_nonneg_right (by exact_mod_cast hle.1) hd'.le,
        div_le_div_of_nonneg_right (by exact_mod_cast hle.2) hd'.le⟩

/-- **The shortest decimal exceeds its number by at most half a unit in the last place.** -/
theorem value_shortest_le (tie : Tie) (h : x.isZero = false) :
    (shortest tie x).value ≤ (x.significand + 1 / 2) * (2 : ℚ) ^ x.exponent := by
  rw [← interval_high]
  exact (covers_shortest tie h).2

/-- A number that is not zero has a digit that is not zero. -/
theorem digits_shortest_ne_zero (tie : Tie) (h : x.isZero = false) : (shortest tie x).digits ≠ 0 := by
  have hsig := significand_pos h
  have hlow : 0 < (interval x).low := by
    unfold interval
    dsimp only
    refine Nat.mul_pos ?_ (Nat.two_pow_pos _)
    split <;> omega
  have hpos : (0 : ℚ) < (interval x).low / (interval x).denominator := by
    refine div_pos (Nat.cast_pos.mpr hlow) (Nat.cast_pos.mpr ?_)
    rw [interval_denominator]
    positivity
  intro hzero
  have hvalue := hpos.trans_le (covers_shortest tie h).1
  unfold value at hvalue
  rw [hzero, Nat.cast_zero, zero_mul] at hvalue
  exact lt_irrefl _ hvalue

end ConstantResolution.Decimal
