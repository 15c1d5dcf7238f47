import ConstantResolution.Binary64.Arithmetic
import Mathlib.Algebra.Order.Field.Power
import Mathlib.Data.Rat.Cast.Order
import Mathlib.Tactic.FieldSimp
import Mathlib.Tactic.GCongr
import Mathlib.Tactic.Linarith
import Mathlib.Tactic.NormNum
import Mathlib.Tactic.Positivity
import Mathlib.Tactic.Ring

/-! # How far rounding goes

The magnitude of a finite number is a rational (`value`).  A quotient that is at least one and lies below the
middle between the greatest number and the power of two above it is rounded to a finite number, which exceeds it
by at most one part in 2⁵³ (`ofQuotient_spec`).  So the product of two naturals, each of them rounded first,
stays finite as long as their exact product keeps a distance of seven half steps to 2¹⁰²⁴
(`not_isInfinite_mul_ofNat`). -/

namespace ConstantResolution.Binary64

variable {num den : Nat}

/-- The magnitude of a finite number. -/
def value (x : Binary64) : ℚ := x.numerator / x.denominator

/-- Half of the step between the greatest numbers; 2⁵⁴ of it are the power of two above them. -/
def halfStep : ℚ := (2 : ℚ) ^ (970 : ℤ)

theorem halfStep_pos : 0 < halfStep := zpow_pos two_pos _

theorem le_halfStep : (2 : ℚ) ^ 64 ≤ halfStep := by
  rw [halfStep, zpow_ofNat]
  exact pow_le_pow_right₀ one_le_two (by decide)

/-- The power of two above the greatest number has 309 digits. -/
theorem mul_halfStep_lt : (2 : ℚ) ^ 54 * halfStep < (10 : ℚ) ^ 309 := by
  have hpow : (2 : ℕ) ^ 1024 < 10 ^ 309 := by decide +kernel
  have hsum : (2 : ℚ) ^ 1024 = 2 ^ 54 * 2 ^ 970 := pow_add 2 54 970
  rw [halfStep, zpow_ofNat, ← hsum]
  exact_mod_cast hpow

/-- A power of two as a quotient of naturals. -/
theorem two_zpow (g : ℤ) : (2 : ℚ) ^ g = (2 : ℚ) ^ g.toNat / (2 : ℚ) ^ (-g).toNat := by
  rcases le_total 0 g with hg | hg
  · obtain ⟨n, rfl⟩ := Int.eq_ofNat_of_zero_le hg
    simp
  · obtain ⟨n, hn⟩ := Int.eq_ofNat_of_zero_le (Int.neg_nonneg_of_nonpos hg)
    obtain rfl : g = -n := by omega
    simp

theorem value_eq (x : Binary64) : x.value = x.significand * (2 : ℚ) ^ x.exponent := by
  unfold value numerator denominator
  rw [two_zpow]
  push_cast [Nat.pow_eq]
  rw [mul_div_assoc]

/-! ### Bit patterns -/

/-- A magnitude below the sign bit is kept. -/
theorem magnitude_ofMagnitude (negative : Bool) {k : Nat} (h : k < signBit) :
    (ofMagnitude negative k).magnitude = k := by
  unfold signBit at h
  cases negative with
  | false =>
      have hcode : (ofMagnitude false k).code = k := by
        show (UInt64.ofNat k).toNat = k
        rw [UInt64.toNat_ofNat']
        omega
      rw [magnitude, hcode, signBit]
      omega
  | true =>
      have hcode : (ofMagnitude true k).code = 0x8000000000000000 + k := by
        show (UInt64.ofNat (0x8000000000000000 + k)).toNat = _
        rw [UInt64.toNat_ofNat']
        omega
      rw [magnitude, hcode, signBit]
      omega

/-- The number with a biased exponent and a fraction. -/
theorem value_ofMagnitude (negative : Bool) {e f : Nat} (he : 0 < e) (he' : e < 0x7FF) (hf : f < hiddenBit) :
    (ofMagnitude negative (e * hiddenBit + f)).isFinite = true ∧
      (ofMagnitude negative (e * hiddenBit + f)).value =
        ((hiddenBit + f : Nat) : ℚ) * (2 : ℚ) ^ ((e : ℤ) - 1075) := by
  have hmagnitude : (ofMagnitude negative (e * hiddenBit + f)).magnitude = e * hiddenBit + f := by
    refine magnitude_ofMagnitude negative ?_
    unfold hiddenBit signBit at *
    omega
  have hbiased : (ofMagnitude negative (e * hiddenBit + f)).biased = e := by
    rw [biased, hmagnitude]
    unfold hiddenBit at *
    omega
  have hfraction : (ofMagnitude negative (e * hiddenBit + f)).fraction = f := by
    rw [fraction, hmagnitude]
    unfold hiddenBit at *
    omega
  refine ⟨?_, ?_⟩
  · rw [isFinite, hmagnitude, decide_eq_true_eq]
    unfold infinite hiddenBit at *
    omega
  · rw [value_eq, significand, exponent, hbiased, hfraction, if_neg (by omega), if_neg (by omega)]

/-! ### The place of the last digit -/

/-- The test for the last place compares the quotient with a power of two. -/
theorem scaled_lt_iff (hd : 0 < den) (g : ℤ) (c : Nat) :
    num * Nat.pow 2 (-g).toNat < den * Nat.pow 2 g.toNat * c ↔ (num : ℚ) / den < (2 : ℚ) ^ g * c := by
  have hd' : (0 : ℚ) < den := Nat.cast_pos.mpr hd
  have hp : (0 : ℚ) < (2 : ℚ) ^ (-g).toNat := by positivity
  rw [two_zpow, div_lt_iff₀ hd', div_mul_eq_mul_div, div_mul_eq_mul_div, lt_div_iff₀ hp, ← Nat.cast_lt (α := ℚ)]
  push_cast [Nat.pow_eq]
  rw [mul_comm ((2 : ℚ) ^ g.toNat * c) den, mul_assoc (den : ℚ)]

/-- A quotient of naturals lies between the powers of two that their lengths give. -/
theorem quotient_bounds (hn : num ≠ 0) (hd : den ≠ 0) :
    (2 : ℚ) ^ ((num.log2 : ℤ) - den.log2 - 1) ≤ num / den ∧
      (num : ℚ) / den < (2 : ℚ) ^ ((num.log2 : ℤ) - den.log2 + 1) := by
  have hnum : (2 : ℚ) ^ num.log2 ≤ num ∧ (num : ℚ) < (2 : ℚ) ^ (num.log2 + 1) :=
    ⟨by exact_mod_cast Nat.log2_self_le hn, by exact_mod_cast Nat.lt_log2_self⟩
  have hden : (2 : ℚ) ^ den.log2 ≤ den ∧ (den : ℚ) < (2 : ℚ) ^ (den.log2 + 1) :=
    ⟨by exact_mod_cast Nat.log2_self_le hd, by exact_mod_cast Nat.lt_log2_self⟩
  have hpos : (0 : ℚ) < den := lt_of_lt_of_le (by positivity) hden.1
  have hlow : (2 : ℚ) ^ ((num.log2 : ℤ) - den.log2 - 1) = (2 : ℚ) ^ num.log2 / (2 : ℚ) ^ (den.log2 + 1) := by
    rw [sub_sub, zpow_sub₀ two_ne_zero]
    norm_cast
  have hhigh : (2 : ℚ) ^ ((num.log2 : ℤ) - den.log2 + 1) = (2 : ℚ) ^ (num.log2 + 1) / (2 : ℚ) ^ den.log2 := by
    rw [sub_add_eq_add_sub, zpow_sub₀ two_ne_zero]
    norm_cast
  rw [hlow, hhigh]
  exact ⟨div_le_div₀ (Nat.cast_nonneg num) hnum.1 hpos hden.2.le,
    div_lt_div₀ hnum.2 hden.1 (by positivity) (by positivity)⟩

/-- Fifty-three binary digits are kept of a quotient that is at least one. -/
theorem lastPlace_spec (hd : 0 < den) (h : den ≤ num) :
    -52 ≤ lastPlace num den ∧ (2 : ℚ) ^ (lastPlace num den + 52) ≤ num / den ∧
      (num : ℚ) / den < (2 : ℚ) ^ (lastPlace num den + 53) := by
  have hpos : num ≠ 0 ∧ den ≠ 0 := by omega
  obtain ⟨hlow, hhigh⟩ := quotient_bounds hpos.1 hpos.2
  have hone : (1 : ℚ) ≤ num / den := by
    rw [one_le_div (Nat.cast_pos.mpr hd)]
    exact_mod_cast h
  have hhidden : (hiddenBit : ℚ) = (2 : ℚ) ^ (52 : ℤ) := by
    norm_num [hiddenBit]
  -- the last place before the bound for subnormal numbers
  have hexact : ∀ g : ℤ, (2 : ℚ) ^ (g + 52) ≤ num / den → (num : ℚ) / den < (2 : ℚ) ^ (g + 53) →
      max g (-1074) = g ∧ -52 ≤ g := by
    intro g _ hg
    have hplace : -52 ≤ g := by
      by_contra hlt
      have hle : (2 : ℚ) ^ (g + 53) ≤ 1 := zpow_le_one_of_nonpos₀ one_le_two (by omega)
      linarith
    exact ⟨max_eq_left (by omega), hplace⟩
  unfold lastPlace
  dsimp only
  split
  · rename_i htest
    rw [scaled_lt_iff hd, hhidden, ← zpow_add₀ two_ne_zero] at htest
    have hlow' : (2 : ℚ) ^ ((num.log2 : ℤ) - den.log2 - 52 - 1 + 52) ≤ num / den := by
      rw [show (num.log2 : ℤ) - den.log2 - 52 - 1 + 52 = num.log2 - den.log2 - 1 by ring]
      exact hlow
    have hhigh' : (num : ℚ) / den < (2 : ℚ) ^ ((num.log2 : ℤ) - den.log2 - 52 - 1 + 53) := by
      rw [show (num.log2 : ℤ) - den.log2 - 52 - 1 + 53 = num.log2 - den.log2 - 52 + 52 by ring]
      exact htest
    obtain ⟨hmax, hplace⟩ := hexact _ hlow' hhigh'
    rw [hmax]
    exact ⟨hplace, hlow', hhigh'⟩
  · rename_i htest
    rw [scaled_lt_iff hd, hhidden, ← zpow_add₀ two_ne_zero] at htest
    have hhigh' : (num : ℚ) / den < (2 : ℚ) ^ ((num.log2 : ℤ) - den.log2 - 52 + 53) := by
      rw [show (num.log2 : ℤ) - den.log2 - 52 + 53 = num.log2 - den.log2 + 1 by ring]
      exact hhigh
    obtain ⟨hmax, hplace⟩ := hexact _ (le_of_not_gt htest) hhigh'
    rw [hmax]
    exact ⟨hplace, le_of_not_gt htest, hhigh'⟩

/-! ### Rounding -/

/-- The rounded significand is within half a unit of the quotient in units of the last place. -/
theorem roundedSignificand_spec (num : Nat) (hd : 0 < den) (q : ℤ) :
    (roundedSignificand num den q : ℚ) * (2 : ℚ) ^ q ≤ num / den + (2 : ℚ) ^ q / 2 ∧
      (num : ℚ) / den ≤ roundedSignificand num den q * (2 : ℚ) ^ q + (2 : ℚ) ^ q / 2 := by
  have hpow : ∀ n, Nat.pow 2 n = 2 ^ n := fun _ => rfl
  have hd' : (0 : ℚ) < den := Nat.cast_pos.mpr hd
  have hunit : 0 < den * Nat.pow 2 q.toNat := Nat.mul_pos hd (Nat.two_pow_pos _)
  obtain ⟨hle, hge⟩ := roundDiv_near .toEven (num * Nat.pow 2 (-q).toNat) _ hunit
  have hle' : (2 : ℚ) * (roundedSignificand num den q * (den * (2 : ℚ) ^ q.toNat)) ≤
      2 * (num * (2 : ℚ) ^ (-q).toNat) + den * (2 : ℚ) ^ q.toNat := by
    rw [hpow, hpow] at hle
    exact_mod_cast hle
  have hge' : (2 : ℚ) * (num * (2 : ℚ) ^ (-q).toNat) ≤
      2 * (roundedSignificand num den q * (den * (2 : ℚ) ^ q.toNat)) + den * (2 : ℚ) ^ q.toNat := by
    rw [hpow, hpow] at hge
    exact_mod_cast hge
  have hp : (0 : ℚ) < (2 : ℚ) ^ (-q).toNat := by positivity
  rw [two_zpow q]
  constructor
  · rw [← sub_nonneg]
    have : (num : ℚ) / den + (2 : ℚ) ^ q.toNat / (2 : ℚ) ^ (-q).toNat / 2 -
        roundedSignificand num den q * ((2 : ℚ) ^ q.toNat / (2 : ℚ) ^ (-q).toNat) =
        (2 * (num * (2 : ℚ) ^ (-q).toNat) + den * (2 : ℚ) ^ q.toNat -
          2 * (roundedSignificand num den q * (den * (2 : ℚ) ^ q.toNat))) / (2 * den * (2 : ℚ) ^ (-q).toNat) := by
      field_simp
    rw [this]
    exact div_nonneg (sub_nonneg.mpr hle') (by positivity)
  · rw [← sub_nonneg]
    have : roundedSignificand num den q * ((2 : ℚ) ^ q.toNat / (2 : ℚ) ^ (-q).toNat) +
        (2 : ℚ) ^ q.toNat / (2 : ℚ) ^ (-q).toNat / 2 - (num : ℚ) / den =
        (2 * (roundedSignificand num den q * (den * (2 : ℚ) ^ q.toNat)) + den * (2 : ℚ) ^ q.toNat -
          2 * (num * (2 : ℚ) ^ (-q).toNat)) / (2 * den * (2 : ℚ) ^ (-q).toNat) := by
      field_simp
    rw [this]
    exact div_nonneg (sub_nonneg.mpr hge') (by positivity)

/-- **A significand of fifty-three digits is packed exactly**, also when rounding carried into one more. -/
theorem value_packed (negative : Bool) {m : Nat} {q : ℤ} (hq : -52 ≤ q) (hm : hiddenBit ≤ m)
    (hm' : m < 2 * hiddenBit ∨ m = 2 * hiddenBit) (hfit : q < 971 ∨ q = 971 ∧ m < 2 * hiddenBit) :
    (ofMagnitude negative (packed m q)).isFinite = true ∧
      (ofMagnitude negative (packed m q)).value = m * (2 : ℚ) ^ q := by
  obtain ⟨e, he⟩ := Int.eq_ofNat_of_zero_le (a := q + 1075) (by omega)
  have hpacked : packed m q = min infinite (e * hiddenBit + (m - hiddenBit)) := by
    unfold packed
    rw [if_neg (Nat.not_lt.mpr hm), he]
    rfl
  rcases hm' with hlt | rfl
  · have hmin : packed m q = e * hiddenBit + (m - hiddenBit) := by
      rw [hpacked, Nat.min_eq_right]
      unfold infinite hiddenBit at *
      omega
    obtain ⟨hfinite, hvalue⟩ := value_ofMagnitude negative (e := e) (f := m - hiddenBit) (by omega) (by omega)
      (by omega)
    rw [hmin]
    refine ⟨hfinite, ?_⟩
    rw [hvalue, Nat.add_sub_cancel' hm, show (e : ℤ) - 1075 = q by omega]
  · have hcarry : e * hiddenBit + (2 * hiddenBit - hiddenBit) = (e + 1) * hiddenBit + 0 := by
      unfold hiddenBit
      omega
    have hmin : packed (2 * hiddenBit) q = (e + 1) * hiddenBit + 0 := by
      rw [hpacked, hcarry, Nat.min_eq_right]
      unfold infinite hiddenBit at *
      omega
    obtain ⟨hfinite, hvalue⟩ := value_ofMagnitude negative (e := e + 1) (f := 0) (by omega) (by omega)
      (by decide)
    rw [hmin]
    refine ⟨hfinite, ?_⟩
    rw [hvalue, show ((e + 1 : Nat) : ℤ) - 1075 = q + 1 by push_cast; omega, zpow_add_one₀ two_ne_zero]
    push_cast
    ring

section rounding

variable {m : Nat} {q : ℤ}

/-- **What is rounded to a last place within its binade has all its digits**, or one more of them than fit. -/
theorem significand_bounds {x : ℚ} (hlow : (2 : ℚ) ^ q * 2 ^ 52 ≤ x) (hhigh : x < (2 : ℚ) ^ q * 2 ^ 53)
    (hle : m * (2 : ℚ) ^ q ≤ x + (2 : ℚ) ^ q / 2) (hge : x ≤ m * (2 : ℚ) ^ q + (2 : ℚ) ^ q / 2) :
    hiddenBit ≤ m ∧ (m < 2 * hiddenBit ∨ m = 2 * hiddenBit) := by
  have hunit : (0 : ℚ) < (2 : ℚ) ^ q := by positivity
  constructor
  · have hcast : ((2 : ℚ) ^ 52 - 1 / 2) * (2 : ℚ) ^ q ≤ m * (2 : ℚ) ^ q := by linarith
    have hdigits := le_of_mul_le_mul_right hcast hunit
    by_contra hlt
    have hless : (m : ℚ) + 1 ≤ 2 ^ 52 := by
      have : m + 1 ≤ 2 ^ 52 := by unfold hiddenBit at hlt; omega
      exact_mod_cast this
    linarith
  · have hcast : m * (2 : ℚ) ^ q ≤ ((2 : ℚ) ^ 53 + 1 / 2) * (2 : ℚ) ^ q := by linarith
    have hdigits := le_of_mul_le_mul_right hcast hunit
    by_contra hgt
    have hmore : (2 : ℚ) ^ 53 + 1 ≤ m := by
      have : 2 ^ 53 + 1 ≤ m := by unfold hiddenBit at hgt; omega
      exact_mod_cast this
    linarith

/-- **What is less than half a unit above the largest finite number is rounded to a finite one.** -/
theorem significand_fits {x : ℚ} (hlow : (2 : ℚ) ^ q * 2 ^ 52 ≤ x) (hlt : x < (2 ^ 54 - 1) * halfStep)
    (hle : m * (2 : ℚ) ^ q ≤ x + (2 : ℚ) ^ q / 2) : q < 971 ∨ q = 971 ∧ m < 2 * hiddenBit := by
  rcases lt_trichotomy q 971 with hless | rfl | hmore
  · exact Or.inl hless
  · refine Or.inr ⟨rfl, ?_⟩
    have hunit : (0 : ℚ) < (2 : ℚ) ^ (971 : ℤ) := by positivity
    have hstep : (2 : ℚ) ^ (971 : ℤ) = 2 * halfStep := by
      rw [halfStep, ← zpow_one_add₀ two_ne_zero]
      rfl
    rw [hstep] at hle hunit
    have hcast : m * (2 * halfStep) < 2 ^ 53 * (2 * halfStep) := by linarith
    have hdigits : (m : ℚ) < 2 ^ 53 := lt_of_mul_lt_mul_right hcast hunit.le
    unfold hiddenBit
    exact_mod_cast hdigits
  · have hstep : (4 : ℚ) * halfStep ≤ (2 : ℚ) ^ q := by
      have hmin : (2 : ℚ) ^ (2 + 970 : ℤ) ≤ (2 : ℚ) ^ q := zpow_le_zpow_right₀ one_le_two (by omega)
      rw [zpow_add₀ two_ne_zero] at hmin
      unfold halfStep
      linarith
    have hpos := halfStep_pos
    linarith

end rounding

/-- **A quotient that is at least one and not too large is rounded to a finite number**, which is greater by at
most one part in 2⁵³, and not less than one. -/
theorem ofQuotient_spec (negative : Bool) (hd : 0 < den) (h : den ≤ num)
    (hlt : (num : ℚ) / den < (2 ^ 54 - 1) * halfStep) :
    (ofQuotient negative num den).isFinite = true ∧ 1 ≤ (ofQuotient negative num den).value ∧
      (ofQuotient negative num den).value ≤ num / den * (1 + 1 / 2 ^ 53) := by
  obtain ⟨hq, hlow, hhigh⟩ := lastPlace_spec hd h
  obtain ⟨hle, hge⟩ := roundedSignificand_spec num hd (lastPlace num den)
  generalize hplace : lastPlace num den = q at hq hlow hhigh hle hge
  generalize hsig : roundedSignificand num den q = m at hle hge
  have hlow' : (2 : ℚ) ^ q * 2 ^ 52 ≤ num / den := by
    rw [zpow_add₀ two_ne_zero] at hlow
    exact_mod_cast hlow
  have hhigh' : (num : ℚ) / den < (2 : ℚ) ^ q * 2 ^ 53 := by
    rw [zpow_add₀ two_ne_zero] at hhigh
    exact_mod_cast hhigh
  obtain ⟨hm, hm'⟩ := significand_bounds hlow' hhigh' hle hge
  obtain ⟨hfinite, hvalue⟩ := value_packed negative hq hm hm' (significand_fits hlow' hlt hle)
  have hof : ofQuotient negative num den = ofMagnitude negative (packed m q) := by
    unfold ofQuotient
    rw [if_neg (by omega)]
    dsimp only
    rw [hplace, hsig]
  rw [hof, hvalue]
  refine ⟨hfinite, ?_, by linarith⟩
  have hone : (1 : ℚ) ≤ (2 : ℚ) ^ q * 2 ^ 52 := by
    have hpow : (1 : ℚ) ≤ (2 : ℚ) ^ (q + 52) := one_le_zpow₀ one_le_two (by omega)
    rw [zpow_add₀ two_ne_zero] at hpow
    exact_mod_cast hpow
  have hm52 : (2 : ℚ) ^ 52 ≤ m := by
    unfold hiddenBit at hm
    exact_mod_cast hm
  rw [mul_comm]
  exact hone.trans (mul_le_mul_of_nonneg_left hm52 (by positivity))

/-! ### Products of rounded naturals -/

theorem value_ofNat {n : Nat} (hn : 0 < n) (hlt : (n : ℚ) < (2 ^ 54 - 1) * halfStep) :
    1 ≤ (ofNat n).value ∧ (ofNat n).value ≤ n * (1 + 1 / 2 ^ 53) := by
  have hspec := ofQuotient_spec false Nat.one_pos (show 1 ≤ n from hn) (by simpa using hlt)
  rw [Nat.cast_one, div_one] at hspec
  exact hspec.2

theorem not_isInfinite_of_isFinite {x : Binary64} (h : x.isFinite = true) : x.isInfinite = false := by
  rw [isFinite, decide_eq_true_eq] at h
  rw [isInfinite, beq_eq_false_iff_ne]
  exact Nat.ne_of_lt h

/-- A product with zero is zero. -/
theorem not_isInfinite_zero_mul (x : Binary64) : ((ofNat 0).mul x).isInfinite = false := by
  have hnumerator : (ofNat 0).numerator = 0 := by decide
  have hzero : ∀ negative, (ofMagnitude negative 0).isInfinite = false := by decide
  unfold mul
  rw [hnumerator, Nat.zero_mul, ofQuotient, if_pos rfl, hzero]

/-- **The product of two rounded naturals stays finite** as long as the exact one keeps a distance to 2¹⁰²⁴. -/
theorem not_isInfinite_mul_ofNat {a b : Nat} (ha : 0 < a) (hb : 0 < b)
    (h : (a : ℚ) * b ≤ (2 ^ 54 - 7) * halfStep) : ((ofNat a).mul (ofNat b)).isInfinite = false := by
  have hpos := halfStep_pos
  have ha1 : (1 : ℚ) ≤ a := by exact_mod_cast ha
  have hb1 : (1 : ℚ) ≤ b := by exact_mod_cast hb
  obtain ⟨hla, hua⟩ := value_ofNat ha (by nlinarith)
  obtain ⟨hlb, hub⟩ := value_ofNat hb (by nlinarith)
  have hproduct : (((ofNat a).numerator * (ofNat b).numerator : Nat) : ℚ) /
      ((ofNat a).denominator * (ofNat b).denominator : Nat) = (ofNat a).value * (ofNat b).value := by
    unfold value
    push_cast
    rw [div_mul_div_comm]
  have hden : 0 < (ofNat a).denominator * (ofNat b).denominator :=
    Nat.mul_pos (denominator_pos _) (denominator_pos _)
  have hge : (ofNat a).denominator * (ofNat b).denominator ≤ (ofNat a).numerator * (ofNat b).numerator := by
    have hone : 1 ≤ (ofNat a).value * (ofNat b).value := one_le_mul_of_one_le_of_one_le hla hlb
    rw [← hproduct, one_le_div (Nat.cast_pos.mpr hden)] at hone
    exact_mod_cast hone
  have hle : (ofNat a).value * (ofNat b).value ≤ (a : ℚ) * b * (1 + 1 / 2 ^ 53) ^ 2 := by
    calc (ofNat a).value * (ofNat b).value
        ≤ (a * (1 + 1 / 2 ^ 53)) * (b * (1 + 1 / 2 ^ 53)) := by gcongr
      _ = (a : ℚ) * b * (1 + 1 / 2 ^ 53) ^ 2 := by ring
  have hlt : (ofNat a).value * (ofNat b).value < (2 ^ 54 - 1) * halfStep := by
    have hscaled : (a : ℚ) * b * (1 + 1 / 2 ^ 53) ^ 2 ≤ (2 ^ 54 - 7) * halfStep * (1 + 1 / 2 ^ 53) ^ 2 := by
      gcongr
    have hnumbers : ((2 : ℚ) ^ 54 - 7) * (1 + 1 / 2 ^ 53) ^ 2 < 2 ^ 54 - 1 := by norm_num
    nlinarith
  exact not_isInfinite_of_isFinite (ofQuotient_spec _ hden hge (by rw [hproduct]; exact hlt)).1

end ConstantResolution.Binary64
