import ConstantResolution.Benchmark.Report
import ConstantResolution.Proofs.Decimal.Shortest
import ConstantResolution.Proofs.Json.Numeral

/-! # Numbers that are written can be read

The numeral of a finite number in a report is grammatical (`grammatical_numeral`), and some number is read from
it (`exists_number?_numeral`).  What is read need not be the number that was written.  That it is not out of range
needs an argument, since the digits and the power of ten are rounded each on its own.

A numeral without an exponent is read through a power of ten that is not positive, where nothing can go wrong.
For a numeral with an exponent, digits times power of ten do not exceed the decimal that is written, which is at
most half a unit above the number.  This leaves room for both roundings unless the number is one of the three
greatest, and these are read one by one. -/

namespace ConstantResolution

open Decimal

/-! ### Numerals of layouts -/

theorem Decimal.digits_take {ds : List Char} (h : Digits ds) (n : Nat) : Digits (ds.take n) :=
  fun c hc => h c (List.mem_of_mem_take hc)

theorem Decimal.digits_drop {ds : List Char} (h : Digits ds) (n : Nat) : Digits (ds.drop n) :=
  fun c hc => h c (List.mem_of_mem_drop hc)

/-- The first digits of a natural that is not zero do not start with a zero. -/
theorem Decimal.head?_take_digitChars {n k : Nat} (hn : n ≠ 0) (hk : k ≠ 0) :
    ((digitChars n).take k).head? ≠ some '0' := by
  obtain ⟨k, rfl⟩ := Nat.exists_eq_succ_of_ne_zero hk
  obtain ⟨d, ds, hd⟩ := List.exists_cons_of_ne_nil (digitChars_ne_nil n)
  have hfront := head?_digitChars hn
  rw [hd] at hfront ⊢
  exact hfront

theorem Decimal.grammatical_positional (keepsPoint negative : Bool) {n : Nat} {point : ℤ}
    (h : n = 0 → point ≤ 1) : (Numeral.positional keepsPoint negative (digitChars n) point).Grammatical := by
  have hds := digits_digitChars n
  have hzero : Digits ['0'] := by
    intro c hc
    rw [List.mem_singleton.mp hc]
    rfl
  unfold Numeral.positional
  split
  · exact ⟨hzero, List.cons_ne_nil _ _, fun _ => rfl, (digits_zeros _).append hds, nofun⟩
  rename_i hpoint
  split
  · refine ⟨hds.append (digits_zeros _), ?_, fun hhead => ?_, ?_, nofun⟩
    · exact fun hnil => digitChars_ne_nil n (List.append_eq_nil_iff.mp hnil).1
    · by_cases hn : n = 0
      · subst hn
        have hone : point.toNat - (digitChars 0).length = 0 := by
          have : (digitChars 0).length = 1 := rfl
          have := h rfl
          omega
        dsimp only
        rw [hone]
        rfl
      · obtain ⟨d, ds, hd⟩ := List.exists_cons_of_ne_nil (digitChars_ne_nil n)
        have hfront := head?_digitChars hn
        dsimp only at hhead
        rw [hd] at hfront hhead
        exact absurd hhead hfront
    · dsimp only
      split
      · exact hzero
      · exact nofun
  · have htake : point.toNat ≠ 0 := by omega
    refine ⟨digits_take hds _, ?_, fun hhead => ?_, digits_drop hds _, nofun⟩
    · rw [ne_eq, List.take_eq_nil_iff, not_or]
      exact ⟨htake, digitChars_ne_nil n⟩
    · by_cases hn : n = 0
      · subst hn
        have : (digitChars 0).length = 1 := rfl
        have := h rfl
        omega
      · exact absurd hhead (head?_take_digitChars hn htake)

/-- Digits in their places: there is no exponent, and in front of the point there are as many as it says. -/
theorem Decimal.length_whole_positional (keepsPoint negative : Bool) (ds : List Char) (point : ℤ) :
    (Numeral.positional keepsPoint negative ds point).exponent = none ∧
      ((Numeral.positional keepsPoint negative ds point).whole.length : ℤ) ≤ max 1 point := by
  unfold Numeral.positional
  split
  · exact ⟨rfl, le_max_left 1 point⟩
  split
  · refine ⟨rfl, ?_⟩
    rw [List.length_append, zeros, List.length_replicate]
    omega
  · refine ⟨rfl, ?_⟩
    rw [List.length_take]
    omega

theorem Decimal.grammatical_scientific (plusSign negative : Bool) (n : Nat) (exponent : ℤ) :
    (Numeral.scientific plusSign negative (digitChars n) exponent).Grammatical := by
  obtain ⟨d, ds, hd⟩ := List.exists_cons_of_ne_nil (digitChars_ne_nil n)
  have hone : (digitChars n).take 1 = [d] := by rw [hd]; rfl
  refine ⟨digits_take (digits_digitChars n) 1, ?_, ?_, digits_drop (digits_digitChars n) 1, ?_⟩
  · show (digitChars n).take 1 ≠ []
    rw [hone]
    exact List.cons_ne_nil d []
  · show ((digitChars n).take 1).head? = some '0' → (digitChars n).take 1 = ['0']
    rw [hone]
    intro hhead
    rw [Option.some.inj hhead]
  · intro e he
    rw [← Option.some.inj he]
    exact ⟨digitChars_ne_nil _, digits_digitChars _⟩

/-- **A decimal without zeros in front is written as a grammatical numeral.** -/
theorem Decimal.grammatical_ofDecimal (f : Layout) (negative : Bool) {d : Decimal}
    (h : d.digits = 0 → d.exponent ≤ 0) : (f.ofDecimal negative d).Grammatical := by
  unfold Layout.ofDecimal
  dsimp only
  split
  · refine grammatical_positional _ _ fun hzero => ?_
    rw [hzero]
    have : (digitChars 0).length = 1 := rfl
    have := h hzero
    omega
  · exact grammatical_scientific _ _ _ _

/-- **The numeral of a number is grammatical.** -/
theorem Decimal.grammatical_numeral (f : Layout) (x : Binary64) : (f.numeral x).Grammatical := by
  refine grammatical_ofDecimal f _ fun hzero => ?_
  by_cases hx : x.isZero = true
  · unfold shortest
    rw [if_pos hx]
  · exact absurd hzero (digits_shortest_ne_zero f.tie (Bool.eq_false_of_not_eq_true hx))

namespace Json

/-! ### Digits that are taken -/

/-- Digits that are left out count for their places only, so that the integer is not too great. -/
theorem appendDigits_spec {n : Nat} (hn : n < UInt64.size) (cs : List Char) :
    (appendDigits n cs).1 < UInt64.size ∧ (appendDigits n cs).2 ≤ cs.length ∧
      (appendDigits n cs).1 * 10 ^ (appendDigits n cs).2 ≤ Nat.ofDigitChars 10 cs n := by
  induction cs generalizing n with
  | nil => exact ⟨hn, Nat.le_refl 0, by simp [appendDigits]⟩
  | cons c cs ih =>
      unfold appendDigits
      split
      · rename_i hfit
        obtain ⟨hlt, hle, hvalue⟩ := ih hfit
        exact ⟨hlt, Nat.le_succ_of_le hle, hvalue⟩
      · refine ⟨hn, Nat.le_refl _, ?_⟩
        rw [Nat.ofDigitChars_cons, Nat.ofDigitChars_eq_ofDigitChars_zero]
        dsimp only
        rw [pow_succ]
        nlinarith [Nat.zero_le (10 ^ cs.length * (c.toNat - '0'.toNat)), Nat.zero_le (Nat.ofDigitChars 10 cs 0)]

/-- Few digits are all taken. -/
theorem appendDigits_of_lt {n : Nat} {cs : List Char} (h : Nat.ofDigitChars 10 cs n < UInt64.size) :
    appendDigits n cs = (Nat.ofDigitChars 10 cs n, 0) := by
  induction cs generalizing n with
  | nil => rfl
  | cons c cs ih =>
      have hle : 10 * n + digitValue c ≤ Nat.ofDigitChars 10 (c :: cs) n := by
        rw [Nat.ofDigitChars_cons, Nat.ofDigitChars_eq_ofDigitChars_zero]
        have hone : 1 ≤ 10 ^ cs.length := Nat.one_le_pow _ _ (by decide)
        have := Nat.mul_le_mul_right (10 * n + digitValue c) hone
        unfold digitValue at *
        omega
      unfold appendDigits
      rw [if_pos (hle.trans_lt h)]
      exact ih h

theorem digitValue_le {c : Char} (h : c.isDigit = true) : digitValue c ≤ 9 := by
  rw [Char.isDigit_iff_toNat] at h
  have hends : '0'.toNat = 48 ∧ '9'.toNat = 57 := by decide
  unfold digitValue
  omega

/-- Few digits are below the power of ten of their number. -/
theorem ofDigitChars_lt {cs : List Char} (h : Digits cs) (n : Nat) :
    Nat.ofDigitChars 10 cs n < (n + 1) * 10 ^ cs.length := by
  induction cs generalizing n with
  | nil => simp
  | cons c cs ih =>
      have hdigit := digitValue_le (h c List.mem_cons_self)
      calc Nat.ofDigitChars 10 (c :: cs) n
          = Nat.ofDigitChars 10 cs (10 * n + digitValue c) := Nat.ofDigitChars_cons
        _ < (10 * n + digitValue c + 1) * 10 ^ cs.length :=
            ih (fun d hd => h d (List.mem_cons_of_mem c hd)) _
        _ ≤ ((n + 1) * 10) * 10 ^ cs.length := Nat.mul_le_mul_right _ (by omega)
        _ = (n + 1) * 10 ^ (c :: cs).length := by rw [List.length_cons, pow_succ]; ring

/-! ### Powers of ten -/

/-- **A number divided by a power of ten is never out of range.** -/
theorem isSome_timesPowerOfTen_of_neg (rounds : Nat) (f : Binary64) {e : ℤ} (he : e < 0) :
    (timesPowerOfTen rounds f e).isSome = true := by
  induction rounds generalizing f e with
  | zero =>
      unfold timesPowerOfTen
      rw [if_neg (Int.not_le.mpr he), if_neg (Int.not_le.mpr he)]
      split_ifs <;> rfl
  | succ rounds ih =>
      unfold timesPowerOfTen
      rw [if_neg (Int.not_le.mpr he), if_neg (Int.not_le.mpr he)]
      split
      · rfl
      rename_i hfar
      split
      · rfl
      · refine ih _ ?_
        unfold greatestPower at *
        omega

/-- **An integer times a power of ten is not out of range** if their exact product keeps a distance to 2¹⁰²⁴. -/
theorem isSome_timesPowerOfTen_of_le (rounds : Nat) {n : Nat} {e : ℤ} (he : 0 ≤ e)
    (h : (n : ℚ) * (10 : ℚ) ^ e ≤ (2 ^ 54 - 7) * Binary64.halfStep) :
    (timesPowerOfTen rounds (.ofNat n) e).isSome = true := by
  obtain ⟨k, rfl⟩ := Int.eq_ofNat_of_zero_le he
  have hfinish : ((Binary64.ofNat n).mul (.ofNat (Nat.pow 10 k))).isInfinite = false →
      (k ≤ greatestPower ∨ (Binary64.ofNat n).isZero = true) →
      (timesPowerOfTen rounds (.ofNat n) (k : ℤ)).isSome = true := by
    intro hfinite hsmall
    unfold timesPowerOfTen
    rw [if_pos he, Int.natAbs_natCast]
    dsimp only
    rw [hfinite, if_neg Bool.false_ne_true]
    split
    · rfl
    · rename_i hfar
      rw [if_pos (hsmall.resolve_left hfar)]
      rfl
  rw [zpow_natCast] at h
  rcases Nat.eq_zero_or_pos n with rfl | hn
  · exact hfinish (Binary64.not_isInfinite_zero_mul _) (Or.inr (by decide))
  · refine hfinish (Binary64.not_isInfinite_mul_ofNat hn (Nat.pow_pos (by decide)) ?_) (Or.inl ?_)
    · rw [Nat.pow_eq]
      exact_mod_cast h
    · by_contra hfar
      have hten : (10 : ℚ) ^ 309 ≤ (10 : ℚ) ^ k := by
        refine pow_le_pow_right₀ (by norm_num) ?_
        unfold greatestPower at hfar
        omega
      have hone : (1 : ℚ) ≤ n := by exact_mod_cast hn
      have hproduct : (10 : ℚ) ^ k ≤ n * (10 : ℚ) ^ k := le_mul_of_one_le_left (by positivity) hone
      have hlimit := Binary64.mul_halfStep_lt
      have hpos := Binary64.halfStep_pos
      generalize (10 : ℚ) ^ 309 = limit at hten hlimit
      linarith

/-! ### Numerals of reports -/

/-- A numeral is read unless its digits times their power of ten are too great. -/
theorem isSome_number? {n : Decimal.Numeral} {digits : Nat} {power e : ℤ} (hdigits : significandOf n = (digits, power))
    (he : power + exponentOf n = e)
    (h : e < 0 ∨ 0 ≤ e ∧ (digits : ℚ) * (10 : ℚ) ^ e ≤ (2 ^ 54 - 7) * Binary64.halfStep) :
    (number? n).isSome = true := by
  unfold number?
  rw [Option.isSome_map, hdigits]
  dsimp only
  rw [he]
  rcases h with h | ⟨h, hle⟩
  · exact isSome_timesPowerOfTen_of_neg _ _ h
  · exact isSome_timesPowerOfTen_of_le _ h hle

/-- **A numeral without exponent and with few digits in front of the point is read.** -/
theorem isSome_number?_of_length {n : Decimal.Numeral} (hexponent : n.exponent = none) (hwhole : Digits n.whole)
    (hlength : n.whole.length ≤ 16) : (number? n).isSome = true := by
  have hsmall : Nat.ofDigitChars 10 n.whole 0 < UInt64.size := by
    calc Nat.ofDigitChars 10 n.whole 0
        < (0 + 1) * 10 ^ n.whole.length := ofDigitChars_lt hwhole 0
      _ ≤ (0 + 1) * 10 ^ 16 := Nat.mul_le_mul_left _ (Nat.pow_le_pow_right (by decide) hlength)
      _ < UInt64.size := by decide
  obtain ⟨hlt, hleft, -⟩ := appendDigits_spec hsmall n.fraction
  have htaken := appendDigits_of_lt hsmall
  generalize Nat.ofDigitChars 10 n.whole 0 = front at hlt hleft htaken
  generalize hall : appendDigits front n.fraction = taken at hlt hleft
  have hsignificand : significandOf n = (taken.1, -((n.fraction.length - taken.2 : Nat) : ℤ)) := by
    unfold significandOf
    rw [htaken]
    dsimp only
    rw [hall, Nat.cast_zero, zero_sub]
  have hpower : -((n.fraction.length - taken.2 : Nat) : ℤ) + exponentOf n =
      -((n.fraction.length - taken.2 : Nat) : ℤ) := by
    unfold exponentOf
    rw [hexponent]
    exact add_zero _
  refine isSome_number? hsignificand hpower ?_
  rcases Nat.eq_zero_or_pos (n.fraction.length - taken.2) with hzero | hpos
  · have hcast : (taken.1 : ℚ) ≤ 2 ^ 64 := by exact_mod_cast hlt.le
    have hlimit := Binary64.le_halfStep
    rw [hzero, Nat.cast_zero, neg_zero, zpow_zero, mul_one]
    exact Or.inr ⟨le_rfl, by linarith⟩
  · exact Or.inl (by omega)

theorem exponentOf_scientific (plusSign negative : Bool) (ds : List Char) (e : ℤ) :
    exponentOf (.scientific plusSign negative ds e) = e := by
  unfold exponentOf Numeral.scientific
  dsimp only
  rw [digitsValue_digitChars]
  by_cases he : e < 0
  · rw [if_pos he, if_pos rfl]
    omega
  · rw [if_neg he, if_neg (by cases plusSign <;> decide)]
    omega

/-- **A numeral with an exponent is read** if its decimal keeps a distance to 2¹⁰²⁴: the digits that are taken,
times their power of ten, do not exceed it. -/
theorem isSome_number?_scientific (plusSign negative : Bool) {d : Decimal}
    (h : d.value ≤ (2 ^ 54 - 7) * Binary64.halfStep) :
    (number? (.scientific plusSign negative (digitChars d.digits) d.leading)).isSome = true := by
  obtain ⟨c, cs, hcs⟩ := List.exists_cons_of_ne_nil (digitChars_ne_nil d.digits)
  have hc := digitValue_le (digits_digitChars d.digits c (hcs ▸ List.mem_cons_self))
  have hfirst : appendDigits 0 [c] = (digitValue c, 0) := by
    have hfit : 10 * 0 + digitValue c < UInt64.size := by
      rw [Nat.mul_zero, Nat.zero_add]
      exact hc.trans_lt (by decide)
    unfold appendDigits
    rw [if_pos hfit, Nat.mul_zero, Nat.zero_add]
    rfl
  have hall : Nat.ofDigitChars 10 cs (digitValue c) = d.digits := by
    have hvalue : digitsValue (digitChars d.digits) = _ := digitsValue_digitChars d.digits
    rw [hcs, digitsValue, List.foldl_cons, Nat.mul_zero, Nat.zero_add] at hvalue
    exact hvalue
  obtain ⟨-, hleft, hle⟩ := appendDigits_spec (n := digitValue c) (hc.trans_lt (by decide)) cs
  rw [hall] at hle
  generalize htaken : appendDigits (digitValue c) cs = taken at hleft hle
  have hsignificand : significandOf (.scientific plusSign negative (digitChars d.digits) d.leading) =
      (taken.1, -((cs.length - taken.2 : Nat) : ℤ)) := by
    unfold significandOf Numeral.scientific
    rw [hcs]
    dsimp only [List.take_succ_cons, List.take_zero]
    rw [hfirst]
    dsimp only
    have hdrop : (c :: cs).drop 1 = cs := rfl
    rw [hdrop, htaken, Nat.cast_zero, zero_sub]
  have hpower : -((cs.length - taken.2 : Nat) : ℤ) + exponentOf
      (.scientific plusSign negative (digitChars d.digits) d.leading) = d.exponent + taken.2 := by
    have hlength : Decimal.length d.digits = cs.length + 1 := congrArg List.length hcs
    rw [exponentOf_scientific, leading, hlength]
    omega
  refine isSome_number? hsignificand hpower ?_
  rcases lt_or_ge (d.exponent + taken.2) 0 with hneg | hnonneg
  · exact Or.inl hneg
  · refine Or.inr ⟨hnonneg, le_trans ?_ h⟩
    have hcast : (taken.1 : ℚ) * 10 ^ taken.2 ≤ d.digits := by exact_mod_cast hle
    calc (taken.1 : ℚ) * (10 : ℚ) ^ (d.exponent + taken.2)
        = taken.1 * 10 ^ taken.2 * (10 : ℚ) ^ d.exponent := by
          rw [zpow_add₀ (by norm_num), zpow_natCast]
          ring
      _ ≤ d.digits * (10 : ℚ) ^ d.exponent := by gcongr

/-! ### Finite numbers -/

/-- All but the three greatest numbers stay four half steps and more below 2¹⁰²⁴ when half a unit is added. -/
theorem half_unit_above_le {x : Binary64} (h : x.magnitude + 4 ≤ Binary64.infinite) :
    ((x.significand : ℚ) + 1 / 2) * (2 : ℚ) ^ x.exponent ≤ (2 ^ 54 - 7) * Binary64.halfStep := by
  have hpos := Binary64.halfStep_pos
  have hparts : x.biased ≤ 2045 ∨ x.biased = 2046 ∧ x.fraction + 4 ≤ 2 ^ 52 := by
    unfold Binary64.biased Binary64.fraction
    unfold Binary64.infinite at h
    unfold Binary64.hiddenBit at *
    omega
  have hfraction : x.fraction < 2 ^ 52 := Nat.mod_lt _ (by decide)
  rcases hparts with hbiased | ⟨hbiased, hroom⟩
  · have hsignificand : (x.significand : ℚ) + 1 ≤ 2 ^ 53 := by
      have : x.significand + 1 ≤ 2 ^ 53 := by
        unfold Binary64.significand Binary64.hiddenBit
        split <;> omega
      exact_mod_cast this
    have hexponent : (2 : ℚ) ^ x.exponent ≤ Binary64.halfStep := by
      refine zpow_le_zpow_right₀ one_le_two ?_
      unfold Binary64.exponent
      split <;> omega
    calc ((x.significand : ℚ) + 1 / 2) * (2 : ℚ) ^ x.exponent
        ≤ 2 ^ 53 * Binary64.halfStep := by gcongr; linarith
      _ ≤ (2 ^ 54 - 7) * Binary64.halfStep := by gcongr; norm_num
  · have hsignificand : (x.significand : ℚ) + 4 ≤ 2 ^ 53 := by
      have : x.significand + 4 ≤ 2 ^ 53 := by
        unfold Binary64.significand Binary64.hiddenBit
        split <;> omega
      exact_mod_cast this
    have hexponent : (2 : ℚ) ^ x.exponent = 2 * Binary64.halfStep := by
      unfold Binary64.exponent Binary64.halfStep
      rw [hbiased, if_neg (by decide), ← zpow_one_add₀ two_ne_zero]
      rfl
    calc ((x.significand : ℚ) + 1 / 2) * (2 : ℚ) ^ x.exponent
        = (2 * x.significand + 1) * Binary64.halfStep := by rw [hexponent]; ring
      _ ≤ (2 ^ 54 - 7) * Binary64.halfStep := by gcongr; linarith

/-- The three greatest numbers of either sign. -/
theorem isSome_number?_greatest : ∀ k ∈ [1, 2, 3], ∀ sign ∈ [0, Binary64.signBit],
    (number? (Report.layout.numeral ⟨UInt64.ofNat (sign + (Binary64.infinite - k))⟩)).isSome = true := by
  decide +kernel

/-- A number is given by its sign and its magnitude. -/
theorem exists_eq_sign_magnitude (x : Binary64) :
    ∃ sign ∈ [0, Binary64.signBit], x = ⟨UInt64.ofNat (sign + x.magnitude)⟩ := by
  have hbits : ∀ sign, x.code = sign + x.magnitude → x = ⟨UInt64.ofNat (sign + x.magnitude)⟩ := by
    intro sign hcode
    rw [← hcode, Binary64.code, UInt64.ofNat_toNat]
  have hlt : x.code < 2 ^ 64 := x.bits.toNat_lt
  rcases Nat.lt_or_ge x.code Binary64.signBit with hless | hge
  · refine ⟨0, by simp, hbits 0 ?_⟩
    rw [Binary64.magnitude, Nat.mod_eq_of_lt hless, Nat.zero_add]
  · refine ⟨Binary64.signBit, by simp, hbits _ ?_⟩
    unfold Binary64.magnitude
    unfold Binary64.signBit at *
    omega

/-- **What a report writes for a finite number is read as some number.** -/
theorem exists_number?_numeral {x : Binary64} (h : x.isFinite = true) :
    ∃ y, number? (Report.layout.numeral x) = some y := by
  rw [← Option.isSome_iff_exists]
  rw [Binary64.isFinite, decide_eq_true_eq] at h
  have hgrammatical := grammatical_numeral Report.layout x
  by_cases hpositional : Report.layout.positional (shortest Report.layout.tie x).leading = true
  · have hnumeral : Report.layout.numeral x = _ := if_pos hpositional
    rw [hnumeral] at hgrammatical ⊢
    obtain ⟨hexponent, hwhole⟩ := length_whole_positional Report.layout.keepsPoint x.isNegative
      (digitChars (shortest Report.layout.tie x).digits)
      ((shortest Report.layout.tie x).exponent + (digitChars (shortest Report.layout.tie x).digits).length)
    refine isSome_number?_of_length hexponent hgrammatical.whole ?_
    have hpoint : (shortest Report.layout.tie x).leading < 16 := by
      have hboth : (decide _ && decide _) = true := hpositional
      exact of_decide_eq_true (Bool.and_eq_true_iff.mp hboth).2
    have hleading : (shortest Report.layout.tie x).leading = (shortest Report.layout.tie x).exponent +
        (digitChars (shortest Report.layout.tie x).digits).length - 1 := rfl
    omega
  · have hnumeral : Report.layout.numeral x = _ := if_neg hpositional
    rcases Nat.lt_or_ge Binary64.infinite (x.magnitude + 4) with hgreat | hroom
    · obtain ⟨sign, hsign, hx⟩ := exists_eq_sign_magnitude x
      obtain ⟨k, hk, hmagnitude⟩ : ∃ k ∈ [1, 2, 3], x.magnitude = Binary64.infinite - k := by
        refine ⟨Binary64.infinite - x.magnitude, ?_, by omega⟩
        simp only [List.mem_cons, List.not_mem_nil, or_false]
        omega
      rw [hx, hmagnitude]
      exact isSome_number?_greatest k hk sign hsign
    · have hzero : x.isZero = false := by
        refine Bool.eq_false_of_not_eq_true fun hz => hpositional ?_
        unfold shortest
        rw [if_pos hz]
        decide
      rw [hnumeral]
      exact isSome_number?_scientific _ _ ((value_shortest_le _ hzero).trans (half_unit_above_le hroom))

end Json
end ConstantResolution
