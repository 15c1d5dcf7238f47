import ConstantResolution.Json.Number
import ConstantResolution.Json.Reader
import Mathlib.Data.List.TakeWhile

/-! # Numerals are read back

A numeral is grammatical when it is written as the grammar of JSON has it: digits in front of the point that
start with a zero only if they are one zero, digits behind it, and an exponent with digits.  Such a numeral is
scanned as a whole, whatever follows that does not go on with it (`scanNumeral_text`).

Naturals are grammatical, and what is read of one that fits a counter is the counter (`counter?_ofNat`). -/

namespace ConstantResolution

namespace Decimal

/-- A row of decimal digits. -/
def Digits (ds : List Char) : Prop := ∀ c ∈ ds, c.isDigit = true

/-- A numeral that the grammar of JSON has. -/
structure Numeral.Grammatical (n : Numeral) : Prop where
  whole : Digits n.whole
  nonempty : n.whole ≠ []
  /-- no zeros stand in front -/
  lead : n.whole.head? = some '0' → n.whole = ['0']
  fraction : Digits n.fraction
  exponent : ∀ e, n.exponent = some e → e.digits ≠ [] ∧ Digits e.digits

/-! ### Digits of naturals -/

theorem digits_digitChars (n : Nat) : Digits (digitChars n) := fun _ hc =>
  Nat.isDigit_of_mem_toDigits (by decide) (by decide) hc

theorem digitChars_ne_nil (n : Nat) : digitChars n ≠ [] := Nat.toDigits_ne_nil

theorem digits_zeros (n : Nat) : Digits (zeros n) := by
  intro c hc
  rw [List.eq_of_mem_replicate hc]
  rfl

theorem Digits.append {ds es : List Char} (h : Digits ds) (h' : Digits es) : Digits (ds ++ es) :=
  fun c hc => (List.mem_append.mp hc).elim (h c) (h' c)

/-- The digits of a natural start with a zero for zero only. -/
theorem head?_digitChars {n : Nat} (h : n ≠ 0) : (digitChars n).head? ≠ some '0' := by
  induction n using Nat.strongRecOn with
  | ind n ih =>
    unfold digitChars at ih ⊢
    rw [Nat.toDigits_eq_if (by decide)]
    split
    · rename_i hlt
      have hdigit : ∀ d < 10, d ≠ 0 → [Nat.digitChar d].head? ≠ some '0' := by decide
      exact hdigit n hlt h
    · have hfront := ih (n / 10) (by omega) (by omega)
      obtain ⟨d, ds, hd⟩ := List.exists_cons_of_ne_nil (Nat.toDigits_ne_nil (n := n / 10) (b := 10))
      rw [hd] at hfront ⊢
      exact hfront

theorem grammatical_ofNat (n : Nat) : (Numeral.ofNat n).Grammatical where
  whole := digits_digitChars n
  nonempty := digitChars_ne_nil n
  lead := by
    intro hhead
    by_cases hn : n = 0
    · subst hn
      rfl
    · exact absurd hhead (head?_digitChars hn)
  fraction := nofun
  exponent := nofun

end Decimal

namespace Json

open Decimal

/-! ### What numerals of naturals stand for -/

theorem digitsValue_digitChars (n : Nat) : digitsValue (digitChars n) = n := Nat.ofDigitChars_ten_toDigits

/-- **A counter is read as it was written.** -/
theorem counter?_ofNat (c : UInt64) : counter? (.ofNat c.toNat) = some c := by
  have hvalue : digitsValue (Numeral.ofNat c.toNat).whole = c.toNat := digitsValue_digitChars c.toNat
  have hplain : ((Numeral.ofNat c.toNat).negative || !(Numeral.ofNat c.toNat).fraction.isEmpty ||
      (Numeral.ofNat c.toNat).exponent.isSome) = false := rfl
  unfold counter?
  rw [hplain, if_neg Bool.false_ne_true, hvalue, if_pos c.toNat_lt, UInt64.ofNat_toNat]

/-! ### Scanning -/

/-- What follows does not go on with a numeral. -/
def Delimits (rest : List Char) : Prop :=
  ∀ c, rest.head? = some c → c.isDigit = false ∧ c ≠ '.' ∧ c ≠ 'e' ∧ c ≠ 'E'

theorem delimits_nil : Delimits [] := nofun

theorem delimits_cons {c : Char} (h : c.isDigit = false ∧ c ≠ '.' ∧ c ≠ 'e' ∧ c ≠ 'E') (cs : List Char) :
    Delimits (c :: cs) := by
  intro d hd
  rwa [← Option.some.inj hd]

/-- Digits are taken up to the first other character. -/
theorem scanDigits_append {ds rest : List Char} (hds : Digits ds) (hne : ds ≠ [])
    (hrest : ∀ c, rest.head? = some c → c.isDigit = false) : scanDigits (ds ++ rest) = some (ds, rest) := by
  have hstop : rest.takeWhile Char.isDigit = [] ∧ rest.dropWhile Char.isDigit = rest := by
    cases rest with
    | nil => exact ⟨rfl, rfl⟩
    | cons c cs => simp [hrest c rfl]
  unfold scanDigits
  rw [List.takeWhile_append_of_pos hds, List.dropWhile_append_of_pos hds, hstop.1, hstop.2, List.append_nil]
  simp [hne]

theorem scanWhole_append {ds rest : List Char} (hds : Digits ds) (hne : ds ≠ [])
    (hlead : ds.head? = some '0' → ds = ['0']) (hrest : ∀ c, rest.head? = some c → c.isDigit = false) :
    scanWhole (ds ++ rest) = some (ds, rest) := by
  unfold scanWhole
  rw [scanDigits_append hds hne hrest]
  split
  · rename_i c cs _ heq
    obtain ⟨rfl, -⟩ := Prod.mk.inj (Option.some.inj heq)
    exact absurd (hlead rfl) (by simp)
  · rfl

/-- The point with the digits behind it, as it is written. -/
def fractionText (ds : List Char) : List Char := if ds.isEmpty then [] else '.' :: ds

/-- The exponent, as it is written. -/
def exponentText : Option ExponentPart → List Char
  | none => []
  | some e => e.text

theorem scanFraction_append {ds rest : List Char} (hds : Digits ds)
    (hrest : ∀ c, rest.head? = some c → c.isDigit = false ∧ c ≠ '.') :
    scanFraction (fractionText ds ++ rest) = some (ds, rest) := by
  cases ds with
  | nil =>
      show scanFraction rest = _
      unfold scanFraction
      split
      · exact absurd rfl (hrest '.' rfl).2
      · rfl
  | cons d ds => exact scanDigits_append hds (List.cons_ne_nil d ds) fun c hc => (hrest c hc).1

theorem scanExponentSign_append {ds : List Char} (sign : ExponentSign) (hds : Digits ds) (hne : ds ≠ [])
    (rest : List Char) : scanExponentSign (sign.text ++ ds ++ rest) = (sign, ds ++ rest) := by
  cases sign with
  | plus => rfl
  | minus => rfl
  | none =>
      cases ds with
      | nil => exact absurd rfl hne
      | cons d ds =>
          have hd := hds d List.mem_cons_self
          show scanExponentSign (d :: (ds ++ rest)) = _
          unfold scanExponentSign
          split
          · rename_i heq
            obtain ⟨rfl, -⟩ := List.cons.inj heq
            exact absurd hd (by decide)
          · rename_i heq
            obtain ⟨rfl, -⟩ := List.cons.inj heq
            exact absurd hd (by decide)
          · rfl

theorem scanExponent_append {e : Option ExponentPart} {rest : List Char}
    (he : ∀ p, e = some p → p.digits ≠ [] ∧ Digits p.digits) (hrest : Delimits rest) :
    scanExponent (exponentText e ++ rest) = some (e, rest) := by
  cases e with
  | none =>
      cases rest with
      | nil => rfl
      | cons c cs =>
          obtain ⟨-, -, he, hE⟩ := hrest c rfl
          have hother : (c == 'e' || c == 'E') = false := by simp [he, hE]
          show (if (c == 'e' || c == 'E') = true then _ else some (none, c :: cs)) = _
          rw [hother]
          rfl
  | some p =>
      obtain ⟨hne, hds⟩ := he p rfl
      have htext : exponentText (some p) ++ rest = 'e' :: (p.sign.text ++ p.digits ++ rest) := rfl
      rw [htext, scanExponent, if_pos (by decide), scanExponentSign_append p.sign hds hne]
      dsimp only
      rw [scanDigits_append hds hne fun c hc => (hrest c hc).1]
      rfl

/-- A numeral is written with its sign, the digits in front of the point, those behind it and its exponent. -/
theorem text_append (n : Numeral) (rest : List Char) : n.text ++ rest =
    (if n.negative then ['-'] else []) ++
      (n.whole ++ (fractionText n.fraction ++ (exponentText n.exponent ++ rest))) := by
  have htext : n.text = (if n.negative then ['-'] else []) ++ n.whole ++ fractionText n.fraction ++
      exponentText n.exponent := rfl
  rw [htext]
  simp only [List.append_assoc]

theorem scanMinus_append (negative : Bool) {ds : List Char} (hds : Digits ds) (hne : ds ≠ []) (rest : List Char) :
    scanMinus ((if negative then ['-'] else []) ++ (ds ++ rest)) = (negative, ds ++ rest) := by
  cases negative with
  | true => rfl
  | false =>
      obtain ⟨d, ds, rfl⟩ := List.exists_cons_of_ne_nil hne
      have hd := hds d List.mem_cons_self
      show scanMinus (d :: (ds ++ rest)) = _
      unfold scanMinus
      split
      · rename_i heq
        obtain ⟨rfl, -⟩ := List.cons.inj heq
        exact absurd hd (by decide)
      · rfl

/-- What follows the digits behind the point goes on with neither. -/
theorem head?_exponentText (e : Option ExponentPart) {rest : List Char} (hrest : Delimits rest) {c : Char}
    (hc : (exponentText e ++ rest).head? = some c) : c.isDigit = false ∧ c ≠ '.' := by
  cases e with
  | none => exact ⟨(hrest c hc).1, (hrest c hc).2.1⟩
  | some e =>
      obtain rfl : 'e' = c := Option.some.inj hc
      decide

/-- What follows the digits in front of the point does not go on with them. -/
theorem head?_fractionText (ds : List Char) {cs : List Char} (hcs : ∀ c, cs.head? = some c → c.isDigit = false)
    {c : Char} (hc : (fractionText ds ++ cs).head? = some c) : c.isDigit = false := by
  cases ds with
  | nil => exact hcs c hc
  | cons d ds =>
      obtain rfl : '.' = c := Option.some.inj hc
      rfl

/-- **A grammatical numeral is scanned as a whole.** -/
theorem scanNumeral_text {n : Numeral} {rest : List Char} (h : n.Grammatical) (hrest : Delimits rest) :
    scanNumeral (n.text ++ rest) = some (n, rest) := by
  have hexponent := fun c hc => head?_exponentText n.exponent hrest (c := c) hc
  have hfraction := fun c hc => head?_fractionText n.fraction (fun c hc => (hexponent c hc).1) (c := c) hc
  unfold scanNumeral
  rw [text_append, scanMinus_append n.negative h.whole h.nonempty]
  dsimp only
  rw [scanWhole_append h.whole h.nonempty h.lead hfraction]
  dsimp only [Option.bind_eq_bind, Option.bind_some]
  rw [scanFraction_append h.fraction hexponent]
  dsimp only [Option.bind_some]
  rw [scanExponent_append h.exponent hrest]
  rfl

end Json
end ConstantResolution
