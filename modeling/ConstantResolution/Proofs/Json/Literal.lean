import ConstantResolution.Json.Reader
import Mathlib.Tactic.SplitIfs

/-! # Literals are read back

Whatever characters a text holds, the literal that is printed for it is scanned as the text, and the scan ends
behind the closing quote (`scanLiteral_flatMap`).  Escapes are undone one character at a time
(`scanPieces_literalChar`). -/

namespace ConstantResolution.Json

/-- The unit that a row of four digits gives. -/
def unitOfRow : List Char → Option Nat
  | [a, b, c, d] => unitOf a b c d
  | _ => none

/-- The digits of a control character give its code point. -/
theorem unitOfRow_hex4 : ∀ n < 0x20, unitOfRow (hex4 n) = some n := by decide

theorem exists_hex4 {n : Nat} (h : n < 0x20) :
    ∃ a b c d, hex4 n = [a, b, c, d] ∧ unitOf a b c d = some n := by
  have hrow := unitOfRow_hex4 n h
  match heq : hex4 n, hrow with
  | [a, b, c, d], hrow => exact ⟨a, b, c, d, rfl, hrow⟩

/-- A code point below the surrogates is a character by itself. -/
theorem ofUnit_toNat {c : Char} (h : c.toNat < 0x20) : Piece.ofUnit c.toNat = .char c := by
  have hbelow : (decide (0xD800 ≤ c.toNat) && decide (c.toNat < 0xE000)) = false := by
    rw [Bool.and_eq_false_iff, decide_eq_false_iff_not]
    omega
  unfold Piece.ofUnit
  rw [hbelow, if_neg Bool.false_ne_true, Char.ofNat_toNat]

/-- A backslash with a letter gives one character. -/
theorem scanPieces_short {c e : Char} (he : shortEscape c = some e) (cs : List Char) :
    scanPieces ('\\' :: c :: cs) = (scanPieces cs).map fun p => (.char e :: p.1, p.2) := by
  have hu : c ≠ 'u' := by
    rintro rfl
    have hnone : shortEscape 'u' = none := by decide
    exact absurd (he.symm.trans hnone) (Option.some_ne_none e)
  rw [scanPieces.eq_def]
  split
  · rename_i heq
    exact absurd heq (by simp)
  · rename_i heq
    exact absurd (List.cons.inj heq).1 (by decide)
  · rename_i heq
    exact absurd (List.cons.inj (List.cons.inj heq).2).1 hu
  · rename_i heq
    obtain ⟨rfl, rfl⟩ := List.cons.inj (List.cons.inj heq).2
    rw [he]
    cases scanPieces cs <;> rfl
  · rename_i hshort heq
    obtain ⟨rfl, rfl⟩ := List.cons.inj heq
    exact absurd rfl (hshort c cs rfl)

/-- A character that needs no escape gives itself. -/
theorem scanPieces_plain {c : Char} (hc : ¬ c.toNat < 0x20) (hq : c ≠ '"') (hb : c ≠ '\\') (cs : List Char) :
    scanPieces (c :: cs) = (scanPieces cs).map fun p => (.char c :: p.1, p.2) := by
  rw [scanPieces.eq_def]
  split
  · rename_i heq
    exact absurd heq (by simp)
  · rename_i heq
    exact absurd (List.cons.inj heq).1 hq
  · rename_i heq
    exact absurd (List.cons.inj heq).1 hb
  · rename_i heq
    exact absurd (List.cons.inj heq).1 hb
  · rename_i heq
    obtain ⟨rfl, rfl⟩ := List.cons.inj heq
    rw [if_neg (by simp [hc, hb])]

/-- A character is printed as a short escape, by its code point, or as it is. -/
theorem literalChar_cases (c : Char) :
    (∃ e, literalChar c = ['\\', e] ∧ shortEscape e = some c) ∨
      (c.toNat < 0x20 ∧ literalChar c = ['\\', 'u'] ++ hex4 c.toNat) ∨
      (¬ c.toNat < 0x20 ∧ c ≠ '"' ∧ c ≠ '\\' ∧ literalChar c = [c]) := by
  unfold literalChar
  split_ifs with hself hb ht hn hf hr hcontrol
  · refine Or.inl ⟨c, rfl, ?_⟩
    rcases Bool.or_eq_true_iff.mp hself with h | h <;> rw [beq_iff_eq.mp h] <;> rfl
  · exact Or.inl ⟨'b', rfl, by rw [beq_iff_eq.mp hb]; rfl⟩
  · exact Or.inl ⟨'t', rfl, by rw [beq_iff_eq.mp ht]; rfl⟩
  · exact Or.inl ⟨'n', rfl, by rw [beq_iff_eq.mp hn]; rfl⟩
  · exact Or.inl ⟨'f', rfl, by rw [beq_iff_eq.mp hf]; rfl⟩
  · exact Or.inl ⟨'r', rfl, by rw [beq_iff_eq.mp hr]; rfl⟩
  · exact Or.inr (Or.inl ⟨hcontrol, rfl⟩)
  · rw [Bool.or_eq_true_iff, not_or, beq_iff_eq, beq_iff_eq] at hself
    exact Or.inr (Or.inr ⟨hcontrol, hself.1, hself.2, rfl⟩)

/-- **What is printed for a character is scanned as that character.** -/
theorem scanPieces_literalChar (c : Char) (cs : List Char) :
    scanPieces (literalChar c ++ cs) = (scanPieces cs).map fun p => (.char c :: p.1, p.2) := by
  rcases literalChar_cases c with ⟨e, htext, he⟩ | ⟨h, htext⟩ | ⟨hc, hq, hb, htext⟩
  · rw [htext]
    exact scanPieces_short he cs
  · obtain ⟨a, b, x, d, hrow, hunit⟩ := exists_hex4 h
    have hcons : literalChar c ++ cs = '\\' :: 'u' :: a :: b :: x :: d :: cs := by
      rw [htext, hrow]
      rfl
    rw [hcons, scanPieces, hunit, ← ofUnit_toNat h]
    cases scanPieces cs <;> rfl
  · rw [htext]
    exact scanPieces_plain hc hq hb cs

theorem scanPieces_flatMap (s rest : List Char) :
    scanPieces (s.flatMap literalChar ++ '"' :: rest) = some (s.map Piece.char, rest) := by
  induction s with
  | nil => rfl
  | cons c s ih =>
      rw [List.flatMap_cons, List.append_assoc, scanPieces_literalChar, ih]
      rfl

theorem joined_map_char (s : List Char) : joined (s.map Piece.char) = some s := by
  induction s with
  | nil => rfl
  | cons c s ih =>
      rw [List.map_cons, joined, ih]
      rfl

/-- **A printed literal is scanned as its text.** -/
theorem scanLiteral_flatMap (s : String) (rest : List Char) :
    scanLiteral (s.toList.flatMap literalChar ++ '"' :: rest) = some (some s, rest) := by
  have hjoined := joined_map_char s.toList
  unfold scanLiteral
  rw [scanPieces_flatMap, Option.map_some]
  dsimp only
  rw [hjoined, Option.map_some, String.ofList_toList]

end ConstantResolution.Json
