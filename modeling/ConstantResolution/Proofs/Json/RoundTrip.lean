import ConstantResolution.Proofs.Json.Literal
import ConstantResolution.Proofs.Json.Numeral

/-! # What is printed is read back

A value is proper when its numerals are grammatical and its strings denote texts.  A proper value that is
printed in a style of white space is read back (`parse?_print`).

The scanners are followed through the printed text with whatever stands behind it (`scanValue_render`): one
lemma for the items of an array and one for the members of an object, each by induction on the list, and an
induction on the value around them.  The depth of the calls stays below twice the length of the text that is
scanned. -/

namespace ConstantResolution.Json

open Decimal

/-- A value that has a text: its numerals are grammatical, and its strings denote texts. -/
inductive Proper : Json → Prop
  | null : Proper .null
  | bool (b : Bool) : Proper (.bool b)
  | number {n : Numeral} (h : n.Grammatical) : Proper (.number n)
  | text (s : String) : Proper (.text s)
  | array {js : List Json} (h : ∀ j ∈ js, Proper j) : Proper (.array js)
  | object {ms : List (Option String × Json)} (hkeys : ∀ m ∈ ms, m.1.isSome = true)
      (h : ∀ m ∈ ms, Proper m.2) : Proper (.object ms)

/-! ### White space -/

/-- White space only. -/
def Blanks (bs : List Char) : Prop := ∀ c ∈ bs, isSpace c = true

/-- A style that adds nothing but white space. -/
structure Style.Blank (style : Style) : Prop where
  lineBreak : ∀ depth, Blanks (style.lineBreak depth)
  colon : ∃ bs, style.colon = ':' :: bs ∧ Blanks bs

theorem blank_compact : compact.Blank := ⟨fun _ => nofun, [], rfl, nofun⟩

theorem blank_indented : indented.Blank where
  lineBreak := by
    intro depth c hc
    rcases List.mem_cons.mp hc with rfl | hc
    · rfl
    · rw [List.eq_of_mem_replicate hc]
      rfl
  colon := ⟨[' '], rfl, by simp [Blanks, isSpace]⟩

theorem skipSpace_append {bs : List Char} (h : Blanks bs) (cs : List Char) : skipSpace (bs ++ cs) = skipSpace cs :=
  List.dropWhile_append_of_pos h

theorem skipSpace_cons {c : Char} (h : isSpace c = false) (cs : List Char) : skipSpace (c :: cs) = c :: cs := by
  unfold skipSpace
  rw [List.dropWhile_cons_of_neg (by rw [h]; decide)]

/-- White space in front of a value is passed over. -/
theorem scanValue_append {bs : List Char} (h : Blanks bs) (fuel : Nat) (cs : List Char) :
    scanValue fuel (bs ++ cs) = scanValue fuel cs := by
  cases fuel with
  | zero => rfl
  | succ fuel => rw [scanValue, scanValue, skipSpace_append h]

theorem scanItems_append {bs : List Char} (h : Blanks bs) (fuel : Nat) (cs : List Char) :
    scanItems fuel (bs ++ cs) = scanItems fuel cs := by
  cases fuel with
  | zero => rfl
  | succ fuel => rw [scanItems, scanItems, scanValue_append h]

theorem scanMembers_append {bs : List Char} (h : Blanks bs) (fuel : Nat) (cs : List Char) :
    scanMembers fuel (bs ++ cs) = scanMembers fuel cs := by
  cases fuel with
  | zero => rfl
  | succ fuel => rw [scanMembers, scanMembers, skipSpace_append h]

/-- A closing bracket or a comma ends a numeral, with white space in front of it or without. -/
theorem delimits_append {bs : List Char} (h : Blanks bs) {c : Char} (hc : c = ']' ∨ c = '}' ∨ c = ',')
    (cs : List Char) : Delimits (bs ++ c :: cs) := by
  cases bs with
  | nil => exact delimits_cons (by rcases hc with rfl | rfl | rfl <;> decide) cs
  | cons b bs =>
      refine delimits_cons ?_ _
      have hb := h b List.mem_cons_self
      simp only [isSpace, Bool.or_eq_true, beq_iff_eq] at hb
      rcases hb with ((rfl | rfl) | rfl) | rfl <;> decide

/-! ### The first character of a printed value -/

/-- A numeral starts with a sign or a digit. -/
theorem exists_cons_text {n : Numeral} (h : n.Grammatical) :
    ∃ c cs, n.text = c :: cs ∧ (c = '-' ∨ c.isDigit = true) := by
  obtain ⟨d, ds, hw⟩ := List.exists_cons_of_ne_nil h.nonempty
  have hd : d.isDigit = true := h.whole d (hw ▸ List.mem_cons_self)
  unfold Numeral.text
  rw [hw]
  cases n.negative with
  | true => exact ⟨'-', _, rfl, Or.inl rfl⟩
  | false => exact ⟨d, _, rfl, Or.inr hd⟩

/-- A character that a value can start with: it is no white space, and it closes nothing. -/
def Opens (c : Char) : Prop := isSpace c = false ∧ c ≠ ']' ∧ c ≠ '}'

instance (c : Char) : Decidable (Opens c) := inferInstanceAs (Decidable (_ ∧ _))

theorem opens_of_isDigit {c : Char} (h : c.isDigit = true) : Opens c := by
  have hne : ∀ d : Char, d.isDigit = false → c ≠ d := by
    rintro d hd rfl
    exact absurd (h.symm.trans hd) (by decide)
  refine ⟨?_, hne _ rfl, hne _ rfl⟩
  simp [isSpace, hne ' ' rfl, hne '\n' rfl, hne '\t' rfl, hne '\r' rfl]

/-- The text of a proper value is not empty. -/
theorem exists_cons_render {j : Json} (hj : j.Proper) (style : Style) (depth : Nat) :
    ∃ c cs, render style depth j = c :: cs ∧ Opens c := by
  cases hj with
  | null => exact ⟨'n', _, by rw [render], by decide⟩
  | bool b =>
      cases b with
      | true => exact ⟨'t', _, by rw [render], by decide⟩
      | false => exact ⟨'f', _, by rw [render], by decide⟩
  | number h =>
      obtain ⟨c, cs, htext, hc⟩ := exists_cons_text h
      refine ⟨c, cs, by rw [render, htext], ?_⟩
      rcases hc with rfl | hc
      · decide
      · exact opens_of_isDigit hc
  | text s => exact ⟨'"', _, by rw [text, render, literal]; rfl, by decide⟩
  | @array js _ =>
      cases js with
      | nil => exact ⟨'[', _, by rw [render], by decide⟩
      | cons j js => exact ⟨'[', _, by rw [render], by decide⟩
  | @object ms _ _ =>
      cases ms with
      | nil => exact ⟨'{', _, by rw [render], by decide⟩
      | cons m ms => exact ⟨'{', _, by rw [render], by decide⟩

theorem length_render_pos {j : Json} (hj : j.Proper) (style : Style) (depth : Nat) :
    0 < (render style depth j).length := by
  obtain ⟨c, cs, htext, -⟩ := exists_cons_render hj style depth
  rw [htext]
  exact Nat.succ_pos _

theorem skipSpace_render {j : Json} (hj : j.Proper) (style : Style) (depth : Nat) (rest : List Char) :
    skipSpace (render style depth j ++ rest) = render style depth j ++ rest := by
  obtain ⟨c, cs, htext, hc⟩ := exists_cons_render hj style depth
  rw [htext]
  exact skipSpace_cons hc.1 _

/-! ### Scanning what was printed -/

section scanning

variable {style : Style} {depth fuel : Nat} {rest : List Char}

/-- A value is scanned from its text, whatever follows. -/
def Scanned (style : Style) (j : Json) : Prop :=
  ∀ depth rest fuel, Delimits rest → 2 * (render style depth j).length ≤ fuel →
    scanValue fuel (render style depth j ++ rest) = some (j, rest)

theorem scanValue_quote (fuel : Nat) (cs : List Char) :
    scanValue (fuel + 1) ('"' :: cs) = (scanLiteral cs).map fun p => (.string p.1, p.2) := by
  rw [scanValue, skipSpace_cons rfl]
  rfl

/-- Behind a bracket stand items unless it is closed. -/
theorem scanValue_bracket {cs ds : List Char} {d : Char} (h : skipSpace cs = d :: ds) (hd : d ≠ ']') :
    scanValue (fuel + 1) ('[' :: cs) = (scanItems fuel (d :: ds)).map fun p => (.array p.1, p.2) := by
  rw [scanValue, skipSpace_cons rfl]
  simp [h, hd]

/-- Behind a brace stand members unless it is closed. -/
theorem scanValue_brace {cs ds : List Char} {d : Char} (h : skipSpace cs = d :: ds) (hd : d ≠ '}') :
    scanValue (fuel + 1) ('{' :: cs) = (scanMembers fuel (d :: ds)).map fun p => (.object p.1, p.2) := by
  rw [scanValue, skipSpace_cons rfl]
  simp [h, hd]

/-- A numeral is taken for one when nothing else starts with its first character. -/
theorem scanValue_numeral {c : Char} {cs : List Char} (hc : c = '-' ∨ c.isDigit = true) (fuel : Nat) :
    scanValue (fuel + 1) (c :: cs) = (scanNumeral (c :: cs)).map fun p => (.number p.1, p.2) := by
  have hopens : isSpace c = false := by
    rcases hc with rfl | hc
    · rfl
    · exact (opens_of_isDigit hc).1
  have hother : ∀ d : Char, d ≠ '-' → d.isDigit = false → c ≠ d := by
    rintro d hd hdigit rfl
    rcases hc with hc | hc
    · exact hd hc
    · exact absurd (hc.symm.trans hdigit) (by decide)
  rw [scanValue, skipSpace_cons hopens]
  split
  · rename_i heq
    exact absurd (List.cons.inj heq).1 (hother 'n' (by decide) rfl)
  · rename_i heq
    exact absurd (List.cons.inj heq).1 (hother 't' (by decide) rfl)
  · rename_i heq
    exact absurd (List.cons.inj heq).1 (hother 'f' (by decide) rfl)
  · rename_i heq
    exact absurd (List.cons.inj heq).1 (hother '"' (by decide) rfl)
  · rename_i heq
    exact absurd (List.cons.inj heq).1 (hother '[' (by decide) rfl)
  · rename_i heq
    exact absurd (List.cons.inj heq).1 (hother '{' (by decide) rfl)
  · rfl

theorem scanItems_last {j : Json} {cs ds es : List Char} (h : scanValue fuel cs = some (j, ds))
    (hs : skipSpace ds = ']' :: es) : scanItems (fuel + 1) cs = some ([j], es) := by
  rw [scanItems, h]
  dsimp only
  rw [hs]
  rfl

theorem scanItems_next {j : Json} {cs ds es : List Char} (h : scanValue fuel cs = some (j, ds))
    (hs : skipSpace ds = ',' :: es) :
    scanItems (fuel + 1) cs = (scanItems fuel es).map fun p => (j :: p.1, p.2) := by
  rw [scanItems, h]
  dsimp only
  rw [hs]
  rfl

section member

variable {k : Option String} {j : Json} {cs ds es fs gs hs : List Char} (hquote : skipSpace cs = '"' :: es)
  (hkey : scanLiteral es = some (k, fs)) (hcolon : skipSpace fs = ':' :: gs)
  (hvalue : scanValue fuel gs = some (j, ds))

include hquote hkey hcolon hvalue

theorem scanMembers_last (h : skipSpace ds = '}' :: hs) :
    scanMembers (fuel + 1) cs = some ([(k, j)], hs) := by
  rw [scanMembers, hquote]
  simp only [hkey, hcolon, hvalue]
  rw [h]
  rfl

theorem scanMembers_next (h : skipSpace ds = ',' :: hs) :
    scanMembers (fuel + 1) cs = (scanMembers fuel hs).map fun p => ((k, j) :: p.1, p.2) := by
  rw [scanMembers, hquote]
  simp only [hkey, hcolon, hvalue]
  rw [h]
  rfl

end member

/-- A value that has one text at every depth, which starts with a character that is no space. -/
theorem scanned_fixed {j : Json} {c : Char} {cs : List Char} (htext : ∀ depth, render style depth j = c :: cs)
    (h : ∀ fuel rest, scanValue (fuel + 1) (c :: cs ++ rest) = some (j, rest)) : Scanned style j := by
  intro depth rest fuel _ hfuel
  rw [htext, List.length_cons] at hfuel
  obtain ⟨fuel, rfl⟩ : ∃ f, fuel = f + 1 := ⟨fuel - 1, by omega⟩
  rw [htext]
  exact h fuel rest

theorem scanned_number {n : Numeral} (h : n.Grammatical) : Scanned style (.number n) := by
  intro depth rest fuel hrest hfuel
  obtain ⟨c, cs, htext, hc⟩ := exists_cons_text h
  have hscan := scanNumeral_text h hrest
  rw [render, htext] at hfuel ⊢
  rw [htext] at hscan
  cases fuel with
  | zero => simp at hfuel
  | succ fuel =>
      rw [List.cons_append, scanValue_numeral hc, ← List.cons_append, hscan]
      rfl

theorem scanned_text (s : String) : Scanned style (.text s) := by
  intro depth rest fuel hrest hfuel
  have hshape : render style depth (.text s) ++ rest = '"' :: (s.toList.flatMap literalChar ++ '"' :: rest) := by
    rw [text, render, literal]
    simp
  rw [hshape]
  cases fuel with
  | zero =>
      have := length_render_pos (Proper.text s) style depth
      omega
  | succ fuel =>
      rw [scanValue_quote, scanLiteral_flatMap]
      rfl

variable (hstyle : style.Blank)

include hstyle

/-- What follows an item ends a numeral. -/
theorem delimits_renderItems (js : List Json) : Delimits (renderItems style depth js ++ rest) := by
  cases js with
  | nil =>
      rw [renderItems, List.append_assoc]
      exact delimits_append (hstyle.lineBreak depth) (Or.inl rfl) rest
  | cons j js =>
      rw [renderItems]
      exact delimits_cons (by decide) _

theorem delimits_renderMembers (ms : List (Option String × Json)) :
    Delimits (renderMembers style depth ms ++ rest) := by
  cases ms with
  | nil =>
      rw [renderMembers, List.append_assoc]
      exact delimits_append (hstyle.lineBreak depth) (Or.inr (Or.inl rfl)) rest
  | cons m ms =>
      rw [renderMembers]
      exact delimits_cons (by decide) _

/-- **The items of an array are scanned up to its closing bracket.** -/
theorem scanItems_render {j : Json} {js : List Json} (hproper : ∀ i ∈ j :: js, i.Proper)
    (h : ∀ i ∈ j :: js, Scanned style i)
    (hfuel : 2 * ((render style (depth + 1) j).length + (renderItems style depth js).length) ≤ fuel) :
    scanItems fuel (render style (depth + 1) j ++ (renderItems style depth js ++ rest)) = some (j :: js, rest) := by
  induction js generalizing j fuel with
  | nil =>
      have hclose : skipSpace (renderItems style depth [] ++ rest) = ']' :: rest := by
        rw [renderItems, List.append_assoc, skipSpace_append (hstyle.lineBreak depth)]
        exact skipSpace_cons rfl rest
      have hlength : 0 < (renderItems style depth []).length := by
        rw [renderItems, List.length_append]
        exact Nat.succ_pos _
      obtain ⟨fuel, rfl⟩ : ∃ f, fuel = f + 1 := ⟨fuel - 1, by omega⟩
      have hvalue := h j List.mem_cons_self (depth + 1) (renderItems style depth [] ++ rest) fuel
        (delimits_renderItems hstyle []) (by omega)
      exact scanItems_last hvalue hclose
  | cons i js ih =>
      have hcomma : skipSpace (renderItems style depth (i :: js) ++ rest) = ',' :: (style.lineBreak (depth + 1) ++
          (render style (depth + 1) i ++ (renderItems style depth js ++ rest))) := by
        rw [renderItems, List.cons_append, skipSpace_cons rfl, List.append_assoc, List.append_assoc]
      have hlength : (renderItems style depth (i :: js)).length = (style.lineBreak (depth + 1)).length +
          (render style (depth + 1) i).length + (renderItems style depth js).length + 1 := by
        rw [renderItems, List.length_cons, List.length_append, List.length_append]
      have hpos := length_render_pos (hproper j List.mem_cons_self) style (depth + 1)
      obtain ⟨fuel, rfl⟩ : ∃ f, fuel = f + 1 := ⟨fuel - 1, by omega⟩
      have hvalue := h j List.mem_cons_self (depth + 1) (renderItems style depth (i :: js) ++ rest) fuel
        (delimits_renderItems hstyle (i :: js)) (by omega)
      have hroom : 2 * ((render style (depth + 1) i).length + (renderItems style depth js).length) ≤ fuel := by
        omega
      have hitems := ih (fun i hi => hproper i (List.mem_cons_of_mem j hi))
        (fun i hi => h i (List.mem_cons_of_mem j hi)) hroom
      rw [scanItems_next hvalue hcomma, scanItems_append (hstyle.lineBreak (depth + 1)), hitems]
      rfl

omit hstyle in
/-- The text of a member up to the text of its value. -/
theorem skipSpace_key {bs : List Char} (hcolon : style.colon = ':' :: bs) (k : String) (cs : List Char) :
    skipSpace (key style (some k) ++ cs) =
      '"' :: (k.toList.flatMap literalChar ++ '"' :: ':' :: (bs ++ cs)) := by
  have hkey : key style (some k) ++ cs = '"' :: (k.toList.flatMap literalChar ++ '"' :: ':' :: (bs ++ cs)) := by
    rw [key, literal, hcolon]
    simp
  rw [hkey, skipSpace_cons rfl]

/-- **The members of an object are scanned up to its closing brace.** -/
theorem scanMembers_render {m : Option String × Json} {ms : List (Option String × Json)}
    (hkeys : ∀ n ∈ m :: ms, n.1.isSome = true) (hproper : ∀ n ∈ m :: ms, n.2.Proper)
    (h : ∀ n ∈ m :: ms, Scanned style n.2)
    (hfuel : 2 * ((render style (depth + 1) m.2).length + (renderMembers style depth ms).length) ≤ fuel) :
    scanMembers fuel (key style m.1 ++ (render style (depth + 1) m.2 ++ (renderMembers style depth ms ++ rest))) =
      some (m :: ms, rest) := by
  obtain ⟨bs, hcolon, hbs⟩ := hstyle.colon
  induction ms generalizing m fuel with
  | nil =>
      obtain ⟨k, j⟩ := m
      obtain ⟨k, rfl⟩ := Option.isSome_iff_exists.mp (hkeys _ List.mem_cons_self)
      have hclose : skipSpace (renderMembers style depth [] ++ rest) = '}' :: rest := by
        rw [renderMembers, List.append_assoc, skipSpace_append (hstyle.lineBreak depth)]
        exact skipSpace_cons rfl rest
      have hlength : 0 < (renderMembers style depth []).length := by
        rw [renderMembers, List.length_append]
        exact Nat.succ_pos _
      obtain ⟨fuel, rfl⟩ : ∃ f, fuel = f + 1 := ⟨fuel - 1, by omega⟩
      have hvalue := h _ List.mem_cons_self (depth + 1) (renderMembers style depth [] ++ rest) fuel
        (delimits_renderMembers hstyle []) (by omega)
      rw [← scanValue_append hbs] at hvalue
      exact scanMembers_last (skipSpace_key hcolon k _) (scanLiteral_flatMap k _) (skipSpace_cons rfl _) hvalue hclose
  | cons n ms ih =>
      obtain ⟨k, j⟩ := m
      obtain ⟨k, rfl⟩ := Option.isSome_iff_exists.mp (hkeys _ List.mem_cons_self)
      have hcomma : skipSpace (renderMembers style depth (n :: ms) ++ rest) = ',' :: (style.lineBreak (depth + 1) ++
          (key style n.1 ++ (render style (depth + 1) n.2 ++ (renderMembers style depth ms ++ rest)))) := by
        rw [renderMembers, List.cons_append, skipSpace_cons rfl]
        simp only [List.append_assoc]
      have hlength : (render style (depth + 1) n.2).length + (renderMembers style depth ms).length + 1 ≤
          (renderMembers style depth (n :: ms)).length := by
        rw [renderMembers]
        simp only [List.length_cons, List.length_append]
        omega
      have hpos := length_render_pos (hproper _ List.mem_cons_self) style (depth + 1)
      obtain ⟨fuel, rfl⟩ : ∃ f, fuel = f + 1 := ⟨fuel - 1, by omega⟩
      have hvalue := h _ List.mem_cons_self (depth + 1) (renderMembers style depth (n :: ms) ++ rest) fuel
        (delimits_renderMembers hstyle (n :: ms)) (by omega)
      rw [← scanValue_append hbs] at hvalue
      have hroom : 2 * ((render style (depth + 1) n.2).length + (renderMembers style depth ms).length) ≤ fuel := by
        omega
      have hmembers := ih (fun i hi => hkeys i (List.mem_cons_of_mem _ hi))
        (fun i hi => hproper i (List.mem_cons_of_mem _ hi)) (fun i hi => h i (List.mem_cons_of_mem _ hi)) hroom
      rw [scanMembers_next (skipSpace_key hcolon k _) (scanLiteral_flatMap k _) (skipSpace_cons rfl _) hvalue hcomma,
        scanMembers_append (hstyle.lineBreak (depth + 1)), hmembers]
      rfl

/-- An array with items is scanned when its items are. -/
theorem scanned_array {j : Json} {js : List Json} (hproper : ∀ i ∈ j :: js, i.Proper)
    (h : ∀ i ∈ j :: js, Scanned style i) : Scanned style (.array (j :: js)) := by
  intro depth rest fuel _ hfuel
  rw [render, List.length_cons, List.length_append, List.length_append] at hfuel
  obtain ⟨fuel, rfl⟩ : ∃ f, fuel = f + 1 := ⟨fuel - 1, by omega⟩
  have hitems : scanItems fuel (render style (depth + 1) j ++ (renderItems style depth js ++ rest)) =
      some (j :: js, rest) := scanItems_render hstyle hproper h (by omega)
  have hskip := skipSpace_render (hproper j List.mem_cons_self) style (depth + 1)
    (renderItems style depth js ++ rest)
  obtain ⟨c, cs, htext, hc⟩ := exists_cons_render (hproper j List.mem_cons_self) style (depth + 1)
  rw [htext, List.cons_append] at hitems hskip
  rw [render, htext, List.cons_append, List.append_assoc, List.append_assoc, List.cons_append,
    scanValue_bracket ((skipSpace_append (hstyle.lineBreak _) _).trans hskip) hc.2.1, hitems]
  rfl

/-- An object with members is scanned when their values are. -/
theorem scanned_object {m : Option String × Json} {ms : List (Option String × Json)}
    (hkeys : ∀ n ∈ m :: ms, n.1.isSome = true) (hproper : ∀ n ∈ m :: ms, n.2.Proper)
    (h : ∀ n ∈ m :: ms, Scanned style n.2) : Scanned style (.object (m :: ms)) := by
  obtain ⟨k, j⟩ := m
  intro depth rest fuel _ hfuel
  rw [render] at hfuel
  simp only [List.length_cons, List.length_append] at hfuel
  obtain ⟨fuel, rfl⟩ : ∃ f, fuel = f + 1 := ⟨fuel - 1, by omega⟩
  have hmembers : scanMembers fuel (key style k ++ (render style (depth + 1) j ++
      (renderMembers style depth ms ++ rest))) = some ((k, j) :: ms, rest) :=
    scanMembers_render (m := (k, j)) hstyle hkeys hproper h (by dsimp only; omega)
  obtain ⟨cs, hcs⟩ : ∃ cs, key style k = '"' :: cs := ⟨_, rfl⟩
  have hskip : ∀ ds, skipSpace (style.lineBreak (depth + 1) ++ '"' :: ds) = '"' :: ds := fun ds =>
    (skipSpace_append (hstyle.lineBreak _) _).trans (skipSpace_cons rfl ds)
  rw [hcs, List.cons_append] at hmembers
  rw [render, hcs, List.cons_append, List.append_assoc, List.append_assoc, List.append_assoc,
    List.cons_append, scanValue_brace (hskip _) (by decide), hmembers]
  rfl

/-- **A proper value is scanned from its text**, whatever follows that does not go on with a numeral. -/
theorem scanValue_render {j : Json} (hj : j.Proper) : Scanned style j := by
  induction hj with
  | null =>
      refine scanned_fixed (fun _ => by rw [render]) fun _ _ => ?_
      rw [List.cons_append, scanValue, skipSpace_cons rfl]
      rfl
  | bool b =>
      cases b with
      | true =>
          refine scanned_fixed (fun _ => by rw [render]) fun _ _ => ?_
          rw [List.cons_append, scanValue, skipSpace_cons rfl]
          rfl
      | false =>
          refine scanned_fixed (fun _ => by rw [render]) fun _ _ => ?_
          rw [List.cons_append, scanValue, skipSpace_cons rfl]
          rfl
  | number h => exact scanned_number h
  | text s => exact scanned_text s
  | @array js hproper h =>
      cases js with
      | nil =>
          refine scanned_fixed (fun _ => by rw [render]) fun _ _ => ?_
          rw [List.cons_append, scanValue, skipSpace_cons rfl]
          rfl
      | cons j js => exact scanned_array hstyle hproper h
  | @object ms hkeys hproper h =>
      cases ms with
      | nil =>
          refine scanned_fixed (fun _ => by rw [render]) fun _ _ => ?_
          rw [List.cons_append, scanValue, skipSpace_cons rfl]
          rfl
      | cons m ms => exact scanned_object hstyle hkeys hproper h

/-- **A proper value is read back from its text**, and nothing else is left. -/
theorem parse?_print {j : Json} (hj : j.Proper) : parse? (j.print style) = some j := by
  have hscan := scanValue_render hstyle hj 0 [] (2 * (render style 0 j).length + 2) delimits_nil (by omega)
  unfold parse? print
  rw [String.toList_ofList]
  rw [List.append_nil] at hscan
  rw [hscan]
  rfl

end scanning

end ConstantResolution.Json
