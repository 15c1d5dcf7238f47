import Mathlib.Data.List.Basic
import ConstantResolution.Proofs.World.Acyclicity

/-! # Full expansions

A node is expanded fully when each of its links is followed by its own expansion (`expand`).  Nothing is left
out, so a node is listed once for each way that leads to it.  Without circles this comes to an end: where no
way is longer than the depth (`Shallow`), there is no other full expansion (`Shallow.eq_expand`).

A walk that skips what it has seen lists each node where the full expansion has it first
(`Shallow.visit_eq`, `Shallow.visitAll_eq`).  What it skips is listed with everything behind it, or is under
way, and then there would be a circle (`Settled`).

Of a node and another one that it leads to, the first one is listed first if and only if it lies on the way
that always takes the first link to the other one (`Shallow.idxOf_expand_lt_iff`). -/

namespace ConstantResolution

/-- The links of a node, each followed by its own expansion, to a depth. -/
def expand (next : Nat → List Nat) : Nat → Nat → List Nat
  | 0, _ => []
  | depth + 1, i => (next i).flatMap fun j => j :: expand next depth j

/-- A node is led to over one link or more. -/
abbrev Leads (next : Nat → List Nat) : Nat → Nat → Prop := Relation.TransGen fun i j => j ∈ next i

/-- No way from a node has more links than the depth. -/
def Shallow (next : Nat → List Nat) : Nat → Nat → Prop
  | 0, i => next i = []
  | depth + 1, i => ∀ j ∈ next i, Shallow next depth j

/-- Lists that are full expansions of all nodes. -/
def IsExpansion (next : Nat → List Nat) (e : Nat → List Nat) : Prop :=
  ∀ i, e i = (next i).flatMap fun j => j :: e j

variable {next : Nat → List Nat} {depth i j m x y : Nat} {seen is l l' : List Nat}

theorem leads_iff : Leads next x y ↔ ∃ z ∈ next x, z = y ∨ Leads next z y := by
  rw [Leads, transGen_iff]
  simp only [Reaches, Relation.reflTransGen_iff_eq_or_transGen, eq_comm]

/-! ### Depth -/

/-- Without circles, there are no more links on a way than nodes that links lead to. -/
theorem Acyclic.shallow {u : Finset Nat} (h : Acyclic next) (hu : ∀ i, ∀ j ∈ next i, j ∈ u) (i : Nat) :
    Shallow next u.card i := by
  classical
  have hbehind : ∀ depth i, (u.filter (Leads next i)).card ≤ depth → Shallow next depth i := by
    intro depth
    induction depth with
    | zero =>
        intro i hcard
        rw [Nat.le_zero, Finset.card_eq_zero, Finset.filter_eq_empty_iff] at hcard
        apply List.eq_nil_iff_forall_not_mem.mpr
        intro j hj
        exact hcard (hu i j hj) (Relation.TransGen.single hj)
    | succ depth ih =>
        intro i hcard j hj
        have hlead : Leads next i j := Relation.TransGen.single hj
        apply ih
        -- What lies behind a link lies behind the node too, and the link itself only there.
        have hlt : (u.filter (Leads next j)).card < (u.filter (Leads next i)).card := by
          apply Finset.card_lt_card
          rw [Finset.ssubset_iff_of_subset]
          · exact ⟨j, by simp [hu i j hj, hlead], by simp [h j]⟩
          · intro k hk
            rw [Finset.mem_filter] at hk ⊢
            exact ⟨hk.1, Relation.TransGen.head hj hk.2⟩
        omega
  exact hbehind u.card i (Finset.card_filter_le _ _)

/-- A greater depth adds nothing. -/
theorem Shallow.expand_succ (h : Shallow next depth i) : expand next (depth + 1) i = expand next depth i := by
  induction depth generalizing i with
  | zero =>
      have hnone : next i = [] := h
      simp [expand, hnone]
  | succ depth ih =>
      rw [expand, expand]
      apply List.flatMap_congr
      intro j hj
      rw [ih (h j hj)]

theorem isExpansion_expand (h : ∀ i, Shallow next depth i) : IsExpansion next (expand next depth) := by
  intro i
  rw [← (h i).expand_succ, expand]

/-- **There is one full expansion.** -/
theorem Shallow.eq_expand {e : Nat → List Nat} (h : Shallow next depth i) (he : IsExpansion next e) :
    e i = expand next depth i := by
  induction depth generalizing i with
  | zero =>
      have hnone : next i = [] := h
      rw [he i, hnone, expand, List.flatMap_nil]
  | succ depth ih =>
      rw [he i, expand]
      apply List.flatMap_congr
      intro j hj
      rw [ih (h j hj)]

/-- **The full expansion lists what is led to.** -/
theorem Shallow.mem_expand_iff (h : Shallow next depth i) : x ∈ expand next depth i ↔ Leads next i x := by
  induction depth generalizing i with
  | zero =>
      have hnone : next i = [] := h
      simp [expand, leads_iff (x := i), hnone]
  | succ depth ih =>
      rw [expand, List.mem_flatMap, leads_iff]
      constructor
      · rintro ⟨j, hj, hx⟩
        rw [List.mem_cons, ih (h j hj)] at hx
        exact ⟨j, hj, hx.imp Eq.symm id⟩
      · rintro ⟨j, hj, hx⟩
        refine ⟨j, hj, ?_⟩
        rw [List.mem_cons, ih (h j hj)]
        exact hx.imp Eq.symm id

theorem Shallow.mem_cons_expand_iff (h : Shallow next depth i) :
    x ∈ i :: expand next depth i ↔ Reaches next i x := by
  rw [List.mem_cons, h.mem_expand_iff, Reaches, Relation.reflTransGen_iff_eq_or_transGen]

/-! ### First occurrences -/

theorem nodup_eraseDups (l : List Nat) : l.eraseDups.Nodup := by
  induction hn : l.length using Nat.strong_induction_on generalizing l with
  | _ n ih =>
      cases l with
      | nil => simp
      | cons a l =>
          have hle := List.length_filter_le (fun b => !b == a) l
          rw [List.length_cons] at hn
          rw [List.eraseDups_cons, List.nodup_cons]
          constructor
          · simp [List.mem_eraseDups]
          · exact ih _ (by omega) _ rfl

theorem eraseDups_of_nodup (h : l.Nodup) : l.eraseDups = l := by
  induction l with
  | nil => simp
  | cons a l ih =>
      rw [List.nodup_cons] at h
      have hall : l.filter (fun b => !b == a) = l := by
        apply List.filter_eq_self.mpr
        intro b hb
        simp [ne_of_mem_of_not_mem hb h.1]
      rw [List.eraseDups_cons, hall, ih h.2]

/-- To take first occurrences early changes nothing. -/
theorem eraseDups_eraseDups_append (l l' : List Nat) : (l.eraseDups ++ l').eraseDups = (l ++ l').eraseDups := by
  have hsame : l'.removeAll l.eraseDups = l'.removeAll l := by simp [List.removeAll, List.mem_eraseDups]
  rw [List.eraseDups_append, List.eraseDups_append, eraseDups_of_nodup (nodup_eraseDups l), hsame]

theorem eraseDups_append_of_subset (h : l' ⊆ l) : (l ++ l').eraseDups = l.eraseDups := by
  have hnone : l'.removeAll l = [] := by
    apply List.filter_eq_nil_iff.mpr
    intro a ha
    simp [h ha]
  rw [List.eraseDups_append, hnone, List.eraseDups_nil, List.append_nil]

theorem idxOf_cons_lt_iff {a : Nat} :
    (a :: l).idxOf m < (a :: l).idxOf x ↔ a ≠ x ∧ (a = m ∨ l.idxOf m < l.idxOf x) := by
  rw [List.idxOf_cons, List.idxOf_cons]
  by_cases hx : a = x
  · simp [hx]
  · by_cases hm : a = m
    · subst hm
      simp [hx, beq_eq_false_iff_ne.mpr hx]
    · simp [hx, hm, beq_eq_false_iff_ne.mpr hx, beq_eq_false_iff_ne.mpr hm]

/-- Nodes that are passed over do not matter. -/
theorem idxOf_append_lt_iff (hx : x ∉ l) (hm : m ∉ l) :
    (l ++ l').idxOf m < (l ++ l').idxOf x ↔ l'.idxOf m < l'.idxOf x := by
  rw [List.idxOf_append_of_notMem hx, List.idxOf_append_of_notMem hm]
  omega

/-- What comes later does not matter. -/
theorem idxOf_append_lt_iff_of_mem (hx : x ∈ l) :
    (l ++ l').idxOf m < (l ++ l').idxOf x ↔ l.idxOf m < l.idxOf x := by
  have hlt := List.idxOf_lt_length_of_mem hx
  rw [List.idxOf_append_of_mem hx]
  by_cases hm : m ∈ l
  · rw [List.idxOf_append_of_mem hm]
  · rw [List.idxOf_append_of_notMem hm, List.idxOf_eq_length hm]
    omega

/-- What is found comes before all else that could have been found. -/
theorem not_idxOf_lt_of_find? {p : Nat → Bool} (h : l.find? p = some x) (hm : p m) :
    ¬ l.idxOf m < l.idxOf x := by
  induction l with
  | nil => simp
  | cons a l ih =>
      rw [idxOf_cons_lt_iff]
      rintro ⟨hax, hlt⟩
      by_cases ha : p a
      · rw [List.find?_cons_of_pos ha, Option.some.injEq] at h
        exact hax h
      · rw [List.find?_cons_of_neg ha] at h
        rcases hlt with rfl | hlt
        · exact ha hm
        · exact ih h hlt

theorem idxOf_filter_lt_iff {p : Nat → Bool} (hm : p m) (hx : p x) :
    (l.filter p).idxOf m < (l.filter p).idxOf x ↔ l.idxOf m < l.idxOf x := by
  induction l with
  | nil => simp
  | cons a l ih =>
      by_cases ha : p a
      · rw [List.filter_cons_of_pos ha, idxOf_cons_lt_iff, idxOf_cons_lt_iff, ih]
      · have ham : a ≠ m := fun h => ha (h ▸ hm)
        have hax : a ≠ x := fun h => ha (h ▸ hx)
        simp [List.filter_cons_of_neg ha, ham, hax, ih]

/-- First occurrences keep their order. -/
theorem idxOf_eraseDups_lt_iff (l : List Nat) (m x : Nat) :
    l.eraseDups.idxOf m < l.eraseDups.idxOf x ↔ l.idxOf m < l.idxOf x := by
  induction hn : l.length using Nat.strong_induction_on generalizing l with
  | _ n ih =>
      cases l with
      | nil => simp
      | cons a l =>
          have hle := List.length_filter_le (fun b => !b == a) l
          rw [List.length_cons] at hn
          rw [List.eraseDups_cons, idxOf_cons_lt_iff, idxOf_cons_lt_iff, ih _ (by omega) _ rfl]
          -- The node that is taken out elsewhere is the head, and then the rest does not matter.
          refine and_congr_right fun hax => or_congr_right' fun ham => ?_
          apply idxOf_filter_lt_iff
          · simp [Ne.symm ham]
          · simp [Ne.symm hax]

/-! ### A walk lists first occurrences -/

/-- What is listed is listed with everything behind it, or leads to all that is to be visited. -/
def Settled (next : Nat → List Nat) (seen is : List Nat) : Prop :=
  ∀ y ∈ seen, (∀ z, Leads next y z → z ∈ seen) ∨ ∀ i ∈ is, Leads next y i

theorem Settled.visited (h : Shallow next depth i) (hs : Settled next seen (i :: is)) :
    Settled next (seen ++ i :: expand next depth i).eraseDups is := by
  intro y hy
  rw [List.mem_eraseDups, List.mem_append, List.mem_cons, h.mem_expand_iff] at hy
  simp only [List.mem_eraseDups, List.mem_append, List.mem_cons, h.mem_expand_iff]
  rcases hy with hy | rfl | hy
  · rcases hs y hy with hall | hway
    · exact Or.inl fun z hz => Or.inl (hall z hz)
    · exact Or.inr fun k hk => hway k (List.mem_cons_of_mem i hk)
  · exact Or.inl fun z hz => Or.inr (Or.inr hz)
  · exact Or.inl fun z hz => Or.inr (Or.inr (hy.trans hz))

/-- To have listed all that is known is to have nothing to add. -/
theorem eraseDups_append_of_mem (hn : seen.Nodup) (hs : Settled next seen [i]) (hacyclic : Acyclic next)
    (h : Shallow next depth i) (hi : i ∈ seen) : (seen ++ i :: expand next depth i).eraseDups = seen := by
  -- A node that is under way cannot come up again, for it would lead to itself.
  have hall := (hs i hi).resolve_right fun hway => hacyclic i (hway i (List.mem_singleton_self i))
  rw [eraseDups_append_of_subset, eraseDups_of_nodup hn]
  apply List.cons_subset.mpr
  exact ⟨hi, fun z hz => hall z (h.mem_expand_iff.mp hz)⟩

theorem nodup_append_singleton (hn : seen.Nodup) (hi : i ∉ seen) : (seen ++ [i]).Nodup := by
  simpa [List.nodup_append] using ⟨hn, fun a ha hai => hi (hai ▸ ha)⟩

/-- A node that is listed leads to all of its links. -/
theorem Settled.start (hs : Settled next seen [i]) : Settled next (seen ++ [i]) (next i) := by
  intro y hy
  rcases List.mem_append.mp hy with hy | hy
  · rcases hs y hy with hall | hway
    · exact Or.inl fun z hz => List.mem_append_left [i] (hall z hz)
    · exact Or.inr fun k hk => (hway i (List.mem_singleton_self i)).tail hk
  · rw [List.mem_singleton.mp hy]
    exact Or.inr fun k hk => Relation.TransGen.single hk

theorem foldl_visit_eq
    (ih : ∀ seen i, Shallow next depth i → seen.Nodup → Settled next seen [i] →
      visit next (depth + 1) seen i = (seen ++ i :: expand next depth i).eraseDups)
    (is seen : List Nat) (h : ∀ i ∈ is, Shallow next depth i) (hn : seen.Nodup)
    (hs : Settled next seen is) :
    is.foldl (visit next (depth + 1)) seen =
      (seen ++ is.flatMap fun j => j :: expand next depth j).eraseDups := by
  induction is generalizing seen with
  | nil => simp [eraseDups_of_nodup hn]
  | cons i is ihs =>
      have hi : Shallow next depth i := h i List.mem_cons_self
      have hone : Settled next seen [i] := by
        intro y hy
        refine (hs y hy).imp id fun hway k hk => ?_
        rw [List.mem_singleton.mp hk]
        exact hway i List.mem_cons_self
      rw [List.foldl_cons, ih seen i hi hn hone,
        ihs _ (fun j hj => h j (List.mem_cons_of_mem i hj)) (nodup_eraseDups _) (hs.visited hi),
        eraseDups_eraseDups_append, List.flatMap_cons, List.append_assoc]

/-- **A walk adds the first occurrences of the full expansion.** -/
theorem Shallow.visit_eq (hacyclic : Acyclic next) (h : Shallow next depth i) (hn : seen.Nodup)
    (hs : Settled next seen [i]) :
    visit next (depth + 1) seen i = (seen ++ i :: expand next depth i).eraseDups := by
  induction depth generalizing seen i with
  | zero =>
      have hnone : next i = [] := h
      rw [visit, hnone]
      split
      · exact (eraseDups_append_of_mem hn hs hacyclic h ‹_›).symm
      · rw [List.foldl_nil, expand, eraseDups_of_nodup (nodup_append_singleton hn ‹_›)]
  | succ depth ih =>
      rw [visit]
      split
      · exact (eraseDups_append_of_mem hn hs hacyclic h ‹_›).symm
      · rw [foldl_visit_eq (fun seen i => ih) (next i) (seen ++ [i]) h (nodup_append_singleton hn ‹_›) hs.start,
          List.append_assoc, List.singleton_append, expand]

/-- **A walk from the links of a node lists the first occurrences of its full expansion.** -/
theorem Shallow.visitAll_eq (hacyclic : Acyclic next) (h : Shallow next depth i) :
    visitAll next depth [] (next i) = (expand next depth i).eraseDups := by
  cases depth with
  | zero =>
      have hnone : next i = [] := h
      rw [visitAll, hnone, expand, List.eraseDups_nil, List.foldl_nil]
  | succ depth =>
      have hnone : Settled next [] (next i) := fun y hy => absurd hy List.not_mem_nil
      rw [visitAll, foldl_visit_eq (fun _ _ => visit_eq hacyclic) (next i) [] h List.nodup_nil hnone,
        List.nil_append, expand]

/-! ### Which of two comes first -/

section order

variable {p : Nat → Bool} (hp : ∀ j, p j = true ↔ Reaches next j x) (hacyclic : Acyclic next)
  (hm : Leads next m x)

include hacyclic hm in
theorem idxOf_cons_expand_lt_iff
    (ih : (expand next depth j).idxOf m < (expand next depth j).idxOf x ↔
      Relation.TransGen (fun j k => (next j).find? p = some k) j m) :
    (j :: expand next depth j).idxOf m < (j :: expand next depth j).idxOf x ↔
      Relation.ReflTransGen (fun j k => (next j).find? p = some k) j m := by
  rw [idxOf_cons_lt_iff, ih, Relation.reflTransGen_iff_eq_or_transGen, eq_comm (a := m)]
  apply and_iff_right_of_imp
  -- Where the way has come to the other node, it does not lead back.
  rintro hway rfl
  apply hacyclic m
  rcases hway with rfl | hway
  · exact hm
  · exact hm.trans (Relation.TransGen.mono (fun _ _ => List.mem_of_find?_eq_some) _ _ hway)

include hp hacyclic hm in
theorem idxOf_flatMap_lt_iff (h : ∀ j ∈ is, Shallow next depth j)
    (ih : ∀ j ∈ is, ((expand next depth j).idxOf m < (expand next depth j).idxOf x ↔
      Relation.TransGen (fun j k => (next j).find? p = some k) j m)) :
    (is.flatMap fun j => j :: expand next depth j).idxOf m <
        (is.flatMap fun j => j :: expand next depth j).idxOf x ↔
      ∃ j, is.find? p = some j ∧ Relation.ReflTransGen (fun j k => (next j).find? p = some k) j m := by
  induction is with
  | nil => simp
  | cons j is ihs =>
      have hj : Shallow next depth j := h j List.mem_cons_self
      have hrest := ihs (fun k hk => h k (List.mem_cons_of_mem j hk))
        fun k hk => ih k (List.mem_cons_of_mem j hk)
      have hx : x ∈ j :: expand next depth j ↔ p j = true := hj.mem_cons_expand_iff.trans (hp j).symm
      rw [List.flatMap_cons]
      cases hpj : p j with
      | true =>
          rw [idxOf_append_lt_iff_of_mem (hx.mpr hpj),
            idxOf_cons_expand_lt_iff hacyclic hm (ih j List.mem_cons_self), List.find?_cons_of_pos hpj]
          simp
      | false =>
          rw [← Bool.not_eq_true] at hpj
          -- What does not lead to the second node does not lead to the first one.
          have hmj : m ∉ j :: expand next depth j := by
            intro hmem
            exact hpj ((hp j).mpr ((hj.mem_cons_expand_iff.mp hmem).trans hm.to_reflTransGen))
          rw [idxOf_append_lt_iff (mt hx.mp hpj) hmj, hrest, List.find?_cons_of_neg hpj]

include hp hacyclic hm in
/-- **Which of two nodes comes first.**  A node that leads to another one is listed first if and only if it
lies on the way that always takes the first link to the other one. -/
theorem Shallow.idxOf_expand_lt_iff (h : Shallow next depth i) :
    (expand next depth i).idxOf m < (expand next depth i).idxOf x ↔
      Relation.TransGen (fun j k => (next j).find? p = some k) i m := by
  induction depth generalizing i with
  | zero =>
      have hnone : next i = [] := h
      rw [Relation.TransGen.head'_iff]
      simp [expand, hnone]
  | succ depth ih =>
      rw [expand, idxOf_flatMap_lt_iff hp hacyclic hm h fun j hj => ih (h j hj), Relation.TransGen.head'_iff]

end order

end ConstantResolution
