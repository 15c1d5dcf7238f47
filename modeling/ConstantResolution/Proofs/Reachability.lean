import Mathlib.Data.Finset.Card
import Mathlib.Logic.Relation
import ConstantResolution.World.Traversal

/-! # What walks reach

A depth-first walk carries a bound for its depth.  The bound is large enough when it is not below
the number of nodes that are still unseen, in a finite set of nodes that links do not leave.  Then

* the walk lists exactly what is reached from its start (`mem_visit_iff`, `mem_visitAll_iff`);
* neither a larger bound nor links elsewhere change what it lists, nor the order of the list
  (`visit_congr`, `visitAll_congr`). -/

namespace ConstantResolution

/-- `j` is reached from `i` along links, over any number of steps. -/
def Reaches (next : Nat → List Nat) : Nat → Nat → Prop := Relation.ReflTransGen fun i j => j ∈ next i

/-- Links do not leave a set of nodes. -/
def Closed (next : Nat → List Nat) (u : Finset Nat) : Prop := ∀ i ∈ u, ∀ j ∈ next i, j ∈ u

/-- How many nodes of a set are not listed yet. -/
def unseen (u : Finset Nat) (seen : List Nat) : Nat := (u \ seen.toFinset).card

theorem Reaches.refl (next : Nat → List Nat) (i : Nat) : Reaches next i i := Relation.ReflTransGen.refl

theorem Reaches.head {next : Nat → List Nat} {i j k : Nat} (h : j ∈ next i) (hr : Reaches next j k) :
    Reaches next i k := Relation.ReflTransGen.head h hr

theorem Reaches.tail {next : Nat → List Nat} {i j k : Nat} (hr : Reaches next i j) (h : k ∈ next j) :
    Reaches next i k := Relation.ReflTransGen.tail hr h

theorem Reaches.mono {next next' : Nat → List Nat} (h : ∀ k, next k ⊆ next' k) {i j : Nat}
    (hr : Reaches next i j) : Reaches next' i j :=
  Relation.ReflTransGen.mono (fun k _ hl => h k hl) i j hr

/-- Links that agree wherever one gets lead to the same nodes. -/
theorem Reaches.congr {next next' : Nat → List Nat} {i j : Nat}
    (h : ∀ k, Reaches next i k → next' k = next k) (hr : Reaches next i j) : Reaches next' i j := by
  induction hr with
  | refl => exact Reaches.refl next' i
  | @tail k l hik hkl ih => exact ih.tail (by rw [h k hik]; exact hkl)

/-! ### The bound -/

theorem unseen_nil (u : Finset Nat) : unseen u [] = u.card := by simp [unseen]

theorem unseen_le {u : Finset Nat} {seen seen' : List Nat} (h : seen ⊆ seen') :
    unseen u seen' ≤ unseen u seen := by
  apply Finset.card_le_card
  apply Finset.sdiff_subset_sdiff (Finset.Subset.refl u)
  intro i hi
  rw [List.mem_toFinset] at hi ⊢
  exact h hi

/-- To list a node of the set leaves one less. -/
theorem unseen_append_lt {u : Finset Nat} {seen : List Nat} {i : Nat} (hi : i ∈ u) (hs : i ∉ seen) :
    unseen u (seen ++ [i]) < unseen u seen := by
  apply Finset.card_lt_card
  rw [Finset.ssubset_iff_of_subset]
  · exact ⟨i, by simp [hi, hs], by simp⟩
  · intro j hj
    simp only [Finset.mem_sdiff, List.mem_toFinset, List.mem_append] at hj ⊢
    exact ⟨hj.1, fun h => hj.2 (Or.inl h)⟩

theorem mem_of_unseen_eq_zero {u : Finset Nat} {seen : List Nat} {i : Nat} (hi : i ∈ u)
    (h : unseen u seen = 0) : i ∈ seen := by
  by_contra hs
  have := unseen_append_lt hi hs
  omega

/-! ### What is listed is reached -/

theorem mem_foldl_visit {next : Nat → List Nat} {bound : Nat}
    (ih : ∀ seen i x, x ∈ visit next bound seen i → x ∈ seen ∨ Reaches next i x)
    (is seen : List Nat) (x : Nat) (hx : x ∈ is.foldl (visit next bound) seen) :
    x ∈ seen ∨ ∃ i ∈ is, Reaches next i x := by
  induction is generalizing seen with
  | nil => exact Or.inl hx
  | cons i is ihs =>
      rcases ihs _ hx with h | ⟨j, hj, hr⟩
      · rcases ih seen i x h with h | hr
        · exact Or.inl h
        · exact Or.inr ⟨i, List.mem_cons_self, hr⟩
      · exact Or.inr ⟨j, List.mem_cons_of_mem i hj, hr⟩

theorem mem_or_reaches_of_mem_visit {next : Nat → List Nat} {bound : Nat} {seen : List Nat} {i x : Nat}
    (hx : x ∈ visit next bound seen i) : x ∈ seen ∨ Reaches next i x := by
  induction bound generalizing seen i x with
  | zero => exact Or.inl hx
  | succ bound ih =>
      unfold visit at hx
      split at hx
      · exact Or.inl hx
      · rcases mem_foldl_visit (fun _ _ _ h => ih h) _ _ x hx with h | ⟨j, hj, hr⟩
        · rcases List.mem_append.mp h with h | h
          · exact Or.inl h
          · rw [List.mem_singleton.mp h]
            exact Or.inr (Reaches.refl next i)
        · exact Or.inr (hr.head hj)

/-! ### What is reached is listed -/

/-- A list has all links of what it has beyond `seen`. -/
def Complete (next : Nat → List Nat) (seen out : List Nat) : Prop :=
  ∀ x ∈ out, x ∉ seen → ∀ y ∈ next x, y ∈ out

theorem Complete.trans {next : Nat → List Nat} {seen mid out : List Nat} (hm : mid ⊆ out)
    (h₁ : Complete next seen mid) (h₂ : Complete next mid out) : Complete next seen out := by
  intro x hx hs y hy
  by_cases h : x ∈ mid
  · exact hm (h₁ x h hs y hy)
  · exact h₂ x hx h y hy

theorem complete_foldl {next : Nat → List Nat} {u : Finset Nat} {bound : Nat}
    (ih : ∀ seen, ∀ i ∈ u, unseen u seen ≤ bound →
      i ∈ visit next bound seen i ∧ Complete next seen (visit next bound seen i))
    (is seen : List Nat) (hu : ∀ i ∈ is, i ∈ u) (hb : unseen u seen ≤ bound) :
    (∀ i ∈ is, i ∈ is.foldl (visit next bound) seen) ∧
      Complete next seen (is.foldl (visit next bound) seen) := by
  induction is generalizing seen with
  | nil => exact ⟨fun i hi => absurd hi List.not_mem_nil, fun x hx hs => absurd hx hs⟩
  | cons i is ihs =>
      obtain ⟨hi, hc⟩ := ih seen i (hu i List.mem_cons_self) hb
      have hmono := (isPrefix_visit next bound seen i).subset
      obtain ⟨his, hcs⟩ := ihs (visit next bound seen i) (fun j hj => hu j (List.mem_cons_of_mem i hj))
        (le_trans (unseen_le hmono) hb)
      have hsub := (isPrefix_foldl (isPrefix_visit next bound) is (visit next bound seen i)).subset
      refine ⟨?_, hc.trans hsub hcs⟩
      intro j hj
      rcases List.mem_cons.mp hj with rfl | hj
      · exact hsub hi
      · exact his j hj

theorem complete_visit {next : Nat → List Nat} {u : Finset Nat} (hu : Closed next u) {bound : Nat}
    {seen : List Nat} {i : Nat} (hi : i ∈ u) (hb : unseen u seen ≤ bound) :
    i ∈ visit next bound seen i ∧ Complete next seen (visit next bound seen i) := by
  induction bound generalizing seen i with
  | zero =>
      have hs : i ∈ seen := mem_of_unseen_eq_zero hi (by omega)
      exact ⟨hs, fun x hx hns => absurd hx hns⟩
  | succ bound ih =>
      refine ⟨mem_visit_self next bound seen i, ?_⟩
      unfold visit
      split
      · exact fun x hx hns => absurd hx hns
      · rename_i hs
        have hlt := unseen_append_lt hi hs
        obtain ⟨hall, hc⟩ := complete_foldl (fun seen j hj hb => ih hj hb) (next i) (seen ++ [i])
          (hu i hi) (by omega)
        -- The start itself is listed before the fold, and the fold lists all of its links.
        intro x hx hns y hy
        by_cases hxi : x = i
        · subst hxi
          exact hall y hy
        · exact hc x hx (by simp [hns, hxi]) y hy

/-- A list with all links of what it has beyond nothing has all that is reached from it. -/
theorem Complete.mem_of_reaches {next : Nat → List Nat} {out : List Nat} (h : Complete next [] out)
    {i x : Nat} (hi : i ∈ out) (hr : Reaches next i x) : x ∈ out := by
  induction hr with
  | refl => exact hi
  | tail _ hkl ih => exact h _ ih List.not_mem_nil _ hkl

/-- **A walk lists exactly what is reached from its start.** -/
theorem mem_visit_iff {next : Nat → List Nat} {u : Finset Nat} (hu : Closed next u) {bound i : Nat}
    (hi : i ∈ u) (hb : u.card ≤ bound) (x : Nat) :
    x ∈ visit next bound [] i ↔ Reaches next i x := by
  constructor
  · intro hx
    rcases mem_or_reaches_of_mem_visit hx with h | h
    · exact absurd h List.not_mem_nil
    · exact h
  · intro hr
    have hb' : unseen u [] ≤ bound := (unseen_nil u).trans_le hb
    obtain ⟨hself, hc⟩ := complete_visit hu hi hb'
    exact hc.mem_of_reaches hself hr

/-- **A walk from several nodes lists exactly what is reached from them.** -/
theorem mem_visitAll_iff {next : Nat → List Nat} {u : Finset Nat} (hu : Closed next u) {bound : Nat}
    {is : List Nat} (hi : ∀ i ∈ is, i ∈ u) (hb : u.card ≤ bound) (x : Nat) :
    x ∈ visitAll next bound [] is ↔ ∃ i ∈ is, Reaches next i x := by
  constructor
  · intro hx
    rcases mem_foldl_visit (fun _ _ _ => mem_or_reaches_of_mem_visit) is [] x hx with h | h
    · exact absurd h List.not_mem_nil
    · exact h
  · rintro ⟨i, his, hr⟩
    obtain ⟨hall, hc⟩ := complete_foldl (fun seen j hj hb => complete_visit hu hj hb) is [] hi
      ((unseen_nil u).trans_le hb)
    exact hc.mem_of_reaches (hall i his) hr

/-! ### What a walk depends on -/

theorem foldl_visit_congr {next next' : Nat → List Nat} {u : Finset Nat} {bound bound' : Nat}
    (ih : ∀ seen, ∀ i ∈ u, unseen u seen ≤ bound → unseen u seen ≤ bound' →
      visit next' bound' seen i = visit next bound seen i)
    (is seen : List Nat) (hu : ∀ i ∈ is, i ∈ u) (hb : unseen u seen ≤ bound)
    (hb' : unseen u seen ≤ bound') :
    is.foldl (visit next' bound') seen = is.foldl (visit next bound) seen := by
  induction is generalizing seen with
  | nil => rfl
  | cons i is ihs =>
      rw [List.foldl_cons, List.foldl_cons, ih seen i (hu i List.mem_cons_self) hb hb']
      have hle := unseen_le (u := u) (isPrefix_visit next bound seen i).subset
      exact ihs _ (fun j hj => hu j (List.mem_cons_of_mem i hj)) (by omega) (by omega)

/-- **Two walks with bounds that are large enough, along links that agree where they get, list the
same nodes in the same order.** -/
theorem visit_congr {next next' : Nat → List Nat} {u : Finset Nat} (hu : Closed next u)
    (hn : ∀ i ∈ u, next' i = next i) {bound bound' : Nat} {seen : List Nat} {i : Nat} (hi : i ∈ u)
    (hb : unseen u seen ≤ bound) (hb' : unseen u seen ≤ bound') :
    visit next' bound' seen i = visit next bound seen i := by
  induction bound generalizing seen i bound' with
  | zero =>
      have hs : i ∈ seen := mem_of_unseen_eq_zero hi (by omega)
      cases bound' with
      | zero => rfl
      | succ bound' => rw [visit.eq_2, if_pos hs, visit]
  | succ bound ih =>
      by_cases hs : i ∈ seen
      · cases bound' with
        | zero => rw [visit.eq_2 next, if_pos hs, visit]
        | succ bound' => rw [visit, if_pos hs, visit, if_pos hs]
      · have hlt := unseen_append_lt hi hs
        cases bound' with
        | zero => omega
        | succ bound' =>
            rw [visit, if_neg hs, visit, if_neg hs, hn i hi]
            exact foldl_visit_congr (fun seen j hj h h' => ih hj h h') (next i) (seen ++ [i]) (hu i hi)
              (by omega) (by omega)

theorem visitAll_congr {next next' : Nat → List Nat} {u : Finset Nat} (hu : Closed next u)
    (hn : ∀ i ∈ u, next' i = next i) {bound bound' : Nat} {is : List Nat} (hi : ∀ i ∈ is, i ∈ u)
    (hb : u.card ≤ bound) (hb' : u.card ≤ bound') :
    visitAll next' bound' [] is = visitAll next bound [] is :=
  foldl_visit_congr (fun _ _ hj h h' => visit_congr hu hn hj h h') is [] hi
    ((unseen_nil u).trans_le hb) ((unseen_nil u).trans_le hb')

/-! ### Following one link -/

/-- The links of a walk that has at most one from each node. -/
def single (link : Nat → Option Nat) (i : Nat) : List Nat := (link i).toList

theorem reaches_of_mem_ascend {link : Nat → Option Nat} {bound i x : Nat}
    (h : x ∈ ascend link bound i) : Reaches (single link) i x := by
  induction bound generalizing i with
  | zero => exact absurd h List.not_mem_nil
  | succ bound ih =>
      unfold ascend at h
      cases hl : link i with
      | none => rw [hl] at h; exact absurd h List.not_mem_nil
      | some j =>
          rw [hl] at h
          have hj : j ∈ single link i := by simp [single, hl]
          rcases List.mem_cons.mp h with rfl | h
          · exact (Reaches.refl _ _).head hj
          · exact (ih h).head hj

theorem ascend_congr {link link' : Nat → Option Nat} {i : Nat}
    (h : ∀ j, Reaches (single link) i j → link' j = link j) (bound : Nat) :
    ascend link' bound i = ascend link bound i := by
  induction bound generalizing i with
  | zero => rfl
  | succ bound ih =>
      rw [ascend, ascend, h i (Reaches.refl _ i)]
      cases hl : link i with
      | none => rfl
      | some j =>
          have hj : j ∈ single link i := by simp [single, hl]
          simp only [ih fun k hk => h k (hk.head hj)]

end ConstantResolution
