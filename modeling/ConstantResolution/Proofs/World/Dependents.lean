import Mathlib.Algebra.BigOperators.Group.Finset.Piecewise
import ConstantResolution.Proofs.World.Acyclicity

/-! # Counting dependents

A namespace is entered as a dependent once for each of its links, by what the link leads to (`Entered`).
So the dependents of a namespace number the live namespaces that are linked to it, and one more for each of
them that is linked to it twice (`Entered.dependentCount_eq`).  A namespace is linked to another one twice if
and only if that is both its parent and a direct ancestor: the direct ancestors themselves are different
ones, since a module is included only where it is no ancestor yet. -/

namespace ConstantResolution.World

variable {w w' : World} {i j m : NamespaceId}

/-- The live namespaces that have a namespace for their parent, for their superclass or among the modules
that they include. -/
def linkedTo (w : World) (i : NamespaceId) : Finset NamespaceId :=
  (Finset.Icc 1 w.size).filter fun j => w.isAlive j = true ∧ i ∈ w.links j

/-- Those of them that are written in it and have it for a direct ancestor too. -/
def linkedTwice (w : World) (i : NamespaceId) : Finset NamespaceId :=
  (Finset.Icc 1 w.size).filter fun j =>
    w.isAlive j = true ∧ (w.node j).parent = some i ∧ i ∈ w.uplinks j

theorem mem_linkedTo : j ∈ w.linkedTo i ↔ w.isAlive j = true ∧ i ∈ w.links j := by
  rw [linkedTo, Finset.mem_filter, Finset.mem_Icc, and_iff_right_iff_imp]
  exact fun h => has_of_alive h.1

theorem mem_linkedTwice :
    j ∈ w.linkedTwice i ↔ w.isAlive j = true ∧ (w.node j).parent = some i ∧ i ∈ w.uplinks j := by
  rw [linkedTwice, Finset.mem_filter, Finset.mem_Icc, and_iff_right_iff_imp]
  exact fun h => has_of_alive h.1

theorem count_toList (o : Option NamespaceId) (i : NamespaceId) :
    o.toList.count i = if o = some i then 1 else 0 := by
  cases o <;> simp [List.count_cons]

/-! ### Entries -/

/-- Dependents are entered once for each link, and no direct ancestor is there twice. -/
structure Entered (w : World) : Prop where
  count : ∀ i j, (w.node i).dependents.count j = (w.links j).count i
  nodup : ∀ j, (w.uplinks j).Nodup

/-- What entries depend on. -/
def Namespace.edges (n : Namespace) : List NamespaceId × List NamespaceId × List NamespaceId :=
  (n.links, n.dependents, n.uplinks)

theorem Entered.congr (h : w.Entered)
    (he : ∀ j, Namespace.edges (w'.node j) = Namespace.edges (w.node j)) : w'.Entered where
  count := fun i j => by
    have hlinks : w'.links j = w.links j := congrArg (·.1) (he j)
    have hdeps : (w'.node i).dependents = (w.node i).dependents := congrArg (·.2.1) (he i)
    rw [hdeps, hlinks, h.count]
  nodup := fun j => by
    have hup : w'.uplinks j = w.uplinks j := congrArg (·.2.2) (he j)
    rw [hup]
    exact h.nodup j

theorem Entered.empty : Entered {} := by
  constructor
  · intro i j
    rw [links, node_empty, node_empty]
    rfl
  · intro j
    rw [uplinks, node_empty]
    exact List.nodup_nil

/-! ### A new namespace is entered by its parent and by its superclass -/

theorem dependents_create {n : Namespace} (hn : w.Creatable n) (j : NamespaceId) :
    ((w.create n).node j).dependents =
      (w.node j).dependents ++ (if n.parent = some j then [w.size + 1] else []) ++
        if n.superclass = some j then [w.size + 1] else [] := by
  have hadd : ∀ (u : World) (p : NamespaceId), u.Has p →
      ((u.addDependent p (w.size + 1)).node j).dependents =
        (u.node j).dependents ++ if p = j then [w.size + 1] else [] := by
    intro u p hp
    split
    · rename_i hpj
      rw [← hpj, dependents_addDependent hp]
    · rename_i hpj
      rw [addDependent, node_update_of_ne _ hpj, List.append_nil]
  have hpush : ((w.push n).node j).dependents = (w.node j).dependents := by
    rw [node_push]
    split
    · rename_i hj
      rw [hj, node_of_not_has (by simp [Has]), hn.fresh]
      rfl
    · rfl
  have hhas : ∀ {p}, w.isAlive p = true → (w.push n).Has p := fun hp =>
    (has_push n).mpr (Or.inl (has_of_alive hp))
  unfold create
  cases hpar : n.parent with
  | none =>
      cases hsup : n.superclass with
      | none => simp [hpush]
      | some s =>
          simp only [Option.elim_none, Option.elim_some]
          rw [hadd _ s (hhas (hn.superclass hsup)), hpush]
          simp
  | some p =>
      cases hsup : n.superclass with
      | none =>
          simp only [Option.elim_none, Option.elim_some]
          rw [hadd _ p (hhas (hn.parent hpar)), hpush]
          simp
      | some s =>
          simp only [Option.elim_some]
          rw [hadd _ s ((has_addDependent _).mpr (hhas (hn.superclass hsup))),
            hadd _ p (hhas (hn.parent hpar)), hpush]
          simp

theorem Entered.create (h : w.Entered) {n : Namespace} (hn : w.Creatable n) : (w.create n).Entered := by
  have hnone : w.links (w.size + 1) = [] := links_of_not_has (by simp [Has])
  have hincl : n.includes = [] := by rw [hn.fresh]
  constructor
  · intro i j
    rw [dependents_create hn, List.count_append, List.count_append, h.count, links_create]
    by_cases hj : j = w.size + 1
    · subst hj
      have hself : ∀ (p : Prop) [Decidable p],
          (if p then [w.size + 1] else []).count (w.size + 1) = if p then 1 else 0 := by
        intro p _
        split <;> simp
      rw [if_pos rfl, hnone, Namespace.links, hincl, List.append_nil, List.count_append, count_toList,
        count_toList, hself, hself, List.count_nil, Nat.zero_add]
    · have hother : ∀ (p : Prop) [Decidable p], (if p then [w.size + 1] else []).count j = 0 := by
        intro p _
        split
        · exact List.count_eq_zero_of_not_mem fun hm => hj (List.mem_singleton.mp hm)
        · rfl
      rw [if_neg hj, hother, hother]
      rfl
  · intro j
    rw [uplinks_create]
    split
    · rw [Namespace.uplinks, hincl]
      cases n.superclass <;> simp
    · exact h.nodup j

/-! ### An included module enters what includes it -/

theorem links_link (h : w.Has i) (m : NamespaceId) :
    (w.link i m).links j = w.links j ++ if i = j then [m] else [] := by
  have hp := proj_link (w := w) (i := i) Namespace.parent (fun _ _ _ => rfl) m j
  have hs := proj_link (w := w) (i := i) Namespace.superclass (fun _ _ _ => rfl) m j
  rw [links, Namespace.links, hp, hs, includes_link h, ← List.append_assoc]
  rfl

theorem dependents_link (h : w.Has m) :
    ((w.link i m).node j).dependents = (w.node j).dependents ++ if m = j then [i] else [] := by
  have hd := proj_update (w := w) (i := i) (f := fun n => { n with includes := n.includes ++ [m] })
    Namespace.dependents (fun _ => rfl) j
  rw [← hd, link]
  by_cases hmj : m = j
  · rw [← hmj, if_pos rfl, dependents_addDependent ((has_update _).mpr h)]
  · rw [if_neg hmj, addDependent, node_update_of_ne _ hmj, List.append_nil]

theorem Entered.link (h : w.Entered) (hl : w.Linked) (hi : w.Has i) (hm : w.Has m)
    (hnew : m ∉ w.ancestors i) : (w.link i m).Entered := by
  constructor
  · intro x y
    rw [dependents_link hm, links_link hi, List.count_append, List.count_append, h.count]
    by_cases hmx : m = x <;> by_cases hiy : i = y <;> simp [hmx, hiy]
  · intro y
    have hincludes := includes_link (j := y) hi m
    have hsuper := proj_link (w := w) (i := i) Namespace.superclass (fun _ _ _ => rfl) m y
    rw [uplinks, hincludes, hsuper]
    by_cases hiy : i = y
    · subst hiy
      have hnot : m ∉ w.uplinks i := fun hmem => hnew (hl.mem_ancestors_iff.mpr (.single hmem))
      rw [if_pos rfl, List.reverse_append, List.reverse_singleton, List.append_assoc]
      exact List.nodup_cons.mpr ⟨hnot, h.nodup i⟩
    · rw [if_neg hiy, List.append_nil]
      exact h.nodup y

/-! ### Every step keeps entries right -/

theorem Entered.change (h : w.Entered) (hl : w.Linked) (hc : w.Change i w') : w'.Entered := by
  cases hc with
  | bind name v _ => exact h.congr (proj_bind Namespace.edges (fun _ _ => rfl) name v)
  | unbind name _ => exact h.congr (proj_unbind Namespace.edges (fun _ _ => rfl) name)
  | link m hi hm _ _ _ hnew => exact h.link hl (has_of_alive hi) (has_of_alive hm) hnew
  | touch => exact h

theorem Entered.step (h : w.Entered) (hl : w.Linked) {f : Option Fault} (hs : Step w f w') :
    w'.Entered := by
  have hg : Structural Namespace.edges := ⟨fun _ _ => rfl, fun _ _ => rfl, fun _ _ => rfl, fun _ => rfl⟩
  obtain ⟨i, v, hc, heq⟩ | ⟨n, hn, rfl⟩ | heq := hs.structural hg
  · exact (h.change hl hc).congr heq
  · exact h.create hn
  · exact h.congr heq

/-- **Entries stay right in every run.** -/
theorem Entered.notedRun {notes : List Note} (h : w.Entered) (hl : w.Linked)
    (hr : NotedRun w notes w') : w'.Entered :=
  NotedRun.keeps (fun hl h hs => Entered.step h hl hs) hl h hr

/-! ### The number of dependents -/

theorem mem_uplinks :
    i ∈ w.uplinks j ↔ (w.node j).superclass = some i ∨ i ∈ (w.node j).includes := by
  rw [uplinks, List.mem_append, List.mem_reverse, Option.mem_toList, or_comm]

theorem mem_links_iff : i ∈ w.links j ↔ (w.node j).parent = some i ∨ i ∈ w.uplinks j := by
  rw [links, Namespace.mem_links, mem_uplinks]

/-- A namespace is linked to another one by its parent, and at most once by its direct ancestors. -/
theorem Entered.count_links (h : w.Entered) (i j : NamespaceId) :
    (w.links j).count i =
      (if (w.node j).parent = some i then 1 else 0) + if i ∈ w.uplinks j then 1 else 0 := by
  have hup : (w.uplinks j).count i = if i ∈ w.uplinks j then 1 else 0 := (h.nodup j).count
  rw [links, Namespace.links, List.append_assoc, List.count_append, count_toList, ← hup, uplinks]
  simp only [List.count_append, List.count_reverse]
  omega

/-- Each live namespace is counted once for each of its links. -/
theorem Entered.dependentCount_eq_sum (h : w.Entered) (hl : w.Linked) (i : NamespaceId) :
    w.dependentCount i = ∑ j ∈ w.linkedTo i, (w.links j).count i := by
  rw [dependentCount, ← List.sum_toFinset_count_eq_length]
  refine Finset.sum_congr ?_ fun j hj => ?_
  · ext j
    rw [List.mem_toFinset, mem_linkedTo, liveDependents, List.mem_filter, hl.dependents, and_comm]
  · rw [liveDependents, List.count_filter (mem_linkedTo.mp hj).1, h.count]

/-- **The dependents of a namespace are the live namespaces that are linked to it, and those once more that
are linked to it twice.** -/
theorem Entered.dependentCount_eq (h : w.Entered) (hl : w.Linked) (i : NamespaceId) :
    w.dependentCount i = (w.linkedTo i).card + (w.linkedTwice i).card := by
  have htwice : w.linkedTwice i =
      (w.linkedTo i).filter fun j => (w.node j).parent = some i ∧ i ∈ w.uplinks j := by
    ext j
    rw [Finset.mem_filter, mem_linkedTwice, mem_linkedTo, mem_links_iff]
    tauto
  rw [h.dependentCount_eq_sum hl, htwice, Finset.card_filter, Finset.card_eq_sum_ones,
    ← Finset.sum_add_distrib]
  refine Finset.sum_congr rfl fun j hj => ?_
  -- Of the two links to it, a namespace has at least one.
  rw [h.count_links]
  have hlink := mem_links_iff.mp (mem_linkedTo.mp hj).2
  by_cases hp : (w.node j).parent = some i <;> by_cases hu : i ∈ w.uplinks j <;> simp_all

/-- The number is that of the linked namespaces if and only if none of these is linked twice. -/
theorem Entered.dependentCount_eq_card_iff (h : w.Entered) (hl : w.Linked) (i : NamespaceId) :
    w.dependentCount i = (w.linkedTo i).card ↔
      ∀ j, w.isAlive j = true → (w.node j).parent = some i → i ∉ w.uplinks j := by
  rw [h.dependentCount_eq hl, Nat.add_eq_left, Finset.card_eq_zero, Finset.eq_empty_iff_forall_notMem]
  refine forall_congr' fun j => ?_
  rw [mem_linkedTwice]
  tauto

end ConstantResolution.World
