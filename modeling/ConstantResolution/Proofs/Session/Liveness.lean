import ConstantResolution.Proofs.Session.Ancestry
import ConstantResolution.Proofs.Session.Ledger
import ConstantResolution.Proofs.Store.Liveness
import ConstantResolution.Proofs.World.Dependents

/-! # Dependents, life and reach in a session

The number of dependents that a session shows is the number of live namespaces that are linked to one,
as long as none of these has it for its parent and for a direct ancestor at once
(`dependentCount_after`).  A class that is written in its own superclass is counted twice
(`dependentCount_nested_subclass`).

After any commands, the namespaces that live are those that are reached from a name or from a register, and those
that are held in a circle (`isAlive_iff_reached_or_encircled`).  A namespace that is out of
reach goes on being counted as a dependent if and only if there is such a circle out of reach; a class that
includes a module written in it makes one (`dependents_of_enclosed`). -/

namespace ConstantResolution.Session

/-! ### The number of dependents -/

/-- **What the number of dependents is.**  In every world of a session, each live namespace that is written
in a namespace, has it for its superclass or includes it is counted, and is counted once more if it is
written in it and also has it for its superclass or includes it.  So the number is that of the live
namespaces with such a link if and only if none has two. -/
theorem dependentCount_after (policy : Policy) (cs : List Command) :
    let w := ((start policy).after cs).store.world
    ∀ i, w.dependentCount i = (w.linkedTo i).card + (w.linkedTwice i).card ∧
      (w.dependentCount i = (w.linkedTo i).card ↔
        ∀ j, w.isAlive j = true → (w.node j).parent = some i →
          (w.node j).superclass ≠ some i ∧ i ∉ (w.node j).includes) := by
  intro w i
  obtain ⟨notes, hrun⟩ := notedRun_start_after policy cs
  have hl : w.Linked := World.Linked.empty.notedRun hrun
  have he : w.Entered := World.Entered.empty.notedRun World.Linked.empty hrun
  refine ⟨he.dependentCount_eq hl i, (he.dependentCount_eq_card_iff hl i).trans ?_⟩
  refine forall_congr' fun j => imp_congr_right fun _ => imp_congr_right fun _ => ?_
  rw [World.mem_uplinks, not_or]

set_option maxRecDepth 10000 in
/-- A class in the top level whose superclass is the top level is one namespace, and is counted twice. -/
theorem dependentCount_nested_subclass :
    let w := ((start {}).after [.newClass "c" "C" "top" (some "top")]).store.world
    w.linkedTo 1 = {2} ∧ w.dependentCount 1 = 2 := by
  decide +kernel

/-! ### Life and reach -/

/-- **Commands leave a store tidy**, those that meet an overflow included. -/
theorem tidy_after (policy : Policy) (cs : List Command) : ((start policy).after cs).store.Tidy := by
  have hstart : (start policy).store.Tidy := (run_start policy).tidy Store.Tidy.empty
  obtain ⟨ds, hds⟩ := exists_ledger (sound_start policy) (listed_start policy) cs
  exact hds.run.tidy hstart

/-- **What lives after commands**: what is reached along links from a name or from a register, and what is
reached from a circle, that is, from a live namespace that includes a newer module from which it is reached
itself.  So every namespace that is counted as a dependent is reached, and every namespace that is advanced
with another one, if and only if every such circle is reached. -/
theorem isAlive_iff_reached_or_encircled (policy : Policy) (cs : List Command) :
    let s := ((start policy).after cs).store
    (∀ j, s.world.isAlive j = true ↔ s.Reached j ∨ s.world.Encircled j) ∧
      ((∀ i, ∀ j ∈ s.world.liveDependents i, s.Reached j) ↔ ∀ i m, s.world.Circle i m → s.Reached i) ∧
      ((∀ i, s.world.isAlive i = true → ∀ j ∈ s.world.affected i, s.Reached j) ↔
        ∀ i m, s.world.Circle i m → s.Reached i) := by
  intro s
  obtain ⟨notes, hrun⟩ := notedRun_start_after policy cs
  have ht : s.Tidy := tidy_after policy cs
  have hs : s.Sound := (sound_after (sound_start policy) cs).store
  have ho : s.world.Ordered := World.Ordered.notedRun World.Ordered.empty World.Linked.empty hrun
  have ha : Acyclic s.world.uplinks := acyclic_after (sound_start policy) (acyclic_start policy) cs
  exact ⟨fun j => ht.isAlive_iff hs ho ha, ht.liveDependents_reached_iff hs ho ha,
    ht.affected_reached_iff hs ho ha⟩

/-- A class is dropped, and a class that is written in it is not. -/
def dropping : List Command :=
  [.newClass "c" "C" "top" none, .newClass "d" "D" "c" none, .dropNamespace "c"]

set_option maxRecDepth 10000 in
/-- The outer class is counted as a dependent of the top level and reached from the inner one.  Nothing includes
anything, so there is no circle, and no dependent is out of reach. -/
theorem dependents_reached_dropping :
    (start {}).WithoutOverflow dropping ∧
      ((start {}).after dropping).store.world.liveDependents 1 = [2] ∧
      ∀ i, ∀ j ∈ ((start {}).after dropping).store.world.liveDependents i,
        ((start {}).after dropping).store.Reached j := by
  have hn : (start {}).WithoutOverflow dropping := by decide +kernel
  have hnone : ∀ n ∈ ((start {}).after dropping).store.world.nodes, n.includes = [] := by decide +kernel
  obtain ⟨-, hreached, -⟩ := isAlive_iff_reached_or_encircled {} dropping
  refine ⟨hn, by decide +kernel, hreached.mpr fun i m hc => ?_⟩
  have hm := hc.includes
  rw [hnone _ (World.mem_nodes (World.has_of_alive hc.alive))] at hm
  exact nomatch hm

/-- A class includes a module that is written in it, and then both are dropped. -/
def enclosing : List Command :=
  [.newClass "c" "C" "top" none, .newModule "m" "M" "c", .includeModule "c" "m", .dropNamespace "m",
    .dropNamespace "c"]

set_option maxRecDepth 10000 in
/-- The class and its module are held by each other only.  The class is still counted as a dependent of the top
level and advances with it. -/
theorem dependents_of_enclosed :
    (start {}).WithoutOverflow enclosing ∧
      ((start {}).after enclosing).store.world.dependentCount 1 = 1 ∧
      ((start {}).after enclosing).store.world.liveDependents 1 = [2] ∧
      2 ∈ ((start {}).after enclosing).store.world.affected 1 ∧
      ¬ ((start {}).after enclosing).store.Reached 2 := by
  refine ⟨by decide +kernel, by decide +kernel, by decide +kernel, by decide +kernel, fun h => ?_⟩
  have hmem : 2 ∈ [1] := h.mem_of_closed (by decide +kernel) (by decide +kernel) (by decide +kernel)
  exact absurd hmem (by decide)

end ConstantResolution.Session
