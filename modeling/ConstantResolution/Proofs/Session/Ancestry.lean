import ConstantResolution.Proofs.Session.Runs
import ConstantResolution.Proofs.World.Acyclicity

/-! # Ancestry in a session

In the worlds of sessions no namespace is its own ancestor, and a module is refused as an ancestor exactly
where it would become one of its own (`include_refused_iff_circle`). -/

namespace ConstantResolution.Session

variable {s : Session}

/-- **What commands do closes no circle of ancestors.** -/
theorem acyclic_after (h : s.Sound) (ha : Acyclic s.store.world.uplinks) (cs : List Command) :
    Acyclic (s.after cs).store.world.uplinks := by
  induction cs generalizing s with
  | nil => exact ha
  | cons c cs ih =>
      have hrun := (perform_keeps s c h).2.1.run
      exact ih (sound_perform h c) (World.acyclic_notedRun h.store.linked ha hrun)

theorem acyclic_start (policy : Policy) : Acyclic (start policy).store.world.uplinks := by
  have hkeeps := startRealm_keeps (R := fun _ _ => False) mainRealm mainTop policy sound_empty
  exact World.acyclic_notedRun World.Linked.empty World.acyclic_empty hkeeps.2.1.run

/-- **Ancestry is without circles, and the check of an include is exact.**  In every world of a session no
namespace is reached from itself along superclasses and included modules; and a module is refused as an
ancestor if and only if it is the namespace itself or leads to it, which is exactly when the new link
would close a circle. -/
theorem include_refused_iff_circle (policy : Policy) (cs : List Command) :
    let w := ((start policy).after cs).store.world
    Acyclic w.uplinks ∧
      RaisedError.text ⟨.cyclicInclude, none⟩ = "ArgumentError: cyclic include detected" ∧
      ∀ i m, w.Has i → (w.node m).kind = .moduleScope →
        let refused := (World.includeModule i m w).result = .error (.raised ⟨.cyclicInclude, none⟩)
        (refused ↔ m = i ∨ Relation.TransGen (fun j k => k ∈ w.uplinks j) m i) ∧
          (refused ↔ ¬ Acyclic (w.link i m).uplinks) := by
  intro w
  have hl : w.Linked := (sound_after (sound_start policy) cs).store.linked
  have ha : Acyclic w.uplinks := acyclic_after (sound_start policy) (acyclic_start policy) cs
  refine ⟨ha, by decide, fun i m hi hm => ⟨?_, ?_⟩⟩
  · rw [World.includeModule_eq_cyclic_iff hm, hl.mem_ancestors_iff]
  · rw [hl.includeModule_cyclic_iff hm, ha.link_iff (World.mem_uplinks_link hi m), not_not]

/-- A module that includes a second one, which includes a third one later. -/
def mixing : List Command :=
  [.newModule "a" "A" "top", .newModule "b" "B" "top", .newModule "c" "C" "top",
    .includeModule "a" "b", .includeModule "b" "c"]

set_option maxRecDepth 10000 in
/-- The third module leads back to the first one, and may not include it. -/
theorem include_refused_back :
    let w := ((start {}).after mixing).store.world
    w.Has 4 ∧ (w.node 2).kind = .moduleScope ∧
      (World.includeModule 4 2 w).result = .error (.raised ⟨.cyclicInclude, none⟩) ∧
      Relation.TransGen (fun j k => k ∈ w.uplinks j) 2 4 ∧ ¬ Acyclic (w.link 4 2).uplinks := by
  intro w
  have hi : w.Has 4 := by decide +kernel
  have hm : (w.node 2).kind = .moduleScope := by decide +kernel
  have hrefused : (World.includeModule 4 2 w).result = .error (.raised ⟨.cyclicInclude, none⟩) := by
    decide +kernel
  obtain ⟨hreach, hcircle⟩ := (include_refused_iff_circle {} mixing).2.2 4 2 hi hm
  exact ⟨hi, hm, hrefused, (hreach.mp hrefused).resolve_left (by decide), hcircle.mp hrefused⟩

end ConstantResolution.Session
