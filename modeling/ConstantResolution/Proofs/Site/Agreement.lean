import ConstantResolution.Proofs.Agreement
import ConstantResolution.Proofs.Site.History

/-! # Sites under different policies

What a site shows apart from its policy and from what was read at it is its name and its position.  Two
sites that show the same, and are fresh in a namespace, agree on everything that is done with them there
(`resolve_agrees`, `evaluate_agrees`), whatever their policies and memos are. -/

namespace ConstantResolution

/-- A site without its memo, its row of lookups and its policy. -/
def Site.erased (s : Site) : Site := { name := s.name, position := s.position, policy := {} }

theorem Site.erased_eq_iff {s s' : Site} :
    s.erased = s'.erased ↔ s.name = s'.name ∧ s.position = s'.position := by
  simp [erased]

namespace Reading

variable {σ : Type} {r r' : Reading World} {i : NamespaceId}

/-- Two readings that differ in policies, memos and counters only. -/
structure Alike (r r' : Reading σ) : Prop where
  site : r.site.erased = r'.site.erased
  scope : r.scope = r'.scope

theorem Alike.name {r r' : Reading σ} (h : Alike r r') : r.site.name = r'.site.name :=
  (Site.erased_eq_iff.mp h.site).1

theorem Alike.position {r r' : Reading σ} (h : Alike r r') : r.site.position = r'.site.position :=
  (Site.erased_eq_iff.mp h.site).2

theorem Alike.symm {r r' : Reading σ} (h : Alike r r') : Alike r' r := ⟨h.site.symm, h.scope.symm⟩

theorem Alike.trans {r r' r'' : Reading σ} (h : Alike r r') (h' : Alike r' r'') : Alike r r'' :=
  ⟨h.site.trans h'.site, h.scope.trans h'.scope⟩

/-- Without an overflow, a resolution gives what the site gives, and nothing else is seen of it. -/
theorem resolve_of_noOverflow (h : NoOverflow (resolve (World.scope i) r).notes) :
    (resolve (World.scope i) r).result = .ok (r.given i) ∧ Alike r (resolve (World.scope i) r).state := by
  cases he : r.site.policy.enabled with
  | false =>
      rw [resolve_of_disabled _ he, given_of_disabled he]
      exact ⟨rfl, ⟨rfl, rfl⟩⟩
  | true =>
      cases hv : r.site.served? (r.scope.generation i) with
      | some v =>
          rw [resolve_of_served (World.scope i) he hv, given_of_served he hv]
          exact ⟨rfl, ⟨rfl, rfl⟩⟩
      | none =>
          have hrefresh := resolve_of_stale (World.scope i) he hv
          have hstate := (refresh_after (World.scope i) r).1
          have ht := trackStreak_state (r.lookedIn (World.scope i))
          rw [hrefresh] at h ⊢
          refine ⟨?_, ⟨?_, ?_⟩⟩
          · rw [refresh_result_of_not_mem (h.not_mem .streak), given_of_stale hv]
            rfl
          · rw [hstate, Site.erased_eq_iff, ht.name, ht.position]
            exact ⟨(Site.name_store _ _ _).symm, (Site.position_store _ _ _).symm⟩
          · rw [hstate, ht.scope]
            rfl

section fresh

variable (h : Alike r r') (hi : r.scope.isAlive i = true) (hf : r.site.Fresh r.scope i)
  (hf' : r'.site.Fresh r'.scope i)

include h hi hf hf'

/-- **Fresh sites resolve alike.** -/
theorem resolve_agrees :
    (resolve (World.scope i)).Agrees Alike (resolve (World.scope i)) r r' fun _ _ _ => True := by
  intro hn hn'
  obtain ⟨hresult, hstate⟩ := resolve_of_noOverflow hn
  obtain ⟨hresult', hstate'⟩ := resolve_of_noOverflow hn'
  have hcalls := (callsOf_resolve (World.scope i) r).trans (callsOf_resolve (World.scope i) r').symm
  refine ⟨hstate.symm.trans (h.trans hstate'), hcalls, ?_, fun _ _ => trivial⟩
  rw [hresult, hresult', given_of_fresh hf hi, given_of_fresh hf' (h.scope ▸ hi), h.name, h.scope]

theorem isDefined_agrees :
    (isDefined (World.scope i)).Agrees Alike (isDefined (World.scope i)) r r' fun _ _ _ => True :=
  Action.Agrees.map (resolve_agrees h hi hf hf')

theorem definition_agrees :
    (definition (World.scope i)).Agrees Alike (definition (World.scope i)) r r' fun _ _ _ => True :=
  Action.Agrees.map (isDefined_agrees h hi hf hf')

/-- **Fresh sites evaluate alike**, to the same values and with the same changes of the world. -/
theorem evaluate_agrees :
    (evaluate (World.scope i)).Agrees Alike (evaluate (World.scope i)) r r' fun _ _ _ => True := by
  unfold evaluate
  refine Action.Agrees.bind (resolve_agrees h hi hf hf') fun found r r' h _ => ?_
  cases found with
  | some v => exact Action.Agrees.pure h trivial
  | none =>
      refine Action.Agrees.read_bind ?_
      rw [h.position]
      refine Action.Agrees.locating _ (q := fun _ _ _ => True) ?_
      unfold dispatch
      refine Action.Agrees.read_bind ?_
      rw [h.name]
      exact Action.Agrees.within h.scope fun w => ⟨h.site, rfl⟩

end fresh

/-- An invalidation is the same for all sites. -/
theorem invalidate_agrees {r r' : Reading σ} (h : Alike r r') :
    (invalidate : Action (Reading σ) Unit).Agrees Alike invalidate r r' fun _ _ _ => True := by
  unfold invalidate
  refine Action.Agrees.bind (Action.Agrees.modify (q := fun _ _ _ => True) ⟨h.site, h.scope⟩ trivial) ?_
  intro _ r₁ r₁' h₁ _
  refine Action.Agrees.bind (Action.Agrees.modify (q := fun _ _ _ => True) ⟨h₁.site, h₁.scope⟩ trivial) ?_
  intro _ r₂ r₂' h₂ _
  exact Action.Agrees.read_bind (Action.Agrees.note h₂ rfl trivial)

theorem rename_agrees {r r' : Reading σ} (h : Alike r r') (name : String) :
    (rename name : Action (Reading σ) Unit).Agrees Alike (rename name) r r' fun _ _ _ => True := by
  unfold Action.Agrees
  by_cases hn : isConstantName name = true
  · rw [rename_of_name hn, rename_of_name hn]
    exact fun _ _ => ⟨⟨Site.erased_eq_iff.mpr ⟨rfl, h.position⟩, h.scope⟩, rfl, rfl, fun _ _ => trivial⟩
  · rw [rename_of_not_name hn, rename_of_not_name hn]
    exact fun _ _ => ⟨h, rfl, rfl, fun _ _ => trivial⟩

end Reading
end ConstantResolution
