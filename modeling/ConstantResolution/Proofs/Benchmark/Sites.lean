import ConstantResolution.Proofs.Benchmark.Workload
import ConstantResolution.Proofs.Store.Sites

/-! # The site of a workload

A workload makes one site, and gives it up at its end, whatever happened to it.  So the live sites of all realms are
the same afterwards (`perform_sameSites`). -/

namespace ConstantResolution.Workload

open Store

variable {s : Store} {r : RealmId} {A : Deed → Prop}

/-- The contract of actions that are runs with deeds of a certain kind, and leave live sites as they are. -/
def settled (A : Deed → Prop) : Contract Store where
  valid := fun s => s.Sound ∧ s.Listed
  step := fun s notes t => (tracing A).step s notes t ∧ SameSites s t
  refl := fun s notes => ⟨(tracing A).refl s notes, SameSites.refl s⟩
  trans := fun h h' => ⟨(tracing A).trans h.1 h'.1, h.2.trans h'.2⟩

theorem settled_of_traced {α : Type} {x : Action Store α} {q : α → Store → Prop} (hx : x.Keeps (tracing A) s q)
    (hsame : s.Sound → s.Listed → SameSites s (x s).state) : x.Keeps (settled A) s q := by
  rintro ⟨hs, hl⟩
  obtain ⟨hv, hstep, hq⟩ := hx hs
  obtain ⟨-, ds, hrun, -⟩ := id hstep
  exact ⟨⟨hv, hrun.listed hl⟩, ⟨hstep, hsame hs hl⟩, hq⟩

theorem settled_of_sameSites {α : Type} {x : Action Store α} {q q' : α → Store → Prop}
    (hx : x.Keeps (tracing A) s q) (hsame : x.Keeps sameSites s q') : x.Keeps (settled A) s q :=
  settled_of_traced hx fun _ _ => (hsame trivial).2.1

theorem settled_traced {α : Type} {x : Action Store α} {q : α → Store → Prop} (hl : s.Listed)
    (hx : x.Keeps (settled A) s q) : x.Keeps (tracing A) s q := by
  intro hs
  obtain ⟨hv, hstep, hq⟩ := hx ⟨hs, hl⟩
  exact ⟨hv.1, hstep.1, hq⟩

/-- **A site that is made for one use leaves no trace.** -/
theorem withSite_settled {α : Type} {base : SiteId} (r : RealmId) (name : String) {use : SiteId → Action Store α}
    (hbase : base ≤ s.sites.size)
    (huse : ∀ k t, base ≤ k → (∀ {i}, s.world.isAlive i = true → t.world.isAlive i = true) →
      (use k).Keeps (settled A) t fun _ _ => True) :
    (withSite r name use).Keeps (settled A) s fun _ _ => True := by
  refine Action.Keeps.of_valid fun hv => settled_of_traced ?_ fun hs hl => ?_
  · refine withSite_keeps ((makeSite_traced r name .unknown).imp fun _ _ _ h => h.1)
      (fun k t => (dropSite_traced k).imp fun _ _ _ _ => trivial) hbase fun k t notes hk hstep => ?_
    obtain ⟨hfollows, ds, hrun, -⟩ := hstep
    exact settled_traced (hrun.listed hv.2) (huse k t hk fun ha => hfollows.alive ha)
  · obtain ⟨hsound, ⟨hfollows, ds, hrun, -⟩, -⟩ := makeSite_traced (A := A) r name .unknown hs
    unfold Workload.withSite
    rcases makeSite_cases hl r name .unknown with ⟨e, notes, hfailed⟩ | ⟨t, hmade, o, hgains, -⟩
    · rw [Action.bind_of_error hfailed]
      exact SameSites.refl s
    · rw [hmade] at hsound hfollows hrun
      obtain ⟨-, ⟨-, hsame⟩, -⟩ := huse s.sites.size t hbase (fun ha => hfollows.alive ha) ⟨hsound, hrun.listed hl⟩
      rw [Action.bind_of_quiet hmade]
      exact hgains.sameSites hsame (dropSite_loses _ _)

/-- What a workload is made of leaves live sites as they are. -/
theorem serves_settled (base : SiteId) :
    Serves (settled (DoneFrom base)) (fun s r => r < s.realms.size) base where
  alive := fun hstep ha => hstep.1.1.alive ha
  still := fun hstep hr => hr.trans_le hstep.1.1.realms
  onWorld := fun hx => settled_of_sameSites ((onWorld_traced hx).imp fun _ _ _ _ => trivial) (onWorld_sameSites _)
  openClass := fun name _ hr hp hsup =>
    settled_of_sameSites (openClass_traced _ name hr hp hsup) (openClass_sameSites _ name _ _)
  openModule := fun name hr hp => settled_of_sameSites (openModule_traced _ name hr hp) (openModule_sameSites _ name _)
  sites := fun hstep => hstep.1.1.sites
  withSite := fun r name _ => withSite_settled r name
  evaluate := fun hk hi =>
    settled_of_sameSites (evaluate_traced hi fun _ hc => hk.trans_eq hc.symm) (atSite_sameSites _ _)
  invalidate := fun {_ k} hk => settled_of_sameSites (invalidate_traced k fun _ => hk) (atSite_sameSites k _)

/-- **A workload leaves the live sites of all realms as they are.** -/
theorem perform_sameSites (hs : s.Sound) (hl : s.Listed) (hr : r < s.realms.size)
    (htop : s.world.isAlive (s.realm r).top = true) (n : UInt64) (wl : Workload) :
    SameSites s (wl.perform r n s).state :=
  ((serves_settled s.sites.size).perform hr htop (Nat.le_refl _) n wl ⟨hs, hl⟩).2.1.2

end ConstantResolution.Workload
