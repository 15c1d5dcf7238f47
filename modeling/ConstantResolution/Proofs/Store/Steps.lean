import ConstantResolution.Proofs.Site.Calls
import ConstantResolution.Proofs.Store.Realms

/-! # Steps of a store

All that can happen to a store, as a relation: changes among the namespaces that are there, namespaces that
are created and held at once, names and realms that take hold of namespaces and let go of them, and what is
done with sites and counters.  The last are the deeds; a step lists those that it does, with all that there is
to know of them, so that a run carries a ledger of its own.

A namespace is created by the same step that makes a name or a realm hold it, or lets it die where it could not
be bound (`Step.lost`). -/

namespace ConstantResolution

/-- What is done with a site, or to counters. -/
inductive Deed where
  | call (c : Call)
  | invalidation (k : SiteId) (t : TallyId)
  | renaming (k : SiteId)
  /-- An event is counted by hand. -/
  | record (t : TallyId) (event : Count)

namespace Store

/-- A site and its counters are put back after a reading in some scope. -/
def settle {σ : Type} (s : Store) (k : SiteId) (t : TallyId) (r : Reading σ) : Store :=
  (s.setSite k r.site).setTally t r.tally

/-- A site with the counters that it reports to. -/
def ReportsTo (s : Store) (k : SiteId) (t : TallyId) : Prop := ∃ p, s.site? k = some p ∧ p.tally = t

/-- One step of a store, with the notes that it takes and the deeds that it does. -/
inductive Step : Store → List Note → List Deed → Store → Prop
  | world {s : Store} {notes : List Note} {w : World} (h : s.world.Calm notes w) :
      Step s notes [] { s with world := w }
  /-- A new namespace that a name holds. -/
  | named {s : Store} {n : Namespace} (holder : String) (hn : s.world.Creatable n) :
      Step s [] [] { s with world := (s.world.create n).hold holder (s.world.size + 1) }
  /-- A new namespace that a realm registers, after the change that binds it. -/
  | opened {s : Store} {notes : List Note} {n : Namespace} {w : World} {r : RealmId}
      (hr : r < s.realms.size) (hn : s.world.Creatable n) (h : (s.world.create n).Calm notes w) :
      Step s notes []
        { s with world := w.retain (s.world.size + 1), realms := s.realms.modify r (holding (s.world.size + 1)) }
  /-- A new namespace that dies at once, since nothing holds it after the change that was to bind it. -/
  | lost {s : Store} {notes : List Note} {n : Namespace} {w : World} (hn : s.world.Creatable n)
      (h : (s.world.create n).Calm notes w) (hfree : w.isHeld (s.world.size + 1) = false) :
      Step s notes [] { s with world := w.bury (s.world.size + 1) }
  | hold {s : Store} {i : NamespaceId} (holder : String) (hi : s.world.isAlive i = true) :
      Step s [] [] { s with world := s.world.hold holder i }
  | letGo {s : Store} (holder : String) : Step s [] [] { s with world := s.world.letGo holder }
  | newRealm {s : Store} (policy : Policy) : Step s [] [] (Store.newRealm policy s).state
  | dropRealm {s : Store} (r : RealmId) : Step s [] [] (Store.dropRealm r s).state
  /-- A realm lists other sites, which report to its counters. -/
  | list {s : Store} (r : RealmId) (f : List SiteId → List SiteId)
      (h : ∀ k ∈ f (s.realm r).sites, k ∈ (s.realm r).sites ∨ s.ReportsTo k (s.realm r).tally) :
      Step s [] [] { s with realms := s.realms.modify r fun m => { m with sites := f m.sites } }
  | newTally {s : Store} : Step s [] [] { s with tallies := s.tallies.push {} }
  | newSite {s : Store} {name : String} {position : Position} {policy : Policy} {site : Site}
      (h : Site.new name position policy = .ok site) (t : TallyId) :
      Step s [] [] { s with sites := s.sites.push ⟨site, t, true⟩ }
  | dropSite {s : Store} (k : SiteId) :
      Step s [] [] { s with sites := s.sites.modify k fun p => { p with held := false } }
  -- deeds
  | callIn {s : Store} {notes : List Note} {k : SiteId} {p : PlacedSite} (i : NamespaceId)
      (hp : s.site? k = some p) :
      Step s notes [.call ((s.reading p).call k p.tally (some i) (World.scope i))]
        (s.settle k p.tally (Reading.resolve (World.scope i) (s.reading p)).state)
  /-- A call in a scope that is no namespace. -/
  | callElsewhere {s : Store} {notes : List Note} {σ : Type} {k : SiteId} {p : PlacedSite} (c : Scope σ)
      (x : σ) (hp : s.site? k = some p) :
      Step s notes [.call (Reading.call k p.tally none c ⟨p.site, s.tally p.tally, x⟩)]
        (s.settle k p.tally (Reading.resolve c ⟨p.site, s.tally p.tally, x⟩).state)
  | invalidate {s : Store} {notes : List Note} {k : SiteId} {p : PlacedSite} (hp : s.site? k = some p) :
      Step s notes [.invalidation k p.tally] (s.settle k p.tally (Reading.invalidate (s.reading p)).state)
  | rename {s : Store} {k : SiteId} {p : PlacedSite} {name : String} {site : Site}
      (hp : s.site? k = some p) (h : p.site.rename name = .ok site) :
      Step s [] [.renaming k] (s.setSite k site)
  | record {s : Store} (t : TallyId) (event : Count) :
      Step s [] [.record t event] (s.setTally t ((s.tally t).record event))

/-- Steps one after another, with their notes and deeds. -/
inductive Run : Store → List Note → List Deed → Store → Prop
  | refl (s : Store) : Run s [] [] s
  | step {s t u : Store} {notes notes' : List Note} {ds es : List Deed} :
      Step s notes ds t → Run t notes' es u → Run s (notes ++ notes') (ds ++ es) u

variable {s t u : Store} {notes notes' : List Note} {ds es : List Deed} {k k' : SiteId} {τ : TallyId}
  {r : RealmId}

theorem Run.single (h : Step s notes ds t) : Run s notes ds t := by
  have := Run.step h (Run.refl t)
  rwa [List.append_nil, List.append_nil] at this

/-- Notes may be taken where nothing happens. -/
theorem Run.quiet (s : Store) (notes : List Note) : Run s notes [] s :=
  Run.single (Step.world (World.Calm.refl s.world notes))

theorem Run.trans (h : Run s notes ds t) (h' : Run t notes' es u) :
    Run s (notes ++ notes') (ds ++ es) u := by
  induction h with
  | refl s => exact h'
  | step hs _ ih =>
      rw [List.append_assoc, List.append_assoc]
      exact Run.step hs (ih h')

/-! ### The world in a step -/

theorem notedRun_create {w : World} {n : Namespace} (hn : w.Creatable n) : w.NotedRun [] (w.create n) :=
  World.NotedRun.quiet (World.Step.create hn)

theorem isAlive_created {w : World} {n : Namespace} (hn : w.Creatable n) :
    (w.create n).isAlive (w.size + 1) = true := by
  rw [World.isAlive_create, if_pos rfl, hn.fresh]

/-- **The world of a store goes on by its own steps**, whose faults are noted. -/
theorem Step.notedRun (h : Step s notes ds t) : s.world.NotedRun notes t.world := by
  cases h with
  | world h => exact h.run
  | named holder hn =>
      exact (notedRun_create hn).trans (World.notedRun_hold holder (isAlive_created hn))
  | opened _ hn h =>
      have halive := h.alive (isAlive_created hn)
      have hrun := ((notedRun_create hn).trans h.run).trans
        (World.NotedRun.quiet (n := []) (World.Step.retain halive))
      rwa [List.nil_append, List.append_nil] at hrun
  | lost hn h hfree => exact (World.Follows.lost hn h hfree).run
  | hold holder hi => exact World.notedRun_hold holder hi
  | letGo holder => exact World.notedRun_letGo _ holder
  | newRealm policy =>
      have hn := World.creatable_topLevel s.world
      exact (notedRun_create hn).trans (World.NotedRun.quiet (n := []) (World.Step.retain (isAlive_created hn)))
  | dropRealm r => exact (release_spec _ s.world).1
  | _ => exact World.NotedRun.refl _ _

theorem Step.linked (h : Step s notes ds t) (hl : s.world.Linked) : t.world.Linked := hl.notedRun h.notedRun

/-! ### Sites that realms list -/

/-- The sites that a realm lists report to its counters. -/
def Listed (s : Store) : Prop := ∀ r k, k ∈ (s.realm r).sites → s.ReportsTo k (s.realm r).tally

/-- A site stays where it is when another one is made. -/
theorem site?_push {p : PlacedSite} (hp : s.site? k = some p) (q : PlacedSite) :
    ({ s with sites := s.sites.push q } : Store).site? k = some p := by
  rw [site?, Array.getElem?_push, if_neg]
  · exact hp
  · rintro rfl
    exact absurd (hp.symm.trans (Array.getElem?_eq_none (Nat.le_refl _))) (Option.some_ne_none p)

theorem exists_site_modify {p : PlacedSite} {f : PlacedSite → PlacedSite} (hp : s.site? k = some p)
    (ht : t.sites = s.sites.modify k' f)
    (hf : k' = k → (f p).tally = p.tally ∧ (f p).site.policy = p.site.policy) :
    ∃ p', t.site? k = some p' ∧ p'.tally = p.tally ∧ p'.site.policy = p.site.policy := by
  rw [site?_modify ht]
  split
  · rename_i hk
    exact ⟨f p, by rw [hp]; rfl, hf hk⟩
  · exact ⟨p, hp, rfl, rfl⟩

theorem policy_of_rename {site site' : Site} {name : String} (h : site.rename name = .ok site') :
    site'.policy = site.policy := by
  unfold Site.rename at h
  split at h
  · rw [← Except.ok.inj h]
  · exact nomatch h

/-- **A site keeps its policy, and reports to the same counters all the time.** -/
theorem Step.exists_site {p : PlacedSite} (h : Step s notes ds t) (hp : s.site? k = some p) :
    ∃ p', t.site? k = some p' ∧ p'.tally = p.tally ∧ p'.site.policy = p.site.policy := by
  have hsettled : ∀ {k' : SiteId} {q : PlacedSite} {site : Site}, s.site? k' = some q →
      site.policy = q.site.policy → t.sites = s.sites.modify k' (fun p => { p with site }) →
      ∃ p', t.site? k = some p' ∧ p'.tally = p.tally ∧ p'.site.policy = p.site.policy := by
    intro k' q site hq hpolicy ht
    refine exists_site_modify hp ht fun hk => ⟨rfl, ?_⟩
    obtain rfl : p = q := Option.some.inj (hp.symm.trans (hk ▸ hq))
    exact hpolicy
  cases h with
  | newSite hnew t => exact ⟨p, site?_push hp _, rfl, rfl⟩
  | dropSite k' => exact exists_site_modify (f := fun p => { p with held := false }) hp rfl fun _ => ⟨rfl, rfl⟩
  | callIn i hq => exact hsettled hq (Reading.policy_resolve _ _) rfl
  | callElsewhere c x hq => exact hsettled hq (Reading.policy_resolve _ _) rfl
  | @invalidate _ _ q hq =>
      have hpolicy : q.site.forget.policy = q.site.policy := rfl
      exact hsettled hq hpolicy rfl
  | rename hq h => exact hsettled hq (policy_of_rename h) rfl
  | _ => exact ⟨p, hp, rfl, rfl⟩

theorem Run.exists_site {p : PlacedSite} (h : Run s notes ds t) (hp : s.site? k = some p) :
    ∃ p', t.site? k = some p' ∧ p'.tally = p.tally ∧ p'.site.policy = p.site.policy := by
  induction h generalizing p with
  | refl s => exact ⟨p, hp, rfl, rfl⟩
  | step hs _ ih =>
      obtain ⟨p', hp', htally, hpolicy⟩ := hs.exists_site hp
      obtain ⟨q, hq, htally', hpolicy'⟩ := ih hp'
      exact ⟨q, hq, htally'.trans htally, hpolicy'.trans hpolicy⟩

theorem Step.reportsTo (h : Step s notes ds t) (hk : s.ReportsTo k τ) : t.ReportsTo k τ := by
  obtain ⟨p, hp, rfl⟩ := hk
  obtain ⟨p', hp', htally, -⟩ := h.exists_site hp
  exact ⟨p', hp', htally⟩

theorem Run.reportsTo (h : Run s notes ds t) (hk : s.ReportsTo k τ) : t.ReportsTo k τ := by
  obtain ⟨p, hp, rfl⟩ := hk
  obtain ⟨p', hp', htally, -⟩ := h.exists_site hp
  exact ⟨p', hp', htally⟩

/-- What is seen of a realm when one of them may have changed. -/
theorem realm_modify_or {f : Realm → Realm} (h : t.realms = s.realms.modify r f) (r' : RealmId) :
    t.realm r' = s.realm r' ∨ r = r' ∧ t.realm r' = f (s.realm r') := by
  by_cases hr : r' < s.realms.size
  · rw [realm_modify h hr]
    split
    · rename_i hrr
      exact Or.inr ⟨hrr, rfl⟩
    · exact Or.inl rfl
  · have hr' : t.realms.size ≤ r' := by
      rw [h, Array.size_modify]
      exact Nat.le_of_not_lt hr
    rw [realm_of_size_le hr', realm_of_size_le (Nat.le_of_not_lt hr)]
    exact Or.inl rfl

theorem Listed.modify (hl : s.Listed) (f : Realm → Realm) (h : t.realms = s.realms.modify r f)
    (hsites : t.sites = s.sites) (htally : ∀ m, (f m).tally = m.tally)
    (hf : ∀ k ∈ (f (s.realm r)).sites, k ∈ (s.realm r).sites ∨ s.ReportsTo k (s.realm r).tally) :
    t.Listed := by
  intro r' k hk
  show ∃ p, t.sites[k]? = some p ∧ _
  rw [hsites]
  rcases realm_modify_or h r' with heq | ⟨rfl, heq⟩
  · rw [heq] at hk ⊢
    exact hl r' k hk
  · rw [heq] at hk ⊢
    rw [htally]
    exact (hf k hk).elim (hl r k) id

/-- A new realm, with its top level, stands behind the others. -/
theorem realm_newRealm (policy : Policy) (s : Store) (r : RealmId) :
    (Store.newRealm policy s).state.realm r =
      if r = s.realms.size then
        { policy, top := s.world.size + 1, tally := s.tallies.size, registered := [s.world.size + 1] }
      else s.realm r := by
  let m : Realm := { policy, top := s.world.size + 1, tally := s.tallies.size }
  let pushed : Store := { s with realms := s.realms.push m }
  have hpushed : pushed.realm r = if r = s.realms.size then m else s.realm r := by
    rw [realm, Array.getD_eq_getD_getElem?, Array.getElem?_push]
    split <;> simp [realm, Array.getD_eq_getD_getElem?]
  have hrealms : (Store.newRealm policy s).state.realms = pushed.realms.modify s.realms.size
      (holding (s.world.size + 1)) := rfl
  have hlt : s.realms.size < pushed.realms.size := by
    rw [Array.size_push]
    exact Nat.lt_succ_self _
  by_cases hr : r = s.realms.size
  · subst hr
    rw [realm_modify hrealms hlt, if_pos rfl, hpushed, if_pos rfl, if_pos rfl]
    rfl
  · rw [if_neg hr]
    rcases realm_modify_or hrealms r with heq | ⟨heq, -⟩
    · rw [heq, hpushed, if_neg hr]
    · exact absurd heq.symm hr

theorem size_newRealm (policy : Policy) (s : Store) :
    (Store.newRealm policy s).state.realms.size = s.realms.size + 1 := by
  have hrealms : (Store.newRealm policy s).state.realms = (s.realms.push
      { policy, top := s.world.size + 1, tally := s.tallies.size }).modify s.realms.size
        (holding (s.world.size + 1)) := rfl
  rw [hrealms, Array.size_modify, Array.size_push]

theorem lt_of_newRealm {policy : Policy} (hr : r < (Store.newRealm policy s).state.realms.size)
    (hne : r ≠ s.realms.size) : r < s.realms.size := by
  rw [size_newRealm] at hr
  exact Nat.lt_of_le_of_ne (Nat.le_of_lt_succ hr) hne

/-- A new realm lists no site. -/
theorem Listed.newRealm (hl : s.Listed) (policy : Policy) : (Store.newRealm policy s).state.Listed := by
  intro r k hk
  rw [realm_newRealm] at hk ⊢
  split at hk
  · exact absurd hk List.not_mem_nil
  · rename_i hne
    rw [if_neg hne]
    exact hl r k hk

/-- **The sites that a realm lists report to its counters all the time.** -/
theorem Step.listed (h : Step s notes ds t) (hl : s.Listed) : t.Listed := by
  have hsame : t.realms = s.realms → t.Listed := by
    intro heq r k hk
    rw [realm, heq] at hk ⊢
    exact h.reportsTo (hl r k hk)
  cases h with
  | opened _ _ _ => exact hl.modify (holding _) rfl rfl (fun _ => rfl) fun _ => Or.inl
  | newRealm policy => exact hl.newRealm policy
  | dropRealm r =>
      exact hl.modify (fun m => { m with registered := [] }) rfl rfl (fun _ => rfl) fun _ => Or.inl
  | list r f h => exact hl.modify (fun m => { m with sites := f m.sites }) rfl rfl (fun _ => rfl) h
  | _ => exact hsame rfl

theorem Run.listed (h : Run s notes ds t) (hl : s.Listed) : t.Listed := by
  induction h with
  | refl s => exact hl
  | step hs _ ih => exact ih (hs.listed hl)

end Store
end ConstantResolution
