import ConstantResolution.Proofs.Site.Stamps
import ConstantResolution.Proofs.Store.Lookups
import ConstantResolution.Proofs.Store.Counters
import ConstantResolution.Proofs.Store.Sites

/-! # Forced invalidation

A site that forgets its memo shows the stamp that it stored last, which is the stamp that it showed before, since a
memo is never stored without its stamp (`Run.stamped`).  A site without a memo makes a lookup in its next call, in
whatever scope that is, and whatever is done before it with other things (`Run.forced`).

A realm that invalidates its live sites makes each of them forget, counts as many invalidations, and changes nothing
else (`invalidateAll_invalidated`). -/

namespace ConstantResolution

namespace Reading

variable {σ : Type} {r : Reading σ}

/-- **A site without a memo makes one lookup in a call**, in every scope. -/
theorem length_lookups_of_none (k : SiteId) (t : TallyId) (place : Option NamespaceId) (c : Scope σ)
    (h : r.site.memo = none) : (r.call k t place c).lookups.length = 1 := by
  cases he : r.site.policy.enabled with
  | false => rw [lookups_of_disabled c he, List.length_singleton]
  | true =>
      have hv : r.site.served? (c.generation r.scope) = none := by
        rw [Site.served?, h]
        rfl
      rw [lookups_of_stale c he hv, List.length_singleton]

end Reading

/-! ### The next call -/

/-- The call that is made of a site. -/
def Deed.callOf? (k : SiteId) : Deed → Option Call
  | .call c => if c.site = k then some c else none
  | _ => none

/-- The first call of a site in a row of deeds. -/
def nextCall? (k : SiteId) (ds : List Deed) : Option Call := ds.findSome? (Deed.callOf? k)

theorem nextCall?_singleton (k : SiteId) (d : Deed) : nextCall? k [d] = d.callOf? k := by
  rw [nextCall?, List.findSome?_cons]
  cases d.callOf? k <;> rfl

namespace Store

variable {s t u : Store} {notes : List Note} {ds : List Deed} {k k' : SiteId} {p : PlacedSite} {τ : TallyId}
  {r : RealmId}

/-- All sites show the stamps that they stored last. -/
def Stamped (s : Store) : Prop := ∀ {k p}, s.site? k = some p → p.site.Stamped

theorem Stamped.modify {f : PlacedSite → PlacedSite} (h : s.Stamped) (ht : t.sites = s.sites.modify k f)
    (hf : ∀ p, s.site? k = some p → (f p).site.Stamped) : t.Stamped := by
  intro k' q hq
  rw [site?_modify ht] at hq
  split at hq
  · rename_i hk
    obtain ⟨p, hp, rfl⟩ := Option.map_eq_some_iff.mp hq
    exact hf p (hk ▸ hp)
  · exact h hq

theorem Step.stamped (h : Step s notes ds t) (hs : s.Stamped) : t.Stamped := by
  cases h with
  | newSite hnew τ =>
      intro k q hq
      rw [site?, Array.getElem?_push] at hq
      split at hq
      · rw [← Option.some.inj hq]
        exact Site.stamped_new hnew
      · exact hs hq
  | dropSite k =>
      exact hs.modify (f := fun p => { p with held := false }) rfl fun p hp => show p.site.Stamped from hs hp
  | callIn i hq =>
      exact hs.modify (f := fun p => { p with site := _ }) rfl fun _ _ => Reading.stamped_resolve _ (hs hq)
  | callElsewhere c x hq =>
      exact hs.modify (f := fun p => { p with site := _ }) rfl fun _ _ => Reading.stamped_resolve c (hs hq)
  | invalidate hq =>
      exact hs.modify (f := fun p => { p with site := _ }) rfl fun _ _ => Site.stamped_of_none rfl
  | rename hq hrename =>
      exact hs.modify (f := fun p => { p with site := _ }) rfl fun _ _ =>
        Site.stamped_of_none (Site.memo_rename hrename)
  | _ => exact hs

/-- **Sites show the stamps that they stored last, all the time.** -/
theorem Run.stamped (h : Run s notes ds t) (hs : s.Stamped) : t.Stamped := by
  induction h with
  | refl s => exact hs
  | step hstep _ ih => exact ih (hstep.stamped hs)

/-- A site has no memo. -/
def Forgotten (k : SiteId) (s : Store) : Prop := ∃ p, s.site? k = some p ∧ p.site.memo = none

/-- A row of deeds begins with a lookup of a site, or leaves it without a memo. -/
def Forced (k : SiteId) (ds : List Deed) (t : Store) : Prop :=
  (∀ c ∈ nextCall? k ds, c.lookups.length = 1) ∧ (nextCall? k ds = none → Forgotten k t)

/-- What is done elsewhere leaves the site as it is. -/
theorem forced_of_site_eq (hk : Forgotten k s) (ht : t.site? k = s.site? k) (hds : nextCall? k ds = none) :
    Forced k ds t := by
  rw [Forced, hds]
  refine ⟨fun c hc => absurd hc (Option.not_mem_none c), fun _ => ?_⟩
  rw [Forgotten, ht]
  exact hk

/-- A change of a site that gives it no memo. -/
theorem forced_of_modify {f : PlacedSite → PlacedSite} (hk : Forgotten k s) (ht : t.sites = s.sites.modify k' f)
    (hf : ∀ p, p.site.memo = none → (f p).site.memo = none) (hds : nextCall? k ds = none) : Forced k ds t := by
  obtain ⟨p, hp, hmemo⟩ := hk
  rw [Forced, hds]
  refine ⟨fun c hc => absurd hc (Option.not_mem_none c), fun _ => ?_⟩
  rw [Forgotten, site?_modify ht, hp]
  split
  · exact ⟨f p, rfl, hf p hmemo⟩
  · exact ⟨p, rfl, hmemo⟩

/-- A call in any scope: of the site itself it makes one lookup, and other sites it leaves alone. -/
theorem forced_of_call {σ : Type} {q : PlacedSite} {x y : Reading σ} {place : Option NamespaceId} (c : Scope σ)
    (hk : Forgotten k s) (hq : s.site? k' = some q) (hx : x.site = q.site) :
    Forced k [.call (x.call k' τ place c)] (s.settle k' τ y) := by
  by_cases hsame : k' = k
  · have hnext : nextCall? k [.call (x.call k' τ place c)] = some (x.call k' τ place c) :=
      (nextCall?_singleton k _).trans (if_pos hsame)
    obtain ⟨p, hp, hmemo⟩ := hk
    obtain rfl : p = q := Option.some.inj (hp.symm.trans (hsame ▸ hq))
    rw [Forced, hnext]
    refine ⟨fun c' hc' => ?_, fun h => absurd h (Option.some_ne_none _)⟩
    rw [← Option.some.inj hc']
    exact Reading.length_lookups_of_none _ _ _ _ (hx ▸ hmemo)
  · have hsite : (s.settle k' τ y).site? k = s.site? k := (site?_settle hq k).trans (if_neg hsame)
    exact forced_of_site_eq hk hsite ((nextCall?_singleton k _).trans (if_neg hsame))

theorem Step.forced (h : Step s notes ds t) (hk : Forgotten k s) : Forced k ds t := by
  have hnone : ∀ {d : Deed}, d.callOf? k = none → nextCall? k [d] = none :=
    fun {d} hd => (nextCall?_singleton k d).trans hd
  cases h with
  | newSite hnew τ =>
      obtain ⟨p, hp, -⟩ := id hk
      exact forced_of_site_eq hk ((site?_push hp _).trans hp.symm) rfl
  | dropSite k' => exact forced_of_modify (f := fun p => { p with held := false }) hk rfl (fun _ h => h) rfl
  | callIn i hq => exact forced_of_call _ hk hq rfl
  | callElsewhere c x hq => exact forced_of_call c hk hq rfl
  | invalidate hq =>
      exact forced_of_modify (f := fun p => { p with site := _ }) hk rfl (fun _ _ => rfl) (hnone rfl)
  | rename hq hrename =>
      exact forced_of_modify (f := fun p => { p with site := _ }) hk rfl (fun _ _ => Site.memo_rename hrename)
        (hnone rfl)
  | record τ event => exact forced_of_site_eq hk rfl (hnone rfl)
  | _ => exact forced_of_site_eq hk rfl rfl

/-- **The next call of a site without a memo makes one lookup**, whatever is done before it. -/
theorem Run.forced (h : Run s notes ds t) (hk : Forgotten k s) : Forced k ds t := by
  induction h with
  | refl s => exact forced_of_site_eq hk rfl rfl
  | @step s t u notes notes' ds es hs _ ih =>
      obtain ⟨hfirst, hnext⟩ := hs.forced hk
      have happend : nextCall? k (ds ++ es) = (nextCall? k ds).or (nextCall? k es) := List.findSome?_append
      rw [Forced, happend]
      cases hds : nextCall? k ds with
      | none =>
          rw [Option.none_or]
          exact ih (hnext hds)
      | some c =>
          rw [hds] at hfirst
          rw [Option.some_or]
          exact ⟨hfirst, fun h => absurd h (Option.some_ne_none c)⟩

/-! ### What a forced invalidation does -/

end Store

/-- A site that forgets its memo stays where it is. -/
def PlacedSite.forget (p : PlacedSite) : PlacedSite := { p with site := p.site.forget }

theorem PlacedSite.forget_forget (p : PlacedSite) : p.forget.forget = p.forget := rfl

/-- Counters that count a number of invalidations. -/
def Tally.invalidated (t : Tally) (n : Nat) : Tally := { t with invalidations := t.invalidations + .ofNat n }

theorem Tally.invalidated_zero (t : Tally) : t.invalidated 0 = t := by
  simp [invalidated]

theorem Tally.invalidated_invalidated (t : Tally) (n m : Nat) :
    (t.invalidated n).invalidated m = t.invalidated (n + m) := by
  simp [invalidated, UInt64.add_assoc]

namespace Store

variable {s t u : Store} {k : SiteId} {ks js : List SiteId} {p : PlacedSite} {τ : TallyId} {r : RealmId}

/-- Some sites forget, their counters count it, and nothing else changes. -/
structure Forgets (ks : List SiteId) (τ : TallyId) (s t : Store) : Prop where
  world : t.world = s.world
  realms : t.realms = s.realms
  counters : t.tallies.size = s.tallies.size
  site : ∀ k, t.site? k = if k ∈ ks then (s.site? k).map PlacedSite.forget else s.site? k
  tally : ∀ τ', t.tally τ' = if τ' = τ then (s.tally τ).invalidated ks.length else s.tally τ'

theorem Forgets.refl (τ : TallyId) (s : Store) : Forgets [] τ s s where
  world := rfl
  realms := rfl
  counters := rfl
  site := fun k => (if_neg List.not_mem_nil).symm
  tally := fun τ' => by
    rw [List.length_nil, Tally.invalidated_zero]
    split
    · rename_i h
      rw [h]
    · rfl

theorem Forgets.trans (h : Forgets ks τ s t) (h' : Forgets js τ t u) : Forgets (ks ++ js) τ s u where
  world := h'.world.trans h.world
  realms := h'.realms.trans h.realms
  counters := h'.counters.trans h.counters
  site := fun k => by
    rw [h'.site, h.site]
    by_cases hk : k ∈ ks <;> by_cases hj : k ∈ js <;> simp [hk, hj, PlacedSite.forget_forget, Function.comp_def]
  tally := fun τ' => by
    rw [h'.tally, h.tally, h.tally, if_pos rfl, List.length_append, ← Tally.invalidated_invalidated]
    split <;> rfl

/-- Counters that are there are set, and no others. -/
theorem tally_setTally_of_lt (hτ : τ < s.tallies.size) (v : Tally) (τ' : TallyId) :
    (s.setTally τ v).tally τ' = if τ' = τ then v else s.tally τ' := by
  simp only [setTally, tally, Array.getD_eq_getD_getElem?, Array.getElem?_setIfInBounds, if_pos hτ]
  by_cases h : τ = τ'
  · rw [if_pos h, if_pos h.symm, Option.getD_some]
  · rw [if_neg h, if_neg (Ne.symm h)]

theorem invalidate_forgets (hp : s.site? k = some p) (hτ : p.tally < s.tallies.size) :
    Forgets [k] p.tally s (invalidate k s).state := by
  have hstate : (invalidate k s).state =
      putReading k p.tally ⟨p.site.forget, (s.tally p.tally).invalidated 1, s.world⟩ s := by
    unfold invalidate
    rw [atSite_of_some hp]
    rfl
  rw [hstate]
  refine ⟨rfl, rfl, Array.size_setIfInBounds, fun k' => ?_, fun τ => ?_⟩
  · rw [site?_modify (sites_putReading ..) k']
    by_cases hk : k = k'
    · rw [if_pos hk, if_pos (List.mem_singleton.mpr hk.symm), ← hk, hp]
      rfl
    · rw [if_neg hk, if_neg fun h => hk (List.mem_singleton.mp h).symm]
  · exact tally_setTally_of_lt (s := s.setSite k p.site.forget) hτ _ τ

/-- **Sites that report to the same counters forget one after another.** -/
theorem invalidateEach_forgets (hks : ∀ k ∈ ks, s.ReportsTo k τ) (hτ : τ < s.tallies.size) :
    Forgets ks τ s (invalidateEach ks s).state := by
  induction ks generalizing s with
  | nil => exact Forgets.refl τ s
  | cons k ks ih =>
      obtain ⟨p, hp, rfl⟩ := hks k List.mem_cons_self
      have hfirst := invalidate_forgets hp hτ
      have hrun := invalidate_run hp
      have hrest := ih (fun k' hk' => hrun.reportsTo (hks k' (List.mem_cons_of_mem k hk'))) (hfirst.counters ▸ hτ)
      have hok : invalidate k s = ⟨(invalidate k s).state, (invalidate k s).notes, .ok ()⟩ := by
        unfold invalidate
        rw [atSite_of_some hp]
        rfl
      have hstate : (invalidateEach (k :: ks) s).state = (invalidateEach ks (invalidate k s).state).state := by
        show ((invalidate k >>= fun _ => invalidateEach ks) s).state = _
        rw [Action.bind_of_ok hok]
      rw [hstate]
      exact hfirst.trans hrest

/-- **What a realm does that invalidates its live sites.**  Each of them forgets its memo, and keeps all else, also
the stamp that it shows; the counters of the realm have counted that many invalidations; the realm lists its live
sites.  No namespace changes, no other site, no other counters and no other realm. -/
structure Invalidated (r : RealmId) (live : List SiteId) (s t : Store) : Prop where
  world : t.world = s.world
  forgotten : ∀ k ∈ live, ∃ p, s.site? k = some p ∧ t.site? k = some p.forget
  others : ∀ k, k ∉ live → t.site? k = s.site? k
  stamp : ∀ {k p p'}, s.site? k = some p → t.site? k = some p' → p'.site.stamp = p.site.stamp
  tally : t.tally (s.realm r).tally = (s.tally (s.realm r).tally).invalidated live.length
  tallies : ∀ τ, τ ≠ (s.realm r).tally → t.tally τ = s.tally τ
  realm : t.realm r = { s.realm r with sites := live }
  realms : ∀ r', r' ≠ r → t.realm r' = s.realm r'

/-- **A realm that invalidates its live sites does no more than that.** -/
theorem invalidateAll_invalidated (hl : s.Listed) (hs : s.Stamped) (hr : r < s.realms.size)
    (hτ : (s.realm r).tally < s.tallies.size) : Invalidated r (s.liveSites r) s (invalidateAll r s).state := by
  have hks : ∀ k ∈ s.liveSites r, (pruneSites r s).state.ReportsTo k (s.realm r).tally :=
    fun k hk => hl r k (List.mem_of_mem_filter hk)
  have hok := (invalidateEach_run hks).2
  have hstate : (invalidateAll r s).state = (invalidateEach (s.liveSites r) (pruneSites r s).state).state := by
    rw [invalidateAll_apply]
    rcases hinv : invalidateEach (s.liveSites r) (pruneSites r s).state with ⟨t, notes, e | ⟨⟩⟩
    · rw [hinv] at hok
      exact absurd hok (by simp)
    · rw [Action.bind_of_ok hinv]
      rfl
  have hforgets := invalidateEach_forgets (s := (pruneSites r s).state) hks hτ
  rw [← hstate] at hforgets
  have hrealms : (invalidateAll r s).state.realms =
      s.realms.modify r fun m => { m with sites := s.liveSites r } := hforgets.realms
  have hsite : ∀ k, (invalidateAll r s).state.site? k =
      if k ∈ s.liveSites r then (s.site? k).map PlacedSite.forget else s.site? k := hforgets.site
  refine
    { world := hforgets.world
      forgotten := fun k hk => ?_
      others := fun k hk => (hsite k).trans (if_neg hk)
      stamp := fun {k p p'} hp hp' => ?_
      tally := (hforgets.tally _).trans (if_pos rfl)
      tallies := fun τ hne => (hforgets.tally τ).trans (if_neg hne)
      realm := by rw [realm_modify hrealms hr, if_pos rfl]
      realms := fun r' hne => ?_ }
  · obtain ⟨p, hp, -⟩ := hl r k (List.mem_of_mem_filter hk)
    refine ⟨p, hp, ?_⟩
    rw [hsite, if_pos hk, hp]
    rfl
  · rw [hsite, hp] at hp'
    split at hp'
    · rw [← Option.some.inj hp']
      exact (hs hp).stamp_forget
    · rw [← Option.some.inj hp']
  · rcases realm_modify_or hrealms r' with heq | ⟨heq, -⟩
    · exact heq
    · exact absurd heq.symm hne

end Store
end ConstantResolution
