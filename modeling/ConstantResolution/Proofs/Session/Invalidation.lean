import ConstantResolution.Proofs.Session.Sites
import ConstantResolution.Proofs.Store.Invalidation
import ConstantResolution.Proofs.Store.Territory

/-! # Forced invalidation reaches every live site, and nothing else

In every session, a realm that invalidates its sites reaches all those that were made in it and that a name still
holds, each of them once, and no others.  They show the same stamps as before, and each of them makes a lookup in its
next call, whatever happens until then (`invalidateAll_exactly_live`). -/

namespace ConstantResolution.Session

variable {s : Session} {r : RealmId} {realm : String}

/-- The store of every session came from the empty one. -/
theorem exists_run (policy : Policy) (cs : List Command) :
    ∃ notes ds, ({} : Store).Run notes ds ((start policy).after cs).store := by
  obtain ⟨ds, hds⟩ := exists_ledger (sound_start policy) (listed_start policy) cs
  exact ⟨_, _, (run_start policy).trans hds.run⟩

/-- A realm that a name holds invalidates its live sites. -/
theorem perform_invalidateAll (hr : s.realms.get? realm = some r) :
    perform (.invalidateAll realm) s =
      ⟨{ s with store := (Store.invalidateAll r s.store).state }, (Store.invalidateAll r s.store).notes,
        (Store.invalidateAll r s.store).result.map Answer.number⟩ := by
  have hheld : perform (.invalidateAll realm) s =
      (onStore (Store.invalidateAll r) >>= fun n => pure (Answer.number n)) s :=
    Action.bind_of_quiet (held_of_some hr) _
  rw [hheld, Action.bind_pure_apply]
  rfl

/-- **A forced invalidation reaches every live site, and nothing else.**  After any commands, let a realm invalidate
its sites, and let the live ones be those that were made in it and are held, which means that a name holds them.  None
of them is counted twice.  The realm gives their number, which is that of its live sites before.  Each of them forgets
its memo, and keeps its name, its stamp, its row of lookups and all else; the realm counts as many invalidations; and
nothing else changes: no name, no namespace, no other counters, no other realm, and no other site, in particular none
that was made in another realm.  Whatever commands come later, the first call that they make of one of these sites
makes exactly one lookup. -/
theorem invalidateAll_exactly_live (policy : Policy) (cs : List Command) {realm : String} {r : RealmId} :
    let s := (start policy).after cs
    let live := (madeBy r (start policy) cs).filter s.store.isHeld
    let t := (perform (.invalidateAll realm) s).state
    s.realms.get? realm = some r →
      ((∀ k, s.store.isHeld k = true ↔ ∃ name, s.sites.get? name = some k) ∧ live.Nodup) ∧
      ((perform (.invalidateAll realm) s).result = .ok (.number live.length) ∧
        s.store.siteCount r = live.length) ∧
      (t = { s with store := t.store } ∧ Store.Invalidated r live s.store t.store) ∧
      (∀ r', r' ≠ r → ∀ k ∈ madeBy r' (start policy) cs, t.store.site? k = s.store.site? k) ∧
      ∀ later, (∃ ds, t.Ledger later ds) ∧
        ∀ ds, t.Ledger later ds → ∀ k ∈ live, ∀ c ∈ nextCall? k ds, c.lookups.length = 1 := by
  intro s live t hr
  have hs : s.Sound := sound_after (sound_start policy) cs
  have hl : s.store.Listed := listed_after (sound_start policy) (listed_start policy) cs
  obtain ⟨notes, ds, hrun⟩ := exists_run policy cs
  have hstamped : s.store.Stamped := hrun.stamped nofun
  have hnumbered : s.store.Numbered := hrun.numbered ⟨nofun, nofun⟩
  have hsize : r < s.store.realms.size := (hs.realms hr).1
  have hcensus : Census none (fun r => madeBy r (start policy) cs) s := census_after policy cs
  have hlive : s.store.liveSites r = live := hcensus.store.live r
  have hperform := perform_invalidateAll hr
  have hstate : t = { s with store := (Store.invalidateAll r s.store).state } := by
    show (perform _ s).state = _
    rw [hperform]
  have hstore : t.store = (Store.invalidateAll r s.store).state := by
    rw [hstate]
  have hrest : t = { s with store := t.store } := by
    rw [hstore]
    exact hstate
  have hinvalidated : Store.Invalidated r live s.store t.store := by
    rw [hstore, ← hlive]
    exact Store.invalidateAll_invalidated hl hstamped hsize (hnumbered.bound r hsize)
  have hnamed : ∀ k, s.store.isHeld k = true ↔ ∃ name, s.sites.get? name = some k := by
    intro k
    rw [hcensus.names.held]
    simp
  have hresult : (perform (.invalidateAll realm) s).result = .ok (.number live.length) := by
    rw [hperform, (Store.invalidateAll_run hl r).2, hlive]
    rfl
  have hsound' : t.Sound := sound_perform hs (.invalidateAll realm)
  have hlisted' : t.store.Listed := listed_perform hs hl (.invalidateAll realm)
  have hnodup : live.Nodup := hlive ▸ hcensus.store.nodup_live r
  refine ⟨⟨hnamed, hnodup⟩, ⟨hresult, congrArg List.length hlive⟩, ⟨hrest, hinvalidated⟩, ?_, ?_⟩
  · intro r' hne k hk
    refine hinvalidated.others k fun hmem => hne ?_
    exact hcensus.store.apart hk (List.mem_of_mem_filter hmem)
  · intro later
    refine ⟨exists_ledger hsound' hlisted' later, fun es hes k hk => ?_⟩
    obtain ⟨p, -, hp⟩ := hinvalidated.forgotten k hk
    exact (hes.run.forced ⟨p.forget, hp, rfl⟩).1

/-- Two realms make sites, one site is free, and a workload makes one for itself.  Sites are evaluated, invalidated,
renamed and dropped. -/
def gathering : List Command :=
  [.define "top" "X" (.value (.int 1)), .newSite "a" "X" .unknown "main", .newSite "b" "X" .unknown "main",
    .newFreeSite "free" "X" .unknown {} (.ofRealm "main"), .newRealm "other" {}, .newSite "c" "X" .unknown "other",
    .newSite "d" "Y" .unknown "main", .work "main" .answeredReads 1, .evaluate "a" ⟨.heldNamespace "top", none⟩ 2,
    .invalidateAll "main", .evaluate "a" ⟨.heldNamespace "top", none⟩ 2, .rename "d" "X",
    .evaluate "free" ⟨.heldNamespace "top", none⟩ 1, .dropSite "b"]

set_option maxRecDepth 10000 in
/-- Of four sites that the first realm made, two are live.  They are reached; the site of the other realm and the free
one are not; and the one that had a memo looks its name up in the next of two evaluations. -/
theorem invalidateAll_exactly_live_gathering :
    let s := (start {}).after gathering
    let t := (perform (.invalidateAll "main") s).state
    let again : List Command := [.define "top" "Y" (.value (.int 2)), .evaluate "a" ⟨.heldNamespace "top", none⟩ 2]
    s.realms.get? "main" = some 0 ∧ madeBy 0 (start {}) gathering = [0, 1, 4, 5] ∧
      (perform (.invalidateAll "main") s).result = .ok (.number 2) ∧
      (t.store.tally 0).invalidations = (s.store.tally 0).invalidations + 2 ∧
      t.store.site? 2 = s.store.site? 2 ∧ t.store.site? 3 = s.store.site? 3 ∧
      (∃ p, s.store.site? 0 = some p ∧ p.site.memo ≠ none ∧ t.store.site? 0 = some p.forget ∧
        p.forget.site.stamp = p.site.stamp) ∧
      ∃ ds, t.Ledger again ds ∧ ∀ c ∈ nextCall? 0 ds, c.lookups.length = 1 := by
  intro s t again
  have hr : ((start {}).after gathering).realms.get? "main" = some 0 := by decide +kernel
  have hmade : madeBy 0 (start {}) gathering = [0, 1, 4, 5] := by decide +kernel
  have hlive : (madeBy 0 (start {}) gathering).filter ((start {}).after gathering).store.isHeld = [0, 4] := by
    decide +kernel
  obtain ⟨-, ⟨hresult, -⟩, ⟨-, hinvalidated⟩, helsewhere, hlater⟩ := invalidateAll_exactly_live {} gathering hr
  rw [hlive] at hresult hinvalidated hlater
  have htally := hinvalidated.tally
  have hzero : (((start {}).after gathering).store.realm 0).tally = 0 := by decide +kernel
  rw [hzero] at htally
  have hother : 3 ∈ madeBy 1 (start {}) gathering := by decide +kernel
  have hmemo : (((start {}).after gathering).store.site? 0).any (fun p => p.site.memo.isSome) = true := by
    decide +kernel
  obtain ⟨p, hp, hp'⟩ := hinvalidated.forgotten 0 (by decide)
  rw [hp] at hmemo
  obtain ⟨⟨ds, hds⟩, hnext⟩ := hlater again
  have htwo := congrArg Tally.invalidations htally
  have helse := helsewhere 1 (by decide) 3 hother
  have hstamp := hinvalidated.stamp hp hp'
  exact ⟨hr, hmade, hresult, htwo, hinvalidated.others 2 (by decide), helse,
    ⟨p, hp, Option.isSome_iff_ne_none.mp hmemo, hp', hstamp⟩, ds, hds, hnext ds hds 0 (by decide)⟩

end ConstantResolution.Session
