import ConstantResolution.Proofs.Session.Counters

/-! # Names that were not found

The counter of names that were not found holds the calls of sites with memos whose lookup found nothing, and
what was counted by hand (`notFound_ledger`).  Calls of sites without memos are left out.  So it holds all
calls whose lookup found nothing where all sites keep memos, and none of them where no site does
(`notFound_of_disabled`). -/

namespace ConstantResolution

/-- A call whose lookup found nothing. -/
def Deed.missesTo (τ : TallyId) : Deed → Bool
  | .call c => c.tally == τ && c.missed
  | _ => false

/-- The call of a site with memos whose lookup found nothing. -/
def Deed.seenMissing (τ : TallyId) : Deed → Bool
  | .call c => c.tally == τ && c.memos && c.missed
  | _ => false

theorem Deed.causes_notFound (τ : TallyId) : causes τ .notFound = seenMissing τ := by
  funext d
  cases d <;> simp [causes, seenMissing, Call.tells, Bool.and_assoc]

/-- **A call that finds nothing is counted or is not, by the policy of its site.** -/
theorem countP_missesTo (τ : TallyId) (ds : List Deed) :
    ds.countP (Deed.missesTo τ) = ds.countP (Deed.seenMissing τ) + ds.countP (Deed.unseen τ) := by
  apply countP_or
  · intro d
    cases d with
    | call c =>
        simp only [Deed.missesTo, Deed.seenMissing, Deed.unseen]
        cases c.memos <;> simp
    | _ => rfl
  · intro d
    cases d with
    | call c => cases hm : c.memos <;> simp [Deed.seenMissing, Deed.unseen, hm]
    | _ => exact fun h => Bool.false_ne_true h.1

namespace Store

variable {s t : Store} {notes : List Note} {ds : List Deed} {τ : TallyId} {c : Call}

/-! ### The policies of calls -/

/-- The site that a call was made by, which has kept its counters and its policy. -/
def HasCaller (s : Store) (c : Call) : Prop :=
  ∃ p, s.site? c.site = some p ∧ p.tally = c.tally ∧ p.site.policy.enabled = c.memos

theorem Run.hasCaller (h : Run s notes ds t) (hc : s.HasCaller c) : t.HasCaller c := by
  obtain ⟨p, hp, htally, hmemos⟩ := hc
  obtain ⟨q, hq, htally', hpolicy⟩ := h.exists_site hp
  refine ⟨q, hq, htally'.trans htally, ?_⟩
  rw [hpolicy, hmemos]

/-- A step calls sites that are there. -/
theorem Step.hasCaller (h : Step s notes ds t) (hc : .call c ∈ ds) : s.HasCaller c := by
  cases h with
  | callIn i hp =>
      obtain rfl := Deed.call.inj (List.mem_singleton.mp hc)
      exact ⟨_, hp, rfl, rfl⟩
  | callElsewhere scope x hp =>
      obtain rfl := Deed.call.inj (List.mem_singleton.mp hc)
      exact ⟨_, hp, rfl, rfl⟩
  | _ => simp at hc

/-- **Every call of a run was made by a site that is there at its end.** -/
theorem Run.hasCaller_of_mem (h : Run s notes ds t) (hc : .call c ∈ ds) : t.HasCaller c := by
  induction h with
  | refl s => exact absurd hc List.not_mem_nil
  | step hs hr ih =>
      rcases List.mem_append.mp hc with hc | hc
      · exact ((Run.single hs).trans hr).hasCaller (hs.hasCaller hc)
      · exact ih hc

/-- Where all sites keep memos, no call that finds nothing goes unseen. -/
theorem Run.countP_unseen (h : Run s notes ds t)
    (hall : ∀ k p, t.site? k = some p → p.tally = τ → p.site.policy.enabled = true) :
    ds.countP (Deed.unseen τ) = 0 := by
  apply List.countP_eq_zero.mpr
  intro d hd
  cases d with
  | call c =>
      obtain ⟨p, hp, htally, hmemos⟩ := h.hasCaller_of_mem hd
      simp only [Deed.unseen, Bool.and_eq_true, beq_iff_eq, Bool.not_eq_true']
      rintro ⟨⟨hτ, hnone⟩, -⟩
      rw [← hmemos, hall _ p hp (htally.trans hτ)] at hnone
      exact Bool.noConfusion hnone
  | _ => exact Bool.false_ne_true

/-- Where no site keeps memos, no call that finds nothing is seen. -/
theorem Run.countP_seenMissing (h : Run s notes ds t)
    (hnone : ∀ k p, t.site? k = some p → p.tally = τ → p.site.policy.enabled = false) :
    ds.countP (Deed.seenMissing τ) = 0 := by
  apply List.countP_eq_zero.mpr
  intro d hd
  cases d with
  | call c =>
      obtain ⟨p, hp, htally, hmemos⟩ := h.hasCaller_of_mem hd
      simp only [Deed.seenMissing, Bool.and_eq_true, beq_iff_eq]
      rintro ⟨⟨hτ, hall⟩, -⟩
      rw [← hmemos, hnone _ p hp (htally.trans hτ)] at hall
      exact Bool.noConfusion hall
  | _ => exact Bool.false_ne_true

end Store

namespace Session

variable {τ : TallyId}

/-- **Which names that were not found are counted.**  From any session that commands lead to and that has new
counters, and in any run of commands, the counter holds, as a word, the calls of sites with memos whose lookup
found nothing, together with what was counted by hand.  Calls of sites without memos whose lookup found
nothing are not counted.  So where all sites that report to these counters keep memos it holds all calls whose
lookup found nothing, and where none of them does it holds none. -/
theorem notFound_ledger (policy : Policy) (before cs : List Command) :
    let s := (start policy).after before
    let t := s.after cs
    s.NewCounters τ →
      (∃ ds, s.Ledger cs ds) ∧ ∀ ds, s.Ledger cs ds →
        let counted := (t.store.tally τ).notFound
        let byHand := ds.countP (Deed.byHand τ .notFound)
        let failed := ds.countP (Deed.missesTo τ)
        counted = UInt64.ofNat (ds.countP (Deed.seenMissing τ) + byHand) ∧
          failed = ds.countP (Deed.seenMissing τ) + ds.countP (Deed.unseen τ) ∧
          ((∀ k p, t.store.site? k = some p → p.tally = τ → p.site.policy.enabled = true) →
            counted = UInt64.ofNat (failed + byHand)) ∧
          ((∀ k p, t.store.site? k = some p → p.tally = τ → p.site.policy.enabled = false) →
            counted = UInt64.ofNat byHand) := by
  intro s t hτ
  have hs : s.Sound := sound_after (sound_start policy) before
  have hl : s.store.Listed := listed_after (sound_start policy) (listed_start policy) before
  refine ⟨exists_ledger hs hl cs, fun ds hds => ?_⟩
  intro counted byHand failed
  have hcounted : counted = UInt64.ofNat (ds.countP (Deed.seenMissing τ) + byHand) := by
    have hcounter := (hds.run.counter hτ.lt .notFound).2
    rw [hτ.zero, Tally.counter_empty, countP_tells, Deed.causes_notFound] at hcounter
    exact hcounter.trans (UInt64.zero_add _)
  have hfailed : failed = _ := countP_missesTo τ ds
  refine ⟨hcounted, hfailed, fun hall => ?_, fun hnone => ?_⟩
  · rw [hcounted, hfailed, hds.run.countP_unseen hall, Nat.add_zero]
  · rw [hcounted, hds.run.countP_seenMissing hnone, Nat.zero_add]

set_option maxRecDepth 10000 in
/-- A site with memos looks for a name that is not bound, and that is counted once. -/
theorem notFound_ledger_asking :
    (start {}).NewCounters 0 ∧ ∃ ds, (start {}).Ledger (siting ++ asking) ds ∧
      (((start {}).after (siting ++ asking)).store.tally 0).notFound = 1 ∧
      UInt64.ofNat (ds.countP (Deed.seenMissing 0) + ds.countP (Deed.byHand 0 .notFound)) = 1 := by
  have hnew : (start {}).NewCounters 0 := ⟨by decide +kernel, by decide +kernel⟩
  have hone : (((start {}).after (siting ++ asking)).store.tally 0).notFound = 1 := by decide +kernel
  obtain ⟨⟨ds, hds⟩, hledger⟩ := notFound_ledger {} [] (siting ++ asking) hnew
  obtain ⟨hcounted, -⟩ := hledger ds hds
  exact ⟨hnew, ds, hds, hone, hcounted.symm.trans hone⟩

set_option maxRecDepth 10000 in
/-- A site without memos looks for a name that is not bound.  It is the one call, its lookup finds nothing, and
that is not counted. -/
theorem notFound_of_disabled :
    let s := (start .uncached).after siting
    s.NewCounters 0 ∧ (perform (.resolve "site" ⟨.heldNamespace "top", none⟩) s).result = .ok (.value none) ∧
      ∃ ds, s.Ledger asking ds ∧ ds.countP (Deed.missesTo 0) = 1 ∧
        ((s.after asking).store.tally 0).notFound = 0 := by
  intro s
  have hnew : s.NewCounters 0 := ⟨by decide +kernel, by decide +kernel⟩
  have hs : s.Sound := sound_after (sound_start .uncached) siting
  have hk : s.sites.get? "site" = some 0 := by decide +kernel
  have hplace : s.place? ⟨.heldNamespace "top", none⟩ = some (.ofNamespace 1) := by decide +kernel
  have hmissed : ∀ p ∈ s.store.site? 0,
      [Deed.call ((s.store.reading p).call 0 p.tally (some 1) (World.scope 1))].countP (Deed.missesTo 0) = 1 := by
    decide +kernel
  obtain ⟨p, hp⟩ := hs.exists_site hk
  have hrun := Store.atSite_run Reading.resolve_isCall hs.store.linked hp 1
  rw [Store.atSite_of_some hp] at hrun
  have hasked : s.store.Run (atSite "site" ⟨.heldNamespace "top", none⟩ Reading.resolve s).notes
      [.call ((s.store.reading p).call 0 p.tally (some 1) (World.scope 1))]
      (atSite "site" ⟨.heldNamespace "top", none⟩ Reading.resolve s).state.store := by
    rw [atSite_apply Reading.resolve hk hplace hp]
    exact hrun
  have hdoes : s.Does (.resolve "site" ⟨.heldNamespace "top", none⟩)
      [.call ((s.store.reading p).call 0 p.tally (some 1) (World.scope 1))] := by
    show Calls (s.evaluationAt? "site" ⟨.heldNamespace "top", none⟩) 1 _
    rw [evaluationAt?, hk, Option.bind_some, hplace, Option.map_some]
    exact ⟨rfl, fun d hd => ⟨_, List.mem_singleton.mp hd, rfl, rfl⟩⟩
  refine ⟨hnew, by decide +kernel, _, Ledger.cons (run_map hasked) hdoes (Ledger.nil _), ?_, by decide +kernel⟩
  rw [List.append_nil]
  exact hmissed p hp

end Session
end ConstantResolution
