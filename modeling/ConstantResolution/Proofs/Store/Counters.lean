import ConstantResolution.Proofs.Store.Steps

/-! # What counters count

Counters hold what the deeds of a run tell them, one event after another.

* `Tally.counter_recordAll`: a row of events adds to each counter how often it occurs.
* `Step.counter`, `Run.counter`: a run adds to each counter the deeds that tell it (`Deed.tells`).
* `countP_tells_add`: what deeds tell is what happened (`Deed.shows`), apart from the walks of sites without
  memos that found nothing.  Nobody counts these (`Deed.unseen`). -/

namespace ConstantResolution

/-! ### Counters -/

namespace Tally

variable {t : Tally} {es : List Count} {e : Count}

/-- The counter of an event. -/
def counter (t : Tally) : Count → UInt64
  | .invalidation => t.invalidations
  | .hit => t.hits
  | .miss => t.misses
  | .lookup => t.lookups
  | .notFound => t.notFound
  | .thrashing => t.thrashingSites

theorem counter_record (t : Tally) (c e : Count) :
    (t.record c).counter e = t.counter e + UInt64.ofNat ([c].count e) := by
  cases c <;> cases e <;> simp [record, counter]

theorem counter_recordAll (t : Tally) (es : List Count) (e : Count) :
    (t.recordAll es).counter e = t.counter e + UInt64.ofNat (es.count e) := by
  induction es generalizing t with
  | nil => simp [recordAll]
  | cons c es ih =>
      have hcons : t.recordAll (c :: es) = (t.record c).recordAll es := rfl
      have hcount : (c :: es).count e = [c].count e + es.count e := by
        rw [← List.count_append, List.singleton_append]
      rw [hcons, ih, counter_record, hcount, UInt64.ofNat_add, UInt64.add_assoc]

theorem counter_empty (e : Count) : ({} : Tally).counter e = 0 := by cases e <;> rfl

theorem counter_since (later earlier : Tally) (e : Count) :
    (later.since earlier).counter e = growth (later.counter e) (earlier.counter e) := by cases e <;> rfl

end Tally

/-- What does not run over is added as it stands. -/
theorem toNat_add_ofNat {a : UInt64} {n : Nat} (h : a.toNat + n < 2 ^ 64) :
    (a + UInt64.ofNat n).toNat = a.toNat + n := by
  rw [UInt64.toNat_add, UInt64.toNat_ofNat', Nat.mod_eq_of_lt (by omega : n < 2 ^ 64), Nat.mod_eq_of_lt h]

theorem toNat_growth {a : UInt64} {n : Nat} (h : a.toNat + n < 2 ^ 64) :
    (Tally.growth (a + UInt64.ofNat n) a).toNat = n := by
  have hadd := toNat_add_ofNat h
  have hle : a ≤ a + UInt64.ofNat n := by
    rw [UInt64.le_iff_toNat_le, hadd]
    omega
  rw [Tally.growth, if_pos hle, UInt64.toNat_sub_of_le _ _ hle, hadd]
  omega

/-! ### Events -/

/-- Whether an event happened in a call. -/
def Call.shows (c : Call) : Count → Bool
  | .invalidation => false
  | .hit => c.lookups.isEmpty
  | .miss | .lookup => !c.lookups.isEmpty
  | .notFound => c.missed
  | .thrashing => c.reported

/-- Whether a call counts an event.  Walks of sites without memos that find nothing are not counted. -/
def Call.tells (c : Call) : Count → Bool
  | .notFound => c.memos && c.missed
  | e => c.shows e

theorem Call.count_counts (c : Call) (e : Count) : c.counts.count e = if c.tells e then 1 else 0 := by
  have hhit : c.lookups.isEmpty = decide (c.lookups = []) := by cases c.lookups <;> rfl
  cases e <;> by_cases hl : c.lookups = [] <;> cases hm : c.memos && c.missed <;> cases hr : c.reported <;>
    simp [counts, tells, shows, hhit, hl, hm, hr]

namespace Deed

/-- Whether a deed counts an event with certain counters. -/
def tells (τ : TallyId) (e : Count) : Deed → Bool
  | .call c => c.tally == τ && c.tells e
  | .invalidation _ t => t == τ && e == .invalidation
  | .renaming _ => false
  | .record t e' => t == τ && e' == e

/-- Whether an event happened that concerns certain counters. -/
def shows (τ : TallyId) (e : Count) : Deed → Bool
  | .call c => c.tally == τ && c.shows e
  | d => d.tells τ e

/-- A call or an invalidation that counts an event with certain counters. -/
def causes (τ : TallyId) (e : Count) : Deed → Bool
  | .call c => c.tally == τ && c.tells e
  | .invalidation _ t => t == τ && e == .invalidation
  | _ => false

/-- An event that is counted by hand. -/
def byHand (τ : TallyId) (e : Count) : Deed → Bool
  | .record t e' => t == τ && e' == e
  | _ => false

/-- A call that concerns certain counters. -/
def callsTo (τ : TallyId) : Deed → Bool
  | .call c => c.tally == τ
  | _ => false

/-- A call that the memo served. -/
def servedTo (τ : TallyId) : Deed → Bool
  | .call c => c.tally == τ && c.lookups.isEmpty
  | _ => false

/-- A call that asked its scope. -/
def looksUpTo (τ : TallyId) : Deed → Bool
  | .call c => c.tally == τ && !c.lookups.isEmpty
  | _ => false

/-- An invalidation of a site that reports to certain counters. -/
def invalidatesTo (τ : TallyId) : Deed → Bool
  | .invalidation _ t => t == τ
  | _ => false

/-- A walk of a site without memos that found nothing. -/
def unseen (τ : TallyId) : Deed → Bool
  | .call c => c.tally == τ && !c.memos && c.missed
  | _ => false

theorem causes_hit (τ : TallyId) : causes τ .hit = servedTo τ := by
  funext d
  cases d <;> simp [causes, servedTo, Call.tells, Call.shows]

theorem causes_miss (τ : TallyId) : causes τ .miss = looksUpTo τ := by
  funext d
  cases d <;> simp [causes, looksUpTo, Call.tells, Call.shows]

theorem causes_lookup (τ : TallyId) : causes τ .lookup = looksUpTo τ := by
  funext d
  cases d <;> simp [causes, looksUpTo, Call.tells, Call.shows]

theorem causes_invalidation (τ : TallyId) : causes τ .invalidation = invalidatesTo τ := by
  funext d
  cases d <;> simp [causes, invalidatesTo, Call.tells, Call.shows]

end Deed

/-! ### Numbers of events -/

/-- What happens in one of two ways, but not in both. -/
theorem countP_or {α : Type} {p q r : α → Bool} (h : ∀ a, r a = (p a || q a)) (hne : ∀ a, ¬ (p a ∧ q a))
    (l : List α) : l.countP r = l.countP p + l.countP q := by
  induction l with
  | nil => rfl
  | cons a l ih =>
      have ha := hne a
      rw [List.countP_cons, List.countP_cons, List.countP_cons, ih, h a]
      by_cases hp : p a = true <;> by_cases hq : q a = true <;> simp [hp, hq] at ha ⊢ <;> omega

section numbers

variable (τ : TallyId) (ds : List Deed)

/-- **What deeds tell is what happened**, but for the walks that nobody counts. -/
theorem countP_tells_add (e : Count) :
    ds.countP (Deed.tells τ e) + (if e = .notFound then ds.countP (Deed.unseen τ) else 0) =
      ds.countP (Deed.shows τ e) := by
  by_cases he : e = .notFound
  · subst he
    rw [if_pos rfl]
    refine (countP_or (fun d => ?_) (fun d hd => ?_) ds).symm
    · cases d with
      | call c =>
          simp only [Deed.shows, Deed.tells, Deed.unseen, Call.shows, Call.tells]
          cases c.tally == τ <;> cases c.memos <;> simp
      | _ => simp [Deed.shows, Deed.unseen]
    · cases d with
      | call c =>
          simp only [Deed.tells, Deed.unseen, Call.tells, Bool.and_eq_true, Bool.not_eq_true'] at hd
          exact Bool.false_ne_true (hd.2.1.2.symm.trans hd.1.2.1)
      | _ => exact Bool.false_ne_true hd.2
  · rw [if_neg he, Nat.add_zero]
    refine congrFun (congrArg List.countP (funext fun d => ?_)) ds
    cases d with
    | call c => cases e <;> first | rfl | exact absurd rfl he
    | _ => rfl

/-- What counters are told comes from calls and invalidations, or is counted by hand. -/
theorem countP_tells (e : Count) :
    ds.countP (Deed.tells τ e) = ds.countP (Deed.causes τ e) + ds.countP (Deed.byHand τ e) := by
  refine countP_or (fun d => ?_) (fun d hd => ?_) ds
  · cases d <;> simp [Deed.tells, Deed.causes, Deed.byHand]
  · cases d <;> simp [Deed.causes, Deed.byHand] at hd

/-- **Every call is served or looks up.** -/
theorem countP_callsTo :
    ds.countP (Deed.callsTo τ) = ds.countP (Deed.servedTo τ) + ds.countP (Deed.looksUpTo τ) := by
  refine countP_or (fun d => ?_) (fun d hd => ?_) ds
  · cases d with
    | call c =>
        simp only [Deed.callsTo, Deed.servedTo, Deed.looksUpTo]
        cases c.lookups.isEmpty <;> simp
    | _ => rfl
  · cases d with
    | call c => cases hl : c.lookups.isEmpty <;> simp [Deed.servedTo, Deed.looksUpTo, hl] at hd
    | _ => exact Bool.false_ne_true hd.1

/-- **Counters that agree with deeds.**  What is counted by hand is counted as well. -/
structure Balanced (a : Tally) : Prop where
  /-- a call counts as a hit or as a miss -/
  calls : a.hits.toNat + a.misses.toNat =
    ds.countP (Deed.callsTo τ) + (ds.countP (Deed.byHand τ .hit) + ds.countP (Deed.byHand τ .miss))
  /-- a call that asks its scope counts as a miss and as a lookup -/
  misses : a.misses.toNat = ds.countP (Deed.looksUpTo τ) + ds.countP (Deed.byHand τ .miss)
  lookups : a.lookups.toNat = ds.countP (Deed.looksUpTo τ) + ds.countP (Deed.byHand τ .lookup)
  invalidations : a.invalidations.toNat =
    ds.countP (Deed.invalidatesTo τ) + ds.countP (Deed.byHand τ .invalidation)

/-- Counters that hold what deeds told them agree with the deeds. -/
theorem balanced_of_tells {a : Tally} (h : ∀ e, (a.counter e).toNat = ds.countP (Deed.tells τ e)) :
    Balanced τ ds a := by
  have hhits : a.hits.toNat = _ := h .hit
  have hmisses : a.misses.toNat = _ := h .miss
  have hlookups : a.lookups.toNat = _ := h .lookup
  have hinvalidations : a.invalidations.toNat = _ := h .invalidation
  have hcalls := countP_callsTo τ ds
  rw [countP_tells, Deed.causes_hit] at hhits
  rw [countP_tells, Deed.causes_miss] at hmisses
  rw [countP_tells, Deed.causes_lookup] at hlookups
  rw [countP_tells, Deed.causes_invalidation] at hinvalidations
  refine ⟨?_, hmisses, hlookups, hinvalidations⟩
  omega

end numbers

namespace Store

variable {s t : Store} {notes : List Note} {ds : List Deed} {τ : TallyId} {k : SiteId} {q : PlacedSite}

/-! ### Counters in a run -/

theorem tally_setTally (s : Store) (t : TallyId) (v : Tally) (hτ : τ < s.tallies.size) :
    (s.setTally t v).tally τ = if t = τ then v else s.tally τ := by
  simp only [setTally, tally, Array.getD_eq_getD_getElem?, Array.getElem?_setIfInBounds]
  split
  · rename_i ht
    rw [if_pos (ht ▸ hτ), Option.getD_some]
  · rfl

/-- A site tells its counters some events. -/
theorem counter_settle {σ : Type} {r : Reading σ} {cs : List Count} (hτ : τ < s.tallies.size)
    (hr : r.tally = (s.tally q.tally).recordAll cs) (e : Count) :
    ((s.settle k q.tally r).tally τ).counter e =
      (s.tally τ).counter e + UInt64.ofNat (if q.tally = τ then cs.count e else 0) := by
  have htally : (s.settle k q.tally r).tally τ = if q.tally = τ then r.tally else s.tally τ :=
    tally_setTally (s.setSite k r.site) q.tally r.tally hτ
  rw [htally]
  split
  · rename_i hq
    rw [hr, Tally.counter_recordAll, hq]
  · exact (UInt64.add_zero _).symm

theorem countP_tells_call (τ : TallyId) (e : Count) (c : Call) :
    [Deed.call c].countP (Deed.tells τ e) = if c.tally = τ then c.counts.count e else 0 := by
  rw [c.count_counts, List.countP_singleton]
  simp only [Deed.tells]
  by_cases hc : c.tally = τ <;> simp [hc]

theorem countP_tells_invalidation (τ : TallyId) (e : Count) (k : SiteId) (t : TallyId) :
    [Deed.invalidation k t].countP (Deed.tells τ e) = if t = τ then [Count.invalidation].count e else 0 := by
  rw [List.countP_singleton]
  simp only [Deed.tells]
  by_cases ht : t = τ <;> cases e <;> simp [ht]

theorem countP_tells_record (τ : TallyId) (e : Count) (t : TallyId) (event : Count) :
    [Deed.record t event].countP (Deed.tells τ e) = if t = τ then [event].count e else 0 := by
  rw [List.countP_singleton]
  simp only [Deed.tells]
  by_cases ht : t = τ <;> by_cases he : event = e <;> simp [ht, he]

/-- **A step adds to counters what its deeds tell them.** -/
theorem Step.counter (h : Step s notes ds t) (hτ : τ < s.tallies.size) (e : Count) :
    τ < t.tallies.size ∧
      (t.tally τ).counter e = (s.tally τ).counter e + UInt64.ofNat (ds.countP (Deed.tells τ e)) := by
  have hquiet : ∀ v : Tally, (s.tallies.push v).getD τ {} = s.tally τ := by
    intro v
    rw [tally, Array.getD_eq_getD_getElem?, Array.getD_eq_getD_getElem?, Array.getElem?_push,
      if_neg (Nat.ne_of_lt hτ)]
  have hsize : ∀ (t' : TallyId) (v : Tally), τ < (s.tallies.setIfInBounds t' v).size := by
    intro t' v
    rwa [Array.size_setIfInBounds]
  have hpush : τ < (s.tallies.push {}).size := by
    rw [Array.size_push]
    exact Nat.lt_succ_of_lt hτ
  have hempty : (s.tally τ).counter e = (s.tally τ).counter e + UInt64.ofNat 0 := (UInt64.add_zero _).symm
  cases h with
  | newRealm policy =>
      refine ⟨hpush, ?_⟩
      exact (congrArg (Tally.counter · e) (hquiet {})).trans hempty
  | newTally =>
      refine ⟨hpush, ?_⟩
      exact (congrArg (Tally.counter · e) (hquiet {})).trans hempty
  | @callIn _ k q i hq =>
      have hcall := Reading.tally_resolve (k := k) (t := q.tally) (o := some i) (World.scope i) (s.reading q)
      refine ⟨hsize _ _, ?_⟩
      rw [counter_settle hτ hcall e, countP_tells_call]
      rfl
  | @callElsewhere _ _ k q c x hq =>
      have hcall := Reading.tally_resolve (k := k) (t := q.tally) (o := none) c
        ⟨q.site, s.tally q.tally, x⟩
      refine ⟨hsize _ _, ?_⟩
      rw [counter_settle hτ hcall e, countP_tells_call]
      rfl
  | @invalidate _ k q hq =>
      have hcount : (Reading.invalidate (s.reading q)).state.tally =
          (s.tally q.tally).recordAll [.invalidation] := rfl
      refine ⟨hsize _ _, ?_⟩
      rw [counter_settle hτ hcount e, countP_tells_invalidation]
  | record t' event =>
      refine ⟨hsize _ _, ?_⟩
      rw [tally_setTally s t' _ hτ, countP_tells_record]
      split
      · rename_i ht
        rw [ht, Tally.counter_record]
      · exact hempty
  | _ => exact ⟨hτ, hempty⟩

/-- **A run adds to counters what its deeds tell them.** -/
theorem Run.counter (h : Run s notes ds t) (hτ : τ < s.tallies.size) (e : Count) :
    τ < t.tallies.size ∧
      (t.tally τ).counter e = (s.tally τ).counter e + UInt64.ofNat (ds.countP (Deed.tells τ e)) := by
  induction h with
  | refl s => exact ⟨hτ, (UInt64.add_zero _).symm⟩
  | step hs _ ih =>
      obtain ⟨hτ', hfirst⟩ := hs.counter hτ e
      obtain ⟨hsize, hrest⟩ := ih hτ'
      refine ⟨hsize, ?_⟩
      rw [hrest, hfirst, List.countP_append, UInt64.ofNat_add, UInt64.add_assoc]

/-- As long as it does not run over, a counter says how often its event was told. -/
theorem Run.toNat_counter (h : Run s notes ds t) (hτ : τ < s.tallies.size) {e : Count}
    (hlt : ((s.tally τ).counter e).toNat + ds.countP (Deed.tells τ e) < 2 ^ 64) :
    ((t.tally τ).counter e).toNat = ((s.tally τ).counter e).toNat + ds.countP (Deed.tells τ e) := by
  rw [(h.counter hτ e).2, toNat_add_ofNat hlt]

/-- **What was counted between two looks at the counters** is what was told in between. -/
theorem Run.toNat_counter_since (h : Run s notes ds t) (hτ : τ < s.tallies.size) {e : Count}
    (hlt : ((s.tally τ).counter e).toNat + ds.countP (Deed.tells τ e) < 2 ^ 64) :
    ((((t.tally τ).since (s.tally τ)).counter e).toNat) = ds.countP (Deed.tells τ e) := by
  rw [Tally.counter_since, (h.counter hτ e).2, toNat_growth hlt]

end Store
end ConstantResolution
