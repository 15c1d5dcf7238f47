import ConstantResolution.Proofs.Store.Steps

/-! # What full lookups are paid with

A site owes a lookup in a namespace while its memo was not made at the present generation there
(`Store.due`).  A call looks the name up if a lookup is owed, and owes none afterwards unless nothing was
found.  So the site comes to owe a lookup again only by a call that found nothing, by an invalidation or a
renaming of the site, or because the generation moved on.  Where a counter ran over on the way, a generation may
have gone through all its values once more.

* `Site.due_le`: what a site owes later is covered by the way that the generation went.
* `Reading.length_lookups_add_due_le`: a call pays for its lookup, or has found nothing.
* `Step.paid`: every step of a store pays for the lookups of the site.
* `Run.paid`: and so does every run. -/

namespace ConstantResolution

/-- How often a generation ran over. -/
def overflows (notes : List Note) : Nat := notes.count (.fault (.overflow .generation))

theorem overflows_append (ns ms : List Note) : overflows (ns ++ ms) = overflows ns + overflows ms :=
  List.count_append

theorem overflows_eq_zero_iff {notes : List Note} :
    overflows notes = 0 ↔ .fault (.overflow .generation) ∉ notes := List.count_eq_zero

/-! ### What a site owes -/

/-- One if the memo of a site does not serve at a generation, and none if it does. -/
def Site.due (s : Site) (g : UInt64) : Nat := if (s.served? g).isSome then 0 else 1

namespace Site

variable {s s' : Site} {g g' : UInt64} {n : Nat}

theorem due_le_one (s : Site) (g : UInt64) : s.due g ≤ 1 := by
  unfold due
  split <;> omega

theorem due_of_none (h : s.served? g = none) : s.due g = 1 := by simp [due, h]

theorem due_of_some {v : Value} (h : s.served? g = some v) : s.due g = 0 := by simp [due, h]

theorem due_congr (h : s'.memo = s.memo) (g : UInt64) : s'.due g = s.due g := by
  unfold due served?
  rw [h]

/-- **A lookup that is owed later is paid with the way that the generation went**, which is all of its values
where it ran over. -/
theorem due_le (h : g ≤ g' ∨ n ≠ 0) : s.due g' + g.toNat ≤ s.due g + (g'.toNat + 2 ^ 64 * n) := by
  have hone := s.due_le_one g'
  rcases h with hle | hn
  · have hle' := UInt64.le_iff_toNat_le.mp hle
    by_cases heq : g = g'
    · rw [heq]
      omega
    · have hne : g.toNat ≠ g'.toNat := fun h => heq (UInt64.toNat_inj.mp h)
      omega
  · have hlt := g.toNat_lt
    omega

/-- What was found is in the memo, and no lookup is owed at that generation. -/
theorem due_store (s : Site) (g : UInt64) (found : Option Value) :
    (s.store g found).due g = if found.isNone then 1 else 0 := by
  have hmemo := s.memo_store g found
  cases found with
  | none => exact due_of_none (by simp [served?, hmemo])
  | some v => exact due_of_some (v := v) (by simp [served?, hmemo])

end Site

namespace Reading

variable {σ : Type} {k : SiteId} {t : TallyId} {o : Option NamespaceId}

/-- **A call looks up what is owed**, and owes a lookup afterwards only if it found nothing. -/
theorem length_lookups_add_due_le (i : NamespaceId) {r : Reading World} (he : r.site.policy.enabled = true) :
    (r.call k t o (World.scope i)).lookups.length +
        (resolve (World.scope i) r).state.site.due (r.scope.generation i) ≤
      r.site.due (r.scope.generation i) + if (r.call k t o (World.scope i)).missed then 1 else 0 := by
  cases hv : r.site.served? (r.scope.generation i) with
  | some v =>
      have hlookups : (r.call k t o (World.scope i)).lookups = [] :=
        lookups_of_served (World.scope i) he hv
      have hsite : (resolve (World.scope i) r).state.site.memo = r.site.memo := by
        rw [resolve_of_served (World.scope i) he hv]
        rfl
      rw [hlookups, Site.due_congr hsite, Site.due_of_some hv]
      simp
  | none =>
      have hlookups : (r.call k t o (World.scope i)).lookups = [r.asking (World.scope i)] :=
        lookups_of_stale (World.scope i) he hv
      have hsite : (resolve (World.scope i) r).state.site.memo = (r.lookedIn (World.scope i)).site.memo := by
        rw [resolve_of_stale (World.scope i) he hv, (refresh_after _ _).1, (trackStreak_state _).memo]
      have hdue := r.site.due_store (r.scope.generation i) (r.scope.lookup i r.site.name)
      have hmissed : (r.call k t o (World.scope i)).missed = (r.scope.lookup i r.site.name).isNone := by
        rw [Call.missed, hlookups, List.any_cons, List.any_nil, Bool.or_false]
        rfl
      rw [hlookups, Site.due_congr hsite, Site.due_of_none hv, hmissed]
      exact Nat.add_le_add_left hdue.le 1

end Reading

/-! ### Lookups and payments -/

namespace Deed

/-- How often a site is looked up by a deed. -/
def lookupsOf (k : SiteId) : Deed → Nat
  | .call c => if c.site = k then c.lookups.length else 0
  | _ => 0

/-- An invalidation of a site. -/
def invalidates (k : SiteId) : Deed → Bool
  | .invalidation k' _ => k' == k
  | _ => false

/-- A renaming of a site. -/
def renames (k : SiteId) : Deed → Bool
  | .renaming k' => k' == k
  | _ => false

/-- A call of a site that looked its name up and found nothing. -/
def misses (k : SiteId) : Deed → Bool
  | .call c => c.site == k && c.missed
  | _ => false

/-- If the deed is a call of a site, then one in a namespace. -/
def CallsIn (i : NamespaceId) (k : SiteId) : Deed → Prop
  | .call c => c.site = k → c.place = some i
  | _ => True

end Deed

/-- How often a site is looked up in a row of deeds. -/
def lookupsOf (k : SiteId) (ds : List Deed) : Nat := (ds.map (Deed.lookupsOf k)).sum

/-- What pays for lookups of a site: its invalidations, its renamings, and its calls that found nothing. -/
def paymentsOf (k : SiteId) (ds : List Deed) : Nat :=
  ds.countP (Deed.invalidates k) + ds.countP (Deed.renames k) + ds.countP (Deed.misses k)

theorem lookupsOf_append (k : SiteId) (ds es : List Deed) :
    lookupsOf k (ds ++ es) = lookupsOf k ds + lookupsOf k es := by
  simp [lookupsOf]

theorem paymentsOf_append (k : SiteId) (ds es : List Deed) :
    paymentsOf k (ds ++ es) = paymentsOf k ds + paymentsOf k es := by
  simp only [paymentsOf, List.countP_append]
  omega

theorem Deed.lookupsOf_call {k : SiteId} {c : Call} (hc : c.site = k) :
    Deed.lookupsOf k (.call c) = c.lookups.length := if_pos hc

theorem paymentsOf_call {k : SiteId} {c : Call} (hc : c.site = k) :
    paymentsOf k [.call c] = if c.missed then 1 else 0 := by
  simp [paymentsOf, Deed.invalidates, Deed.renames, Deed.misses, List.countP_cons, hc]

theorem paymentsOf_invalidation (k : SiteId) (t : TallyId) : paymentsOf k [.invalidation k t] = 1 := by
  simp [paymentsOf, Deed.invalidates, Deed.renames, Deed.misses]

theorem paymentsOf_renaming (k : SiteId) : paymentsOf k [.renaming k] = 1 := by
  simp [paymentsOf, Deed.invalidates, Deed.renames, Deed.misses]

namespace Store

variable {s t : Store} {notes : List Note} {ds : List Deed} {i : NamespaceId} {k k' : SiteId}
  {p p' : PlacedSite}

/-- One if a site owes a lookup in a namespace, and none otherwise. -/
def due (s : Store) (k : SiteId) (i : NamespaceId) : Nat :=
  ((s.site? k).map fun p => p.site.due (s.world.generation i)).getD 1

theorem due_of_site (hp : s.site? k = some p) : s.due k i = p.site.due (s.world.generation i) := by
  rw [due, hp]
  rfl

theorem due_le_one (s : Store) (k : SiteId) (i : NamespaceId) : s.due k i ≤ 1 := by
  unfold due
  cases s.site? k with
  | none => exact Nat.le_refl 1
  | some p => exact p.site.due_le_one _

/-- The lookups of a site in a namespace are paid for: by what was owed before, by the way that the
generation went, and by the deeds. -/
def Paid (k : SiteId) (i : NamespaceId) (s : Store) (notes : List Note) (ds : List Deed) (t : Store) : Prop :=
  lookupsOf k ds + t.due k i + (s.world.generation i).toNat ≤
    s.due k i + ((t.world.generation i).toNat + 2 ^ 64 * overflows notes) + paymentsOf k ds

theorem Paid.trans {u : Store} {more : List Note} {es : List Deed} (h : Paid k i s notes ds t)
    (h' : Paid k i t more es u) : Paid k i s (notes ++ more) (ds ++ es) u := by
  unfold Paid at *
  rw [lookupsOf_append, paymentsOf_append, overflows_append]
  omega

/-- What leaves the memo of a site alone takes no lookup. -/
theorem paid_of_memo_eq (hp : s.site? k = some p) (hp' : t.site? k = some p')
    (hm : p'.site.memo = p.site.memo)
    (hg : s.world.generation i ≤ t.world.generation i ∨ overflows notes ≠ 0) : Paid k i s notes [] t := by
  have hdue := p.site.due_le hg
  rw [Paid, due_of_site hp, due_of_site hp', Site.due_congr hm]
  simpa [lookupsOf, paymentsOf] using hdue

/-- A deed that leaves the world alone pays for itself. -/
theorem paid_of_deed {d : Deed} (hp : s.site? k = some p) (hp' : t.site? k = some p')
    (hw : t.world = s.world)
    (h : d.lookupsOf k + p'.site.due (s.world.generation i) ≤
      p.site.due (s.world.generation i) + paymentsOf k [d]) : Paid k i s notes [d] t := by
  rw [Paid, due_of_site hp, due_of_site hp', hw]
  simp only [lookupsOf, List.map_singleton, List.sum_singleton]
  omega

/-- A call pays for its lookup or has found nothing. -/
theorem paid_of_call {c : Call} (hp : s.site? k = some p) (hp' : t.site? k = some p')
    (hw : t.world = s.world) (hc : c.site = k)
    (h : c.lookups.length + p'.site.due (s.world.generation i) ≤
      p.site.due (s.world.generation i) + if c.missed then 1 else 0) : Paid k i s notes [.call c] t := by
  refine paid_of_deed hp hp' hw ?_
  rw [paymentsOf_call hc, Deed.lookupsOf_call hc]
  exact h

/-- A deed that takes no lookup and counts as a payment. -/
theorem paid_of_payment {d : Deed} (hp : s.site? k = some p) (hp' : t.site? k = some p')
    (hw : t.world = s.world) (h : d.lookupsOf k = 0) (hd : paymentsOf k [d] = 1) :
    Paid k i s notes [d] t := by
  have hone := p'.site.due_le_one (s.world.generation i)
  refine paid_of_deed hp hp' hw ?_
  omega

/-- A deed that is done with another site. -/
theorem paid_of_ne {d : Deed} (hp : s.site? k = some p) (hp' : t.site? k = some p) (hw : t.world = s.world)
    (h : d.lookupsOf k = 0) : Paid k i s notes [d] t := by
  refine paid_of_deed hp hp' hw ?_
  omega

theorem site?_settle {σ : Type} {r : Reading σ} {τ : TallyId} (hp : s.site? k' = some p) (k : SiteId) :
    (s.settle k' τ r).site? k = if k' = k then some { p with site := r.site } else s.site? k := by
  rw [site?_modify (s := s) (k := k') (f := fun p => { p with site := r.site }) rfl]
  split
  · rename_i hk
    rw [← hk, hp]
    rfl
  · rfl

/-- **Every step pays for the lookups of a site that keeps memos and is called in one namespace only.** -/
theorem Step.paid (h : Step s notes ds t) (hl : s.world.Linked) (hp : s.site? k = some p)
    (he : p.site.policy.enabled = true) (hin : ∀ d ∈ ds, d.CallsIn i k) : Paid k i s notes ds t := by
  have hg : s.world.generation i ≤ t.world.generation i ∨ overflows notes ≠ 0 := by
    rw [or_iff_not_imp_right, not_not, overflows_eq_zero_iff]
    exact fun hn => (h.notedRun.later hl hn).generation i
  cases h with
  | @callIn _ k' q j hq =>
      have hsite := site?_settle (r := (Reading.resolve (World.scope j) (s.reading q)).state) (τ := q.tally) hq k
      by_cases hk : k' = k
      · subst hk
        obtain rfl : p = q := Option.some.inj (hp.symm.trans hq)
        obtain rfl : j = i := Option.some.inj (hin _ (List.mem_singleton_self _) rfl)
        have hcall := Reading.length_lookups_add_due_le (k := k') (t := p.tally) (o := some j) j
          (r := s.reading p) he
        rw [if_pos rfl] at hsite
        exact paid_of_call hp hsite rfl rfl hcall
      · rw [if_neg hk] at hsite
        exact paid_of_ne hp (hsite.trans hp) rfl (if_neg hk)
  | @callElsewhere _ _ k' q c x hq =>
      have hsite := site?_settle (r := (Reading.resolve c ⟨q.site, s.tally q.tally, x⟩).state) (τ := q.tally) hq k
      by_cases hk : k' = k
      · exact nomatch hin _ (List.mem_singleton_self _) hk
      · rw [if_neg hk] at hsite
        exact paid_of_ne hp (hsite.trans hp) rfl (if_neg hk)
  | @invalidate _ k' q hq =>
      have hsite := site?_settle (r := (Reading.invalidate (s.reading q)).state) (τ := q.tally) hq k
      by_cases hk : k' = k
      · subst hk
        rw [if_pos rfl] at hsite
        exact paid_of_payment hp hsite rfl rfl (paymentsOf_invalidation k' q.tally)
      · rw [if_neg hk] at hsite
        exact paid_of_ne hp (hsite.trans hp) rfl rfl
  | @rename k' q name site hq hrename =>
      have hsite := site?_modify (s := s) (t := s.setSite k' site) (f := fun p => { p with site }) rfl k
      by_cases hk : k' = k
      · subst hk
        rw [if_pos rfl, hp] at hsite
        exact paid_of_payment hp hsite rfl rfl (paymentsOf_renaming k')
      · rw [if_neg hk] at hsite
        exact paid_of_ne hp (hsite.trans hp) rfl rfl
  | record τ event => exact paid_of_ne hp hp rfl rfl
  | newSite hnew τ => exact paid_of_memo_eq hp (site?_push hp _) rfl hg
  | dropSite k' =>
      have hsite := site?_modify (s := s) (t := (Store.dropSite k' s).state)
        (f := fun p => { p with held := false }) rfl k
      by_cases hk : k' = k
      · rw [if_pos hk, hp] at hsite
        exact paid_of_memo_eq hp hsite rfl hg
      · rw [if_neg hk] at hsite
        exact paid_of_memo_eq hp (hsite.trans hp) rfl hg
  | _ => exact paid_of_memo_eq hp hp rfl hg

/-- **Every run pays for the lookups of a site that keeps memos and is called in one namespace only.** -/
theorem Run.paid (h : Run s notes ds t) (hl : s.world.Linked) (hp : s.site? k = some p)
    (he : p.site.policy.enabled = true) (hin : ∀ d ∈ ds, d.CallsIn i k) : Paid k i s notes ds t := by
  induction h generalizing p with
  | refl s => exact paid_of_memo_eq hp hp rfl (Or.inl (UInt64.le_refl _))
  | step hs _ ih =>
      obtain ⟨p', hp', -, hpolicy⟩ := hs.exists_site hp
      have hfirst := hs.paid hl hp he fun d hd => hin d (List.mem_append_left _ hd)
      have hrest := ih (hs.linked hl) hp' (hpolicy ▸ he) fun d hd => hin d (List.mem_append_right _ hd)
      exact hfirst.trans hrest

end Store
end ConstantResolution
