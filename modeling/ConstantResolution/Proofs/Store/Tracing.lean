import ConstantResolution.Proofs.Store.Steps

/-! # Programs of realms are runs

Everything that a realm offers is a run of steps (`tracing`).  A call of a site is one deed, and so is an
invalidation (`atSite_run`, `invalidate_run`); what makes namespaces, realms and sites does no deeds. -/

namespace ConstantResolution.Store

variable {s t u : Store} {notes notes' : List Note} {ds es : List Deed} {i p : NamespaceId} {k : SiteId}
  {r : RealmId} {A : Deed → Prop}

/-- The contract of actions that are runs with deeds of a certain kind, and let no namespace die. -/
def tracing (A : Deed → Prop) : Contract Store where
  valid := Sound
  step := fun s notes t => Follows (fun _ _ => True) s notes t ∧ ∃ ds, Run s notes ds t ∧ ∀ d ∈ ds, A d
  refl := fun s notes => ⟨Follows.refl s notes, [], Run.quiet s notes, nofun⟩
  trans := by
    rintro s t u notes notes' ⟨h, ds, hr, hA⟩ ⟨h', es, hr', hA'⟩
    refine ⟨h.trans h', ds ++ es, hr.trans hr', fun d hd => ?_⟩
    exact (List.mem_append.mp hd).elim (hA d) (hA' d)

/-- An action that keeps the contract of stores, and is a run. -/
theorem traced {α : Type} {x : Action Store α} {q : α → Store → Prop}
    (hx : x.Keeps (contract fun _ _ => True) s q)
    (hrun : s.Sound → ∃ ds, Run s (x s).notes ds (x s).state ∧ ∀ d ∈ ds, A d) : x.Keeps (tracing A) s q := by
  intro hs
  obtain ⟨hv, hstep, hr⟩ := hx hs
  exact ⟨hv, ⟨hstep, hrun hs⟩, hr⟩

/-- An action that is a run without deeds. -/
theorem traced_quietly {α : Type} {x : Action Store α} {q : α → Store → Prop}
    (hx : x.Keeps (contract fun _ _ => True) s q) (hrun : s.Sound → Run s (x s).notes [] (x s).state) :
    x.Keeps (tracing A) s q := traced hx fun hs => ⟨[], hrun hs, nofun⟩

/-! ### Actions on parts -/

theorem onWorld_traced {α : Type} {x : Action World α} {q : α → World → Prop}
    (hx : x.Keeps World.calm s.world q) :
    (onWorld x).Keeps (tracing A) s fun a t => q a t.world ∧ t.realms = s.realms := by
  have hcontract : x.Keeps World.contract s.world q :=
    hx.weaken (fun _ => Iff.rfl) fun _ _ _ h => h.toFollows
  exact traced_quietly (onWorld_keeps hcontract) fun hs => Run.single (Step.world (hx hs.linked).2.1)

theorem newTally_traced : newTally.Keeps (tracing A) s fun _ t => t.realms = s.realms :=
  traced_quietly newTally_keeps fun _ => Run.single Step.newTally

theorem newSite_traced (name : String) (position : Position) (policy : Policy) (t : TallyId) :
    (newSite name position policy t).Keeps (tracing A) s
      fun k s' => k = s.sites.size ∧ k < s'.sites.size ∧ ∀ i, s'.FreshAt k i := by
  refine traced_quietly (newSite_keeps name position policy t) fun _ => ?_
  unfold newSite
  cases hnew : Site.new name position policy with
  | error f => exact Run.quiet s _
  | ok site => exact Run.single (Step.newSite hnew t)

theorem dropSite_traced (k : SiteId) :
    (dropSite k).Keeps (tracing A) s fun _ t => t.realms = s.realms ∧ t.sites.size = s.sites.size ∧
      ∀ {k' i}, s.FreshAt k' i → t.FreshAt k' i :=
  traced_quietly (dropSite_keeps k) fun _ => Run.single (Step.dropSite k)

/-! ### Deeds -/

theorem atSite_of_none {α : Type} {x : Action (Reading World) α} (hp : s.site? k = none) :
    atSite k x s = ⟨s, [], .error (.unbound (toString k))⟩ := by
  have hplaced : placed k s = ⟨s, [], .error (.unbound (toString k))⟩ := by
    unfold placed
    rw [hp]
  exact Action.bind_of_error hplaced _

theorem atSite_of_some {α : Type} {x : Action (Reading World) α} {p : PlacedSite} (hp : s.site? k = some p) :
    atSite k x s = ⟨putReading k p.tally (x (s.reading p)).state s, (x (s.reading p)).notes,
      (x (s.reading p)).result⟩ := by
  have hplaced : placed k s = ⟨s, [], .ok p⟩ := by
    unfold placed
    rw [hp]
  unfold atSite
  rw [Action.bind_of_quiet hplaced, Action.within_apply]

/-- **A call of a site in a namespace is one deed**, and perhaps a change of the world after it. -/
theorem atSite_run {α : Type} {x : {σ : Type} → Scope σ → Action (Reading σ) α} (hx : Reading.IsCall x)
    (hl : s.world.Linked) {p : PlacedSite} (hp : s.site? k = some p) (i : NamespaceId) :
    Run s (atSite k (x (World.scope i)) s).notes
      [.call ((s.reading p).call k p.tally (some i) (World.scope i))] (atSite k (x (World.scope i)) s).state := by
  have hcall : Run s [] [.call ((s.reading p).call k p.tally (some i) (World.scope i))] _ :=
    Run.single (Step.callIn i hp)
  have hcalm : s.world.Calm (x (World.scope i) (s.reading p)).notes
      (x (World.scope i) (s.reading p)).state.scope :=
    hx.calm (i := i) (r := s.reading p) hl
  rw [atSite_of_some hp, hx.state]
  exact hcall.trans (Run.single (Step.world hcalm))

theorem atSite_traced {α : Type} {x : {σ : Type} → Scope σ → Action (Reading σ) α} (hx : Reading.IsCall x)
    (hkeeps : (atSite k (x (World.scope i))).Keeps (contract fun _ _ => True) s fun _ _ => True)
    (hA : ∀ c : Call, c.site = k → A (.call c)) :
    (atSite k (x (World.scope i))).Keeps (tracing A) s fun _ _ => True := by
  refine traced hkeeps fun hs => ?_
  cases hp : s.site? k with
  | none =>
      rw [atSite_of_none hp]
      exact ⟨[], Run.quiet s [], nofun⟩
  | some p =>
      refine ⟨_, atSite_run hx hs.linked hp i, fun d hd => ?_⟩
      rw [List.mem_singleton.mp hd]
      exact hA _ rfl

theorem evaluate_traced (hi : s.world.isAlive i = true) (hA : ∀ c : Call, c.site = k → A (.call c)) :
    (evaluate k i).Keeps (tracing A) s fun _ _ => True :=
  atSite_traced Reading.evaluate_isCall (evaluate_keeps hi trivial) hA

theorem invalidate_run {p : PlacedSite} (hp : s.site? k = some p) :
    Run s (invalidate k s).notes [.invalidation k p.tally] (invalidate k s).state := by
  unfold invalidate
  rw [atSite_of_some hp]
  exact Run.single (Step.invalidate hp)

theorem invalidate_traced (k : SiteId) (hA : ∀ t, A (.invalidation k t)) :
    (invalidate k).Keeps (tracing A) s fun _ _ => True := by
  refine traced (invalidate_keeps k) fun _ => ?_
  cases hp : s.site? k with
  | none =>
      unfold invalidate
      rw [atSite_of_none hp]
      exact ⟨[], Run.quiet s [], nofun⟩
  | some p =>
      refine ⟨_, invalidate_run hp, fun d hd => ?_⟩
      rw [List.mem_singleton.mp hd]
      exact hA _

/-- **A site is renamed, or the name is refused.** -/
theorem renameSite_run {p : PlacedSite} (hp : s.site? k = some p) (name : String) :
    Run s (renameSite k name s).notes (if isConstantName name then [.renaming k] else [])
      (renameSite k name s).state := by
  have hplaced : placed k s = ⟨s, [], .ok p⟩ := by
    unfold placed
    rw [hp]
  unfold renameSite
  rw [Action.bind_of_quiet hplaced]
  by_cases hn : isConstantName name = true
  · have hrename : p.site.rename name = .ok { p.site with name, memo := none } := if_pos hn
    rw [if_pos hn, hrename]
    exact Run.single (Step.rename hp hrename)
  · have hrename : p.site.rename name = .error (.wrongName name) := if_neg hn
    rw [if_neg hn, hrename]
    exact Run.refl s

/-- An event that is counted by hand several times. -/
theorem record_run (t : TallyId) (event : Count) (n j : Nat) (s : Store) :
    Run s (Action.times n j (fun _ => record t event) s).notes (List.replicate n (.record t event))
      (Action.times n j (fun _ => record t event) s).state := by
  induction n generalizing j s with
  | zero => exact Run.refl s
  | succ n ih => exact Run.step (Step.record t event) (ih (j + 1) (s.setTally t ((s.tally t).record event)))

/-! ### Making realms and sites -/

theorem newRealm_traced (policy : Policy) :
    (newRealm policy).Keeps (tracing A) s fun r t =>
      r = s.realms.size ∧ r < t.realms.size ∧ (t.realm r).top ∈ (t.realm r).registered :=
  traced_quietly (newRealm_keeps policy) fun _ => Run.single (Step.newRealm policy)

theorem realm_pruneSites (r : RealmId) (s : Store) :
    (pruneSites r s).state.realm r = s.realm r ∨
      (pruneSites r s).state.realm r = { s.realm r with sites := s.liveSites r } := by
  have hrealms : (pruneSites r s).state.realms = s.realms.modify r fun m => { m with sites := s.liveSites r } :=
    rfl
  exact (realm_modify_or hrealms r).imp id And.right

theorem tally_pruneSites (r : RealmId) (s : Store) :
    ((pruneSites r s).state.realm r).tally = (s.realm r).tally := by
  rcases realm_pruneSites r s with heq | heq <;> rw [heq]

/-- To forget the sites that nobody holds leaves those that are live. -/
theorem liveSites_pruneSites (r : RealmId) (s : Store) :
    (pruneSites r s).state.liveSites r = s.liveSites r := by
  have hheld : (pruneSites r s).state.isHeld = s.isHeld := rfl
  rw [liveSites, hheld]
  rcases realm_pruneSites r s with heq | heq <;> rw [heq]
  · rfl
  · rw [liveSites, List.filter_filter]
    simp only [Bool.and_self]

/-- To forget the sites that nobody holds is a run without deeds. -/
theorem pruneSites_run (r : RealmId) (s : Store) :
    Run s (pruneSites r s).notes [] (pruneSites r s).state :=
  Run.single (Step.list r (fun _ => s.liveSites r) fun _ hk => Or.inl (List.mem_of_mem_filter hk))

theorem makeSite_run (r : RealmId) (name : String) (position : Position) (s : Store) :
    Run s (makeSite r name position s).notes [] (makeSite r name position s).state := by
  unfold makeSite
  rw [Action.read_bind]
  cases hnew : Site.new name position (s.realm r).policy with
  | error f =>
      have hfault : newSite name position (s.realm r).policy (s.realm r).tally s =
          ⟨s, [.fault f], .error (.fault f)⟩ := by
        unfold newSite
        rw [hnew]
      rw [Action.bind_of_error hfault]
      exact Run.quiet s _
  | ok site =>
      have hmade : newSite name position (s.realm r).policy (s.realm r).tally s =
          ⟨{ s with sites := s.sites.push ⟨site, (s.realm r).tally, true⟩ }, [], .ok s.sites.size⟩ := by
        unfold newSite
        rw [hnew]
      rw [Action.bind_of_quiet hmade]
      have hrun := (Run.single (Step.newSite (s := s) hnew (s.realm r).tally)).trans (pruneSites_run r _)
      refine hrun.trans (Run.single (Step.list r (fun ks => ks ++ [s.sites.size]) fun k hk => ?_))
      refine (List.mem_append.mp hk).imp id fun hk => ?_
      rw [List.mem_singleton.mp hk]
      refine ⟨⟨site, (s.realm r).tally, true⟩, Array.getElem?_push_size, ?_⟩
      rw [tally_pruneSites]
      rfl

theorem makeSite_traced (r : RealmId) (name : String) (position : Position) :
    (makeSite r name position).Keeps (tracing A) s
      fun k t => k = s.sites.size ∧ k < t.sites.size ∧ ∀ i, t.FreshAt k i :=
  traced_quietly (makeSite_keeps r name position) fun _ => makeSite_run r name position s

/-! ### Invalidations -/

/-- Sites that report to the same counters are invalidated one after another. -/
theorem invalidateEach_run {ks : List SiteId} {τ : TallyId} (hks : ∀ k ∈ ks, s.ReportsTo k τ) :
    Run s (invalidateEach ks s).notes (ks.map fun k => .invalidation k τ) (invalidateEach ks s).state ∧
      (invalidateEach ks s).result = .ok () := by
  induction ks generalizing s with
  | nil => exact ⟨Run.refl s, rfl⟩
  | cons k ks ih =>
      obtain ⟨p, hp, rfl⟩ := hks k List.mem_cons_self
      have hfirst := invalidate_run hp
      have hok : (invalidate k s).result = .ok () := by
        unfold invalidate
        rw [atSite_of_some hp]
        rfl
      obtain ⟨hrest, hrest'⟩ := ih fun k' hk' => hfirst.reportsTo (hks k' (List.mem_cons_of_mem k hk'))
      have hbind : invalidateEach (k :: ks) s = (invalidate k >>= fun _ => invalidateEach ks) s := rfl
      rcases hinv : invalidate k s with ⟨t, notes, e | ⟨⟩⟩ <;> rw [hinv] at hfirst hok hrest hrest'
      · exact nomatch hok
      · rw [hbind, Action.bind_of_ok hinv]
        exact ⟨hfirst.trans hrest, hrest'⟩

/-- A realm forgets the sites that nobody holds, and invalidates the rest one after another. -/
theorem invalidateAll_apply (r : RealmId) (s : Store) :
    invalidateAll r s = (invalidateEach (s.liveSites r) >>= fun _ =>
      Action.note (.invalidatedAll (s.liveSites r).length) >>= fun _ => pure (s.liveSites r).length)
        (pruneSites r s).state := by
  have hprune : pruneSites r s = ⟨(pruneSites r s).state, [], .ok ()⟩ := rfl
  unfold invalidateAll
  rw [Action.bind_of_quiet hprune, Action.read_bind, liveSites_pruneSites]

/-- **A realm invalidates each of its live sites once**, and gives their number. -/
theorem invalidateAll_run (hl : s.Listed) (r : RealmId) :
    Run s (invalidateAll r s).notes ((s.liveSites r).map fun k => .invalidation k (s.realm r).tally)
        (invalidateAll r s).state ∧
      (invalidateAll r s).result = .ok (s.liveSites r).length := by
  have hks : ∀ k ∈ s.liveSites r, (pruneSites r s).state.ReportsTo k (s.realm r).tally :=
    fun k hk => hl r k (List.mem_of_mem_filter hk)
  obtain ⟨hrun, hok⟩ := invalidateEach_run hks
  rw [invalidateAll_apply]
  rcases hinv : invalidateEach (s.liveSites r) (pruneSites r s).state with ⟨t, notes, e | ⟨⟩⟩ <;>
    rw [hinv] at hrun hok
  · exact nomatch hok
  · rw [Action.bind_of_ok hinv]
    refine ⟨?_, rfl⟩
    have := ((pruneSites_run r s).trans hrun).trans (Run.quiet t [.invalidatedAll (s.liveSites r).length])
    rw [List.append_nil] at this
    exact this

/-! ### Opening classes and modules -/

/-- **A namespace that is created to be opened** is bound and registered, or dies at once. -/
theorem install_run {x : Action World NamespaceId} (hx : s.world.Makes x) (hl : s.world.Linked)
    (hr : r < s.realms.size) (name : String) :
    Run s (install r name p x s).notes [] (install r name p x s).state := by
  have hest := hx.established hl p name
  rw [install_apply]
  generalize World.establish p name x s.world = o at hest
  cases hest with
  | refused e => exact Run.refl s
  | bound hn h => exact Run.single (Step.opened hr hn h)
  | lost hn h hfree => exact Run.single (Step.lost hn h hfree)

theorem reopened_run (hl : s.world.Linked) (i : NamespaceId) :
    Run s (reopened i s).notes [] (reopened i s).state := by
  have hcalm := (World.reopen_calm s.world i hl).2.1
  unfold reopened
  rw [Action.bind_pure_apply]
  exact Run.single (Step.world hcalm)

theorem openClass_traced (r : RealmId) (name : String) {sup : Option NamespaceId} (hr : r < s.realms.size)
    (hp : s.world.isAlive p = true) (hsup : ∀ {i}, sup = some i → s.world.isAlive i = true) :
    (openClass r name p sup).Keeps (tracing A) s fun i t => t.world.isAlive i = true := by
  refine traced_quietly (openClass_keeps r name hp hsup) fun hs => ?_
  unfold openClass
  split
  · rw [Action.get_bind]
    cases s.opening r name p .classScope with
    | free =>
        exact install_run (World.newClass_makes name hp hsup) hs.linked hr name
    | existing i =>
        dsimp only
        split
        · exact Run.refl s
        · exact reopened_run hs.linked i
    | occupied => exact Run.refl s
  · exact Run.refl s

theorem openModule_traced (r : RealmId) (name : String) (hr : r < s.realms.size)
    (hp : s.world.isAlive p = true) :
    (openModule r name p).Keeps (tracing A) s fun i t => t.world.isAlive i = true := by
  refine traced_quietly (openModule_keeps r name hp) fun hs => ?_
  unfold openModule
  split
  · rw [Action.get_bind]
    cases s.opening r name p .moduleScope with
    | free => exact install_run (World.newModule_makes name hp) hs.linked hr name
    | existing i => exact reopened_run hs.linked i
    | occupied => exact Run.refl s
  · exact Run.refl s

end ConstantResolution.Store
