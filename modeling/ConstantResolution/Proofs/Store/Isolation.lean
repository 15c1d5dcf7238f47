import ConstantResolution.Proofs.Store.Territory
import ConstantResolution.Proofs.Store.Tracing

/-! # What one realm does leaves another one alone

A realm `r` is guarded when a part `O` of the world is walled off, nothing in it is registered elsewhere, and no
other realm has its counters or lists a site that reports to them (`Guarded`).  Everything that is done through
other realms, in namespaces outside of the part and with sites that report elsewhere, leaves the part alone, and the
realm with its counters and its sites (`Spares`).

Where the part is the territory of the realm, it is then untouched (`Parted.untouched`); and where each realm but one
is guarded in this way, all of them stay apart (`apart_of_guarded`). -/

namespace ConstantResolution.Store

variable {s t u : Store} {O A : NamespaceId → Prop} {r r' : RealmId} {τ τ' : TallyId} {i p : NamespaceId}
  {k : SiteId}

/-! ### Guarded realms -/

/-- A site that reports to other counters than `τ`. -/
def Elsewhere (τ : TallyId) (s : Store) (k : SiteId) : Prop := ∃ p, s.site? k = some p ∧ p.tally ≠ τ

/-- The part `O` of the world is walled off, and with the counters `τ` it is out of reach of all realms but `r`. -/
structure Guarded (O A : NamespaceId → Prop) (r : RealmId) (τ : TallyId) (s : Store) : Prop where
  walled : World.Walled O s.world
  obedient : World.Obedient O A s.world
  realm : r < s.realms.size
  tally : τ < s.tallies.size
  registered : ∀ {r'}, r' ≠ r → ∀ i ∈ (s.realm r').registered, ¬ O i
  counters : ∀ {r'}, r' < s.realms.size → r' ≠ r → (s.realm r').tally ≠ τ
  sites : ∀ {r'}, r' ≠ r → ∀ k ∈ (s.realm r').sites, s.Elsewhere τ k

/-- The namespaces in `O`, the realm `r`, the counters `τ` and the sites that report to them are as before. -/
structure Spares (O : NamespaceId → Prop) (r : RealmId) (τ : TallyId) (s t : Store) : Prop where
  world : World.Spares O s.world t.world
  realm : t.realm r = s.realm r
  tally : t.tally τ = s.tally τ
  sites : ∀ {k p}, s.site? k = some p → p.tally = τ → t.site? k = some p
  elsewhere : ∀ {k}, s.Elsewhere τ k → t.Elsewhere τ k

theorem Spares.refl (O : NamespaceId → Prop) (r : RealmId) (τ : TallyId) (s : Store) : Spares O r τ s s where
  world := World.Spares.refl O s.world
  realm := rfl
  tally := rfl
  sites := fun hp _ => hp
  elsewhere := fun h => h

theorem Spares.trans (h : Spares O r τ s t) (h' : Spares O r τ t u) : Spares O r τ s u where
  world := h.world.trans h'.world
  realm := h'.realm.trans h.realm
  tally := h'.tally.trans h.tally
  sites := fun hp hτ => h'.sites (h.sites hp hτ) hτ
  elsewhere := fun hk => h'.elsewhere (h.elsewhere hk)

/-- A store that is guarded and was spared, with as many realms as before. -/
structure Passes (O A : NamespaceId → Prop) (r : RealmId) (τ : TallyId) (s t : Store) : Prop where
  guarded : Guarded O A r τ t
  spares : Spares O r τ s t
  realms : t.realms.size = s.realms.size

theorem Passes.trans (h : Passes O A r τ s t) (h' : Passes O A r τ t u) : Passes O A r τ s u where
  guarded := h'.guarded
  spares := h.spares.trans h'.spares
  realms := h'.realms.trans h.realms

/-- What handlers do is of no matter where nobody is asked. -/
theorem Passes.free (h : Passes O A r τ s t) : Passes O World.nobody r τ s t where
  guarded := { h.guarded with obedient := World.Obedient.nobody O _ }
  spares := h.spares
  realms := h.realms

namespace Guarded

variable (h : Guarded O A r τ s)

include h

theorem passes_self : Passes O A r τ s s := ⟨h, Spares.refl O r τ s, rfl⟩

/-! ### Changes of one part of a store -/

theorem passes_world {w : World} (hw : World.Walled O w) (ho : World.Obedient O A w)
    (hs : World.Spares O s.world w) : Passes O A r τ s { s with world := w } where
  guarded := ⟨hw, ho, h.realm, h.tally, h.registered, h.counters, h.sites⟩
  spares := ⟨hs, rfl, rfl, fun hp _ => hp, fun hk => hk⟩
  realms := rfl

theorem passes_tallies {ts : Array Tally} (hsize : s.tallies.size ≤ ts.size)
    (htally : ({ s with tallies := ts } : Store).tally τ = s.tally τ) :
    Passes O A r τ s { s with tallies := ts } where
  guarded := ⟨h.walled, h.obedient, h.realm, h.tally.trans_le hsize, h.registered, h.counters, h.sites⟩
  spares := ⟨World.Spares.refl O s.world, rfl, htally, fun hp _ => hp, fun hk => hk⟩
  realms := rfl

/-- Sites that report elsewhere may change, as long as they go on doing so. -/
theorem passes_sites (ps : Array PlacedSite)
    (hsame : ∀ {k p}, s.site? k = some p → p.tally = τ → ({ s with sites := ps } : Store).site? k = some p)
    (hothers : ∀ {k}, s.Elsewhere τ k → ({ s with sites := ps } : Store).Elsewhere τ k) :
    Passes O A r τ s { s with sites := ps } where
  guarded := ⟨h.walled, h.obedient, h.realm, h.tally, h.registered, h.counters,
    fun hne k hk => hothers (h.sites hne k hk)⟩
  spares := ⟨World.Spares.refl O s.world, rfl, rfl, hsame, hothers⟩
  realms := rfl

theorem passes_modifySite {f : PlacedSite → PlacedSite} (hk : s.Elsewhere τ k) (hf : ∀ p, (f p).tally = p.tally) :
    Passes O A r τ s { s with sites := s.sites.modify k f } := by
  have hget := site?_modify (s := s) (t := { s with sites := s.sites.modify k f }) (f := f) rfl
  refine h.passes_sites _ (fun {k' p} hp hτ => ?_) fun {k'} hk' => ?_
  · rw [hget, if_neg]
    · exact hp
    · rintro rfl
      obtain ⟨q, hq, hne⟩ := hk
      obtain rfl : p = q := Option.some.inj (hp.symm.trans hq)
      exact hne hτ
  · obtain ⟨p, hp, hne⟩ := hk'
    unfold Elsewhere
    rw [hget]
    split
    · exact ⟨f p, by rw [hp]; rfl, (hf p).symm ▸ hne⟩
    · exact ⟨p, hp, hne⟩

/-- Another realm may change: it keeps its counters, and holds and lists nothing more than what is allowed. -/
theorem passes_modifyRealm {f : Realm → Realm} (hne : r' ≠ r) (htally : ∀ m, (f m).tally = m.tally)
    (hreg : ∀ i ∈ (f (s.realm r')).registered, i ∈ (s.realm r').registered ∨ ¬ O i)
    (hsites : ∀ k ∈ (f (s.realm r')).sites, k ∈ (s.realm r').sites ∨ s.Elsewhere τ k) :
    Passes O A r τ s { s with realms := s.realms.modify r' f } := by
  have hget := realm_modify_or (s := s) (t := { s with realms := s.realms.modify r' f }) (r := r') (f := f) rfl
  have hsize : (s.realms.modify r' f).size = s.realms.size := Array.size_modify ..
  refine ⟨⟨h.walled, h.obedient, hsize ▸ h.realm, h.tally, fun {r''} hne' i hi => ?_, fun {r''} hr hne' => ?_,
    fun {r''} hne' k hk => ?_⟩, ⟨World.Spares.refl O s.world, ?_, rfl, fun hp _ => hp, fun hk => hk⟩, hsize⟩
  · rcases hget r'' with heq | ⟨rfl, heq⟩ <;> rw [heq] at hi
    · exact h.registered hne' i hi
    · exact (hreg i hi).elim (h.registered hne i) id
  · have hr' : r'' < s.realms.size := hsize ▸ hr
    rcases hget r'' with heq | ⟨-, heq⟩ <;> rw [heq]
    · exact h.counters hr' hne'
    · rw [htally]
      exact h.counters hr' hne'
  · rcases hget r'' with heq | ⟨rfl, heq⟩ <;> rw [heq] at hk
    · exact h.sites hne' k hk
    · exact (hsites k hk).elim (h.sites hne k) id
  · rcases hget r with heq | ⟨heq, -⟩
    · exact heq
    · exact absurd heq hne

/-! ### Changes of several parts -/

theorem passes_setTally (hτ : τ' ≠ τ) (v : Tally) : Passes O A r τ s (s.setTally τ' v) := by
  refine h.passes_tallies (Array.size_setIfInBounds ..).ge ?_
  show (s.tallies.setIfInBounds τ' v).getD τ {} = s.tallies.getD τ {}
  rw [Array.getD_eq_getD_getElem?, Array.getD_eq_getD_getElem?, Array.getElem?_setIfInBounds_ne hτ]

/-- A site that reports elsewhere is put back with its counters. -/
theorem passes_settle {σ : Type} {q : PlacedSite} (hq : s.site? k = some q) (hτ : q.tally ≠ τ) (x : Reading σ) :
    Passes O A r τ s (s.settle k q.tally x) := by
  have hput := h.passes_modifySite (f := fun q => { q with site := x.site }) ⟨q, hq, hτ⟩ fun _ => rfl
  exact hput.trans (hput.guarded.passes_setTally hτ x.tally)

end Guarded

/-! ### The contract -/

/-- The contract of what leaves a guarded realm alone. -/
def guarding (O A : NamespaceId → Prop) (r : RealmId) (τ : TallyId) : Contract Store where
  valid := fun s => s.Sound ∧ Guarded O A r τ s
  step := fun s notes t =>
    Follows (fun _ _ => True) s notes t ∧ Spares O r τ s t ∧ t.realms.size = s.realms.size
  refl := fun s notes => ⟨Follows.refl s notes, Spares.refl O r τ s, rfl⟩
  trans := fun h h' => ⟨h.1.trans h'.1, h.2.1.trans h'.2.1, h'.2.2.trans h.2.2⟩

/-- An action that keeps the contract of stores, and whose state passes. -/
theorem guarded_of_keeps {α : Type} {x : Action Store α} {q : α → Store → Prop}
    (hx : x.Keeps (contract fun _ _ => True) s q)
    (h : Guarded O A r τ s → Passes O A r τ s (x s).state) : x.Keeps (guarding O A r τ) s q := by
  rintro ⟨hs, hg⟩
  obtain ⟨hv, hstep, hq⟩ := hx hs
  have hpasses := h hg
  exact ⟨⟨hv, hpasses.guarded⟩, ⟨hstep, hpasses.spares, hpasses.realms⟩, hq⟩

theorem onWorld_guarded {α : Type} {x : Action World α} {q : α → World → Prop}
    (hx : x.Keeps (World.walled O A) s.world q) :
    (onWorld x).Keeps (guarding O A r τ) s fun a t => q a t.world ∧ t.realms = s.realms := by
  rintro ⟨hs, hg⟩
  obtain ⟨⟨hw, ho⟩, ⟨hspares, hfollows⟩, hq⟩ := hx ⟨hg.walled, hg.obedient⟩
  have hkeeps : x.Keeps World.contract s.world q := fun _ => ⟨hw.linked, hfollows, hq⟩
  exact guarded_of_keeps (onWorld_keeps hkeeps) (fun h => h.passes_world hw ho hspares) ⟨hs, hg⟩

/-! ### Counters and sites -/

theorem newTally_guarded : newTally.Keeps (guarding O A r τ) s fun _ t => t.realms = s.realms := by
  refine guarded_of_keeps newTally_keeps fun h => h.passes_tallies ?_ ?_
  · rw [Array.size_push]
    exact Nat.le_succ _
  · show (s.tallies.push {}).getD τ {} = s.tallies.getD τ {}
    rw [Array.getD_eq_getD_getElem?, Array.getD_eq_getD_getElem?, Array.getElem?_push, if_neg (Nat.ne_of_lt h.tally)]

theorem record_guarded (hτ : τ' ≠ τ) (event : Count) :
    (record τ' event).Keeps (guarding O A r τ) s fun _ _ => True :=
  guarded_of_keeps (record_keeps τ' event) fun h => h.passes_setTally hτ _

theorem newSite_guarded (name : String) (position : Position) (policy : Policy) (hτ : τ' ≠ τ) :
    (newSite name position policy τ').Keeps (guarding O A r τ) s fun k t => t.Elsewhere τ k := by
  rintro ⟨hs, h⟩
  obtain ⟨hv, hstep, -⟩ := newSite_keeps (R := fun _ _ => True) name position policy τ' hs
  unfold newSite at hv hstep ⊢
  cases hnew : Site.new name position policy with
  | error f => exact ⟨⟨hs, h⟩, ⟨Follows.refl s _, Spares.refl O r τ s, rfl⟩, nofun⟩
  | ok site =>
      rw [hnew] at hv hstep
      have hmade : ({ s with sites := s.sites.push ⟨site, τ', true⟩ } : Store).Elsewhere τ s.sites.size :=
        ⟨⟨site, τ', true⟩, Array.getElem?_push_size, hτ⟩
      have hpasses := h.passes_sites (s.sites.push ⟨site, τ', true⟩)
        (fun hp _ => site?_push hp _) fun ⟨p, hp, hne⟩ => ⟨p, site?_push hp _, hne⟩
      refine ⟨⟨hv, hpasses.guarded⟩, ⟨hstep, hpasses.spares, hpasses.realms⟩, fun k hk => ?_⟩
      rw [← Except.ok.inj hk]
      exact hmade

theorem dropSite_guarded (hk : s.Elsewhere τ k) : (dropSite k).Keeps (guarding O A r τ) s fun _ _ => True :=
  (guarded_of_keeps (dropSite_keeps k) fun h => h.passes_modifySite hk fun _ => rfl).imp fun _ _ _ _ => trivial

/-- **What is done with a site that reports elsewhere**, when it leaves the part alone. -/
theorem atSite_guarded {α : Type} {x : Action (Reading World) α} (hk : s.Elsewhere τ k)
    (hkeeps : (atSite k x).Keeps (contract fun _ _ => True) s fun _ _ => True)
    (hx : ∀ ρ : Reading World, World.Walled O ρ.scope → World.Obedient O A ρ.scope →
      World.Walled O (x ρ).state.scope ∧ World.Obedient O A (x ρ).state.scope ∧
        World.Spares O ρ.scope (x ρ).state.scope) :
    (atSite k x).Keeps (guarding O A r τ) s fun _ _ => True := by
  refine guarded_of_keeps hkeeps fun h => ?_
  obtain ⟨q, hq, hτ⟩ := hk
  rw [atSite_of_some hq]
  have hput := h.passes_settle hq hτ (x (s.reading q)).state
  obtain ⟨hw, ho, hspares⟩ := hx (s.reading q) h.walled h.obedient
  exact hput.trans (hput.guarded.passes_world hw ho hspares)

/-- What leaves the scope of a site alone. -/
theorem atSite_guarded_of_scope {α : Type} {x : Action (Reading World) α} (hk : s.Elsewhere τ k)
    (hkeeps : (atSite k x).Keeps (contract fun _ _ => True) s fun _ _ => True)
    (hx : ∀ ρ, (x ρ).state.scope = ρ.scope) : (atSite k x).Keeps (guarding O A r τ) s fun _ _ => True := by
  refine atSite_guarded hk hkeeps fun ρ hw ho => ?_
  rw [hx]
  exact ⟨hw, ho, World.Spares.refl O ρ.scope⟩

theorem invalidate_guarded (hk : s.Elsewhere τ k) :
    (invalidate k).Keeps (guarding O A r τ) s fun _ _ => True :=
  atSite_guarded_of_scope hk (invalidate_keeps k) fun _ => rfl

/-- **An evaluation in a namespace whose handlers obey.** -/
theorem evaluate_guarded (hk : s.Elsewhere τ k) (halive : s.world.isAlive i = true) (hi : A i) :
    (evaluate k i).Keeps (guarding O A r τ) s fun _ _ => True := by
  refine atSite_guarded hk (evaluate_keeps halive trivial) fun ρ hw ho => ?_
  have hscope := Reading.resolve_scope i ρ
  rcases Reading.evaluate_state (World.scope i) ρ with ⟨hstate, -⟩ | ⟨name, hstate, -⟩ <;> rw [hstate, hscope]
  · exact ⟨hw, ho, World.Spares.refl O ρ.scope⟩
  · obtain ⟨⟨hw', ho'⟩, ⟨hspares, -⟩, -⟩ := World.dispatch_walled ρ.scope hi name ⟨hw, ho⟩
    exact ⟨hw', ho', hspares⟩

theorem renameSite_guarded (hk : s.Elsewhere τ k) (name : String) :
    (renameSite k name).Keeps (guarding O A r τ) s fun _ _ => True := by
  refine guarded_of_keeps (renameSite_keeps k name) fun h => ?_
  obtain ⟨q, hq, hτ⟩ := hk
  have hplaced : placed k s = ⟨s, [], .ok q⟩ := by
    unfold placed
    rw [hq]
  unfold renameSite
  rw [Action.bind_of_quiet hplaced]
  cases q.site.rename name with
  | ok site => exact h.passes_modifySite ⟨q, hq, hτ⟩ fun _ => rfl
  | error c => exact h.passes_self

/-! ### Realms -/

section realms

variable (hne : r' ≠ r)

include hne

theorem register_guarded (hi : s.world.isAlive i = true) (hO : ¬ O i) :
    (register r' i).Keeps (guarding O A r τ) s fun _ t => t.world.isAlive i = true := by
  refine (guarded_of_keeps (register_keeps r' hi) fun h => ?_).imp fun _ _ _ hq => hq.1
  have hw := h.walled.retain hi
  have hspares : World.Spares O s.world (s.world.retain i) := World.Spares.update hO _
  have ho := h.obedient.congr (World.held_update s.world i fun n => { n with holders := n.holders + 1 })
    (World.proj_retain World.Namespace.answering fun _ _ => rfl)
  have hreg : ∀ j ∈ (holding i (s.realm r')).registered, j ∈ (s.realm r').registered ∨ ¬ O j := by
    intro j hj
    rcases List.mem_append.mp hj with hj | hj
    · exact Or.inl hj
    · rw [List.mem_singleton.mp hj]
      exact Or.inr hO
  have hretained := h.passes_world hw ho hspares
  exact hretained.trans
    (hretained.guarded.passes_modifyRealm (f := holding i) hne (fun _ => rfl) hreg fun _ => Or.inl)

theorem install_guarded {x : Action World NamespaceId} (hmakes : s.world.Makes x)
    (hx : x.Keeps (World.walled O World.nobody) s.world fun i w => w.isAlive i = true ∧ ¬ O i) (hp : ¬ O p)
    (name : String) :
    (install r' name p x).Keeps (guarding O World.nobody r τ) s fun i t => t.world.isAlive i = true ∧ ¬ O i := by
  unfold install
  refine Action.Keeps.bind (onWorld_guarded (World.establish_walled hmakes hx hp name)) ?_
  rintro i t _ - - ⟨⟨hi, hO⟩, -⟩
  refine Action.Keeps.bind (register_guarded hne hi hO) ?_
  rintro _ u _ - - halive
  exact Action.Keeps.pure ⟨halive, hO⟩

omit hne in
theorem reopened_guarded (hi : s.world.isAlive i = true) (hO : ¬ O i) :
    (reopened i).Keeps (guarding O World.nobody r τ) s fun j t => t.world.isAlive j = true ∧ ¬ O j := by
  unfold reopened
  refine Action.Keeps.bind (onWorld_guarded (World.reopen_walled s.world hO)) ?_
  rintro _ t _ - hstep -
  exact Action.Keeps.pure ⟨hstep.1.alive hi, hO⟩

/-- What can be opened again is registered with another realm, and lives. -/
theorem opening_outside (hs : s.Sound) (h : Guarded O A r τ s) {name : String} {kind : Kind}
    (hopen : s.opening r' name p kind = .existing i) : s.world.isAlive i = true ∧ ¬ O i := by
  have hreg := List.contains_iff_mem.mp (isRegistered_of_opening hopen)
  exact ⟨hs.isAlive_of_mem hreg, h.registered hne i hreg⟩

/-- **A class that another realm opens outside of the part.** -/
theorem openClass_guarded (name : String) {sup : Option NamespaceId} (hp : s.world.isAlive p = true)
    (hsup : ∀ {i}, sup = some i → s.world.isAlive i = true) (hO : ¬ O p) (hOsup : ∀ {i}, sup = some i → ¬ O i) :
    (openClass r' name p sup).Keeps (guarding O World.nobody r τ) s
      fun i t => t.world.isAlive i = true ∧ ¬ O i := by
  unfold openClass
  split
  · refine Action.Keeps.get_bind fun ⟨hs, h⟩ => ?_
    split
    · exact install_guarded hne (World.newClass_makes name hp hsup)
        (World.newClass_walled name hp hsup hO hOsup) hO name
    · rename_i i hopen
      obtain ⟨hi, hOi⟩ := opening_outside hne hs h hopen
      split
      · exact Action.Keeps.raise
      · exact reopened_guarded hi hOi
    · exact Action.Keeps.raise
  · exact Action.Keeps.raise

theorem openModule_guarded (name : String) (hp : s.world.isAlive p = true) (hO : ¬ O p) :
    (openModule r' name p).Keeps (guarding O World.nobody r τ) s
      fun i t => t.world.isAlive i = true ∧ ¬ O i := by
  unfold openModule
  split
  · refine Action.Keeps.get_bind fun ⟨hs, h⟩ => ?_
    split
    · exact install_guarded hne (World.newModule_makes name hp) (World.newModule_walled name hp hO) hO name
    · rename_i i hopen
      obtain ⟨hi, hOi⟩ := opening_outside hne hs h hopen
      exact reopened_guarded hi hOi
    · exact Action.Keeps.raise
  · exact Action.Keeps.raise

/-! ### Sites of realms -/

/-- Another realm lists sites that report elsewhere. -/
theorem list_guarded {f : List SiteId → List SiteId}
    (hf : Guarded O A r τ s → ∀ k ∈ f (s.realm r').sites, k ∈ (s.realm r').sites ∨ s.Elsewhere τ k) :
    (modifyRealm r' fun m => { m with sites := f m.sites }).Keeps (guarding O A r τ) s fun _ t =>
      t.sites = s.sites := by
  have hkeeps := modifyRealm_keeps (R := fun _ _ => True) (s := s) (f := fun m => { m with sites := f m.sites }) r'
    (fun _ => rfl) fun _ => rfl
  refine (guarded_of_keeps hkeeps fun h =>
    h.passes_modifyRealm (f := fun m => { m with sites := f m.sites }) hne (fun _ => rfl) (fun _ => Or.inl)
      (hf h)).imp ?_
  rintro _ t - rfl
  rfl

theorem pruneSites_guarded : (pruneSites r').Keeps (guarding O A r τ) s fun _ t => t.sites = s.sites := by
  unfold pruneSites
  exact Action.Keeps.read_bind fun _ => list_guarded (f := fun _ => s.liveSites r') hne fun _ k hk =>
    Or.inl (List.mem_of_mem_filter hk)

theorem makeSite_guarded (name : String) (position : Position) (hr : r' < s.realms.size) :
    (makeSite r' name position).Keeps (guarding O A r τ) s fun k t => t.Elsewhere τ k := by
  unfold makeSite
  refine Action.Keeps.read_bind fun ⟨_, h⟩ => ?_
  refine Action.Keeps.bind (newSite_guarded name position _ (h.counters hr hne)) ?_
  rintro k t _ - - hk
  refine Action.Keeps.bind (pruneSites_guarded hne) ?_
  rintro _ u _ - hstep -
  have hk' := hstep.2.1.elsewhere hk
  refine Action.Keeps.bind (list_guarded (f := fun ks => ks ++ [k]) hne fun _ k' hmem => ?_) ?_
  · rcases List.mem_append.mp hmem with hmem | hmem
    · exact Or.inl hmem
    · rw [List.mem_singleton.mp hmem]
      exact Or.inr hk'
  · rintro _ v _ - hstep' -
    exact Action.Keeps.pure (hstep'.2.1.elsewhere hk')

omit hne in
theorem invalidateEach_guarded {ks : List SiteId} (hks : ∀ k ∈ ks, s.Elsewhere τ k) :
    (invalidateEach ks).Keeps (guarding O A r τ) s fun _ _ => True := by
  induction ks generalizing s with
  | nil => exact Action.Keeps.pure trivial
  | cons k ks ih =>
      refine Action.Keeps.bind (invalidate_guarded (hks k List.mem_cons_self)) fun _ t _ _ hstep _ => ih ?_
      exact fun k' hk' => hstep.2.1.elsewhere (hks k' (List.mem_cons_of_mem k hk'))

/-- **Another realm invalidates all its sites.** -/
theorem invalidateAll_guarded : (invalidateAll r').Keeps (guarding O A r τ) s fun _ _ => True := by
  unfold invalidateAll
  refine Action.Keeps.bind (pruneSites_guarded hne) fun _ t _ _ _ _ => ?_
  refine Action.Keeps.read_bind fun ⟨_, h⟩ => ?_
  have hlive : ∀ k ∈ t.liveSites r', t.Elsewhere τ k := fun k hk => h.sites hne k (List.mem_of_mem_filter hk)
  refine Action.Keeps.bind (invalidateEach_guarded hlive) fun _ u _ _ _ _ => ?_
  refine Action.Keeps.bind (Action.Keeps.note (q := fun _ _ => True) trivial) fun _ _ _ _ _ _ => ?_
  exact Action.Keeps.pure trivial

end realms

namespace Guarded

/-! ### Names -/

/-- A name that lets go of nothing in the part may take hold of a namespace. -/
theorem hold (h : Guarded O World.nobody r τ s) {holder : String} (hi : s.world.isAlive i = true)
    (hold : ∀ o, s.world.held.get? holder = some o → ¬ O o) :
    Guarded O World.nobody r τ { s with world := s.world.hold holder i } where
  walled := (h.walled.hold hi hold).1
  obedient := World.Obedient.nobody O _
  realm := h.realm
  tally := h.tally
  registered := h.registered
  counters := h.counters
  sites := h.sites

theorem passes_hold (h : Guarded O World.nobody r τ s) {holder : String} (hi : s.world.isAlive i = true)
    (hO : ¬ O i) (hold : ∀ o, s.world.held.get? holder = some o → ¬ O o) :
    Passes O World.nobody r τ s { s with world := s.world.hold holder i } := by
  obtain ⟨hw, hspares⟩ := h.walled.hold hi hold
  exact h.passes_world hw (World.Obedient.nobody O _) (hspares hO)

theorem passes_letGo (h : Guarded O World.nobody r τ s) {holder : String}
    (hold : ∀ o, s.world.held.get? holder = some o → ¬ O o) :
    Passes O World.nobody r τ s { s with world := s.world.letGo holder } := by
  obtain ⟨hw, hspares⟩ := h.walled.letGo hold
  exact h.passes_world hw (World.Obedient.nobody O _) hspares

/-! ### Making realms and giving them up -/

theorem passes_dropRealm (h : Guarded O World.nobody r τ s) (hne : r' ≠ r) :
    Passes O World.nobody r τ s (Store.dropRealm r' s).state := by
  obtain ⟨hw, hspares⟩ := h.walled.releaseAll (h.registered hne)
  have hreleased := h.passes_world hw (World.Obedient.nobody O _) hspares
  exact hreleased.trans (hreleased.guarded.passes_modifyRealm (f := fun m => { m with registered := [] }) hne
    (fun _ => rfl) (fun _ hi => absurd hi List.not_mem_nil) fun _ => Or.inl)

/-- A new realm has a top level outside of the part, and counters of its own. -/
theorem newRealm (h : Guarded O World.nobody r τ s) (policy : Policy) :
    Guarded O World.nobody r τ (Store.newRealm policy s).state ∧
      Spares O r τ s (Store.newRealm policy s).state := by
  obtain ⟨hspares, hw⟩ := h.walled.create (World.creatable_topLevel s.world) nofun
  have hout : ¬ O (s.world.size + 1) := fun hO => Nat.not_succ_le_self _ (h.walled.has hO).2
  have hw' := hw.retain (isAlive_created (World.creatable_topLevel s.world))
  have hspares' := World.Spares.update (w := s.world.create { name := World.topLevelName, kind := .topLevel }) hout
    fun n => { n with holders := n.holders + 1 }
  have hne : ∀ {r'}, r' < (Store.newRealm policy s).state.realms.size → r' ≠ s.realms.size → r' < s.realms.size :=
    lt_of_newRealm
  have htallies : (Store.newRealm policy s).state.tallies = s.tallies.push {} := rfl
  refine ⟨⟨hw', World.Obedient.nobody O _, ?_, ?_, fun {r'} hr' i hi => ?_, fun {r'} hr hr' => ?_,
    fun {r'} hr' k hk => ?_⟩, ⟨hspares.trans hspares', ?_, ?_, fun hp _ => hp, fun hk => hk⟩⟩
  · rw [size_newRealm]
    exact Nat.lt_succ_of_lt h.realm
  · rw [htallies, Array.size_push]
    exact Nat.lt_succ_of_lt h.tally
  · rw [realm_newRealm] at hi
    split at hi
    · rw [List.mem_singleton.mp hi]
      exact hout
    · exact h.registered hr' i hi
  · rw [realm_newRealm]
    split
    · exact Nat.ne_of_gt h.tally
    · rename_i hsize
      exact h.counters (hne hr hsize) hr'
  · rw [realm_newRealm] at hk
    split at hk
    · exact absurd hk List.not_mem_nil
    · exact h.sites hr' k hk
  · rw [realm_newRealm, if_neg (Nat.ne_of_lt h.realm)]
  · rw [Store.tally, htallies, Store.tally, Array.getD_eq_getD_getElem?, Array.getD_eq_getD_getElem?,
      Array.getElem?_push, if_neg (Nat.ne_of_lt h.tally)]

end Guarded

/-! ### Realms that are apart -/

/-- A store whose realms are apart, with counters and sites of their own, and in which what lives is held. -/
structure Parted (s : Store) : Prop where
  sound : s.Sound
  upheld : s.world.Upheld
  listed : s.Listed
  numbered : s.Numbered
  apart : s.Apart

/-- The part of the world that is a realm's, and its counters, guard it. -/
abbrev GuardedIn (A : NamespaceId → Prop) (r : RealmId) (s t : Store) : Prop :=
  Guarded (· ∈ s.territory r) A r (s.realm r).tally t

namespace Parted

variable (h : s.Parted)

include h

/-- **Each realm is guarded in its territory**, where handlers obey. -/
theorem guarded (hr : r < s.realms.size) (ho : World.Obedient (· ∈ s.territory r) A s.world) :
    GuardedIn A r s s where
  walled := h.sound.walled h.upheld r
  obedient := ho
  realm := hr
  tally := h.numbered.bound r hr
  registered := by
    intro r' hne i hi
    by_cases hr' : r' < s.realms.size
    · exact h.apart r' hr' i (h.sound.mem_territory_of_mem hi) r hr (Ne.symm hne)
    · rw [realm_of_size_le (Nat.le_of_not_lt hr')] at hi
      exact absurd hi List.not_mem_nil
  counters := fun {r'} hr' hne heq => hne (h.numbered.distinct r' hr' r hr heq)
  sites := by
    intro r' hne k hk
    by_cases hr' : r' < s.realms.size
    · obtain ⟨q, hq, hτ⟩ := h.listed r' k hk
      refine ⟨q, hq, fun heq => hne (h.numbered.distinct r' hr' r hr ?_)⟩
      rw [← hτ, heq]
    · rw [realm_of_size_le (Nat.le_of_not_lt hr')] at hk
      exact absurd hk List.not_mem_nil

/-- **A realm is untouched that is guarded in its territory and was spared.** -/
theorem untouched (hg : GuardedIn A r s t) (hspares : Spares (· ∈ s.territory r) r (s.realm r).tally s t) :
    Untouched r s t := by
  have hwalled := h.sound.walled h.upheld r
  have hsites : ∀ {k}, s.ReportsTo k (s.realm r).tally → t.site? k = s.site? k := by
    rintro k ⟨q, hq, hτ⟩
    exact (hspares.sites hq hτ).trans hq.symm
  refine ⟨hspares.realm, by rw [hspares.realm, hspares.tally], hsites, ?_, ?_, hspares.world, fun i hi => ?_⟩
  · have hlive : t.liveSites r = s.liveSites r := by
      rw [liveSites, liveSites, hspares.realm]
      refine List.filter_congr fun k hk => ?_
      rw [Store.isHeld, Store.isHeld, hsites (h.listed r k hk)]
    rw [siteCount, siteCount, hlive]
  · exact territory_eq h.sound hwalled hg.walled hspares.world (by rw [hspares.realm])
  · rw [World.dependentCount, World.dependentCount, hwalled.liveDependents_eq hg.walled hspares.world hi]

/-- What a realm registered is still in its territory when it was spared. -/
theorem registered_of_spares (hspares : Spares (· ∈ s.territory r) r τ s t) :
    ∀ i ∈ (t.realm r).registered, i ∈ s.territory r := by
  intro i hi
  rw [hspares.realm] at hi
  exact h.sound.mem_territory_of_mem hi

end Parted

/-- **Realms are apart when all but one of them are guarded**, each in a part that has what it registered. -/
theorem apart_of_guarded (actor : RealmId) (ht : t.Sound)
    (hg : ∀ r < t.realms.size, r ≠ actor →
      ∃ O A τ, Guarded O A r τ t ∧ ∀ i ∈ (t.realm r).registered, O i) : t.Apart := by
  -- Of two realms one is guarded, and its part has the whole of its territory and nothing of the other one's.
  have hone : ∀ {r r' i}, r < t.realms.size → r ≠ actor → r' ≠ r → i ∈ t.territory r → i ∉ t.territory r' := by
    intro r r' i hr hne hne' hi hi'
    obtain ⟨O, A, τ, hguarded, hreg⟩ := hg r hr hne
    obtain ⟨j, hj, hji⟩ := ht.exists_registered hguarded.walled hi
    obtain ⟨l, hl, hli⟩ := ht.exists_registered hguarded.walled hi'
    exact hguarded.registered hne' l hl (hli.mpr (hji.mp (hreg j hj)))
  intro r hr i hi r' hr' hne
  by_cases hactor : r = actor
  · intro hi'
    exact hone hr' (hactor ▸ hne) (Ne.symm hne) hi' hi
  · exact hone hr hactor hne hi

/-- **Realms stay apart when another one is made.** -/
theorem Parted.newRealm (h : s.Parted) (policy : Policy) : (Store.newRealm policy s).state.Parted where
  sound := (newRealm_keeps (R := fun _ _ => True) policy h.sound).1
  upheld := (h.upheld.create _).retain (World.has_of_alive (isAlive_created (World.creatable_topLevel s.world)))
  listed := h.listed.newRealm policy
  numbered := h.numbered.newRealm policy
  apart := by
    refine apart_of_guarded s.realms.size (newRealm_keeps (R := fun _ _ => True) policy h.sound).1 fun r hr hne => ?_
    obtain ⟨hg, hspares⟩ :=
      (h.guarded (lt_of_newRealm hr hne) (World.Obedient.nobody _ _)).newRealm policy
    exact ⟨_, _, _, hg, h.registered_of_spares hspares⟩

/-- The territory of a new realm is its top level. -/
theorem Sound.territory_newRealm (hs : s.Sound) {policy : Policy}
    (hi : i ∈ (Store.newRealm policy s).state.territory s.realms.size) : i = s.world.size + 1 := by
  have ht := (newRealm_keeps (R := fun _ _ => True) policy hs).1
  have hworld : (Store.newRealm policy s).state.world = (s.world.create
      { name := World.topLevelName, kind := .topLevel }).retain (s.world.size + 1) := rfl
  have hlinks : ∀ j, (Store.newRealm policy s).state.world.links j =
      if j = s.world.size + 1 then [] else s.world.links j := by
    intro j
    rw [hworld, World.links, World.proj_retain Namespace.links (fun _ _ => rfl)]
    exact World.links_create _ _ j
  obtain ⟨j, hj, hji⟩ := ht.mem_territory.mp hi
  rw [realm_newRealm, if_pos rfl] at hj
  obtain rfl : j = s.world.size + 1 := List.mem_singleton.mp hj
  rcases Relation.ReflTransGen.cases_head hji with heq | ⟨k, hk, -⟩
  · exact heq.symm
  · obtain ⟨-, -, hlink | hlink⟩ := ht.linked.mem_neighbours.mp hk <;> rw [hlinks] at hlink
    · rw [if_pos rfl] at hlink
      exact absurd hlink List.not_mem_nil
    · split at hlink
      · exact absurd hlink List.not_mem_nil
      · exact absurd (hs.linked.has hlink).2 (Nat.not_succ_le_self _)

end ConstantResolution.Store
