import ConstantResolution.Proofs.Session.Liveness
import ConstantResolution.Proofs.Session.Naming
import ConstantResolution.Proofs.Store.Isolation

/-! # Realms are isolated

A realm owns what belongs to no other realm.  When the territories of realms are apart, a command that acts through
one realm on what that realm owns leaves every other realm untouched, and territories stay apart
(`isolated_perform`).  So it is in every interleaving of such commands (`realms_isolated`). -/

namespace ConstantResolution.Session

open Store (Elsewhere Guarded Passes guarding)

variable {s t : Session} {O A : NamespaceId → Prop} {r actor : RealmId} {τ : TallyId} {i : NamespaceId} {k : SiteId}
  {holder site : String}

/-! ### Commands of a realm -/

/-- The namespace that a name holds, if it holds any, is in no other realm's territory. -/
def OwnsNamespace (s : Session) (r : RealmId) (holder : String) : Prop :=
  ∀ i ∈ s.store.world.held.get? holder, s.store.Owns r i

/-- The site that a name holds, if it holds any, reports to no other realm's counters. -/
def OwnsSite (s : Session) (r : RealmId) (holder : String) : Prop :=
  ∀ k ∈ s.sites.get? holder, s.store.OwnsSite r k

/-- A name holds no other realm. -/
def OwnsRealm (s : Session) (r : RealmId) (holder : String) : Prop := ∀ r' ∈ s.realms.get? holder, r' = r

/-- Counters that are spoken of are no other realm's. -/
def OwnsTally (s : Session) (r : RealmId) (tally : TallyTerm) : Prop :=
  ∀ τ ∈ s.tallyOf? tally, s.store.OwnsTally r τ

/-- Where a context stands for a namespace, handlers act on what a realm owns. -/
def HandlersWithin (s : Session) (r : RealmId) (context : ContextTerm) : Prop :=
  ∀ place ∈ s.place? context, ∀ i ∈ place.namespace?, s.store.HandlersWithin r i

instance (s : Session) (r : RealmId) (holder : String) : Decidable (s.OwnsNamespace r holder) := by
  unfold OwnsNamespace
  infer_instance

instance (s : Session) (r : RealmId) (holder : String) : Decidable (s.OwnsSite r holder) := by
  unfold OwnsSite
  infer_instance

instance (s : Session) (r : RealmId) (holder : String) : Decidable (s.OwnsRealm r holder) := by
  unfold OwnsRealm
  infer_instance

instance (s : Session) (r : RealmId) (tally : TallyTerm) : Decidable (s.OwnsTally r tally) := by
  unfold OwnsTally
  infer_instance

instance (s : Session) (r : RealmId) (context : ContextTerm) : Decidable (s.HandlersWithin r context) := by
  unfold HandlersWithin
  infer_instance

/-- **What is done through one realm.**  It is done with the realm itself, in namespaces and with sites and counters
that are no other realm's, and lets handlers act on those only; and the names that come to hold something new held
nothing of another realm's.  A workload is no single command in this sense, but a program of such commands. -/
def Owns (s : Session) (r : RealmId) : Command → Prop
  | .openClass holder _ parent superclass realm =>
    s.OwnsRealm r realm ∧ s.OwnsNamespace r parent ∧ (∀ sup ∈ superclass, s.OwnsNamespace r sup) ∧
      s.OwnsNamespace r holder
  | .openModule holder _ parent realm =>
    s.OwnsRealm r realm ∧ s.OwnsNamespace r parent ∧ s.OwnsNamespace r holder
  | .newClass holder _ parent superclass =>
    s.OwnsNamespace r parent ∧ (∀ sup ∈ superclass, s.OwnsNamespace r sup) ∧ s.OwnsNamespace r holder
  | .newModule holder _ parent => s.OwnsNamespace r parent ∧ s.OwnsNamespace r holder
  | .includeModule ns mixin => s.OwnsNamespace r ns ∧ s.OwnsNamespace r mixin
  | .newTopLevel ns | .dropNamespace ns | .define ns _ _ | .remove ns _ | .reopen ns | .setHandler ns _ _ =>
    s.OwnsNamespace r ns
  | .dispatch ns _ => ∀ i ∈ s.store.world.held.get? ns, s.store.HandlersWithin r i
  | .survey context _ => s.HandlersWithin r context
  | .newSite holder _ _ realm => s.OwnsRealm r realm ∧ s.OwnsSite r holder
  | .newFreeSite holder _ _ _ tally => s.OwnsTally r tally ∧ s.OwnsSite r holder
  | .evaluate site context _ => s.OwnsSite r site ∧ s.HandlersWithin r context
  | .dropSite site | .resolve site _ | .siteDefined site _ | .definition site _ | .invalidate site | .rename site _ =>
    s.OwnsSite r site
  | .newRealm holder _ => s.OwnsRealm r holder ∧ s.OwnsNamespace r (holder ++ ".top")
  | .invalidateAll realm => s.OwnsRealm r realm
  | .record tally _ _ => s.OwnsTally r tally
  | .work _ _ _ => False
  | _ => True

instance (s : Session) (r : RealmId) (c : Command) : Decidable (s.Owns r c) := by
  induction c using Command.casesOn <;> dsimp only [Owns] <;> infer_instance

/-! ### What leaves a guarded realm alone -/

/-- The contract of what leaves a guarded realm alone. -/
def watching (O A : NamespaceId → Prop) (r : RealmId) (τ : TallyId) : Contract Session where
  valid := fun s => (guarding O A r τ).valid s.store
  step := fun s notes t => (guarding O A r τ).step s.store notes t.store
  refl := fun s => (guarding O A r τ).refl s.store
  trans := (guarding O A r τ).trans

theorem onStore_watched {α : Type} {x : Action Store α} {q : α → Store → Prop}
    (hx : x.Keeps (guarding O A r τ) s.store q) :
    (onStore x).Keeps (watching O A r τ) s fun a t => q a t.store ∧ t.sites = s.sites := by
  intro hs
  obtain ⟨hv, hstep, hq⟩ := hx hs
  exact ⟨hv, hstep, fun a ha => ⟨hq a ha, rfl⟩⟩

theorem onWorld_watched {α : Type} {x : Action World α} {q : α → World → Prop}
    (hx : x.Keeps (World.walled O A) s.store.world q) :
    (onWorld x).Keeps (watching O A r τ) s fun a t => q a t.store.world :=
  (onStore_watched (Store.onWorld_guarded hx)).imp fun _ _ _ h => h.1.1

/-- A change of what is not in the store. -/
theorem watched_of_store_eq {α : Type} {x : Action Session α} (hx : (x s).state.store = s.store) :
    x.Keeps (watching O A r τ) s fun _ _ => True := by
  intro hs
  unfold watching
  dsimp only
  rw [hx]
  exact ⟨hs, (guarding O A r τ).refl s.store _, fun _ _ => trivial⟩

theorem overlooks_watching : Overlooks (watching O A r τ) := by
  intro s notes t h hs
  unfold watching at hs ⊢
  dsimp only at hs ⊢
  rw [h.store]
  exact ⟨hs, (guarding O A r τ).refl s.store notes⟩

theorem passes_of_watched {α : Type} {x : Action Session α} {q : α → Session → Prop} (hs : s.Sound)
    (hg : Guarded O A r τ s.store) (hx : x.Keeps (watching O A r τ) s q) :
    Passes O A r τ s.store (x s).state.store := by
  obtain ⟨⟨-, hg'⟩, ⟨-, hspares, hsize⟩, -⟩ := hx ⟨hs.store, hg⟩
  exact ⟨hg', hspares, hsize⟩

/-- What a name is to hold is created outside of the part, and what it held is outside as well. -/
theorem creating_passes {x : Action Session NamespaceId} (hs : s.Sound) (hg : Guarded O World.nobody r τ s.store)
    (hold : ∀ o, s.store.world.held.get? holder = some o → ¬ O o)
    (hx : x.Keeps (watching O World.nobody r τ) s fun i t => t.store.world.isAlive i = true ∧ ¬ O i) :
    Passes O World.nobody r τ s.store (creating holder x s).state.store := by
  have hpasses := passes_of_watched hs hg hx
  obtain ⟨-, ⟨hfollows, -⟩, hq⟩ := hx ⟨hs.store, hg⟩
  rw [creating_apply]
  rcases hxs : x s with ⟨t, notes, e | i⟩ <;> rw [hxs] at hpasses hfollows hq
  · exact hpasses
  · obtain ⟨hi, hO⟩ := hq i rfl
    refine hpasses.trans (hpasses.guarded.passes_hold hi hO fun o ho => hold o ?_)
    rwa [← hfollows.held]

/-! ### Evaluations -/

section evaluations

variable {α : Type} {x : {σ : Type} → Scope σ → Action (Reading σ) α} {context : ContextTerm}
  {I : NamespaceId → Prop}

/-- **What is done with a site that reports elsewhere**, in a namespace or in a stub. -/
theorem atSite_passes (hs : s.Sound) (hg : Guarded O A r τ s.store)
    (hk : ∀ k, s.sites.get? site = some k → s.store.Elsewhere τ k)
    (hI : ∀ i, s.place? context = some (.ofNamespace i) → I i)
    (hx : ∀ {k i}, s.store.Elsewhere τ k → s.store.world.isAlive i = true → I i →
      (Store.atSite k (x (World.scope i))).Keeps (guarding O A r τ) s.store fun _ _ => True) :
    Passes O A r τ s.store (atSite site context x s).state.store := by
  cases he : s.evaluationAt? site context with
  | none =>
      obtain ⟨e, happly⟩ := atSite_of_none (x := x) he
      rw [happly]
      exact hg.passes_self
  | some e =>
      obtain ⟨k, hsite, hmap⟩ := Option.bind_eq_some_iff.mp he
      obtain ⟨place, hplace, rfl⟩ := Option.map_eq_some_iff.mp hmap
      obtain ⟨p, hp, hτ⟩ := hk k hsite
      cases place with
      | ofNamespace i =>
          obtain ⟨⟨-, hg'⟩, ⟨-, hspares, hsize⟩, -⟩ :=
            hx ⟨p, hp, hτ⟩ (hs.isAlive_of_place hplace) (hI i hplace) ⟨hs.store, hg⟩
          rw [Store.atSite_of_some hp] at hg' hspares hsize
          rw [atSite_apply x hsite hplace hp]
          exact ⟨hg', hspares, hsize⟩
      | ofStub holder =>
          obtain ⟨stub, -, hstore⟩ := atSite_apply_stub (x := x) hsite hplace hp
          rw [hstore]
          exact hg.passes_settle hp hτ _

/-- **What is asked of a site that reports elsewhere**, without calling handlers. -/
theorem asked_passes (hs : s.Sound) (hg : Guarded O A r τ s.store)
    (hk : ∀ k, s.sites.get? site = some k → s.store.Elsewhere τ k)
    (hx : ∀ {i} {ρ : Reading World}, ρ.scope.isAlive i = true →
      (x (World.scope i)).Keeps (Reading.contract fun _ => True) ρ fun _ _ => True)
    (hscope : ∀ (i : NamespaceId) (ρ : Reading World), (x (World.scope i) ρ).state.scope = ρ.scope) :
    Passes O A r τ s.store (atSite site context x s).state.store :=
  atSite_passes hs hg hk (I := fun _ => True) (fun _ _ => trivial) fun hk hi _ =>
    Store.atSite_guarded_of_scope hk (Store.atSite_keeps _ fun _ _ => hx hi) (hscope _)

end evaluations

/-- **Repeated evaluations of a site that reports elsewhere**, where handlers obey. -/
theorem repeated_passes {context : ContextTerm} (hs : s.Sound) (hg : Guarded O A r τ s.store)
    (hk : ∀ k, s.sites.get? site = some k → s.store.Elsewhere τ k)
    (hA : ∀ i, s.place? context = some (.ofNamespace i) → A i) (n : Nat) :
    Passes O A r τ s.store (Action.repeated n (atSite site context Reading.evaluate) s).state.store := by
  have honce : ∀ {s : Session}, s.Sound → Guarded O A r τ s.store →
      (∀ k, s.sites.get? site = some k → s.store.Elsewhere τ k) →
      (∀ i, s.place? context = some (.ofNamespace i) → A i) →
      Passes O A r τ s.store (atSite site context Reading.evaluate s).state.store :=
    fun hs hg hk hA => atSite_passes hs hg hk hA fun hk hi hAi => Store.evaluate_guarded hk hi hAi
  induction n generalizing s with
  | zero => exact honce hs hg hk hA
  | succ n ih =>
      have hkeeps : (atSite site context Reading.evaluate).Keeps (reading fun _ _ => True) s fun _ _ => True :=
        atSite_keeps Reading.evaluate_keeps fun _ _ => trivial
      obtain ⟨hs', ⟨-, hnames⟩, -⟩ := hkeeps hs
      have hfirst := honce hs hg hk hA
      refine hfirst.trans (ih hs' hfirst.guarded (fun k hsite => ?_) fun i hplace => ?_)
      · rw [hnames.sites] at hsite
        exact hfirst.spares.elsewhere (hk k hsite)
      · rw [hnames.place?_eq] at hplace
        exact hA i hplace

/-! ### Sites and scopes -/

/-- A name lets go of a site that reports elsewhere. -/
theorem dropSite_watched (hold : ∀ k, s.sites.get? holder = some k → s.store.Elsewhere τ k) :
    (dropSite holder).Keeps (watching O A r τ) s fun _ _ => True := by
  unfold dropSite
  refine Action.Keeps.read_bind fun _ => ?_
  cases hk : s.sites.get? holder with
  | none => exact Action.Keeps.pure trivial
  | some k =>
      have herase : (Action.modify fun s : Session => { s with sites := s.sites.erase holder }).Keeps
          (watching O A r τ) s fun _ t => t.store = s.store :=
        fun hs => ⟨hs, (guarding O A r τ).refl s.store [], fun _ _ => rfl⟩
      refine Action.Keeps.bind herase fun _ t _ _ _ ht => ?_
      have hdrop : (Store.dropSite k).Keeps (guarding O A r τ) t.store fun _ _ => True := by
        rw [ht]
        exact Store.dropSite_guarded (hold k hk)
      exact Action.Keeps.bind (onStore_watched hdrop) fun _ _ _ _ _ _ => Action.Keeps.pure trivial

theorem bindSite_watched (hold : ∀ k, s.sites.get? holder = some k → s.store.Elsewhere τ k) (k : SiteId) :
    (bindSite holder k).Keeps (watching O A r τ) s fun _ _ => True := by
  unfold bindSite
  exact Action.Keeps.bind (dropSite_watched hold) fun _ _ _ _ _ _ => watched_of_store_eq rfl

/-- A site is made that reports elsewhere, and takes the place of one that does. -/
theorem making_watched {x : Action Store SiteId} {q : SiteId → Store → Prop}
    (hold : ∀ k, s.sites.get? holder = some k → s.store.Elsewhere τ k)
    (hx : x.Keeps (guarding O A r τ) s.store q) :
    (do let k ← onStore x
        bindSite holder k
        return Answer.done : Action Session Answer).Keeps (watching O A r τ) s fun _ _ => True := by
  refine Action.Keeps.bind (onStore_watched hx) fun k t _ _ hstep hq => ?_
  refine Action.Keeps.map (bindSite_watched (fun k' hk' => ?_) k)
  rw [hq.2] at hk'
  exact hstep.2.1.elsewhere (hold k' hk')

/-- A scope is asked where handlers obey. -/
theorem survey_watched {context : ContextTerm} (name : String)
    (hA : ∀ i, s.place? context = some (.ofNamespace i) → A i) :
    (survey context name).Keeps (watching O A r τ) s fun _ _ => True := by
  refine overlooks_watching.survey_keeps name fun i hplace => ?_
  have hsurvey := Scope.survey_keeps (fun w => World.dispatch_walled (O := O) w (hA i hplace) name) s.store.world
  exact (onWorld_watched hsurvey).imp fun _ _ _ _ => trivial

/-- What a name holds that may be left out. -/
theorem heldIfNamed_named {c : Contract Session} {name : Option String} {P : NamespaceId → Prop}
    (hP : ∀ holder ∈ name, ∀ i, s.store.world.held.get? holder = some i → P i) :
    (heldIfNamed name).Keeps c s fun o t => t = s ∧ ∀ i, o = some i → P i := by
  cases name with
  | none => exact Action.Keeps.pure ⟨rfl, nofun⟩
  | some holder =>
      refine Action.Keeps.bind (heldNamespace_keeps holder) ?_
      rintro i _ _ - - ⟨rfl, hi⟩
      refine Action.Keeps.pure ⟨rfl, fun j hj => ?_⟩
      rw [← Option.some.inj hj]
      exact hP holder rfl i hi

/-- The counters that are spoken of. -/
theorem heldTally_spoken {c : Contract Session} (tally : TallyTerm) :
    (heldTally tally).Keeps c s fun τ t => t = s ∧ s.tallyOf? tally = some τ := by
  cases ht : s.tallyOf? tally with
  | none =>
      obtain ⟨e, he⟩ := heldTally_of_none ht
      exact Action.Keeps.congr he Action.Keeps.fail
  | some τ => exact Action.Keeps.congr (heldTally_of_some ht) (Action.Keeps.pure ⟨rfl, rfl⟩)

/-! ### Commands that are done through another realm -/

section commands

variable (hp : s.store.Parted) (hs : s.Sound) (hr : r < s.store.realms.size) (hne : r ≠ actor)

include hr hne

theorem not_mem_of_owns (h : s.OwnsNamespace actor holder) (hi : s.store.world.held.get? holder = some i) :
    i ∉ s.store.territory r := h i hi r hr hne

omit hr in
theorem ne_of_ownsRealm (h : s.OwnsRealm actor holder) {a : RealmId} (ha : s.realms.get? holder = some a) :
    a ≠ r := by
  rw [h a ha]
  exact Ne.symm hne

include hs

theorem elsewhere_of_owns (h : s.OwnsSite actor holder) (hk : s.sites.get? holder = some k) :
    s.store.Elsewhere (s.store.realm r).tally k := by
  obtain ⟨p, hp⟩ := hs.exists_site hk
  exact ⟨p, hp, h k hk p hp r hr hne⟩

/-- Handlers that act on what another realm owns obey. -/
theorem obedient_of_within (hi : s.store.world.isAlive i = true) (h : s.store.HandlersWithin actor i) :
    World.Obedient (· ∈ s.store.territory r) (Reaches s.store.world.asks i) s.store.world := by
  refine World.obedient_of_answerers fun j hj => ?_
  obtain ⟨hown, hbinds⟩ := h j ((World.mem_answerers (fun hh => hs.isAlive_of_held hh) hi).mpr hj)
  exact ⟨hown r hr hne, fun t ht => hbinds t ht r hr hne⟩

theorem exists_obedient {context : ContextTerm} (h : s.HandlersWithin actor context) :
    ∃ A, World.Obedient (· ∈ s.store.territory r) A s.store.world ∧
      ∀ i, s.place? context = some (.ofNamespace i) → A i := by
  cases hplace : s.place? context with
  | none => exact ⟨World.nobody, World.Obedient.nobody _ _, nofun⟩
  | some place =>
      cases place with
      | ofNamespace i =>
          refine ⟨_, obedient_of_within hs hr hne (hs.isAlive_of_place hplace) (h _ hplace i rfl), fun j hj => ?_⟩
          obtain rfl : i = j := Place.ofNamespace.inj (Option.some.inj hj)
          exact Reaches.refl _ i
      | ofStub holder => exact ⟨World.nobody, World.Obedient.nobody _ _, nofun⟩

/-- A superclass that may be left out lives outside of the realm's territory. -/
theorem heldIfNamed_outside {c : Contract Session} {sup : Option String}
    (h : ∀ holder ∈ sup, s.OwnsNamespace actor holder) :
    (heldIfNamed sup).Keeps c s fun o t => t = s ∧
      ∀ i, o = some i → s.store.world.isAlive i = true ∧ i ∉ s.store.territory r :=
  heldIfNamed_named fun holder hmem _ hi => ⟨hs.isAlive_of_held hi, not_mem_of_owns hr hne (h holder hmem) hi⟩

include hp

/-- Handlers are called that act on what another realm owns. -/
theorem dispatch_passes {ns : String} (name : String) (hc : s.Owns actor (.dispatch ns name)) :
    Passes (· ∈ s.store.territory r) World.nobody r (s.store.realm r).tally s.store
      (perform (.dispatch ns name) s).state.store := by
  have hnobody := hp.guarded hr (World.Obedient.nobody _ _)
  cases hi : s.store.world.held.get? ns with
  | none =>
      refine passes_of_watched hs hnobody (q := fun _ _ => True)
        (Action.Keeps.bind_still (heldNamespace_keeps ns) fun i hj => ?_)
      exact absurd (hi.symm.trans hj) (Option.some_ne_none i).symm
  | some i =>
      have hobey := obedient_of_within hs hr hne (hs.isAlive_of_held hi) (hc i hi)
      refine Passes.free (passes_of_watched hs (hp.guarded hr hobey) (q := fun _ _ => True)
        (Action.Keeps.bind_still (heldNamespace_keeps ns) fun j hj => ?_))
      obtain rfl : i = j := Option.some.inj (hi.symm.trans hj)
      exact Action.Keeps.map (onWorld_watched (World.dispatch_walled _ (Reaches.refl _ i) name))

/-- **What is done through another realm passes a realm by.** -/
theorem perform_passes {c : Command} (hc : s.Owns actor c) (hnew : ∀ holder policy, c ≠ .newRealm holder policy) :
    Passes (· ∈ s.store.territory r) World.nobody r (s.store.realm r).tally s.store (perform c s).state.store := by
  have hg := hp.guarded hr (World.Obedient.nobody _ _)
  have hout : ∀ {holder}, s.OwnsNamespace actor holder → ∀ i, s.store.world.held.get? holder = some i →
      i ∉ s.store.territory r := fun h _ hi => not_mem_of_owns hr hne h hi
  have hrealm : ∀ {holder}, s.OwnsRealm actor holder → ∀ a, s.realms.get? holder = some a → a ≠ r :=
    fun h _ ha => ne_of_ownsRealm hne h ha
  have hsite : ∀ {holder}, s.OwnsSite actor holder → ∀ k, s.sites.get? holder = some k →
      s.store.Elsewhere (s.store.realm r).tally k := fun h _ hk => elsewhere_of_owns hs hr hne h hk
  have hwatched : ∀ {x : Action Session Answer},
      x.Keeps (watching (· ∈ s.store.territory r) World.nobody r (s.store.realm r).tally) s (fun _ _ => True) →
      Passes (· ∈ s.store.territory r) World.nobody r (s.store.realm r).tally s.store (x s).state.store :=
    fun hx => passes_of_watched hs hg hx
  have hmap : ∀ {β : Type} {x : Action Session β} {g : β → Answer},
      Passes (· ∈ s.store.territory r) World.nobody r (s.store.realm r).tally s.store (x s).state.store →
      Passes (· ∈ s.store.territory r) World.nobody r (s.store.realm r).tally s.store
        ((x >>= fun b => pure (g b)) s).state.store := by
    intro β x g h
    rwa [Action.bind_pure_apply]
  cases c with
  | openClass holder name parent sup realm =>
      obtain ⟨hcr, hcp, hcs, hch⟩ := hc
      refine creating_passes hs hg (hout hch) ?_
      refine Action.Keeps.bind_still (held_keeps realms realm) fun a ha => ?_
      refine Action.Keeps.bind_still (heldNamespace_keeps parent) fun p hpar => ?_
      refine Action.Keeps.bind_still (heldIfNamed_outside hs hr hne hcs) fun o hsup => ?_
      exact (onStore_watched (Store.openClass_guarded (hrealm hcr a ha) name (hs.isAlive_of_held hpar)
        (fun h => (hsup _ h).1) (hout hcp p hpar) fun h => (hsup _ h).2)).imp fun _ _ _ h => h.1
  | openModule holder name parent realm =>
      obtain ⟨hcr, hcp, hch⟩ := hc
      refine creating_passes hs hg (hout hch) ?_
      refine Action.Keeps.bind_still (held_keeps realms realm) fun a ha => ?_
      refine Action.Keeps.bind_still (heldNamespace_keeps parent) fun p hpar => ?_
      exact (onStore_watched (Store.openModule_guarded (hrealm hcr a ha) name (hs.isAlive_of_held hpar)
        (hout hcp p hpar))).imp fun _ _ _ h => h.1
  | newClass holder name parent sup =>
      obtain ⟨hcp, hcs, hch⟩ := hc
      refine creating_passes hs hg (hout hch) ?_
      refine Action.Keeps.bind_still (heldNamespace_keeps parent) fun p hpar => ?_
      refine Action.Keeps.bind_still (heldIfNamed_outside hs hr hne hcs) fun o hsup => ?_
      exact onWorld_watched (World.newClass_walled name (hs.isAlive_of_held hpar) (fun h => (hsup _ h).1)
        (hout hcp p hpar) fun h => (hsup _ h).2)
  | newModule holder name parent =>
      refine creating_passes hs hg (hout hc.2) ?_
      refine Action.Keeps.bind_still (heldNamespace_keeps parent) fun p hpar => ?_
      exact onWorld_watched (World.newModule_walled name (hs.isAlive_of_held hpar) (hout hc.1 p hpar))
  | newTopLevel holder =>
      exact creating_passes hs hg (hout hc) (onWorld_watched (World.newTopLevel_walled _))
  | dropNamespace holder => exact hg.passes_letGo (hout hc)
  | define ns name value =>
      refine hwatched (Action.Keeps.bind_still (heldNamespace_keeps ns) fun i hi => ?_)
      refine Action.Keeps.bind (valueOf_keeps value) ?_
      rintro v _ _ - - rfl
      exact Action.Keeps.map (onWorld_watched (World.define_walled _ (hout hc i hi) name v))
  | remove ns name =>
      refine hwatched (Action.Keeps.bind_still (heldNamespace_keeps ns) fun i hi => ?_)
      exact Action.Keeps.map (onWorld_watched (World.remove_walled _ (hout hc i hi) name))
  | includeModule ns mixin =>
      refine hwatched (Action.Keeps.bind_still (heldNamespace_keeps ns) fun i hi => ?_)
      refine Action.Keeps.bind_still (heldNamespace_keeps mixin) fun m hm => ?_
      exact Action.Keeps.map (onWorld_watched (World.includeModule_walled (hs.isAlive_of_held hi)
        (hs.isAlive_of_held hm) (hout hc.1 i hi) (hout hc.2 m hm)))
  | reopen ns =>
      refine hwatched (Action.Keeps.bind_still (heldNamespace_keeps ns) fun i hi => ?_)
      exact Action.Keeps.map (onWorld_watched (World.reopen_walled _ (hout hc i hi)))
  | setHandler ns label response =>
      refine hwatched (Action.Keeps.bind_still (heldNamespace_keeps ns) fun i hi => ?_)
      exact Action.Keeps.map (onWorld_watched (World.setHandler_walled _ (hout hc i hi) _))
  | dispatch ns name => exact dispatch_passes hp hs hr hne name hc
  | survey context name =>
      obtain ⟨A, hobey, hA⟩ := exists_obedient hs hr hne hc
      exact Passes.free (passes_of_watched hs (hp.guarded hr hobey) (Action.Keeps.map (survey_watched name hA)))
  | newSite holder name position realm =>
      refine hwatched (Action.Keeps.bind_still (held_keeps realms realm) fun a ha => ?_)
      exact making_watched (hsite hc.2) (Store.makeSite_guarded (hrealm hc.1 a ha) name position (hs.realms ha).1)
  | newFreeSite holder name position policy tally =>
      refine hwatched (Action.Keeps.bind_still (heldTally_spoken tally) fun t ht => ?_)
      exact making_watched (hsite hc.2) (Store.newSite_guarded name position policy (hc.1 t ht r hr hne))
  | dropSite holder => exact hwatched (Action.Keeps.map (dropSite_watched (hsite hc)))
  | evaluate site context times =>
      obtain ⟨A, hobey, hA⟩ := exists_obedient hs hr hne hc.2
      exact hmap (repeated_passes hs (hp.guarded hr hobey) (hsite hc.1) hA (times - 1)).free
  | resolve site context =>
      exact hmap (asked_passes hs hg (hsite hc) (fun h => Reading.resolve_keeps h trivial) Reading.resolve_scope)
  | siteDefined site context =>
      exact hmap (asked_passes hs hg (hsite hc) (fun h => Reading.isDefined_keeps h trivial) Reading.isDefined_scope)
  | definition site context =>
      exact hmap (asked_passes hs hg (hsite hc) (fun h => Reading.definition_keeps h trivial) Reading.definition_scope)
  | invalidate site =>
      refine hwatched (Action.Keeps.bind_still (held_keeps sites site) fun k hk => ?_)
      exact Action.Keeps.map (onStore_watched (Store.invalidate_guarded (hsite hc k hk)))
  | rename site name =>
      refine hwatched (Action.Keeps.bind_still (held_keeps sites site) fun k hk => ?_)
      exact Action.Keeps.map (onStore_watched (Store.renameSite_guarded (hsite hc k hk) name))
  | newRealm holder policy => exact absurd rfl (hnew holder policy)
  | invalidateAll realm =>
      refine hwatched (Action.Keeps.bind_still (held_keeps realms realm) fun a ha => ?_)
      exact Action.Keeps.map (onStore_watched (Store.invalidateAll_guarded (hrealm hc a ha)))
  | newTally holder =>
      refine hwatched (Action.Keeps.bind (onStore_watched Store.newTally_guarded) fun _ _ _ _ _ _ => ?_)
      exact watched_of_store_eq rfl
  | record tally event times =>
      refine hwatched (Action.Keeps.bind_still (heldTally_spoken tally) fun t ht => ?_)
      exact Action.Keeps.map (onStore_watched (Action.Keeps.times
        (fun _ _ _ _ _ => Store.record_guarded (hc t ht r hr hne) event) times 0))
  | work realm workload iterations => exact hc.elim
  | _ => exact hwatched (overlooks_watching.perform_keeps rfl)

end commands

/-! ### Making a realm -/

section newRealm

variable (hp : s.store.Parted) (hs : s.Sound)

/-- The session with one realm more, before any name holds it. -/
def withRealm (s : Session) (policy : Policy) : Session := { s with store := (Store.newRealm policy s.store).state }

theorem perform_newRealm_store (s : Session) (holder : String) (policy : Policy) :
    (perform (.newRealm holder policy) s).state.store =
      { (s.withRealm policy).withoutRealm holder with
        world := ((s.withRealm policy).withoutRealm holder).world.hold (holder ++ ".top") (s.store.world.size + 1) } := by
  have hmake : onStore (Store.newRealm policy) s = ⟨s.withRealm policy, [], .ok s.store.realms.size⟩ := rfl
  have htop : (((s.withRealm policy).store.realm s.store.realms.size).top) = s.store.world.size + 1 := by
    rw [withRealm, Store.realm_newRealm, if_pos rfl]
  have hbind := bindRealm_eq (s.withRealm policy) holder s.store.realms.size
  rw [Action.modify_apply] at hbind
  show ((startRealm holder (holder ++ ".top") policy >>= fun i => pure (Answer.number i)) s).state.store = _
  rw [Action.bind_pure_apply]
  unfold startRealm
  rw [Action.bind_of_quiet hmake, Action.read_bind, htop, Action.bind_of_quiet hbind]
  rfl

include hs in
theorem sound_withRealm (policy : Policy) : (s.withRealm policy).Sound :=
  (onStore_keeps_of_none (R := fun _ _ => False) (Store.newRealm_keeps policy) hs).1

theorem held_withoutRealm (s : Session) (policy : Policy) (holder : String) :
    ((s.withRealm policy).withoutRealm holder).world.held = s.store.world.held := by
  have hheld : (s.withRealm policy).store.world.held = s.store.world.held :=
    (World.held_update _ _ _).trans (World.held_create _ _)
  unfold withoutRealm
  cases (s.withRealm policy).realms.get? holder with
  | none => exact hheld
  | some o => exact (Store.release_spec _ (s.withRealm policy).store.world).2.1.trans hheld

theorem size_withRealm (s : Session) (policy : Policy) :
    (s.withRealm policy).store.realms.size = s.store.realms.size + 1 := Store.size_newRealm policy s.store

/-- The new realm has a new top level registered, and nothing else. -/
theorem mem_registered_withRealm (s : Session) (policy : Policy) :
    s.store.world.size + 1 ∈ ((s.withRealm policy).store.realm s.store.realms.size).registered := by
  show _ ∈ ((Store.newRealm policy s.store).state.realm s.store.realms.size).registered
  rw [Store.realm_newRealm, if_pos rfl]
  exact List.mem_singleton_self _

include hs in
theorem isAlive_withoutRealm (policy : Policy) (holder : String) :
    ((s.withRealm policy).withoutRealm holder).world.isAlive (s.store.world.size + 1) = true := by
  obtain ⟨hsound, -, -, -, hrealm⟩ := withoutRealm_spec (sound_withRealm hs policy) holder
  refine hsound.isAlive_of_mem (r := s.store.realms.size) ?_
  rw [hrealm (size_withRealm s policy ▸ Nat.lt_succ_self _) fun h => Nat.lt_irrefl _ (hs.realms h).1]
  exact mem_registered_withRealm s policy

include hp in
theorem untouched_withRealm (policy : Policy) (hr : r < s.store.realms.size) :
    Store.Untouched r s.store (s.withRealm policy).store := by
  obtain ⟨hg, hspares⟩ := (hp.guarded hr (World.Obedient.nobody _ _)).newRealm policy
  exact hp.untouched hg hspares

/-- Giving up what a name holds passes all other realms by. -/
theorem withoutRealm_passes (hp : s.store.Parted) (hr : r < s.store.realms.size) (hne : r ≠ actor)
    (hold : s.OwnsRealm actor holder) :
    Passes (· ∈ s.store.territory r) World.nobody r (s.store.realm r).tally s.store (s.withoutRealm holder) := by
  have hg := hp.guarded hr (World.Obedient.nobody _ _)
  unfold withoutRealm
  cases ho : s.realms.get? holder with
  | none => exact hg.passes_self
  | some o =>
      obtain rfl : o = actor := hold o ho
      exact hg.passes_dropRealm (Ne.symm hne)

variable {policy : Policy} (hc : s.Owns actor (.newRealm holder policy))

include hp hs hc

/-- The namespace that the top level is to replace in a name is in no territory but the actor's, the new one
included. -/
theorem not_mem_of_replaced (hr : r < (s.withRealm policy).store.realms.size) (hne : r ≠ actor) {o : NamespaceId}
    (ho : ((s.withRealm policy).withoutRealm holder).world.held.get? (holder ++ ".top") = some o) :
    o ∉ (s.withRealm policy).store.territory r := by
  intro hmem
  rw [held_withoutRealm] at ho
  by_cases hsize : r = s.store.realms.size
  · subst hsize
    exact World.ne_of_alive (hs.isAlive_of_held ho) (hs.store.territory_newRealm hmem)
  · have hr' := Store.lt_of_newRealm hr hsize
    rw [(untouched_withRealm hp policy hr').territory] at hmem
    exact hc.2 o ho r hr' hne hmem

/-- **A realm that is made in place of another one leaves all others untouched and apart.** -/
theorem newRealm_isolated :
    let t := (perform (.newRealm holder policy) s).state.store
    (∀ r < s.store.realms.size, r ≠ actor → Store.Untouched r s.store t) ∧ t.Apart ∧
      s.store.realms.size ≤ t.realms.size := by
  intro t
  let m := s.withRealm policy
  let u := m.withoutRealm holder
  have hm : m.store.Parted := hp.newRealm policy
  have hmsize : m.store.realms.size = s.store.realms.size + 1 := size_withRealm s policy
  have husize : u.realms.size = m.store.realms.size := (withoutRealm_spec (sound_withRealm hs policy) holder).2.2.2.1
  have ht : t = { u with world := u.world.hold (holder ++ ".top") (s.store.world.size + 1) } :=
    perform_newRealm_store s holder policy
  have htop : u.world.isAlive (s.store.world.size + 1) = true := isAlive_withoutRealm hs policy holder
  have hdrop : ∀ {r}, r < m.store.realms.size → r ≠ actor →
      Passes (· ∈ m.store.territory r) World.nobody r (m.store.realm r).tally m.store u :=
    fun hr hne => withoutRealm_passes hm hr hne hc.1
  have hold : ∀ {r}, r < m.store.realms.size → r ≠ actor → ∀ o, u.world.held.get? (holder ++ ".top") = some o →
      o ∉ m.store.territory r := fun hr hne _ ho => not_mem_of_replaced hp hs hc hr hne ho
  refine ⟨fun r hr hne => ?_, ?_, ?_⟩
  · have hrm : r < m.store.realms.size := hmsize ▸ Nat.lt_succ_of_lt hr
    have hout : s.store.world.size + 1 ∉ m.store.territory r :=
      hm.apart _ (hmsize ▸ Nat.lt_succ_self _) _ (hm.sound.mem_territory_of_mem (mem_registered_withRealm s policy))
        r hrm (Nat.ne_of_lt hr)
    have hpasses := (hdrop hrm hne).trans ((hdrop hrm hne).guarded.passes_hold htop hout (hold hrm hne))
    rw [ht]
    exact (untouched_withRealm hp policy hr).trans (hm.untouched hpasses.guarded hpasses.spares)
  · refine Store.apart_of_guarded actor (sound_perform hs _).store fun r hr hne => ?_
    have hrm : r < m.store.realms.size := by
      rw [← husize]
      have hr' : r < t.realms.size := hr
      rwa [ht] at hr'
    refine ⟨_, _, _, ht ▸ (hdrop hrm hne).guarded.hold htop (hold hrm hne), ?_⟩
    have hreg := hm.registered_of_spares (hdrop hrm hne).spares
    show ∀ i ∈ (t.realm r).registered, i ∈ m.store.territory r
    rw [ht]
    exact hreg
  · rw [ht]
    show s.store.realms.size ≤ u.realms.size
    rw [husize, hmsize]
    exact Nat.le_succ _

end newRealm

/-! ### Settled sessions -/

/-- A session with what all commands keep: what lives in it is held, and realms have counters and sites of their
own. -/
structure Settled (s : Session) : Prop where
  sound : s.Sound
  listed : s.store.Listed
  tidy : s.store.Tidy
  numbered : s.store.Numbered

theorem settled_start (policy : Policy) : (start policy).Settled where
  sound := sound_start policy
  listed := listed_start policy
  tidy := (run_start policy).tidy Store.Tidy.empty
  numbered := (run_start policy).numbered ⟨nofun, nofun⟩

theorem Settled.perform (h : s.Settled) (c : Command) : (Session.perform c s).state.Settled := by
  obtain ⟨ds, hrun, -⟩ := perform_does h.sound h.listed c
  exact ⟨sound_perform h.sound c, hrun.listed h.listed, hrun.tidy h.tidy, hrun.numbered h.numbered⟩

theorem Settled.parted (h : s.Settled) (ha : s.store.Apart) : s.store.Parted :=
  ⟨h.sound.store, h.tidy.upheld, h.listed, h.numbered, ha⟩

theorem Settled.after (h : s.Settled) (cs : List Command) : (s.after cs).Settled := by
  induction cs generalizing s with
  | nil => exact h
  | cons c cs ih => exact ih (h.perform c)

/-! ### Interleavings -/

/-- Commands that are each done through a realm. -/
def Interleaved : Session → List (RealmId × Command) → Prop
  | _, [] => True
  | s, (r, c) :: acts => s.Owns r c ∧ Interleaved (perform c s).state acts

instance decidableInterleaved : (s : Session) → (acts : List (RealmId × Command)) → Decidable (s.Interleaved acts)
  | _, [] => isTrue trivial
  | s, (r, c) :: acts =>
    have := decidableInterleaved (perform c s).state acts
    inferInstanceAs (Decidable (s.Owns r c ∧ Interleaved (perform c s).state acts))

/-- The session after commands, whatever realms they are done through. -/
def afterAll (s : Session) (acts : List (RealmId × Command)) : Session := s.after (acts.map Prod.snd)

theorem interleaved_append {xs ys : List (RealmId × Command)} :
    s.Interleaved (xs ++ ys) ↔ s.Interleaved xs ∧ (s.afterAll xs).Interleaved ys := by
  induction xs generalizing s with
  | nil => exact (and_iff_right trivial).symm
  | cons a xs ih => exact (and_congr_right' ih).trans and_assoc.symm

/-- **A command that is done through one realm leaves all others untouched**, and realms stay apart. -/
theorem isolated_perform (hp : s.store.Parted) (hs : s.Sound) (hmany : 1 < s.store.realms.size) {c : Command}
    (hc : s.Owns actor c) :
    (∀ r < s.store.realms.size, r ≠ actor → Store.Untouched r s.store (perform c s).state.store) ∧
      (perform c s).state.store.Apart ∧ s.store.realms.size ≤ (perform c s).state.store.realms.size := by
  by_cases hnew : ∃ holder policy, c = .newRealm holder policy
  · obtain ⟨holder, policy, rfl⟩ := hnew
    exact newRealm_isolated hp hs hc
  · have hpasses := fun r hr hne => perform_passes (r := r) hp hs hr hne hc fun holder policy heq =>
      hnew ⟨holder, policy, heq⟩
    -- There is another realm, which tells how many there are afterwards.
    obtain ⟨r, hr, hne⟩ : ∃ r < s.store.realms.size, r ≠ actor := by
      by_cases hzero : actor = 0
      · exact ⟨1, hmany, hzero ▸ Nat.one_ne_zero⟩
      · exact ⟨0, Nat.lt_of_succ_lt hmany, Ne.symm hzero⟩
    have hsize := (hpasses r hr hne).realms
    refine ⟨fun r hr hne => hp.untouched (hpasses r hr hne).guarded (hpasses r hr hne).spares, ?_, hsize.ge⟩
    refine Store.apart_of_guarded actor (sound_perform hs c).store fun r hr hne => ?_
    have hpass := hpasses r (hsize ▸ hr) hne
    exact ⟨_, _, _, hpass.guarded, hp.registered_of_spares hpass.spares⟩

/-- **Realms stay apart in every interleaving**, and one that nothing is done through is untouched. -/
theorem Interleaved.isolated {acts : List (RealmId × Command)} (h : s.Settled) (ha : s.store.Apart)
    (hmany : 1 < s.store.realms.size) (hacts : s.Interleaved acts) :
    (s.afterAll acts).store.Apart ∧ s.store.realms.size ≤ (s.afterAll acts).store.realms.size ∧
      ∀ r < s.store.realms.size, (∀ a ∈ acts, a.1 ≠ r) → Store.Untouched r s.store (s.afterAll acts).store := by
  induction acts generalizing s with
  | nil => exact ⟨ha, Nat.le_refl _, fun r _ _ => Store.Untouched.refl r s.store⟩
  | cons a acts ih =>
      obtain ⟨actor, c⟩ := a
      obtain ⟨huntouched, hapart, hsize⟩ := isolated_perform (h.parted ha) h.sound hmany hacts.1
      obtain ⟨hapart', hsize', huntouched'⟩ := ih (h.perform c) hapart (hmany.trans_le hsize) hacts.2
      refine ⟨hapart', hsize.trans hsize', fun r hr hne => ?_⟩
      have hfirst := huntouched r hr (Ne.symm (hne _ List.mem_cons_self))
      exact hfirst.trans (huntouched' r (hr.trans_le hsize) fun a ha => hne a (List.mem_cons_of_mem _ ha))

/-- **Realms are isolated.**  From any session on with several realms whose territories are apart, let commands be
interleaved of which each is done through one realm.  Then territories are apart all the time; and over every
stretch of the interleaving, each realm that nothing is done through in it is untouched. -/
theorem realms_isolated (policy : Policy) (bs : List Command) (acts : List (RealmId × Command))
    (hmany : 1 < ((start policy).after bs).store.realms.size) (hapart : ((start policy).after bs).store.Apart)
    (hacts : ((start policy).after bs).Interleaved acts) :
    ∀ xs ys zs, acts = xs ++ ys ++ zs →
      let s := ((start policy).after bs).afterAll xs
      (s.afterAll ys).store.Apart ∧
        ∀ r < s.store.realms.size, (∀ a ∈ ys, a.1 ≠ r) → Store.Untouched r s.store (s.afterAll ys).store := by
  rintro xs ys zs rfl s
  obtain ⟨hactsxy, -⟩ := interleaved_append.mp hacts
  obtain ⟨hactsx, hactsy⟩ := interleaved_append.mp hactsxy
  have h := (settled_start policy).after bs
  obtain ⟨hapart', hsize, -⟩ := hactsx.isolated h hapart hmany
  obtain ⟨hapart'', -, huntouched⟩ := hactsy.isolated (h.after _) hapart' (hmany.trans_le hsize)
  exact ⟨hapart'', huntouched⟩

/-- Two realms with a class, a module and a site each; in one of them a handler binds missing names in the class. -/
def neighbourhood : List Command :=
  [.newRealm "other" {}, .openClass "a" "A" "top" none "main", .openModule "m" "M" "top" "main",
    .openClass "b" "A" "other.top" none "other", .openModule "n" "M" "other.top" "other",
    .newSite "here" "X" .unknown "main", .newSite "there" "X" .unknown "other",
    .define "b" "X" (.value (.int 1)), .setHandler "a" none (.defineIn "a" (.value (.int 2)))]

/-- What is done through the two realms in turn. -/
def turns : List (RealmId × Command) :=
  [(1, .evaluate "there" ⟨.heldNamespace "b", none⟩ 2),
    (0, .includeModule "a" "m"), (0, .evaluate "here" ⟨.heldNamespace "a", some "top"⟩ 2), (0, .invalidateAll "main"),
    (1, .includeModule "b" "n"), (1, .dropNamespace "n")]

set_option maxRecDepth 10000 in
/-- The site of the other realm keeps its memo, while a handler is called and all sites are invalidated. -/
theorem realms_isolated_turns :
    let s := ((start {}).after neighbourhood).afterAll (turns.take 1)
    let t := s.afterAll ((turns.drop 1).take 3)
    Store.Untouched 1 s.store t.store ∧ t.store.Apart ∧
      s.store.world.local? 3 "X" = none ∧ t.store.world.local? 3 "X" = some (.int 2) ∧
      (t.store.site? 1).map (fun p => p.site.memo) = some (some ⟨.int 1, 3⟩) := by
  obtain ⟨hapart, huntouched⟩ := realms_isolated {} neighbourhood turns (by decide +kernel) (by decide +kernel)
    (by decide +kernel) (turns.take 1) ((turns.drop 1).take 3) (turns.drop 4) rfl
  refine ⟨huntouched 1 (by decide +kernel) (by decide), hapart, ?_, ?_, ?_⟩ <;> decide +kernel

end ConstantResolution.Session
