import ConstantResolution.Proofs.Benchmark.Agreement
import ConstantResolution.Proofs.Session.Runs

/-! # Sessions under different policies

Two sessions are alike when their stores are and when names hold the same.  Commands agree in sessions
that are alike as long as each site that is held by a name is fresh where it is evaluated
(`showing_agrees`): they answer the same, apart from what they tell of memos, counters and policies, and
they call the same handlers.  This is so even when the commands themselves give different policies to
the realms and sites that they make. -/

namespace ConstantResolution

/-- The same command, perhaps with another policy for what it makes. -/
inductive Command.SameButPolicy : Command → Command → Prop
  | refl (c) : SameButPolicy c c
  | newRealm (holder policy policy') :
      SameButPolicy (.newRealm holder policy) (.newRealm holder policy')
  | newFreeSite (holder name position policy policy' tally) :
      SameButPolicy (.newFreeSite holder name position policy tally)
        (.newFreeSite holder name position policy' tally)

/-- What is left of an answer when nothing is told of memos, counters and policies. -/
def Command.shown : Command → Answer → Answer
  | .inspectSite _, .site s => .site s.erased
  | .describeSite _, _ | .inspectTally _, _ | .policy _, _ => .done
  | _, a => a

namespace Session

/-- Two sessions that differ in policies, memos and counters only. -/
structure Alike (s t : Session) : Prop where
  store : s.store.Alike t.store
  realms : s.realms = t.realms
  sites : s.sites = t.sites
  stubs : s.stubs = t.stubs
  tallies : s.tallies = t.tallies

variable {s t : Session} {α : Type}

theorem Alike.world (h : Alike s t) : s.store.world = t.store.world := h.store.world

/-! ### Actions on parts -/

theorem onStore_agrees {x y : Action Store α} (h : Alike s t)
    (hxy : x.Agrees Store.Alike y s.store t.store fun _ _ _ => True) :
    (onStore x).Agrees Alike (onStore y) s t fun _ _ _ => True :=
  Action.Agrees.within_of hxy fun _ _ huv => ⟨huv, h.realms, h.sites, h.stubs, h.tallies⟩

theorem onWorld_agrees (h : Alike s t) (x : Action World α) :
    (onWorld x).Agrees Alike (onWorld x) s t fun _ _ _ => True :=
  onStore_agrees h (Store.onWorld_agrees h.store x)

theorem ofWorld_agrees (h : Alike s t) (f : World → α) :
    (ofWorld f).Agrees Alike (ofWorld f) s t fun _ _ _ => True :=
  fun _ _ => ⟨h, rfl, congrArg (fun w => Except.ok (f w)) h.world, fun _ _ => trivial⟩

/-! ### What names hold -/

/-- What a name holds in both sessions is used in the sessions themselves. -/
theorem held_bind_agrees {β : Type} {part : Session → Dictionary α} {holder : String}
    {f g : α → Action Session β} {r : β → Session → Session → Prop} (h : Alike s t)
    (hpart : part s = part t)
    (hfg : ∀ a, (part s).get? holder = some a → (f a).Agrees Alike (g a) s t r) :
    (held part holder >>= f).Agrees Alike (held part holder >>= g) s t r := by
  cases ha : (part s).get? holder with
  | none =>
      have hs : held part holder s = ⟨s, [], .error (.unbound holder)⟩ := by rw [held, ha]
      have ht : held part holder t = ⟨t, [], .error (.unbound holder)⟩ := by rw [held, ← hpart, ha]
      exact Action.Agrees.bind_of_fails hs ht h
  | some a =>
      have hs : held part holder s = ⟨s, [], .ok a⟩ := by rw [held, ha]
      have ht : held part holder t = ⟨t, [], .ok a⟩ := by rw [held, ← hpart, ha]
      exact Action.Agrees.bind_of_gives hs ht (hfg a ha)

theorem held_agrees {part : Session → Dictionary α} (holder : String) (h : Alike s t)
    (hpart : part s = part t) :
    (held part holder).Agrees Alike (held part holder) s t fun _ _ _ => True := by
  unfold Action.Agrees held
  rw [hpart]
  split
  · exact fun _ _ => ⟨h, rfl, rfl, fun _ _ => trivial⟩
  · exact fun _ _ => ⟨h, rfl, rfl, fun _ _ => trivial⟩

theorem heldNamespace_eq (holder : String) :
    heldNamespace holder = held (fun s => s.store.world.held) holder := by
  funext s
  rw [heldNamespace_apply, held]
  cases s.store.world.held.get? holder <;> rfl

theorem heldNamespace_bind_agrees {β : Type} {holder : String} {f g : NamespaceId → Action Session β}
    {r : β → Session → Session → Prop} (h : Alike s t)
    (hfg : ∀ i, s.store.world.held.get? holder = some i → (f i).Agrees Alike (g i) s t r) :
    (heldNamespace holder >>= f).Agrees Alike (heldNamespace holder >>= g) s t r := by
  rw [heldNamespace_eq]
  exact held_bind_agrees h (congrArg World.held h.world) hfg

theorem heldNamespace_agrees (holder : String) (h : Alike s t) :
    (heldNamespace holder).Agrees Alike (heldNamespace holder) s t fun _ _ _ => True := onWorld_agrees h _

theorem heldIfNamed_agrees (name : Option String) (h : Alike s t) :
    (heldIfNamed name).Agrees Alike (heldIfNamed name) s t fun _ _ _ => True := by
  cases name with
  | none => exact Action.Agrees.pure h trivial
  | some holder => exact Action.Agrees.map (heldNamespace_agrees holder h)

theorem heldIfNamed_bind_agrees {β : Type} {name : Option String}
    {f g : Option NamespaceId → Action Session β} {r : β → Session → Session → Prop} (h : Alike s t)
    (hfg : ∀ o, name.all (fun holder => (s.store.world.held.get? holder).isSome) = true →
      (f o).Agrees Alike (g o) s t r) :
    (heldIfNamed name >>= f).Agrees Alike (heldIfNamed name >>= g) s t r := by
  cases name with
  | none => exact hfg none rfl
  | some holder =>
      unfold heldIfNamed
      rw [Action.bind_assoc, Action.bind_assoc]
      refine heldNamespace_bind_agrees h fun i hi => hfg (some i) ?_
      rw [Option.all_some, hi]
      rfl

theorem valueOf_agrees (v : ValueTerm) (h : Alike s t) :
    (valueOf v).Agrees Alike (valueOf v) s t fun _ _ _ => True := onWorld_agrees h _

theorem heldTally_agrees (tally : TallyTerm) (h : Alike s t) :
    (heldTally tally).Agrees Alike (heldTally tally) s t fun _ _ _ => True := by
  cases tally with
  | ofRealm holder =>
      refine held_bind_agrees h h.realms fun r _ => ?_
      exact fun _ _ => ⟨h, rfl, congrArg Except.ok (h.store.tally r), fun _ _ => trivial⟩
  | heldTally holder => exact held_agrees holder h h.tallies

theorem onStub_agrees (holder : String) (x : Action Stub α) (h : Alike s t) :
    (onStub holder x).Agrees Alike (onStub holder x) s t fun _ _ _ => True := by
  refine held_bind_agrees h h.stubs fun stub _ => Action.Agrees.within rfl fun u => ?_
  exact ⟨h.store, h.realms, h.sites, by rw [h.stubs], h.tallies⟩

theorem setEntry_agrees (holder : String) (entry : Option (String × Option ValueTerm)) (h : Alike s t) :
    (setEntry holder entry).Agrees Alike (setEntry holder entry) s t fun _ _ _ => True := by
  unfold setEntry
  split
  · exact Action.Agrees.pure h trivial
  · exact onStub_agrees holder _ h
  · exact Action.Agrees.bind (valueOf_agrees _ h) fun _ _ _ h' _ => onStub_agrees holder _ h'

/-! ### Binding names -/

theorem creating_agrees (holder : String) {x : Action Session NamespaceId}
    (hx : x.Agrees Alike x s t fun _ _ _ => True) :
    (creating holder x).Agrees Alike (creating holder x) s t fun _ _ _ => True :=
  Action.Agrees.bind hx fun _ _ _ h _ => Action.Agrees.map (onWorld_agrees h _)

theorem dropNamespace_agrees (holder : String) (h : Alike s t) :
    (dropNamespace holder).Agrees Alike (dropNamespace holder) s t fun _ _ _ => True :=
  Action.Agrees.bind (ofWorld_agrees h _) fun _ _ _ h' _ => Action.Agrees.map (onWorld_agrees h' _)

theorem dropSite_agrees (holder : String) (h : Alike s t) :
    (dropSite holder).Agrees Alike (dropSite holder) s t fun _ _ _ => True := by
  unfold dropSite
  refine Action.Agrees.read_bind ?_
  rw [h.sites]
  split
  · exact Action.Agrees.pure h trivial
  · refine Action.Agrees.bind (Action.Agrees.modify (q := fun _ _ _ => True) ?_ trivial) ?_
    · exact ⟨h.store, h.realms, by rw [h.sites], h.stubs, h.tallies⟩
    · exact fun _ _ _ h' _ => Action.Agrees.map (onStore_agrees h' (Store.dropSite_agrees h'.store _))

theorem bindSite_agrees (holder : String) (k : SiteId) (h : Alike s t) :
    (bindSite holder k).Agrees Alike (bindSite holder k) s t fun _ _ _ => True := by
  refine Action.Agrees.bind (dropSite_agrees holder h) fun _ s' t' h' _ => ?_
  exact Action.Agrees.modify ⟨h'.store, h'.realms, by rw [h'.sites], h'.stubs, h'.tallies⟩ trivial

theorem bindRealm_agrees (holder : String) (r : RealmId) (h : Alike s t) :
    (bindRealm holder r).Agrees Alike (bindRealm holder r) s t fun _ _ _ => True := by
  unfold bindRealm
  refine Action.Agrees.read_bind ?_
  rw [h.realms]
  have hdrop : ∀ o : Option RealmId, (onStore (o.elim (pure ()) Store.dropRealm)).Agrees Alike
      (onStore (o.elim (pure ()) Store.dropRealm)) s t fun _ _ _ => True := by
    intro o
    cases o with
    | none => exact onStore_agrees h (Action.Agrees.pure h.store trivial)
    | some r => exact onStore_agrees h (Store.dropRealm_agrees h.store r)
  refine Action.Agrees.bind (hdrop _) fun _ s' t' h' _ => ?_
  exact Action.Agrees.modify ⟨h'.store, by rw [h'.realms], h'.sites, h'.stubs, h'.tallies⟩ trivial

/-- **A realm starts alike under all policies.** -/
theorem startRealm_agrees (holder topHolder : String) (policy policy' : Policy) (h : Alike s t) :
    (startRealm holder topHolder policy).Agrees Alike (startRealm holder topHolder policy') s t
      fun _ _ _ => True := by
  unfold startRealm
  refine Action.Agrees.bind (onStore_agrees h (Store.newRealm_agrees h.store policy policy')) ?_
  intro r s₁ t₁ h₁ _
  refine Action.Agrees.read_bind ?_
  rw [h₁.store.top]
  refine Action.Agrees.bind (bindRealm_agrees holder r h₁) fun _ s₂ t₂ h₂ _ => ?_
  exact Action.Agrees.map (onWorld_agrees h₂ _)

/-! ### Evaluations -/

/-- Sites are evaluated at home. -/
def AtHome (home : SiteId → NamespaceId) (k : SiteId) (place : Place) : Prop := place = .ofNamespace (home k)

/-- A sound session in which all sites that names hold are fresh at home. -/
structure Ready (home : SiteId → NamespaceId) (s : Session) : Prop where
  sound : s.Sound
  fresh : ∀ k, s.FreshAt k (home k)

variable {home : SiteId → NamespaceId}

theorem Ready.of_follows {R : SiteId → Place → Prop} {notes : List Note} (h : s.Ready home) (ht : t.Sound)
    (hR : ∀ {k place}, R k place → AtHome home k place) (hn : NoOverflow notes)
    (hst : Follows R s notes t) : t.Ready home where
  sound := ht
  fresh := fun k => hst.fresh (hn.not_mem .generation) (fun _ hplace => hR hplace) (h.fresh k)

/-- A ready session in which a site would be evaluated at home. -/
structure ReadyFor (home : SiteId → NamespaceId) (site : String) (context : ContextTerm) (s : Session) :
    Prop where
  ready : s.Ready home
  place : ∀ {k place}, s.sites.get? site = some k → s.place? context = some place → AtHome home k place

section evaluations

variable {site : String} {context : ContextTerm} {x : {σ : Type} → Scope σ → Action (Reading σ) α}
  (hx : ∀ {r r' : Reading World} {i : NamespaceId}, r.Alike r' → r.scope.isAlive i = true →
    r.site.Fresh r.scope i → r'.site.Fresh r'.scope i →
    (x (World.scope i)).Agrees Reading.Alike (x (World.scope i)) r r' fun _ _ _ => True)

include hx

/-- **An evaluation at home agrees**, whatever the memos are. -/
theorem atSite_agrees (h : Alike s t) (hs : s.ReadyFor home site context) (ht : t.Ready home) :
    (atSite site context x).Agrees Alike (atSite site context x) s t fun _ _ _ => True := by
  unfold atSite
  refine held_bind_agrees h h.sites fun k hk => ?_
  refine heldIfNamed_bind_agrees h fun _ hentered => ?_
  cases hscope : context.scope with
  | heldNamespace holder =>
      refine heldNamespace_bind_agrees h fun i hi => ?_
      have hplace := place?_of_heldNamespace hentered hscope hi
      obtain rfl : i = home k := Place.ofNamespace.inj (hs.place hk hplace)
      refine onStore_agrees h (Store.atSite_agrees h.store k fun p p' hp hp' hread => ?_)
      have hfresh : p.site.Fresh s.store.world (home k) := hs.ready.fresh k site hk p hp
      have hfresh' : p'.site.Fresh t.store.world (home k) := ht.fresh k site (h.sites ▸ hk) p' hp'
      exact hx hread (hs.ready.sound.isAlive_of_held hi) hfresh hfresh'
  | heldStub holder =>
      refine held_bind_agrees h h.stubs fun stub hstub => ?_
      have hplace := place?_of_heldStub hentered hscope hstub
      exact Place.noConfusion (hs.place hk hplace)

/-- Repeated evaluations at home agree. -/
theorem repeated_atSite_agrees
    (hkeeps : ∀ {r : Reading World} {i : NamespaceId} {I : NamespaceId → Prop}, r.scope.isAlive i = true →
      I i → (x (World.scope i)).Keeps (Reading.contract I) r fun _ _ => True)
    (h : Alike s t) (hs : s.ReadyFor home site context) (ht : t.Ready home) (n : Nat) :
    (Action.repeated n (atSite site context x)).Agrees Alike (Action.repeated n (atSite site context x)) s t
      fun _ _ _ => True := by
  -- Each repetition finds the site at home, and leaves it there.
  have hready : ∀ u, u.ReadyFor home site context → NoOverflow (atSite site context x u).notes →
      (atSite site context x u).state.ReadyFor home site context := by
    intro u hu hn
    obtain ⟨hsound, ⟨hfollows, hnames⟩, -⟩ :=
      Session.atSite_keeps (R := AtHome home) hkeeps hu.place hu.ready.sound
    refine ⟨hu.ready.of_follows hsound (fun hplace => hplace) hn hfollows, fun hk hplace => ?_⟩
    rw [hnames.sites] at hk
    rw [hnames.place?_eq] at hplace
    exact hu.place hk hplace
  have ht' : t.ReadyFor home site context := by
    refine ⟨ht, fun hk hplace => hs.place (h.sites ▸ hk) ?_⟩
    unfold place? at hplace ⊢
    rwa [h.world, h.stubs]
  have hrepeated := Action.Agrees.repeated (x := atSite site context x) (y := atSite site context x)
    (R := fun u v => Alike u v ∧ u.ReadyFor home site context ∧ v.ReadyFor home site context)
    (fun u v ⟨huv, hu, hv⟩ => (atSite_agrees hx huv hu hv.ready).and (hready u hu) (hready v hv))
    ⟨h, hs, ht'⟩ n
  exact hrepeated.imp (fun h => h.1) fun _ _ _ _ h => h

end evaluations

/-! ### Looking at parts -/

theorem survey_agrees (context : ContextTerm) (name : String) (h : Alike s t) :
    (survey context name).Agrees Alike (survey context name) s t fun _ _ _ => True := by
  unfold survey
  refine Action.Agrees.bind (heldIfNamed_agrees context.enteredFrom h) fun _ s' t' h' _ => ?_
  split
  · exact Action.Agrees.bind (heldNamespace_agrees _ h') fun _ _ _ h'' _ => onWorld_agrees h'' _
  · exact onStub_agrees _ _ h'

/-- What is seen of a namespace. -/
theorem looking_agrees {f : NamespaceId → World → α} {g : α → Answer} (ns : String) (h : Alike s t) :
    (do let i ← heldNamespace ns
        return g (← ofWorld (f i)) : Action Session Answer).Agrees Alike
      (do let i ← heldNamespace ns
          return g (← ofWorld (f i))) s t fun _ _ _ => True := by
  refine Action.Agrees.bind (heldNamespace_agrees ns h) fun i s' t' h' _ => ?_
  exact Action.Agrees.map (ofWorld_agrees h' (f i))

/-- A command, with an answer that tells nothing of memos, counters and policies. -/
def showing (c : Command) : Action Session Answer := do return c.shown (← perform c)

/-- A question about a realm. -/
theorem realm_agrees {f : RealmId → Session → Answer} (realm : String) (h : Alike s t)
    (hf : ∀ r, f r s = f r t) :
    (do let r ← heldRealm realm
        return f r (← Action.get) : Action Session Answer).Agrees Alike
      (do let r ← heldRealm realm
          return f r (← Action.get)) s t fun _ _ _ => True := by
  refine held_bind_agrees h h.realms fun r _ => Action.Agrees.get_bind ?_
  rw [hf]
  exact Action.Agrees.pure h trivial

/-- What a site is differs in what depends on its policy. -/
theorem placed_bind_agrees {β : Type} {k : SiteId} {f g : PlacedSite → Action Session β}
    {r : β → Session → Session → Prop} (h : Alike s t)
    (hfg : ∀ p p', p.erased = p'.erased → (f p).Agrees Alike (g p') s t r) :
    (onStore (Store.placed k) >>= f).Agrees Alike (onStore (Store.placed k) >>= g) s t r := by
  have hplaced : ∀ {u : Session} {result : Except Failure PlacedSite},
      Store.placed k u.store = ⟨u.store, [], result⟩ → onStore (Store.placed k) u = ⟨u, [], result⟩ := by
    intro u result hu
    rw [onStore, Action.within_apply, hu]
  obtain ⟨e, hs, ht⟩ | ⟨p, p', ⟨-, hs⟩, ⟨-, ht⟩, hpp⟩ := h.store.placed_cases k
  · exact Action.Agrees.bind_of_fails (hplaced hs) (hplaced ht) h
  · exact Action.Agrees.bind_of_gives (hplaced hs) (hplaced ht) (hfg p p' hpp)

/-- The fraction of hits fails only where the evaluations cannot be counted. -/
theorem hitRate_eq_error {v : Tally} {f : Fault} (h : v.hitRate = .error f) : f = .overflow .evaluations := by
  unfold Tally.hitRate at h
  dsimp only at h
  split at h
  · exact (Except.error.inj h).symm
  · split at h
    · exact nomatch h
    · exact nomatch h

/-- Whoever asks for counters is told of them, and nothing else changes than that they were asked for. -/
theorem inspectTally_of_noOverflow {i : TallyId} {u : Session} (hn : NoOverflow (inspectTally i u).notes) :
    ∃ seen info, inspectTally i u = ⟨{ u with seen }, [], .ok info⟩ := by
  unfold inspectTally at hn ⊢
  rw [Action.get_bind] at hn ⊢
  cases hrate : (u.store.tally i).hitRate with
  | ok rate => exact ⟨_, _, rfl⟩
  | error f =>
      rw [hrate, hitRate_eq_error hrate] at hn
      exact absurd (List.mem_singleton_self _) (hn.not_mem .evaluations)

theorem inspectTally_bind_agrees {β : Type} {i : TallyId} {f : TallyInfo → Action Session β} (b : β)
    (h : Alike s t) (hf : ∀ info, f info = pure b) :
    (inspectTally i >>= f).Agrees Alike (inspectTally i >>= f) s t fun _ _ _ => True := by
  obtain rfl : f = fun _ => pure b := funext hf
  unfold Action.Agrees
  rw [Action.bind_pure_apply, Action.bind_pure_apply]
  intro hn hn'
  obtain ⟨seen, info, hs⟩ := inspectTally_of_noOverflow hn
  obtain ⟨seen', info', ht⟩ := inspectTally_of_noOverflow hn'
  rw [hs, ht]
  exact ⟨⟨h.store, h.realms, h.sites, h.stubs, h.tallies⟩, rfl, rfl, fun _ _ => trivial⟩

/-! ### Commands -/

variable {c c' : Command}

/-- **A command shows the same in sessions that are alike**, if sites are fresh and evaluated at home. -/
theorem showing_agrees_self (h : Alike s t) (hs : s.Ready home) (ht : t.Ready home)
    (heval : ∀ e ∈ s.evaluation? c, AtHome home e.1 e.2) :
    (showing c).Agrees Alike (showing c) s t fun _ _ _ => True := by
  have hmap : ∀ {c : Command}, ((perform c).Agrees Alike (perform c) s t fun _ _ _ => True) →
      (showing c).Agrees Alike (showing c) s t fun _ _ _ => True := Action.Agrees.map
  have hfor : ∀ {site : String} {context : ContextTerm}, (∀ e ∈ (s.sites.get? site).bind fun k =>
      (s.place? context).map fun place => (k, place), AtHome home e.1 e.2) →
      s.ReadyFor home site context := by
    intro site context he
    refine ⟨hs, fun {k place} hk hplace => he (k, place) ?_⟩
    rw [hk, hplace]
    rfl
  cases c with
  | openClass holder name parent superclass realm =>
      refine hmap (creating_agrees holder ?_)
      refine held_bind_agrees h h.realms fun r _ => ?_
      refine Action.Agrees.bind (heldNamespace_agrees parent h) fun p s₁ t₁ h₁ _ => ?_
      refine Action.Agrees.bind (heldIfNamed_agrees superclass h₁) fun sup s₂ t₂ h₂ _ => ?_
      exact onStore_agrees h₂ (Store.openClass_agrees h₂.store r name p sup)
  | openModule holder name parent realm =>
      refine hmap (creating_agrees holder ?_)
      refine held_bind_agrees h h.realms fun r _ => ?_
      refine Action.Agrees.bind (heldNamespace_agrees parent h) fun p s₁ t₁ h₁ _ => ?_
      exact onStore_agrees h₁ (Store.openModule_agrees h₁.store r name p)
  | newClass holder name parent superclass =>
      refine hmap (creating_agrees holder ?_)
      refine Action.Agrees.bind (heldNamespace_agrees parent h) fun p s₁ t₁ h₁ _ => ?_
      exact Action.Agrees.bind (heldIfNamed_agrees superclass h₁) fun sup _ _ h₂ _ => onWorld_agrees h₂ _
  | newModule holder name parent =>
      refine hmap (creating_agrees holder ?_)
      exact Action.Agrees.bind (heldNamespace_agrees parent h) fun p _ _ h₁ _ => onWorld_agrees h₁ _
  | newTopLevel holder => exact hmap (creating_agrees holder (onWorld_agrees h _))
  | dropNamespace holder => exact hmap (Action.Agrees.map (dropNamespace_agrees holder h))
  | define ns name value =>
      refine hmap (Action.Agrees.bind (heldNamespace_agrees ns h) fun i s₁ t₁ h₁ _ => ?_)
      refine Action.Agrees.bind (valueOf_agrees value h₁) fun v s₂ t₂ h₂ _ => ?_
      exact Action.Agrees.map (onWorld_agrees h₂ _)
  | remove ns name =>
      refine hmap (Action.Agrees.bind (heldNamespace_agrees ns h) fun i s₁ t₁ h₁ _ => ?_)
      exact Action.Agrees.map (onWorld_agrees h₁ _)
  | includeModule ns mixin =>
      refine hmap (Action.Agrees.bind (heldNamespace_agrees ns h) fun i s₁ t₁ h₁ _ => ?_)
      refine Action.Agrees.bind (heldNamespace_agrees mixin h₁) fun m s₂ t₂ h₂ _ => ?_
      exact Action.Agrees.map (onWorld_agrees h₂ _)
  | reopen ns =>
      refine hmap (Action.Agrees.bind (heldNamespace_agrees ns h) fun i s₁ t₁ h₁ _ => ?_)
      exact Action.Agrees.map (onWorld_agrees h₁ _)
  | lookup ns name => exact hmap (looking_agrees ns h)
  | localConstant ns name => exact hmap (looking_agrees ns h)
  | isDefined ns name => exact hmap (looking_agrees ns h)
  | names ns => exact hmap (looking_agrees ns h)
  | ancestors ns => exact hmap (looking_agrees ns h)
  | dispatch ns name =>
      refine hmap (Action.Agrees.bind (heldNamespace_agrees ns h) fun i s₁ t₁ h₁ _ => ?_)
      exact Action.Agrees.map (onWorld_agrees h₁ _)
  | inspect ns => exact hmap (looking_agrees ns h)
  | describe ns => exact hmap (looking_agrees ns h)
  | setHandler ns label response =>
      refine hmap (Action.Agrees.bind (heldNamespace_agrees ns h) fun i s₁ t₁ h₁ _ => ?_)
      exact Action.Agrees.map (onWorld_agrees h₁ _)
  | newStub holder stub =>
      refine hmap (Action.Agrees.map (Action.Agrees.modify (q := fun _ _ _ => True) ?_ trivial))
      exact ⟨h.store, h.realms, h.sites, by rw [h.stubs], h.tallies⟩
  | setStub holder entry generation =>
      refine hmap (Action.Agrees.bind (setEntry_agrees holder entry h) fun _ s₁ t₁ h₁ _ => ?_)
      exact Action.Agrees.map (onStub_agrees holder _ h₁)
  | inspectStub holder => exact hmap (Action.Agrees.map (held_agrees holder h h.stubs))
  | survey context name => exact hmap (Action.Agrees.map (survey_agrees context name h))
  | newSite holder name position realm =>
      refine hmap (held_bind_agrees h h.realms fun r _ => ?_)
      refine Action.Agrees.bind (onStore_agrees h (Store.makeSite_agrees h.store r name position)) ?_
      exact fun k _ _ h₁ _ => Action.Agrees.map (bindSite_agrees holder k h₁)
  | newFreeSite holder name position policy tally =>
      refine hmap (Action.Agrees.bind (heldTally_agrees tally h) fun i s₁ t₁ h₁ _ => ?_)
      refine Action.Agrees.bind (onStore_agrees h₁ (Store.newSite_agrees h₁.store name position _ _ i)) ?_
      exact fun k _ _ h₂ _ => Action.Agrees.map (bindSite_agrees holder k h₂)
  | dropSite holder => exact hmap (Action.Agrees.map (dropSite_agrees holder h))
  | evaluate site context times =>
      exact hmap (Action.Agrees.map
        (repeated_atSite_agrees Reading.evaluate_agrees Reading.evaluate_keeps h (hfor heval) ht _))
  | resolve site context =>
      exact hmap (Action.Agrees.map (atSite_agrees Reading.resolve_agrees h (hfor heval) ht))
  | siteDefined site context =>
      exact hmap (Action.Agrees.map (atSite_agrees Reading.isDefined_agrees h (hfor heval) ht))
  | definition site context =>
      exact hmap (Action.Agrees.map (atSite_agrees Reading.definition_agrees h (hfor heval) ht))
  | invalidate site =>
      refine hmap (held_bind_agrees h h.sites fun k _ => ?_)
      exact Action.Agrees.map (onStore_agrees h (Store.invalidate_agrees h.store k))
  | rename site name =>
      refine hmap (held_bind_agrees h h.sites fun k _ => ?_)
      exact Action.Agrees.map (onStore_agrees h (Store.renameSite_agrees h.store k name))
  | inspectSite site =>
      unfold showing perform
      rw [Action.bind_assoc]
      refine held_bind_agrees h h.sites fun k _ => ?_
      rw [Action.bind_assoc]
      refine placed_bind_agrees h fun p p' hp => ?_
      have hsite : p.site.erased = p'.site.erased := (congrArg PlacedSite.site hp :)
      exact fun _ _ => ⟨h, rfl, congrArg (fun a => Except.ok (Answer.site a)) hsite, fun _ _ => trivial⟩
  | describeSite site =>
      unfold showing perform
      rw [Action.bind_assoc]
      refine held_bind_agrees h h.sites fun k _ => ?_
      rw [Action.bind_assoc]
      refine placed_bind_agrees h fun p p' _ => ?_
      exact Action.Agrees.congr (u := pure .done) (v := pure .done) rfl rfl (Action.Agrees.pure h trivial)
  | newRealm holder policy => exact hmap (Action.Agrees.map (startRealm_agrees holder _ policy policy h))
  | policy realm =>
      unfold showing perform
      rw [Action.bind_assoc]
      refine held_bind_agrees h h.realms fun r _ => ?_
      exact Action.Agrees.congr (u := pure .done) (v := pure .done) rfl rfl (Action.Agrees.pure h trivial)
  | counts realm =>
      refine hmap (realm_agrees realm h fun r => ?_)
      rw [Store.namespaceCount, Store.namespaceCount, h.store.registered, Store.siteCount, Store.siteCount,
        h.store.liveSites]
  | invalidateAll realm =>
      refine hmap (held_bind_agrees h h.realms fun r _ => ?_)
      exact Action.Agrees.map (onStore_agrees h (Store.invalidateAll_agrees h.store r))
  | namespaceById id realm =>
      refine hmap (realm_agrees realm h fun r => ?_)
      rw [h.store.namespaceOf?, h.world]
  | namespaceOf value realm =>
      refine hmap (held_bind_agrees h h.realms fun r _ => ?_)
      refine Action.Agrees.bind (valueOf_agrees value h) fun v s₁ t₁ h₁ _ => ?_
      refine Action.Agrees.get_bind ?_
      rw [h₁.store.namespaceOf?, h₁.world]
      exact Action.Agrees.pure h₁ trivial
  | newTally holder =>
      refine hmap (Action.Agrees.bind (onStore_agrees h (Store.newTally_agrees h.store)) ?_)
      refine fun i s₁ t₁ h₁ _ => Action.Agrees.map (Action.Agrees.modify (q := fun _ _ _ => True) ?_ trivial)
      exact ⟨h₁.store, h₁.realms, h₁.sites, h₁.stubs, by rw [h₁.tallies]⟩
  | record tally event times =>
      refine hmap (Action.Agrees.bind (heldTally_agrees tally h) fun i s₁ t₁ h₁ _ => ?_)
      refine Action.Agrees.map (onStore_agrees h₁ (Action.Agrees.times ?_ h₁.store times 0))
      exact fun _ _ _ h₂ => Store.record_agrees h₂ i event
  | inspectTally tally =>
      unfold showing perform
      rw [Action.bind_assoc]
      refine Action.Agrees.bind (heldTally_agrees tally h) fun i s₁ t₁ h₁ _ => ?_
      rw [Action.bind_assoc]
      exact inspectTally_bind_agrees .done h₁ fun _ => rfl
  | work realm workload iterations =>
      refine hmap (held_bind_agrees h h.realms fun r hr => ?_)
      exact Action.Agrees.map (onStore_agrees h (Workload.perform_agrees h.store hs.sound.store
        ht.sound.store (hs.sound.isAlive_top hr) iterations workload))

/-- **Policies make no difference for what is shown.** -/
theorem showing_agrees (hc : c.SameButPolicy c') (h : Alike s t) (hs : s.Ready home) (ht : t.Ready home)
    (heval : ∀ e ∈ s.evaluation? c, AtHome home e.1 e.2) :
    (showing c).Agrees Alike (showing c') s t fun _ _ _ => True := by
  cases hc with
  | refl => exact showing_agrees_self h hs ht heval
  | newRealm holder policy policy' =>
      exact Action.Agrees.map (Action.Agrees.map (startRealm_agrees holder _ policy policy' h))
  | newFreeSite holder name position policy policy' tally =>
      refine Action.Agrees.map (q := fun _ _ _ => True) ?_
      refine Action.Agrees.bind (heldTally_agrees tally h) fun i s₁ t₁ h₁ _ => ?_
      have hnew := Store.newSite_agrees h₁.store name position policy policy' i
      refine Action.Agrees.bind (onStore_agrees h₁ hnew) fun k _ _ h₂ _ => ?_
      exact Action.Agrees.map (bindSite_agrees holder k h₂)

end Session
end ConstantResolution
