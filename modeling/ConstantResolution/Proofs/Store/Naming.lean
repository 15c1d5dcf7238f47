import ConstantResolution.Proofs.Store.Tracing
import ConstantResolution.Proofs.World.Naming

/-! # Names in a realm

The namespaces that a realm registered are rooted in its top level (`Rooted`): they are reached from it by
their paths of names, through what is bound to each name and is registered (`Rooted.follow_trail`).

To open a class or a module either leaves names and register alone, and gives a registered namespace if it
gives any, or registers a new namespace that is bound where it was opened (`openClass_opens`,
`openModule_opens`). -/

namespace ConstantResolution.Store

variable {s t u : Store} {r : RealmId} {i p : NamespaceId} {name : String} {is : List NamespaceId}
  {made : List (NamespaceId × String)}

/-- **The namespace that names lead to** from another one, each by the registered namespace that it is bound
to. -/
def follow (s : Store) (r : RealmId) (i : NamespaceId) (names : List String) : Option NamespaceId :=
  names.foldlM (fun i name => (s.world.local? i name).bind (s.namespaceOf? r)) i

/-- A realm registered its top level and a row of namespaces that are rooted in it, one for each parent and
name of `made`. -/
structure Rooted (s : Store) (r : RealmId) (is : List NamespaceId) (made : List (NamespaceId × String)) :
    Prop where
  registered : (s.realm r).registered = (s.realm r).top :: is
  rooted : s.world.Rooted (s.realm r).top is
  origins : is.map s.world.origin = made.map (Prod.map some id)

theorem namespaceOf?_ns (hi : i ∈ (s.realm r).registered) : s.namespaceOf? r (.ns i) = some i := by
  have hreg : s.isRegistered r i = true := List.contains_iff_mem.mpr hi
  rw [namespaceOf?, Value.namespace?, Option.filter_some, if_pos hreg]

/-- **Each registered namespace is reached by its path of names.** -/
theorem Rooted.follow_trail (h : s.Rooted r is made) (ho : s.world.Ordered) (hi : i ∈ (s.realm r).top :: is) :
    s.follow r (s.realm r).top (s.world.trail i) = some i := by
  refine h.rooted.induction (P := fun i => s.follow r (s.realm r).top (s.world.trail i) = some i) ho ?_ ?_ hi
  · rw [h.rooted.trail_top]
    rfl
  · intro i p hmem _ hparent hlocal ih
    have hreg : i ∈ (s.realm r).registered := by
      rw [h.registered]
      exact List.mem_cons_of_mem _ hmem
    rw [h.rooted.trail_of_parent ho hmem hparent, follow, List.foldlM_append]
    rw [follow] at ih
    rw [ih]
    simp [hlocal, namespaceOf?_ns hreg]

/-- **There is one namespace for each parent and name.** -/
theorem Rooted.nodup_made (h : s.Rooted r is made) : made.Nodup := by
  have hnodup := h.rooted.nodup_origins
  rw [h.origins] at hnodup
  exact hnodup.of_map _

theorem Rooted.namespaceCount_eq (h : s.Rooted r is made) : s.namespaceCount r = 1 + made.toFinset.card := by
  have hlength : is.length = made.length := by simpa using congrArg List.length h.origins
  rw [namespaceCount, h.registered, List.length_cons, List.toFinset_card_of_nodup h.nodup_made, hlength]
  exact Nat.add_comm _ _

/-! ### Top levels -/

/-- The top of each realm is a top level. -/
def Topped (s : Store) : Prop :=
  ∀ r, r < s.realms.size → s.world.Has (s.realm r).top ∧ (s.world.node (s.realm r).top).kind = .topLevel

theorem Topped.newRealm (hl : s.world.Linked) (ht : s.Topped) (policy : Policy) :
    (Store.newRealm policy s).state.Topped := by
  have hworld : (Store.newRealm policy s).state.world = (s.world.create
      { name := World.topLevelName, kind := .topLevel }).retain (s.world.size + 1) := rfl
  intro r hr
  rw [realm_newRealm]
  split
  · rw [hworld, World.Has, World.size_retain, World.size_create,
      World.proj_retain Namespace.kind (fun _ _ => rfl), World.proj_create Namespace.kind (fun _ _ => rfl), if_pos rfl]
    exact ⟨⟨Nat.succ_pos _, Nat.le_refl _⟩, rfl⟩
  · rename_i hne
    obtain ⟨hhas, hkind⟩ := ht r (lt_of_newRealm hr hne)
    obtain ⟨hhas', hkind'⟩ := (Step.newRealm (s := s) policy).notedRun.has_kind hl hhas
    exact ⟨hhas', hkind'.trans hkind⟩

/-- **The top of a realm stays a top level.** -/
theorem Step.topped {notes : List Note} {ds : List Deed} (h : Step s notes ds t) (hl : s.world.Linked)
    (ht : s.Topped) : t.Topped := by
  have hkept : t.realms.size = s.realms.size → (∀ r, (t.realm r).top = (s.realm r).top) → t.Topped := by
    intro hsize htop r hr
    rw [hsize] at hr
    obtain ⟨hhas, hkind⟩ := ht r hr
    obtain ⟨hhas', hkind'⟩ := h.notedRun.has_kind hl hhas
    rw [htop]
    exact ⟨hhas', hkind'.trans hkind⟩
  have hmodified : ∀ (f : Realm → Realm) {r' : RealmId}, t.realms = s.realms.modify r' f →
      (∀ m, (f m).top = m.top) → t.Topped := by
    intro f r' hrealms hf
    refine hkept (by rw [hrealms, Array.size_modify]) fun r => ?_
    rcases realm_modify_or hrealms r with heq | ⟨-, heq⟩
    · rw [heq]
    · rw [heq, hf]
  cases h with
  | opened _ _ _ => exact hmodified (holding _) rfl fun _ => rfl
  | newRealm policy => exact ht.newRealm hl policy
  | dropRealm r => exact hmodified (fun m => { m with registered := [] }) rfl fun _ => rfl
  | list r f _ => exact hmodified (fun m => { m with sites := f m.sites }) rfl fun _ => rfl
  | _ => exact hkept rfl fun _ => rfl

theorem Run.topped {notes : List Note} {ds : List Deed} (h : Run s notes ds t) (hl : s.world.Linked)
    (ht : s.Topped) : t.Topped := by
  induction h with
  | refl s => exact ht
  | step hs _ ih => exact ih (hs.linked hl) (hs.topped hl ht)

/-- A realm that registered nothing but its top level. -/
theorem Rooted.of_fresh (ht : s.Topped) (hr : r < s.realms.size)
    (h : (s.realm r).registered = [(s.realm r).top]) : s.Rooted r [] [] where
  registered := h
  origins := rfl
  rooted := by
    obtain ⟨hhas, hkind⟩ := ht r hr
    refine ⟨?_, List.nodup_singleton _, fun hi => ?_, fun hi => absurd hi List.not_mem_nil⟩
    · rw [World.isTopLevel, hkind]
      rfl
    · rwa [List.mem_singleton.mp hi]

/-! ### What keeps names and register -/

/-- A store that comes after another one with the same register, whose names are kept. -/
structure NamesKept (r : RealmId) (s t : Store) : Prop where
  top : (t.realm r).top = (s.realm r).top
  registered : (t.realm r).registered = (s.realm r).registered
  world : World.NamesKept (s.realm r).registered s.world t.world

theorem NamesKept.refl (r : RealmId) (s : Store) : NamesKept r s s := ⟨rfl, rfl, World.NamesKept.refl _ _⟩

theorem NamesKept.trans (h : NamesKept r s t) (h' : NamesKept r t u) : NamesKept r s u where
  top := h'.top.trans h.top
  registered := h'.registered.trans h.registered
  world := h.world.trans (h.registered ▸ h'.world)

/-- What changes the world only. -/
theorem NamesKept.of_world {w : World} (h : World.NamesKept (s.realm r).registered s.world w) :
    NamesKept r s { s with world := w } := ⟨rfl, rfl, h⟩

/-- The contract of what keeps the names that a realm registered, and its register. -/
def naming (r : RealmId) : Contract Store where
  valid := fun _ => True
  step := fun s _ t => NamesKept r s t
  refl := fun s _ => NamesKept.refl r s
  trans := NamesKept.trans

theorem onWorld_names {α : Type} {x : Action World α} {q : α → World → Prop}
    (hx : x.Keeps (World.naming (s.realm r).registered) s.world q) :
    (onWorld x).Keeps (naming r) s fun a t => q a t.world := by
  intro _
  obtain ⟨-, hstep, hq⟩ := hx trivial
  exact ⟨trivial, NamesKept.of_world hstep, hq⟩

theorem Rooted.kept (h : s.Rooted r is made) (hk : NamesKept r s t) : t.Rooted r is made := by
  have hworld := hk.world
  rw [h.registered] at hworld
  refine ⟨by rw [hk.registered, hk.top, h.registered], by rw [hk.top]; exact h.rooted.kept hworld, ?_⟩
  rw [← h.origins]
  exact List.map_congr_left fun i hi => hworld.origin_eq (h.rooted.has (List.mem_cons_of_mem _ hi))

/-! ### Opening classes and modules -/

/-- A namespace that is new in `t` is registered last, and bound to its name in `p`. -/
structure Adds (r : RealmId) (p : NamespaceId) (name : String) (i : NamespaceId) (s t : Store) : Prop where
  top : (t.realm r).top = (s.realm r).top
  registered : (t.realm r).registered = (s.realm r).registered ++ [i]
  world : World.NamesKept (s.realm r).registered s.world t.world
  fresh : ¬ s.world.Has i
  isName : isConstantName name = true
  placed : t.world.Placed p name i

/-- **A row of rooted namespaces grows by a new one.** -/
theorem Rooted.adds (h : s.Rooted r is made) (hp : p ∈ (s.realm r).registered) (ha : Adds r p name i s t) :
    t.Rooted r (is ++ [i]) (made ++ [(p, name)]) := by
  have hworld := ha.world
  rw [h.registered] at hworld hp
  have hnew : i ∉ (s.realm r).top :: is := fun hi => ha.fresh (h.rooted.has hi)
  obtain ⟨hparent, hname⟩ := Prod.mk.inj ha.placed.origin
  have hbound : t.world.BoundIn ((s.realm r).top :: is) i := by
    refine ⟨?_, ha.placed.inner, p, hp, hparent, ?_⟩
    · rw [hname]
      exact ha.isName
    · rw [hname]
      exact ha.placed.bound
  refine ⟨by rw [ha.registered, ha.top, h.registered, List.cons_append], ?_, ?_⟩
  · rw [ha.top]
    exact (h.rooted.kept hworld).snoc ha.placed.has hnew hbound
  · have hold : is.map t.world.origin = is.map s.world.origin :=
      List.map_congr_left fun j hj => hworld.origin_eq (h.rooted.has (List.mem_cons_of_mem _ hj))
    rw [List.map_append, hold, h.origins, List.map_append, List.map_singleton, ha.placed.origin]
    rfl

/-- How a name is opened: names and register are kept, and a namespace that is given is registered already;
or a new one is added. -/
inductive Opens (r : RealmId) (p : NamespaceId) (name : String) (s : Store) (o : Outcome Store NamespaceId) : Prop
  | kept (h : NamesKept r s o.state) (hi : ∀ i, o.result = .ok i → s.isRegistered r i = true)
  | added {i : NamespaceId} (hi : o.result = .ok i) (h : Adds r p name i s o.state)

theorem Opens.raise (c : Cause) : Opens r p name s (Action.raise c s) :=
  .kept (NamesKept.refl r s) nofun

theorem reopened_opens (hi : s.isRegistered r i = true) : Opens r p name s (reopened i s) := by
  unfold reopened
  obtain ⟨-, hkept, -⟩ := onWorld_names (World.reopen_names s.world i) (r := r) (s := s) trivial
  rw [Action.bind_pure_apply]
  refine .kept hkept fun j hj => ?_
  cases hr : (onWorld (World.reopen i) s).result with
  | error e =>
      rw [hr] at hj
      exact nomatch hj
  | ok g =>
      rw [hr] at hj
      rwa [← Except.ok.inj hj]

theorem local?_eq_none_of_opening {kind : Kind} (h : s.opening r name p kind = .free) :
    s.world.local? p name = none := by
  unfold opening at h
  split at h
  · assumption
  · split at h <;> exact nomatch h

/-- **A namespace that is created under a free name is added**, unless its binding meets an overflow. -/
theorem install_opens {n : Namespace} {x : Action World NamespaceId} (hn : isConstantName name = true)
    (hr : r < s.realms.size) (hp : s.world.Has p) (hfree : s.world.local? p name = none)
    (horigin : (n.parent, n.name) = (some p, name)) (hkind : n.kind ≠ .topLevel)
    (hx : x s.world = ⟨s.world.create n, [], .ok (s.world.size + 1)⟩) :
    Opens r p name s (install r name p x s) := by
  obtain ⟨hkept, hplaced⟩ := World.define_create (s.realm r).registered hn hp hfree horigin hkind
  rw [install_apply, World.establish_of_ok hx]
  rcases hd : World.define p name (.ns (s.world.size + 1)) (s.world.create n) with ⟨w, notes, e | old⟩ <;>
    rw [hd] at hkept hplaced
  · have hburied : World.NamesKept (s.realm r).registered w (w.bury (s.world.size + 1)) :=
      World.NamesKept.of_naming (World.size_bury w _) (World.proj_bury Namespace.naming fun _ => rfl)
    exact .kept (NamesKept.of_world (hkept.trans hburied)) nofun
  · have hsize : (w.retain (s.world.size + 1)).size = w.size := World.size_retain _ _
    have hretain : ∀ j, ((w.retain (s.world.size + 1)).node j).naming = (w.node j).naming :=
      World.proj_retain Namespace.naming fun _ _ => rfl
    let t : Store :=
      { s with
        world := w.retain (s.world.size + 1)
        realms := s.realms.modify r (holding (s.world.size + 1)) }
    have hrealm : t.realm r = holding (s.world.size + 1) (s.realm r) := by
      rw [realm_modify (f := holding (s.world.size + 1)) rfl hr, if_pos rfl]
    have hadds : Adds r p name (s.world.size + 1) s t := by
      refine ⟨by rw [hrealm]; rfl, by rw [hrealm]; rfl, ?_, fun h => Nat.not_succ_le_self _ h.2, hn, ?_⟩
      · exact hkept.trans (World.NamesKept.of_naming hsize hretain)
      · exact hplaced.of_naming hsize hretain
    exact .added (i := s.world.size + 1) rfl hadds

theorem openClass_opens (r : RealmId) (name : String) (sup : Option NamespaceId) (hr : r < s.realms.size)
    (hp : s.world.Has p) : Opens r p name s (openClass r name p sup s) := by
  unfold openClass
  split
  · rename_i hn
    rw [Action.get_bind]
    cases hopen : s.opening r name p .classScope with
    | free =>
        dsimp only
        cases hfilter : sup.filter fun i => (s.world.node i).kind == .moduleScope with
        | some i =>
            rw [install_apply, World.establish_of_error (World.newClass_of_some hfilter)]
            exact .kept (NamesKept.refl r s) nofun
        | none =>
            exact install_opens hn hr hp (local?_eq_none_of_opening hopen) rfl (by simp) (World.newClass_of_none hfilter)
    | existing i =>
        dsimp only
        split
        · exact Opens.raise _
        · exact reopened_opens (isRegistered_of_opening hopen)
    | occupied => exact Opens.raise _
  · exact Opens.raise _

theorem openModule_opens (r : RealmId) (name : String) (hr : r < s.realms.size)
    (hp : s.world.Has p) : Opens r p name s (openModule r name p s) := by
  unfold openModule
  split
  · rename_i hn
    rw [Action.get_bind]
    cases hopen : s.opening r name p .moduleScope with
    | free =>
        have hmade : World.newModule name p s.world = ⟨s.world.create
            { name, kind := .moduleScope, parent := some p }, [], .ok (s.world.size + 1)⟩ := rfl
        exact install_opens hn hr hp (local?_eq_none_of_opening hopen) rfl (by simp) hmade
    | existing i => exact reopened_opens (isRegistered_of_opening hopen)
    | occupied => exact Opens.raise _
  · exact Opens.raise _

end ConstantResolution.Store
