import ConstantResolution.Session.Step
import ConstantResolution.Proofs.Benchmark.Workload

/-! # Actions of a session

A session is sound when its store is, when names of sites and realms hold what exists, and when a
realm that a name holds has its top level and no other name.  So all that names hold lives.

The contract of sessions says what an action leaves behind that evaluates sites where a relation `R`
allows it: the world goes on by steps whose faults are noted, and a site that is evaluated in one
namespace only, and is held by a name, stays fresh there.  Actions that bind no names keep more
(`reading`). -/

namespace ConstantResolution

namespace Session

/-- Where a site is evaluated. -/
inductive Place where
  | ofNamespace (i : NamespaceId)
  | ofStub (holder : String)
deriving DecidableEq

/-- The place that a context stands for, when all names that it speaks by hold something. -/
def place? (s : Session) (context : ContextTerm) : Option Place :=
  if context.enteredFrom.all fun holder => (s.store.world.held.get? holder).isSome then
    match context.scope with
    | .heldNamespace holder => (s.store.world.held.get? holder).map .ofNamespace
    | .heldStub holder => (s.stubs.get? holder).map fun _ => .ofStub holder
  else none

variable {s t u : Session} {i : NamespaceId} {k : SiteId} {r : RealmId} {holder : String}
  {R : SiteId → Place → Prop}

theorem place?_of_heldNamespace {context : ContextTerm}
    (hentered : context.enteredFrom.all (fun holder => (s.store.world.held.get? holder).isSome) = true)
    (hscope : context.scope = .heldNamespace holder) (hi : s.store.world.held.get? holder = some i) :
    s.place? context = some (.ofNamespace i) := by
  rw [place?, if_pos hentered, hscope]
  simp only [hi, Option.map_some]

theorem place?_of_heldStub {context : ContextTerm} {stub : Stub}
    (hentered : context.enteredFrom.all (fun holder => (s.store.world.held.get? holder).isSome) = true)
    (hscope : context.scope = .heldStub holder) (hstub : s.stubs.get? holder = some stub) :
    s.place? context = some (.ofStub holder) := by
  rw [place?, if_pos hentered, hscope]
  simp only [hstub, Option.map_some]

/-! ### The contract -/

/-- What names hold exists and lives. -/
structure Sound (s : Session) : Prop where
  store : s.store.Sound
  sites : ∀ {name k}, s.sites.get? name = some k → k < s.store.sites.size
  realms : ∀ {name r}, s.realms.get? name = some r →
    r < s.store.realms.size ∧ (s.store.realm r).top ∈ (s.store.realm r).registered
  distinct : ∀ {name name' r}, s.realms.get? name = some r → s.realms.get? name' = some r → name = name'

theorem Sound.isAlive_of_held (h : s.Sound) (hi : s.store.world.held.get? holder = some i) :
    s.store.world.isAlive i = true := h.store.counted.isAlive_of_get? h.store.linked hi

theorem Sound.isAlive_top (h : s.Sound) (hr : s.realms.get? holder = some r) :
    s.store.world.isAlive (s.store.realm r).top = true := h.store.isAlive_of_mem (h.realms hr).2

theorem Sound.isAlive_of_place (h : s.Sound) {context : ContextTerm}
    (hi : s.place? context = some (.ofNamespace i)) : s.store.world.isAlive i = true := by
  unfold place? at hi
  split at hi
  · cases hscope : context.scope with
    | heldNamespace holder =>
        rw [hscope] at hi
        obtain ⟨j, hj, hij⟩ := Option.map_eq_some_iff.mp hi
        rw [← Place.ofNamespace.inj hij]
        exact h.isAlive_of_held hj
    | heldStub holder =>
        rw [hscope] at hi
        obtain ⟨_, _, hij⟩ := Option.map_eq_some_iff.mp hi
        exact nomatch hij
  · exact nomatch hi

theorem Sound.exists_site (h : s.Sound) (hk : s.sites.get? holder = some k) :
    ∃ p, s.store.site? k = some p := ⟨_, Array.getElem?_eq_getElem (h.sites hk)⟩

/-- A site that a name holds is fresh in a namespace. -/
def FreshAt (s : Session) (k : SiteId) (i : NamespaceId) : Prop :=
  ∀ name, s.sites.get? name = some k → s.store.FreshAt k i

/-- What an action leaves behind that evaluates sites where `R` allows it. -/
structure Follows (R : SiteId → Place → Prop) (s : Session) (notes : List Note) (t : Session) : Prop where
  run : s.store.world.NotedRun notes t.store.world
  fresh : .fault (.overflow .generation) ∉ notes → ∀ {k i},
    (∀ place, R k place → place = .ofNamespace i) → s.FreshAt k i → t.FreshAt k i

theorem Follows.refl (s : Session) (notes : List Note) : Follows R s notes s where
  run := World.NotedRun.refl s.store.world notes
  fresh := fun _ _ _ _ h => h

theorem Follows.trans {notes notes' : List Note} (h : Follows R s notes t) (h' : Follows R t notes' u) :
    Follows R s (notes ++ notes') u where
  run := h.run.trans h'.run
  fresh := by
    intro hn k i hR hf
    rw [List.mem_append, not_or] at hn
    exact h'.fresh hn.2 hR (h.fresh hn.1 hR hf)

/-- The contract of actions that evaluate sites where `R` allows it. -/
def contract (R : SiteId → Place → Prop) : Contract Session where
  valid := Sound
  step := Follows R
  refl := Follows.refl
  trans := Follows.trans

/-- Names hold the same sites and namespaces, and a stub wherever they did. -/
structure SameNames (s t : Session) : Prop where
  sites : t.sites = s.sites
  held : t.store.world.held = s.store.world.held
  stubs : ∀ holder, (t.stubs.get? holder).isSome = (s.stubs.get? holder).isSome

theorem SameNames.refl (s : Session) : SameNames s s := ⟨rfl, rfl, fun _ => rfl⟩

theorem SameNames.trans (h : SameNames s t) (h' : SameNames t u) : SameNames s u where
  sites := h'.sites.trans h.sites
  held := h'.held.trans h.held
  stubs := fun holder => (h'.stubs holder).trans (h.stubs holder)

/-- The contract of actions that moreover bind no names. -/
def reading (R : SiteId → Place → Prop) : Contract Session where
  valid := Sound
  step := fun s notes t => Follows R s notes t ∧ SameNames s t
  refl := fun s notes => ⟨Follows.refl s notes, SameNames.refl s⟩
  trans := fun h h' => ⟨h.1.trans h'.1, h.2.trans h'.2⟩

theorem keeps_of_reading {α : Type} {x : Action Session α} {q : α → Session → Prop}
    (h : x.Keeps (reading R) s q) : x.Keeps (contract R) s q :=
  h.weaken (fun _ => Iff.rfl) fun _ _ _ hst => hst.1

/-! ### What names hold -/

theorem heldNamespace_apply (holder : String) (s : Session) :
    heldNamespace holder s = match s.store.world.held.get? holder with
      | some i => ⟨s, [], .ok i⟩
      | none => ⟨s, [], .error (.unbound holder)⟩ := by
  unfold heldNamespace onWorld onStore Store.onWorld World.heldBy
  simp only [Action.within_apply, Action.get_bind]
  cases s.store.world.held.get? holder <;> rfl

section lookingUp

variable {c : Contract Session}

theorem held_keeps {α : Type} (part : Session → Dictionary α) (holder : String) :
    (held part holder).Keeps c s fun a t => t = s ∧ (part s).get? holder = some a := by
  unfold held
  refine Action.Keeps.of_state ?_ ?_
  · split <;> rfl
  · intro a ha
    split at ha
    · rename_i b hb
      rw [hb, Except.ok.inj ha]
      exact ⟨rfl, rfl⟩
    · exact nomatch ha

theorem heldNamespace_keeps (holder : String) :
    (heldNamespace holder).Keeps c s fun i t => t = s ∧ s.store.world.held.get? holder = some i := by
  refine Action.Keeps.of_state ?_ ?_
  · rw [heldNamespace_apply]
    split <;> rfl
  · intro i hi
    rw [heldNamespace_apply] at hi
    split at hi
    · rename_i j hj
      rw [hj, Except.ok.inj hi]
      exact ⟨rfl, rfl⟩
    · exact nomatch hi

theorem heldIfNamed_keeps (name : Option String) :
    (heldIfNamed name).Keeps c s fun o t => t = s ∧
      (∀ i, o = some i → ∃ holder, s.store.world.held.get? holder = some i) ∧
      name.all (fun holder => (s.store.world.held.get? holder).isSome) = true := by
  cases name with
  | none => exact Action.Keeps.pure ⟨rfl, nofun, rfl⟩
  | some holder =>
      refine Action.Keeps.bind (heldNamespace_keeps holder) ?_
      rintro i _ _ - - ⟨rfl, hi⟩
      refine Action.Keeps.pure ⟨rfl, fun j hj => ⟨holder, ?_⟩, ?_⟩
      · rw [hi, hj]
      · rw [Option.all_some, hi]
        rfl

theorem valueOf_keeps (v : ValueTerm) : (valueOf v).Keeps c s fun _ t => t = s := by
  cases v with
  | value v => exact Action.Keeps.of_state rfl fun _ _ => rfl
  | heldNamespace holder =>
      have hbind : valueOf (.heldNamespace holder) s = (heldNamespace holder >>= fun i => pure (.ns i)) s := by
        unfold valueOf heldNamespace onWorld onStore Store.onWorld World.valueOf World.heldBy
        simp only [Action.within_apply, Action.bind_apply, Action.get_apply]
        cases s.store.world.held.get? holder <;> rfl
      refine Action.Keeps.congr hbind (Action.Keeps.bind (heldNamespace_keeps holder) ?_)
      rintro i _ _ - - ⟨rfl, -⟩
      exact Action.Keeps.pure rfl

theorem heldTally_keeps (tally : TallyTerm) : (heldTally tally).Keeps c s fun _ t => t = s := by
  cases tally with
  | ofRealm holder =>
      refine Action.Keeps.bind (held_keeps realms holder) ?_
      rintro r _ _ - - ⟨rfl, -⟩
      exact Action.Keeps.of_state rfl fun _ _ => rfl
  | heldTally holder => exact (held_keeps tallies holder).imp fun _ _ _ h => h.1

end lookingUp

/-! ### Actions on parts -/

/-- An action on the store that reads where `R` allows it, and sites that it makes itself. -/
theorem onStore_keeps {α : Type} {x : Action Store α} {q : α → Store → Prop}
    {T : SiteId → NamespaceId → Prop}
    (hR : ∀ {k j}, T k j → s.store.sites.size ≤ k ∨ R k (.ofNamespace j))
    (hx : x.Keeps (Store.contract T) s.store q) :
    (onStore x).Keeps (reading R) s fun a t => q a t.store ∧ t.realms = s.realms := by
  refine (Action.Keeps.within (d := reading R) hx (fun hs => hs.store) ?_).imp ?_
  · intro store' notes hs hstore hstep
    refine ⟨⟨hstore, fun h => (hs.sites h).trans_le hstep.sites, fun h => ?_, hs.distinct⟩,
      ⟨hstep.run, fun hn k i hk hf name hname => ?_⟩, ⟨rfl, hstep.held, fun _ => rfl⟩⟩
    · obtain ⟨hr, hmem⟩ := hs.realms h
      obtain ⟨htop, hreg⟩ := hstep.realm hr
      refine ⟨hr.trans_le hstep.realms, ?_⟩
      show (store'.realm _).top ∈ _
      rw [htop]
      exact hreg hmem
    · refine hstep.fresh hn (fun j hj => ?_) (hf name hname)
      rcases hR hj with hle | hread
      · exact absurd hle (Nat.not_le_of_lt (hs.sites hname))
      · exact Place.ofNamespace.inj (hk _ hread)
  · rintro a t - ⟨store', rfl, hq⟩
    exact ⟨hq, rfl⟩

/-- An action on the store that reads no site. -/
theorem onStore_keeps_of_none {α : Type} {x : Action Store α} {q : α → Store → Prop}
    (hx : x.Keeps (Store.contract fun _ _ => False) s.store q) :
    (onStore x).Keeps (reading R) s fun a t => q a t.store ∧ t.realms = s.realms :=
  onStore_keeps (fun h => h.elim) hx

theorem onWorld_keeps {α : Type} {x : Action World α} {q : α → World → Prop}
    (hx : x.Keeps World.contract s.store.world q) :
    (onWorld x).Keeps (reading R) s fun a t => q a t.store.world :=
  (onStore_keeps_of_none (Store.onWorld_keeps hx)).imp fun _ _ _ h => h.1.1

/-! ### Binding names -/

/-- A change of the names that hold namespaces, with the deaths that follow from it. -/
theorem keeps_of_world {f : World → World} (hrun : s.store.world.NotedRun [] (f s.store.world))
    (hcounted : ∀ c, s.store.world.Counted c → (f s.store.world).Counted c) :
    (onWorld (Action.modify f)).Keeps (contract R) s fun _ _ => True := by
  intro hs
  refine ⟨⟨⟨hs.store.linked.notedRun hrun, hcounted _ hs.store.counted⟩, hs.sites, hs.realms, hs.distinct⟩,
    ⟨hrun, fun _ k i _ h name hname p hp => ?_⟩, fun _ _ => trivial⟩
  exact (h name hname p hp).later hs.store.linked (hrun.later hs.store.linked List.not_mem_nil)

theorem bindNamespace_keeps (holder : String) (hi : s.store.world.isAlive i = true) :
    (bindNamespace holder i).Keeps (contract R) s fun _ _ => True :=
  keeps_of_world (World.notedRun_hold holder hi) fun _ hc => hc.hold holder (World.has_of_alive hi)

theorem dropNamespace_keeps (holder : String) :
    (dropNamespace holder).Keeps (contract R) s fun _ _ => True := by
  unfold dropNamespace
  refine Action.Keeps.bind (q := fun _ t => t = s) (Action.Keeps.of_state rfl fun _ _ => rfl) ?_
  rintro bound _ _ - - rfl
  exact Action.Keeps.map (keeps_of_world (World.notedRun_letGo _ holder) fun _ hc => hc.letGo holder)

/-- What a name holds once it is bound. -/
theorem creating_keeps (holder : String) {x : Action Session NamespaceId}
    (hx : x.Keeps (contract R) s fun i t => t.store.world.isAlive i = true) :
    (creating holder x).Keeps (contract R) s fun _ _ => True := by
  unfold creating
  refine Action.Keeps.bind hx fun i t _ _ _ hi => ?_
  exact Action.Keeps.map (bindNamespace_keeps holder hi)

theorem dropSite_keeps (holder : String) :
    (dropSite holder).Keeps (contract R) s fun _ t => t.store.sites.size = s.store.sites.size ∧
      ∀ {k i}, s.store.FreshAt k i → t.store.FreshAt k i := by
  unfold dropSite
  refine Action.Keeps.read_bind fun _ => ?_
  split
  · exact Action.Keeps.pure ⟨rfl, fun h => h⟩
  · rename_i k _
    have herase : (Action.modify fun s : Session => { s with sites := s.sites.erase holder }).Keeps
        (contract R) s fun _ t => t.store = s.store := by
      refine Action.Keeps.modify fun hs => ⟨⟨hs.store, fun {name k'} h => ?_, hs.realms, hs.distinct⟩,
        ⟨World.NotedRun.refl _ _, fun _ k' i _ h name hname => ?_⟩, rfl⟩
      · rw [Dictionary.get?_erase] at h
        split at h
        · exact nomatch h
        · exact hs.sites h
      · rw [Dictionary.get?_erase] at hname
        split at hname
        · exact nomatch hname
        · exact h name hname
    refine Action.Keeps.bind herase fun _ t _ _ _ ht => ?_
    refine Action.Keeps.bind (keeps_of_reading (onStore_keeps_of_none (Store.dropSite_keeps k))) ?_
    rintro _ u _ - - ⟨⟨-, hsize, hfresh⟩, -⟩
    rw [ht] at hsize hfresh
    exact Action.Keeps.pure ⟨hsize, hfresh⟩

/-- **A name takes hold of a site that is fresh everywhere.** -/
theorem bindSite_keeps (holder : String) (hk : k < s.store.sites.size) (hf : ∀ i, s.store.FreshAt k i) :
    (bindSite holder k).Keeps (contract R) s fun _ _ => True := by
  unfold bindSite
  refine Action.Keeps.bind (dropSite_keeps holder) ?_
  rintro _ t _ - - ⟨hsize, hfresh⟩
  refine Action.Keeps.modify fun ht => ⟨⟨ht.store, fun {name k'} h => ?_, ht.realms, ht.distinct⟩,
    ⟨World.NotedRun.refl _ _, fun _ k' i _ h name hname => ?_⟩, trivial⟩
  · rw [Dictionary.get?_insert] at h
    split at h
    · obtain rfl := Option.some.inj h
      show k < t.store.sites.size
      rw [hsize]
      exact hk
    · exact ht.sites h
  · rw [Dictionary.get?_insert] at hname
    split at hname
    · obtain rfl := Option.some.inj hname
      exact hfresh (hf i)
    · exact h name hname

/-- The store without the realm that a name held. -/
def withoutRealm (s : Session) (holder : String) : Store :=
  (s.realms.get? holder).elim s.store fun o => (Store.dropRealm o s.store).state

theorem withoutRealm_spec (hs : s.Sound) (holder : String) :
    (s.withoutRealm holder).Sound ∧ s.store.world.NotedRun [] (s.withoutRealm holder).world ∧
      (s.withoutRealm holder).sites = s.store.sites ∧
      (s.withoutRealm holder).realms.size = s.store.realms.size ∧
      ∀ {r}, r < s.store.realms.size → s.realms.get? holder ≠ some r →
        (s.withoutRealm holder).realm r = s.store.realm r := by
  unfold withoutRealm
  cases s.realms.get? holder with
  | none => exact ⟨hs.store, World.NotedRun.refl _ _, rfl, rfl, fun _ _ => rfl⟩
  | some o =>
      obtain ⟨hsound, hrun, hsites, hsize, hrealm⟩ := Store.dropRealm_spec hs.store o
      refine ⟨hsound, hrun, hsites, hsize, fun hr hne => hrealm hr ?_⟩
      rintro rfl
      exact hne rfl

theorem bindRealm_eq (s : Session) (holder : String) (r : RealmId) :
    bindRealm holder r s = Action.modify (fun s =>
      { s with store := s.withoutRealm holder, realms := s.realms.insert holder r }) s := by
  unfold bindRealm withoutRealm
  rw [Action.read_bind, Action.modify_apply]
  cases s.realms.get? holder <;> rfl

/-- **A name takes hold of a realm that no name holds**, and gives up the one it held. -/
theorem bindRealm_keeps (holder : String) (hr : r < s.store.realms.size)
    (htop : (s.store.realm r).top ∈ (s.store.realm r).registered)
    (hnew : ∀ name, s.realms.get? name ≠ some r) :
    (bindRealm holder r).Keeps (contract R) s fun _ t =>
      (t.store.realm r).top = (s.store.realm r).top ∧
        (t.store.realm r).top ∈ (t.store.realm r).registered := by
  refine Action.Keeps.congr (bindRealm_eq s holder r) (Action.Keeps.modify fun hs => ?_)
  obtain ⟨hsound, hrun, hsites, hsize, hrealm⟩ := withoutRealm_spec hs holder
  refine ⟨⟨hsound, fun h => ?_, fun {name r'} h => ?_, fun {name name' r'} h h' => ?_⟩,
    ⟨hrun, fun _ k i _ h name hname p hp => ?_⟩, ?_⟩
  · show _ < (s.withoutRealm holder).sites.size
    rw [hsites]
    exact hs.sites h
  · show _ < (s.withoutRealm holder).realms.size ∧ ((s.withoutRealm holder).realm _).top ∈ _
    rw [Dictionary.get?_insert] at h
    rw [hsize]
    split at h
    · obtain rfl := Option.some.inj h
      rw [hrealm hr (hnew holder)]
      exact ⟨hr, htop⟩
    · rename_i hne
      obtain ⟨hr', htop'⟩ := hs.realms h
      rw [hrealm hr' fun hold => hne (hs.distinct h hold)]
      exact ⟨hr', htop'⟩
  · rw [Dictionary.get?_insert] at h h'
    split at h
    · split at h'
      · rename_i hn hn'
        rw [hn, hn']
      · obtain rfl := Option.some.inj h
        exact absurd h' (hnew name')
    · split at h'
      · obtain rfl := Option.some.inj h'
        exact absurd h (hnew name)
      · exact hs.distinct h h'
  · have hp' : s.store.site? k = some p := by
      rw [Store.site?, ← hsites]
      exact hp
    exact (h name hname p hp').later hs.store.linked (hrun.later hs.store.linked List.not_mem_nil)
  · show ((s.withoutRealm holder).realm r).top = _ ∧ ((s.withoutRealm holder).realm r).top ∈ _
    rw [hrealm hr (hnew holder)]
    exact ⟨rfl, htop⟩

theorem startRealm_keeps (holder topHolder : String) (policy : Policy) :
    (startRealm holder topHolder policy).Keeps (contract R) s fun _ _ => True := by
  unfold startRealm
  refine Action.Keeps.of_valid fun hs => ?_
  refine Action.Keeps.bind (keeps_of_reading (onStore_keeps_of_none (Store.newRealm_keeps policy))) ?_
  rintro r t _ ht - ⟨⟨rfl, hlt, hmem⟩, hrealms⟩
  refine Action.Keeps.read_bind fun _ => ?_
  refine Action.Keeps.bind (bindRealm_keeps holder hlt hmem fun name hname => ?_) ?_
  · rw [hrealms] at hname
    exact Nat.lt_irrefl _ (hs.realms hname).1
  · rintro _ u _ hu - ⟨htop, hmem'⟩
    have halive : u.store.world.isAlive (t.store.realm s.store.realms.size).top = true := by
      rw [← htop]
      exact hu.store.isAlive_of_mem hmem'
    exact Action.Keeps.bind (bindNamespace_keeps topHolder halive) fun _ _ _ _ _ _ =>
      Action.Keeps.pure trivial

end Session
end ConstantResolution
