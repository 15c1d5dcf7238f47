import ConstantResolution.Proofs.Session.Ledger
import ConstantResolution.Proofs.Store.Naming

/-! # Names and the register of a realm

As long as a realm opens classes and modules in what it registered, and nothing rebinds or removes a name that is
bound to a registered namespace, each command keeps the register rooted (`rooted_perform`).  So names, constants
and register agree after every run of such commands (`names_agree`). -/

namespace ConstantResolution

/-- The name of the class or module that a command opens, and the holder of its parent. -/
def Command.opening? : Command → Option (String × String)
  | .openClass _ name parent _ _ | .openModule _ name parent _ => some (name, parent)
  | _ => none

namespace Session

variable {s t : Session} {r : RealmId} {p : NamespaceId} {name : String} {is : List NamespaceId}
  {made : List (NamespaceId × String)}

/-- What the names of a realm's namespaces survive: opening classes and modules in registered ones, includes,
reopenings, and definitions and removals of what is bound to no registered namespace. -/
def Permitted (s : Session) (r : RealmId) : Command → Prop
  | .openClass _ _ parent _ realm | .openModule _ _ parent realm =>
    s.realms.get? realm = some r ∧
      ∀ p ∈ s.store.world.held.get? parent, p ∈ (s.store.realm r).registered
  | .define ns name _ | .remove ns name =>
    ∀ i ∈ s.store.world.held.get? ns, ∀ v ∈ s.store.world.local? i name, s.store.namespaceOf? r v = none
  | .includeModule _ _ | .reopen _ => True
  | _ => False

instance (s : Session) (r : RealmId) (c : Command) : Decidable (s.Permitted r c) := by
  unfold Permitted
  split <;> infer_instance

/-- Each command of a run is permitted where it is performed. -/
def Permits (r : RealmId) : Session → List Command → Prop
  | _, [] => True
  | s, c :: cs => s.Permitted r c ∧ Permits r (perform c s).state cs

instance decidablePermits (r : RealmId) : (s : Session) → (cs : List Command) → Decidable (Permits r s cs)
  | _, [] => isTrue trivial
  | s, c :: cs =>
    have := decidablePermits r (perform c s).state cs
    inferInstanceAs (Decidable (s.Permitted r c ∧ Permits r (perform c s).state cs))

/-- The namespace that an outcome gives, when the realm had not registered it before. -/
def given? (s : Session) (r : RealmId) (o : Outcome Session Answer) : Option NamespaceId :=
  match o.result with
  | .ok (.number i) => if s.store.isRegistered r i then none else some i
  | _ => none

/-- The parent and the name that a command creates a namespace of a realm for. -/
def creation? (s : Session) (r : RealmId) (c : Command) : Option (NamespaceId × String) := do
  let (name, parent) ← c.opening?
  let p ← s.store.world.held.get? parent
  (s.given? r (perform c s)).map fun _ => (p, name)

/-- The parents and names that a run creates namespaces of a realm for. -/
def creations (r : RealmId) : Session → List Command → List (NamespaceId × String)
  | _, [] => []
  | s, c :: cs => (s.creation? r c).toList ++ creations r (perform c s).state cs

/-! ### Commands that create nothing -/

/-- The contract of what keeps the names that a realm registered, and its register. -/
def naming (r : RealmId) : Contract Session where
  valid := fun _ => True
  step := fun s _ t => Store.NamesKept r s.store t.store
  refl := fun s _ => Store.NamesKept.refl r s.store
  trans := Store.NamesKept.trans

theorem onWorld_names {α : Type} {x : Action World α} {q : α → World → Prop}
    (hx : x.Keeps (World.naming (s.store.realm r).registered) s.store.world q) :
    (onWorld x).Keeps (naming r) s fun a t => q a t.store.world := by
  intro _
  obtain ⟨-, hstep, hq⟩ := Store.onWorld_names (s := s.store) hx trivial
  exact ⟨trivial, hstep, hq⟩

/-- What may be rebound or removed is bound to no registered namespace. -/
theorem local?_ne_of_namespaceOf? {ns : String} {i : NamespaceId} (hi : s.store.world.held.get? ns = some i)
    (h : ∀ i ∈ s.store.world.held.get? ns, ∀ v ∈ s.store.world.local? i name, s.store.namespaceOf? r v = none) :
    ∀ k ∈ (s.store.realm r).registered, s.store.world.local? i name ≠ some (.ns k) := by
  intro k hk hlocal
  have hnone := h i hi _ hlocal
  rw [Store.namespaceOf?_ns hk] at hnone
  exact nomatch hnone

theorem define_kept {ns : String} (v : ValueTerm) (hp : s.Permitted r (.define ns name v)) :
    (perform (.define ns name v)).Keeps (naming r) s fun _ _ => True := by
  refine Action.Keeps.bind (heldNamespace_keeps ns) ?_
  rintro i _ _ - - ⟨rfl, hi⟩
  refine Action.Keeps.bind (valueOf_keeps v) ?_
  rintro a _ _ - - rfl
  exact Action.Keeps.map (onWorld_names (World.define_names a (local?_ne_of_namespaceOf? hi hp)))

theorem remove_kept {ns : String} (hp : s.Permitted r (.remove ns name)) :
    (perform (.remove ns name)).Keeps (naming r) s fun _ _ => True := by
  refine Action.Keeps.bind (heldNamespace_keeps ns) ?_
  rintro i _ _ - - ⟨rfl, hi⟩
  exact Action.Keeps.map (onWorld_names (World.remove_names (local?_ne_of_namespaceOf? hi hp)))

theorem includeModule_kept (s : Session) (r : RealmId) (ns mixin : String) :
    (perform (.includeModule ns mixin)).Keeps (naming r) s fun _ _ => True := by
  refine Action.Keeps.bind (heldNamespace_keeps ns) ?_
  rintro i _ _ - - ⟨rfl, -⟩
  refine Action.Keeps.bind (heldNamespace_keeps mixin) ?_
  rintro m t _ - - ⟨rfl, -⟩
  exact Action.Keeps.map (onWorld_names (World.includeModule_names t.store.world i m))

theorem reopen_kept (s : Session) (r : RealmId) (ns : String) :
    (perform (.reopen ns)).Keeps (naming r) s fun _ _ => True := by
  refine Action.Keeps.bind (heldNamespace_keeps ns) ?_
  rintro i t _ - - ⟨rfl, -⟩
  exact Action.Keeps.map (onWorld_names (World.reopen_names t.store.world i))

/-! ### Opening classes and modules -/

/-- What a name is to hold is created first, and then held. -/
theorem creating_apply (holder : String) (x : Action Session NamespaceId) (s : Session) :
    creating holder x s = match x s with
      | ⟨t, notes, .error e⟩ => ⟨t, notes, .error e⟩
      | ⟨t, notes, .ok i⟩ =>
        ⟨{ t with store := { t.store with world := t.store.world.hold holder i } }, notes, .ok (.number i)⟩ := by
  unfold creating
  rw [Action.bind_apply]
  rcases x s with ⟨t, notes, e | i⟩
  · rfl
  · exact congrArg (Outcome.mk _ · _) (List.append_nil notes)

/-- The register stays rooted, and what an outcome gives for the first time is entered under `p` and `name`. -/
def Enters (r : RealmId) (p : NamespaceId) (name : String) (made : List (NamespaceId × String)) (s : Session)
    (o : Outcome Session Answer) : Prop :=
  ∃ js, o.state.store.Rooted r js (made ++ ((s.given? r o).map fun _ => (p, name)).toList)

/-- **What is opened and held is entered** when it is given for the first time. -/
theorem creating_enters (h : s.store.Rooted r is made) (hp : p ∈ (s.store.realm r).registered) (holder : String)
    {x : Action Store NamespaceId} (hx : s.store.Opens r p name (x s.store)) :
    Enters r p name made s (creating holder (onStore x) s) := by
  have happly : onStore x s = ⟨{ s with store := (x s.store).state }, (x s.store).notes, (x s.store).result⟩ := rfl
  unfold Enters
  rw [creating_apply, happly]
  cases hx with
  | kept hkept hreg =>
      have hrooted := h.kept hkept
      cases hres : (x s.store).result with
      | error e => exact ⟨is, by simpa [given?] using hrooted⟩
      | ok i =>
          refine ⟨is, ?_⟩
          simp only [given?, hreg i hres, if_true, Option.map_none, Option.toList_none, List.append_nil]
          exact hrooted.kept (Store.NamesKept.of_world (World.NamesKept.hold _ holder i))
  | @added i hres hadds =>
      have hnot : s.store.isRegistered r i = false := by
        rw [← Bool.not_eq_true, Store.isRegistered, List.contains_iff_mem, h.registered]
        exact fun hi => hadds.fresh (h.rooted.has hi)
      refine ⟨is ++ [i], ?_⟩
      rw [hres]
      simp only [given?, hnot, Bool.false_eq_true, if_false, Option.map_some, Option.toList_some]
      exact (h.adds hp hadds).kept (Store.NamesKept.of_world (World.NamesKept.hold _ holder i))

/-- A command that fails before it does anything enters nothing. -/
theorem Enters.of_error (h : s.store.Rooted r is made) {o : Outcome Session Answer} {e : Failure}
    (ho : o = ⟨s, [], .error e⟩) : Enters r p name made s o := by
  subst ho
  exact ⟨is, by simpa [given?] using h⟩

/-- What a realm opens in a namespace that is looked up first. -/
def openingIn (holder realm parent : String)
    (x : RealmId → NamespaceId → Action Session NamespaceId) : Action Session Answer :=
  creating holder (heldRealm realm >>= fun r => heldNamespace parent >>= x r)

section opening

variable {holder realm parent : String} {x : RealmId → NamespaceId → Action Session NamespaceId}
  (hr : s.realms.get? realm = some r)

include hr

theorem openingIn_of_some (hp : s.store.world.held.get? parent = some p) :
    openingIn holder realm parent x s = creating holder (x r p) s := by
  have hrealm : heldRealm realm s = ⟨s, [], .ok r⟩ := held_of_some hr
  have hparent : heldNamespace parent s = ⟨s, [], .ok p⟩ := by rw [heldNamespace_apply, hp]
  unfold openingIn
  rw [creating_bind, Action.bind_of_quiet hrealm, creating_bind, Action.bind_of_quiet hparent]

/-- What is opened in a holder that holds nothing is not opened. -/
theorem openingIn_of_none (hp : s.store.world.held.get? parent = none) :
    openingIn holder realm parent x s = ⟨s, [], .error (.unbound parent)⟩ := by
  have hrealm : heldRealm realm s = ⟨s, [], .ok r⟩ := held_of_some hr
  have hparent : heldNamespace parent s = ⟨s, [], .error (.unbound parent)⟩ := by rw [heldNamespace_apply, hp]
  unfold openingIn
  rw [creating_bind, Action.bind_of_quiet hrealm, creating_bind, Action.bind_of_error hparent]

end opening

theorem openClass_enters (h : s.store.Rooted r is made) (hr : r < s.store.realms.size)
    (hp : s.store.world.Has p) (hmem : p ∈ (s.store.realm r).registered) (holder : String) (sup : Option String) :
    Enters r p name made s (creating holder
      (heldIfNamed sup >>= fun o => onStore (Store.openClass r name p o)) s) := by
  have hopen : ∀ o : Option NamespaceId,
      Enters r p name made s (creating holder (onStore (Store.openClass r name p o)) s) := fun o =>
    creating_enters h hmem holder (Store.openClass_opens r name o hr hp)
  rw [creating_bind]
  cases sup with
  | none => exact hopen none
  | some sup =>
      cases hsup : s.store.world.held.get? sup with
      | none =>
          have hheld : heldNamespace sup s = ⟨s, [], .error (.unbound sup)⟩ := by rw [heldNamespace_apply, hsup]
          have herror : heldIfNamed (some sup) s = ⟨s, [], .error (.unbound sup)⟩ := Action.bind_of_error hheld _
          exact Enters.of_error h (Action.bind_of_error herror _)
      | some i =>
          have hheld : heldNamespace sup s = ⟨s, [], .ok i⟩ := by rw [heldNamespace_apply, hsup]
          have hok : heldIfNamed (some sup) s = ⟨s, [], .ok (some i)⟩ := Action.bind_of_quiet hheld _
          rw [Action.bind_of_quiet hok]
          exact hopen (some i)

/-! ### Runs -/

/-- **A permitted command keeps the register rooted**, and enters what it creates. -/
theorem rooted_perform (hs : s.Sound) (h : s.store.Rooted r is made) {c : Command} (hc : s.Permitted r c) :
    ∃ js, (perform c s).state.store.Rooted r js (made ++ (s.creation? r c).toList) := by
  have hkept : c.opening? = none → (perform c).Keeps (naming r) s (fun _ _ => True) →
      ∃ js, (perform c s).state.store.Rooted r js (made ++ (s.creation? r c).toList) := by
    intro hnone hkeeps
    refine ⟨is, ?_⟩
    rw [creation?, hnone]
    simpa using h.kept (hkeeps trivial).2.1
  have hopened : ∀ {name parent realm holder : String} {x : RealmId → NamespaceId → Action Session NamespaceId},
      c.opening? = some (name, parent) → perform c = openingIn holder realm parent x →
      s.realms.get? realm = some r →
      (∀ p, s.store.world.held.get? parent = some p → Enters r p name made s (creating holder (x r p) s)) →
      ∃ js, (perform c s).state.store.Rooted r js (made ++ (s.creation? r c).toList) := by
    intro name parent realm holder x hsome hperform hr henters
    rw [creation?, hsome, hperform]
    cases hp : s.store.world.held.get? parent with
    | none =>
        rw [openingIn_of_none hr hp]
        exact ⟨is, by simpa [hp] using h⟩
    | some p =>
        rw [openingIn_of_some hr hp]
        obtain ⟨js, hjs⟩ := henters p hp
        exact ⟨js, by simpa [hp] using hjs⟩
  have halive : ∀ {parent : String} {p : NamespaceId}, s.store.world.held.get? parent = some p →
      s.store.world.Has p := fun hp => World.has_of_alive (hs.isAlive_of_held hp)
  cases c with
  | openClass holder name parent sup realm =>
      refine hopened (x := fun r p => heldIfNamed sup >>= fun o => onStore (Store.openClass r name p o)) rfl rfl
        hc.1 fun p hp => ?_
      exact openClass_enters h (hs.realms hc.1).1 (halive hp) (hc.2 p hp) holder sup
  | openModule holder name parent realm =>
      refine hopened (x := fun r p => onStore (Store.openModule r name p)) rfl rfl hc.1 fun p hp => ?_
      exact creating_enters h (hc.2 p hp) holder (Store.openModule_opens r name (hs.realms hc.1).1 (halive hp))
  | define ns name v => exact hkept rfl (define_kept v hc)
  | remove ns name => exact hkept rfl (remove_kept hc)
  | includeModule ns mixin => exact hkept rfl (includeModule_kept s r ns mixin)
  | reopen ns => exact hkept rfl (reopen_kept s r ns)
  | _ => exact hc.elim

theorem rooted_after (hs : s.Sound) (h : s.store.Rooted r is made) {cs : List Command}
    (hc : Permits r s cs) : ∃ js, (s.after cs).store.Rooted r js (made ++ creations r s cs) := by
  induction cs generalizing s is made with
  | nil => exact ⟨is, (List.append_nil made).symm ▸ h⟩
  | cons c cs ih =>
      obtain ⟨js, hjs⟩ := rooted_perform hs h hc.1
      obtain ⟨ks, hks⟩ := ih (sound_perform hs c) hjs hc.2
      refine ⟨ks, ?_⟩
      rw [creations, ← List.append_assoc]
      exact hks

/-- The tops of the realms of a session are top levels. -/
theorem topped_after (policy : Policy) (cs : List Command) : ((start policy).after cs).store.Topped := by
  have hstart : (start policy).store.Topped := (run_start policy).topped World.Linked.empty nofun
  obtain ⟨ds, hds⟩ := exists_ledger (sound_start policy) (listed_start policy) cs
  exact hds.run.topped (sound_start policy).store.linked hstart

/-- **Names, constants and register agree.**  From any session on in which a realm registered its top level alone,
let the realm open classes and modules in what it registered, and let nothing rebind or remove a name that is
bound to a registered namespace.  Then each registered namespace is reached from the top level by the segments of
its path of names, each through what it is bound to and is registered; so no two of them have the same path; and
besides the top level there are as many as parents and names that namespaces were created for. -/
theorem names_agree (policy : Policy) (bs cs : List Command) (realm : String) (r : RealmId)
    (hr : ((start policy).after bs).realms.get? realm = some r)
    (hfresh : (((start policy).after bs).store.realm r).registered = [(((start policy).after bs).store.realm r).top])
    (hc : Permits r ((start policy).after bs) cs) :
    let t := ((start policy).after bs).after cs
    let top := (t.store.realm r).top
    let path := t.store.world.qualifiedName
    (∀ i ∈ (t.store.realm r).registered, i ≠ top → t.store.follow r top (pathSegments (path i)) = some i) ∧
      (∀ i ∈ (t.store.realm r).registered, ∀ j ∈ (t.store.realm r).registered, i ≠ top → j ≠ top →
        path i = path j → i = j) ∧
      t.store.namespaceCount r = 1 + (creations r ((start policy).after bs) cs).toFinset.card := by
  intro t top path
  have hs : ((start policy).after bs).Sound := sound_after (sound_start policy) bs
  have hrooted := Store.Rooted.of_fresh (topped_after policy bs) (hs.realms hr).1 hfresh
  obtain ⟨is, h⟩ := rooted_after hs hrooted hc
  obtain ⟨notes, hrun⟩ := notedRun_start_after policy (bs ++ cs)
  have ho : t.store.world.Ordered := by
    have hordered := World.Ordered.notedRun World.Ordered.empty World.Linked.empty hrun
    rwa [after, List.foldl_append] at hordered
  have hmem : ∀ i ∈ (t.store.realm r).registered, i ≠ top → i ∈ is := by
    intro i hi hne
    rw [h.registered] at hi
    exact (List.mem_cons.mp hi).resolve_left hne
  have hfollow : ∀ i ∈ (t.store.realm r).registered, i ≠ top →
      t.store.follow r top (pathSegments (path i)) = some i := by
    intro i hi hne
    rw [h.rooted.pathSegments_qualifiedName ho (hmem i hi hne)]
    exact h.follow_trail ho (List.mem_cons_of_mem _ (hmem i hi hne))
  refine ⟨hfollow, fun i hi j hj hi' hj' hpath => ?_, h.namespaceCount_eq⟩
  have hfi := hfollow i hi hi'
  rw [hpath, hfollow j hj hj'] at hfi
  exact (Option.some.inj hfi).symm

/-- Classes and modules that are opened anew, again, under an alias, and in vain. -/
def opens : List Command :=
  [.openClass "a" "A" "top" none "main", .openModule "m" "M" "a" "main", .openClass "again" "A" "top" none "main",
    .define "top" "Alias" (.heldNamespace "a"), .openClass "alias" "Alias" "top" none "main",
    .openModule "wrong" "A" "top" "main", .openClass "c" "M" "top" (some "a") "main", .includeModule "c" "m",
    .define "a" "X" (.value (.int 1)), .remove "a" "X", .reopen "m"]

set_option maxRecDepth 10000 in
/-- A module inside of a class and a class of the same name outside of it have different paths. -/
theorem names_agree_opens :
    let t := (start {}).after opens
    (t.store.realm 0).registered = [1, 2, 3, 4] ∧ t.store.world.qualifiedName 3 = "A::M" ∧
      t.store.follow 0 1 ["A", "M"] = some 3 ∧ t.store.world.qualifiedName 4 = "M" ∧
      creations 0 (start {}) opens = [(1, "A"), (2, "M"), (1, "M")] ∧
      t.store.namespaceCount 0 = 1 + (creations 0 (start {}) opens).toFinset.card := by
  intro t
  have hreg : (t.store.realm 0).registered = [1, 2, 3, 4] := by decide +kernel
  have htop : (t.store.realm 0).top = 1 := by decide +kernel
  have hname : t.store.world.qualifiedName 3 = "A::M" := by decide +kernel
  obtain ⟨hfollow, -, hcount⟩ := names_agree {} [] opens "main" 0 (by decide +kernel) (by decide +kernel)
    (by decide +kernel)
  have hthree := hfollow 3 (hreg ▸ by decide) (htop ▸ by decide)
  refine ⟨hreg, hname, ?_, by decide +kernel, by decide +kernel, hcount⟩
  have hsegments : pathSegments (t.store.world.qualifiedName 3) = ["A", "M"] := by rw [hname]; decide
  rw [← hsegments, ← htop]
  exact hthree

end Session
end ConstantResolution
