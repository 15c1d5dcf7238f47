import ConstantResolution.Proofs.Store.Naming
import ConstantResolution.Proofs.World.Reopening

/-! # Opening again

A class or a module that was opened can be opened again in the same words: its name is bound to a namespace that
is registered, of the right kind, and with the superclass that is asked for (`Reopens`).  This is so after each
opening that succeeds, whether it finds the namespace or creates it (`reopens_after`), and it stays so while
nothing but generations changes.  So callers that open the same body one after another are all given the same
namespace, and advance it once each (`Reopens.openedBy`). -/

namespace ConstantResolution.Store

/-! ### Bodies -/

/-- The body of a class or of a module, in the words that it is opened by. -/
inductive Body where
  | classBody (name : String) (parent : NamespaceId) (superclass : Option NamespaceId)
  | moduleBody (name : String) (parent : NamespaceId)

namespace Body

def name : Body → String
  | classBody name _ _ => name
  | moduleBody name _ => name

/-- The scope that a body is written in. -/
def parent : Body → NamespaceId
  | classBody _ parent _ => parent
  | moduleBody _ parent => parent

def kind : Body → Kind
  | classBody .. => .classScope
  | moduleBody .. => .moduleScope

/-- The superclass that is asked for. -/
def superclass : Body → Option NamespaceId
  | classBody _ _ superclass => superclass
  | moduleBody _ _ => none

/-- The namespace that is created for a body. -/
def fresh (b : Body) : Namespace :=
  { name := b.name, kind := b.kind, parent := some b.parent, superclass := b.superclass }

/-- What a body speaks of lives. -/
structure Alive (b : Body) (w : World) : Prop where
  parent : w.isAlive b.parent = true
  superclass : ∀ {i}, b.superclass = some i → w.isAlive i = true

end Body

/-- **Opens a body.** -/
def openBody (r : RealmId) : Body → Action Store NamespaceId
  | .classBody name parent superclass => openClass r name parent superclass
  | .moduleBody name parent => openModule r name parent

variable {s t u : Store} {r : RealmId} {b : Body} {i : NamespaceId}

/-! ### Stores that differ in generations -/

/-- Two stores differ in generations at most. -/
structure Ageless (s t : Store) : Prop where
  rest : t = { s with world := t.world }
  world : s.world.Ageless t.world

theorem Ageless.refl (s : Store) : Ageless s s := ⟨rfl, World.Ageless.refl _⟩

theorem Ageless.trans (h : Ageless s t) (h' : Ageless t u) : Ageless s u where
  rest := by
    have hrest := h'.rest
    rw [h.rest] at hrest
    exact hrest
  world := h.world.trans h'.world

theorem Ageless.realm_eq (h : Ageless s t) (r : RealmId) : t.realm r = s.realm r := by rw [h.rest]; rfl

/-! ### One opening -/

theorem reopened_apply (i : NamespaceId) (s : Store) :
    reopened i s = ⟨{ s with world := (World.reopen i s.world).state }, (World.reopen i s.world).notes,
      (World.reopen i s.world).result.map fun _ => i⟩ := by
  unfold reopened
  rw [Action.bind_pure_apply]
  rfl

theorem eq_of_reopened {j : NamespaceId} (h : (reopened i s).result = .ok j) : j = i := by
  rw [reopened_apply] at h
  cases hr : (World.reopen i s.world).result with
  | error e =>
      rw [hr] at h
      exact absurd h (by simp [Except.map])
  | ok g =>
      rw [hr] at h
      exact (Except.ok.inj h).symm

theorem reopened_ageless (i : NamespaceId) (s : Store) : Ageless s (reopened i s).state := by
  rw [reopened_apply]
  exact ⟨rfl, World.reopen_ageless i s.world⟩

/-- A body that is opened in these words is found: it is a namespace that is there already. -/
structure Reopens (r : RealmId) (b : Body) (i : NamespaceId) (s : Store) : Prop where
  isName : isConstantName b.name = true
  bound : s.world.local? b.parent b.name = some (.ns i)
  registered : i ∈ (s.realm r).registered
  kind : (s.world.node i).kind = b.kind
  superclass : ∀ {j}, b.superclass = some j → (s.world.node i).superclass = some j

theorem Reopens.opening_eq (h : Reopens r b i s) : s.opening r b.name b.parent b.kind = .existing i := by
  unfold opening
  rw [h.bound]
  simp only [namespaceOf?_ns h.registered, Option.filter_some, h.kind, beq_self_eq_true, if_true]

/-- **What is found is opened again.** -/
theorem Reopens.openBody_eq (h : Reopens r b i s) : openBody r b s = reopened i s := by
  cases b with
  | classBody name parent superclass =>
      have hname : isConstantName name = true := h.isName
      have hopening : s.opening r name parent .classScope = .existing i := h.opening_eq
      have hmatch : ¬ (superclass.isSome && superclass != (s.world.node i).superclass) = true := by
        cases superclass with
        | none => exact Bool.false_ne_true
        | some j => simp [h.superclass (j := j) rfl]
      show openClass r name parent superclass s = _
      unfold openClass
      rw [if_pos hname, Action.get_bind, hopening]
      simp only [if_neg hmatch]
  | moduleBody name parent =>
      have hname : isConstantName name = true := h.isName
      have hopening : s.opening r name parent .moduleScope = .existing i := h.opening_eq
      show openModule r name parent s = _
      unfold openModule
      rw [if_pos hname, Action.get_bind, hopening]

/-- It is found as well while nothing but generations changes. -/
theorem Reopens.ageless (h : Reopens r b i s) (hst : Ageless s t) : Reopens r b i t where
  isName := h.isName
  bound := by rw [hst.world.local?_eq, h.bound]
  registered := by rw [hst.realm_eq]; exact h.registered
  kind := by rw [hst.world.proj Namespace.kind (fun _ => rfl), h.kind]
  superclass := fun hj => by rw [hst.world.proj Namespace.superclass (fun _ => rfl), h.superclass hj]

/-! ### What an opening finds or creates -/

theorem bound_of_opening {name : String} {p : NamespaceId} {kind : Kind}
    (h : s.opening r name p kind = .existing i) :
    s.world.local? p name = some (.ns i) ∧ i ∈ (s.realm r).registered ∧ (s.world.node i).kind = kind := by
  have hregistered : i ∈ (s.realm r).registered := List.contains_iff_mem.mp (isRegistered_of_opening h)
  unfold opening at h
  split at h
  · exact absurd h (by simp)
  · rename_i v hv
    split at h
    · rename_i j hj
      obtain rfl : j = i := by simpa using h
      obtain ⟨hfound, hkind⟩ := Option.filter_eq_some_iff.mp hj
      have hns : v.namespace? = some j := (Option.filter_eq_some_iff.mp hfound).1
      refine ⟨?_, hregistered, beq_iff_eq.mp hkind⟩
      cases v <;> simp_all [Value.namespace?]
    · exact absurd h (by simp)

/-- A namespace for a body is created and installed. -/
structure Creates (r : RealmId) (b : Body) (s : Store) : Prop where
  isName : isConstantName b.name = true
  free : s.world.local? b.parent b.name = none
  superclass : (b.superclass.filter fun j => (s.world.node j).kind == .moduleScope) = none
  eq : ∃ x : Action World NamespaceId, x s.world = ⟨s.world.create b.fresh, [], .ok (s.world.size + 1)⟩ ∧
    openBody r b s = install r b.name b.parent x s

theorem openClass_cases {name : String} {p : NamespaceId} {sup : Option NamespaceId}
    (hi : (openClass r name p sup s).result = .ok i) :
    Reopens r (.classBody name p sup) i s ∨ Creates r (.classBody name p sup) s := by
  by_cases hn : isConstantName name = true
  · have happly := hi
    unfold openClass at happly
    rw [if_pos hn, Action.get_bind] at happly
    cases hopen : s.opening r name p .classScope with
    | free =>
        right
        rw [hopen] at happly
        dsimp only at happly
        cases hfilter : sup.filter fun j => (s.world.node j).kind == .moduleScope with
        | some j =>
            rw [install_apply, World.establish_of_error (World.newClass_of_some hfilter)] at happly
            exact nomatch happly
        | none =>
            refine ⟨hn, local?_eq_none_of_opening hopen, hfilter, _, World.newClass_of_none hfilter, ?_⟩
            show openClass r name p sup s = _
            unfold openClass
            rw [if_pos hn, Action.get_bind, hopen]
            rfl
    | existing j =>
        left
        obtain ⟨hbound, hregistered, hkind⟩ := bound_of_opening hopen
        rw [hopen] at happly
        dsimp only at happly
        split at happly
        · exact absurd happly (by simp)
        · rename_i hmatch
          obtain rfl := eq_of_reopened happly
          refine ⟨hn, hbound, hregistered, hkind, fun {k} hk => ?_⟩
          obtain rfl : sup = some k := hk
          simp only [Option.isSome_some, Bool.true_and, bne_iff_ne, ne_eq, Decidable.not_not] at hmatch
          exact hmatch.symm
    | occupied =>
        rw [hopen] at happly
        exact absurd happly (by simp)
  · unfold openClass at hi
    rw [if_neg hn] at hi
    exact absurd hi (by simp)

theorem openModule_cases {name : String} {p : NamespaceId} (hi : (openModule r name p s).result = .ok i) :
    Reopens r (.moduleBody name p) i s ∨ Creates r (.moduleBody name p) s := by
  by_cases hn : isConstantName name = true
  · have happly := hi
    unfold openModule at happly
    rw [if_pos hn, Action.get_bind] at happly
    cases hopen : s.opening r name p .moduleScope with
    | free =>
        right
        refine ⟨hn, local?_eq_none_of_opening hopen, rfl, World.newModule name p, rfl, ?_⟩
        show openModule r name p s = _
        unfold openModule
        rw [if_pos hn, Action.get_bind, hopen]
        rfl
    | existing j =>
        left
        obtain ⟨hbound, hregistered, hkind⟩ := bound_of_opening hopen
        rw [hopen] at happly
        obtain rfl := eq_of_reopened happly
        exact ⟨hn, hbound, hregistered, hkind, nofun⟩
    | occupied =>
        rw [hopen] at happly
        exact absurd happly (by simp)
  · unfold openModule at hi
    rw [if_neg hn] at hi
    exact absurd hi (by simp)

/-- **An opening that succeeds finds a namespace or creates one.** -/
theorem openBody_cases (hi : (openBody r b s).result = .ok i) : Reopens r b i s ∨ Creates r b s := by
  cases b with
  | classBody name p sup => exact openClass_cases hi
  | moduleBody name p => exact openModule_cases hi

theorem install_of_ok {name : String} {p j : NamespaceId} {x : Action World NamespaceId} {n : Namespace}
    (hx : x s.world = ⟨s.world.create n, [], .ok (s.world.size + 1)⟩) (h : (install r name p x s).result = .ok j) :
    j = s.world.size + 1 ∧ (∃ a, (World.define p name (.ns (s.world.size + 1)) (s.world.create n)).result = .ok a) ∧
      (install r name p x s).state =
        { s with
          world := (World.define p name (.ns (s.world.size + 1)) (s.world.create n)).state.retain (s.world.size + 1)
          realms := s.realms.modify r (holding (s.world.size + 1)) } := by
  rw [install_apply, World.establish_of_ok hx] at h ⊢
  rcases hd : World.define p name (.ns (s.world.size + 1)) (s.world.create n) with ⟨w, notes, e | a⟩ <;> rw [hd] at h
  · exact nomatch h
  · exact ⟨(Except.ok.inj h).symm, ⟨a, rfl⟩, rfl⟩

theorem Body.creatable {w : World} (hb : b.Alive w)
    (hfilter : (b.superclass.filter fun j => (w.node j).kind == .moduleScope) = none) : w.Creatable b.fresh := by
  cases b with
  | classBody name p sup => exact World.creatable_class name hb.parent hb.superclass hfilter
  | moduleBody name p => exact World.creatable_module name hb.parent

/-- What an opening of a name that is free leaves behind. -/
structure Found (r : RealmId) (b : Body) (i : NamespaceId) (s t : Store) : Prop where
  number : i = s.world.size + 1
  founded : s.world.Founded b.parent b.name b.fresh t.world
  registered : (t.realm r).registered = (s.realm r).registered ++ [i]

theorem Creates.found (h : Creates r b s) (hl : s.world.Linked) (hr : r < s.realms.size) (hb : b.Alive s.world)
    (hi : (openBody r b s).result = .ok i) : Found r b i s (openBody r b s).state := by
  obtain ⟨x, hx, heq⟩ := h.eq
  rw [heq] at hi ⊢
  obtain ⟨rfl, ⟨a, ha⟩, hstate⟩ := install_of_ok hx hi
  have hfounded := hl.founded (Body.creatable hb h.superclass) rfl h.isName ha
  rw [hstate]
  refine ⟨rfl, hfounded.retain (s.world.size + 1), ?_⟩
  rw [realm_modify (s := s) rfl hr, if_pos rfl]
  rfl

theorem Found.reopens (h : Found r b i s t) (hn : isConstantName b.name = true) : Reopens r b i t where
  isName := hn
  bound := by rw [h.number]; exact h.founded.bound
  registered := by rw [h.registered]; exact List.mem_append_right _ (List.mem_singleton_self i)
  kind := by rw [h.number]; exact h.founded.kind
  superclass := fun hj => by rw [h.number]; exact h.founded.superclass.trans hj

/-- **After an opening that succeeds the body can be opened again**, and what is found then is what was given.  If the
name was free, it is new. -/
theorem reopens_after (hl : s.world.Linked) (hr : r < s.realms.size) (hb : b.Alive s.world)
    (hi : (openBody r b s).result = .ok i) :
    Reopens r b i (openBody r b s).state ∧
      (s.world.local? b.parent b.name = none → Found r b i s (openBody r b s).state) := by
  rcases openBody_cases hi with h | h
  · refine ⟨?_, fun hfree => ?_⟩
    · rw [h.openBody_eq]
      exact h.ageless (reopened_ageless i s)
    · exact absurd (h.bound.symm.trans hfree) (Option.some_ne_none _)
  · have hfound := h.found hl hr hb hi
    exact ⟨hfound.reopens h.isName, fun _ => hfound⟩

theorem openBody_keeps {R : SiteId → NamespaceId → Prop} (r : RealmId) (hb : b.Alive s.world) :
    (openBody r b).Keeps (contract R) s fun i t => t.world.isAlive i = true := by
  cases b with
  | classBody name p sup => exact openClass_keeps r name hb.parent hb.superclass
  | moduleBody name p => exact openModule_keeps r name hb.parent

/-! ### Callers -/

section callers

variable {κ : Type}

/-- What is left after callers opened a body, one after another. -/
def openedBy (r : RealmId) (b : Body) (callers : List κ) (s : Store) : Store :=
  callers.foldl (fun s _ => (openBody r b s).state) s

/-- What the callers are given, in their order. -/
def answersTo (r : RealmId) (b : Body) : List κ → Store → List (κ × Except Failure NamespaceId)
  | [], _ => []
  | c :: callers, s => (c, (openBody r b s).result) :: answersTo r b callers (openBody r b s).state

/-- **Callers who open what is there already change nothing but generations.** -/
theorem Reopens.openedBy_ageless (h : Reopens r b i s) (callers : List κ) :
    Ageless s (openedBy r b callers s) := by
  induction callers generalizing s with
  | nil => exact Ageless.refl s
  | cons c callers ih =>
      have hone : Ageless s (openBody r b s).state := by
        rw [h.openBody_eq]
        exact reopened_ageless i s
      exact hone.trans (ih (h.ageless hone))

/-- **Callers who open what is there already are all given it**, if and only if the generations that they advance have
room for all of them; and then these advance by one for each caller. -/
theorem Reopens.answersTo_iff (h : Reopens r b i s) (hl : s.world.Linked) (hi : s.world.isAlive i = true)
    (callers : List κ) :
    (answersTo r b callers s = callers.map (fun c => (c, .ok i)) ↔
        ∀ j, s.world.DependsOn j i → (s.world.generation j).toNat + callers.length < 2 ^ 64) ∧
      (answersTo r b callers s = callers.map (fun c => (c, .ok i)) →
        s.world.Aged i callers.length (openedBy r b callers s).world) := by
  induction callers generalizing s with
  | nil =>
      refine ⟨⟨fun _ j _ => ?_, fun _ => rfl⟩, fun _ => World.Aged.refl i s.world⟩
      exact (s.world.generation j).toNat_lt
  | cons c callers ih =>
      have hstep : openBody r b s = reopened i s := h.openBody_eq
      have hone : Ageless s (openBody r b s).state := by
        rw [hstep]
        exact reopened_ageless i s
      have hanswers : answersTo r b (c :: callers) s =
          (c, (openBody r b s).result) :: answersTo r b callers (openBody r b s).state := rfl
      have hdone : (openBody r b s).result = (World.reopen i s.world).result.map fun _ => i := by
        rw [hstep, reopened_apply]
      have hworld : (openBody r b s).state.world = (World.reopen i s.world).state := by
        rw [hstep, reopened_apply]
      rw [hanswers, List.map_cons, List.length_cons]
      rcases hl.reopen_spec hi with ⟨hroom, haged, g, hg⟩ | ⟨⟨j, hj, hlast⟩, e, he⟩
      · rw [hg] at hdone
        rw [← hworld] at haged
        obtain ⟨hiff, hages⟩ := ih (h.ageless hone) (hone.world.linked hl) (hone.world.isAlive_eq i ▸ hi)
        rw [hdone]
        refine ⟨⟨fun heq j hj => ?_, fun hrooms => ?_⟩, fun heq => ?_⟩
        · have := hiff.mp (List.cons.inj heq).2 j (hone.world.dependsOn_iff.mpr hj)
          rw [haged.advanced hj] at this
          omega
        · refine congrArg (List.cons _) (hiff.mpr fun j hj => ?_)
          have hj := hone.world.dependsOn_iff.mp hj
          rw [haged.advanced hj]
          have := hrooms j hj
          omega
        · rw [Nat.add_comm]
          exact haged.trans hone.world (hages (List.cons.inj heq).2)
      · rw [he] at hdone
        have hnot : ¬ (c, (openBody r b s).result) :: answersTo r b callers (openBody r b s).state =
            (c, .ok i) :: callers.map fun c => (c, .ok i) := by
          intro heq
          have hok := congrArg Prod.snd (List.cons.inj heq).1
          exact absurd (hdone.symm.trans hok) (by simp [Except.map])
        refine ⟨⟨fun heq => absurd heq hnot, fun hrooms => ?_⟩, fun heq => absurd heq hnot⟩
        have hfull := hrooms j hj
        have hnat : World.lastGeneration.toNat = 2 ^ 64 - 1 := rfl
        rw [hlast, hnat] at hfull
        omega

end callers

end ConstantResolution.Store
