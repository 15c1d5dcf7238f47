import Mathlib.Data.Finset.Card
import ConstantResolution.World.Change
import ConstantResolution.World.Liveness

/-! # Links between namespaces

A namespace is linked to the scope that it is written in, to its superclass and to the modules that
it includes.  `Linked` says how links, dependents and life fit together in a world: links lead to
namespaces that exist, those of a live namespace lead to live ones, the dependents of a namespace
are exactly those that are linked to it, and what is held from outside is alive.

The first sections say how the namespaces of a world are seen after an update, a creation and an
advance of generations. -/

namespace ConstantResolution

/-- What a namespace is linked to. -/
def Namespace.links (n : Namespace) : List NamespaceId :=
  n.parent.toList ++ n.superclass.toList ++ n.includes

theorem Namespace.mem_links {n : Namespace} {i : NamespaceId} :
    i ∈ n.links ↔ n.parent = some i ∨ n.superclass = some i ∨ i ∈ n.includes := by
  simp only [links, List.mem_append, Option.mem_toList, or_assoc]

namespace World

/-- A namespace was created under a number. -/
def Has (w : World) (i : Nat) : Prop := 0 < i ∧ i ≤ w.size

instance (w : World) (i : Nat) : Decidable (w.Has i) := inferInstanceAs (Decidable (0 < i ∧ i ≤ w.size))

/-- Gives up one hold of a namespace, without more. -/
def loosen (w : World) (i : NamespaceId) : World :=
  w.update i fun n => { n with holders := n.holders - 1 }

/-- What the namespace with a number is linked to. -/
def links (w : World) (i : NamespaceId) : List NamespaceId := (w.node i).links

variable {w : World} {i j k : NamespaceId}

/-! ### Namespaces by number -/

theorem get?_eq_none_of_not_has (h : ¬ w.Has i) : w.get? i = none := by
  cases hg : w.get? i with
  | none => rfl
  | some n => exact absurd (get?_eq_some_lt hg) h

theorem node_of_not_has (h : ¬ w.Has i) : w.node i = .absent := by
  rw [node, get?_eq_none_of_not_has h, Option.getD_none]

theorem node_empty (i : NamespaceId) : ({} : World).node i = .absent :=
  node_of_not_has fun h => absurd (Nat.lt_of_lt_of_le h.1 h.2) (Nat.lt_irrefl 0)

theorem exists_get? (h : w.Has i) : w.get? i = some (w.node i) := by
  cases i with
  | zero => exact absurd h.1 (Nat.lt_irrefl 0)
  | succ i =>
      have hi : i < w.nodes.size := h.2
      rw [node, get?, Array.getElem?_eq_getElem hi, Option.getD_some]

theorem mem_nodes (h : w.Has i) : w.node i ∈ w.nodes := by
  cases i with
  | zero => exact absurd h.1 (Nat.lt_irrefl 0)
  | succ i => exact Array.mem_of_getElem? (exists_get? h)

theorem has_of_alive (h : w.isAlive i = true) : w.Has i := by
  by_contra hn
  rw [isAlive, node_of_not_has hn] at h
  exact Bool.false_ne_true h

/-- What lives does not stand at the next number. -/
theorem ne_of_alive (h : w.isAlive i = true) : i ≠ w.size + 1 := by
  rintro rfl
  exact Nat.not_succ_le_self w.size (has_of_alive h).2

theorem links_of_not_has (h : ¬ w.Has i) : w.links i = [] := by
  rw [links, node_of_not_has h]
  rfl

/-! ### Updates

What an operation leaves alone in a namespace is stated by a projection `g` that does not see the
fields that it writes. -/

theorem has_update (f : Namespace → Namespace) : (w.update i f).Has j ↔ w.Has j := by
  simp only [Has, size_update]

theorem node_update (f : Namespace → Namespace) (h : w.Has i) : (w.update i f).node i = f (w.node i) := by
  rw [node, get?_update, if_pos rfl, exists_get? h, Option.map_some, Option.getD_some]

theorem node_update_of_ne (f : Namespace → Namespace) (h : i ≠ j) :
    (w.update i f).node j = w.node j := by
  rw [node, get?_update_of_ne w h, node]

theorem update_of_not_has (f : Namespace → Namespace) (h : ¬ w.Has i) :
    (w.update i f).node j = w.node j := by
  by_cases hij : i = j
  · subst hij
    rw [node_of_not_has h, node_of_not_has (fun h' => h ((has_update f).mp h'))]
  · exact node_update_of_ne f hij

/-- What an update leaves alone in one namespace it leaves alone in all. -/
theorem proj_update {β : Type} (g : Namespace → β) {f : Namespace → Namespace}
    (h : ∀ n, g (f n) = g n) (j : NamespaceId) : g ((w.update i f).node j) = g (w.node j) := by
  by_cases hi : w.Has i
  · by_cases hij : i = j
    · subst hij
      rw [node_update f hi, h]
    · rw [node_update_of_ne f hij]
  · rw [update_of_not_has f hi]

section projections

variable {β : Type} (g : Namespace → β)

theorem proj_bind (h : ∀ n t, g { n with constants := t } = g n) (name : String) (v : Value)
    (j : NamespaceId) : g ((w.bind i name v).node j) = g (w.node j) := by
  unfold bind
  exact proj_update g (fun n => h n _) j

theorem proj_unbind (h : ∀ n t, g { n with constants := t } = g n) (name : String) (j : NamespaceId) :
    g ((w.unbind i name).node j) = g (w.node j) := by
  unfold unbind
  exact proj_update g (fun n => h n _) j

theorem proj_setHandler (h : ∀ n d, g { n with handler := d } = g n) (d : Handler) (j : NamespaceId) :
    g ((w.setHandler i d).node j) = g (w.node j) := by
  unfold setHandler
  exact proj_update g (fun n => h n _) j

theorem proj_retain (h : ∀ n k, g { n with holders := k } = g n) (j : NamespaceId) :
    g ((w.retain i).node j) = g (w.node j) := by
  unfold retain
  exact proj_update g (fun n => h n _) j

theorem proj_loosen (h : ∀ n k, g { n with holders := k } = g n) (j : NamespaceId) :
    g ((w.loosen i).node j) = g (w.node j) := by
  unfold loosen
  exact proj_update g (fun n => h n _) j

theorem proj_bury (h : ∀ n, g { n with alive := false } = g n) (j : NamespaceId) :
    g ((w.bury i).node j) = g (w.node j) := by
  unfold bury
  exact proj_update g (fun n => h n) j

end projections

@[simp] theorem size_bind (w : World) (i : NamespaceId) (name : String) (v : Value) :
    (w.bind i name v).size = w.size := by
  unfold bind
  exact size_update w i _

@[simp] theorem size_unbind (w : World) (i : NamespaceId) (name : String) :
    (w.unbind i name).size = w.size := by
  unfold unbind
  exact size_update w i _

@[simp] theorem size_setHandler (w : World) (i : NamespaceId) (d : Handler) :
    (w.setHandler i d).size = w.size := by
  unfold setHandler
  exact size_update w i _

@[simp] theorem size_retain (w : World) (i : NamespaceId) : (w.retain i).size = w.size := by
  unfold retain
  exact size_update w i _

@[simp] theorem size_loosen (w : World) (i : NamespaceId) : (w.loosen i).size = w.size := by
  unfold loosen
  exact size_update w i _

@[simp] theorem size_bury (w : World) (i : NamespaceId) : (w.bury i).size = w.size := by
  unfold bury
  exact size_update w i _

theorem holders_loosen (w : World) (i j : NamespaceId) :
    ((w.loosen i).node j).holders = (w.node j).holders - if i = j then 1 else 0 := by
  unfold loosen
  by_cases hi : w.Has i
  · by_cases hij : i = j
    · subst hij
      rw [node_update _ hi, if_pos rfl]
    · rw [node_update_of_ne _ hij, if_neg hij, Nat.sub_zero]
  · rw [update_of_not_has _ hi]
    by_cases hij : i = j
    · subst hij
      rw [node_of_not_has hi, if_pos rfl]
      rfl
    · rw [if_neg hij, Nat.sub_zero]

/-! ### New namespaces -/

theorem has_push (n : Namespace) {j : Nat} : (w.push n).Has j ↔ w.Has j ∨ j = w.size + 1 := by
  simp only [Has, size_push]
  omega

theorem node_push (n : Namespace) : (w.push n).node j = if j = w.size + 1 then n else w.node j := by
  rw [node, get?_push]
  split
  · rw [Option.getD_some]
  · rw [node]

/-- What a dependent is added to. -/
theorem dependents_addDependent (h : w.Has i) (d : NamespaceId) :
    ((w.addDependent i d).node i).dependents = (w.node i).dependents ++ [d] := by
  rw [addDependent, node_update _ h]

theorem mem_dependents_addDependent (h : w.Has i) {d e : NamespaceId} :
    e ∈ ((w.addDependent i d).node j).dependents ↔ e ∈ (w.node j).dependents ∨ i = j ∧ e = d := by
  by_cases hij : i = j
  · subst hij
    rw [dependents_addDependent h, List.mem_append, List.mem_singleton]
    simp
  · rw [addDependent, node_update_of_ne _ hij]
    simp [hij]

@[simp] theorem size_addDependent (d : NamespaceId) : (w.addDependent i d).size = w.size := by
  unfold addDependent
  exact size_update w i _

theorem has_addDependent (d : NamespaceId) : (w.addDependent i d).Has j ↔ w.Has j := by
  simp only [Has, size_addDependent]

/-- To be known as a dependent changes nothing else of a namespace. -/
theorem proj_addDependent {β : Type} (g : Namespace → β)
    (h : ∀ n l, g { n with dependents := l } = g n) (d : NamespaceId) (j : NamespaceId) :
    g ((w.addDependent i d).node j) = g (w.node j) := by
  unfold addDependent
  exact proj_update g (fun n => h n _) j

@[simp] theorem size_create (w : World) (n : Namespace) : (w.create n).size = w.size + 1 := by
  unfold create
  cases n.parent <;> cases n.superclass <;> simp

@[simp] theorem held_create (w : World) (n : Namespace) : (w.create n).held = w.held := by
  unfold create
  cases n.parent <;> cases n.superclass <;> simp [addDependent]

theorem has_create (n : Namespace) {j : Nat} : (w.create n).Has j ↔ w.Has j ∨ j = w.size + 1 := by
  simp only [Has, size_create]
  omega

/-- Apart from dependents, a new namespace stands at the next number and the others are as before. -/
theorem proj_create {β : Type} (g : Namespace → β) (h : ∀ n l, g { n with dependents := l } = g n)
    (n : Namespace) (j : NamespaceId) :
    g ((w.create n).node j) = if j = w.size + 1 then g n else g (w.node j) := by
  have hp : g ((w.push n).node j) = if j = w.size + 1 then g n else g (w.node j) := by
    rw [node_push]
    split <;> rfl
  unfold create
  rw [← hp]
  cases n.parent <;> cases n.superclass <;>
    simp only [Option.elim_none, Option.elim_some, proj_addDependent g h]

theorem links_create (w : World) (n : Namespace) (j : NamespaceId) :
    (w.create n).links j = if j = w.size + 1 then n.links else w.links j :=
  proj_create Namespace.links (fun _ _ => rfl) n j

theorem isAlive_create (w : World) (n : Namespace) (j : NamespaceId) :
    (w.create n).isAlive j = if j = w.size + 1 then n.alive else w.isAlive j :=
  proj_create Namespace.alive (fun _ _ => rfl) n j

/-- A new namespace becomes a dependent of its parent and of its superclass. -/
theorem mem_dependents_create {n : Namespace} (hn : n.dependents = [])
    (hp : ∀ p, n.parent = some p → w.Has p) (hs : ∀ s, n.superclass = some s → w.Has s)
    {d : NamespaceId} :
    d ∈ ((w.create n).node j).dependents ↔
      d ∈ (w.node j).dependents ∨ d = w.size + 1 ∧ (n.parent = some j ∨ n.superclass = some j) := by
  have hpush : ∀ e, e ∈ ((w.push n).node j).dependents ↔ e ∈ (w.node j).dependents := by
    intro e
    rw [node_push]
    split
    · rename_i hj
      rw [hn, node_of_not_has (by simp [Has, hj])]
      rfl
    · rfl
  have hhas : ∀ i, w.Has i → (w.push n).Has i := fun i hi => (has_push n).mpr (Or.inl hi)
  unfold create
  cases hpar : n.parent with
  | none =>
      cases hsup : n.superclass with
      | none => simp [hpush]
      | some s =>
          simp only [Option.elim_none, Option.elim_some]
          rw [mem_dependents_addDependent (hhas s (hs s hsup)), hpush]
          simp [and_comm]
  | some p =>
      cases hsup : n.superclass with
      | none =>
          simp only [Option.elim_none, Option.elim_some]
          rw [mem_dependents_addDependent (hhas p (hp p hpar)), hpush]
          simp [and_comm]
      | some s =>
          simp only [Option.elim_some]
          rw [mem_dependents_addDependent ((has_addDependent _).mpr (hhas s (hs s hsup))),
            mem_dependents_addDependent (hhas p (hp p hpar)), hpush]
          simp only [Option.some.injEq]
          tauto

/-! ### Links that are added -/

@[simp] theorem size_link (w : World) (i m : NamespaceId) : (w.link i m).size = w.size := by
  simp [link]

@[simp] theorem held_link (w : World) (i m : NamespaceId) : (w.link i m).held = w.held := by
  simp [link, addDependent]

/-- A new link changes the included modules and the dependents of namespaces only. -/
theorem proj_link {β : Type} (g : Namespace → β)
    (h : ∀ n l l', g { n with includes := l, dependents := l' } = g n) (m : NamespaceId) (j : NamespaceId) :
    g ((w.link i m).node j) = g (w.node j) := by
  rw [link, proj_addDependent g (fun n l => h n n.includes l)]
  exact proj_update g (fun n => h n _ n.dependents) j

theorem includes_link (h : w.Has i) (m : NamespaceId) :
    ((w.link i m).node j).includes = (w.node j).includes ++ if i = j then [m] else [] := by
  rw [link, proj_addDependent Namespace.includes (fun _ _ => rfl)]
  by_cases hij : i = j
  · subst hij
    rw [node_update _ h, if_pos rfl]
  · rw [node_update_of_ne _ hij, if_neg hij, List.append_nil]

theorem mem_links_link (h : w.Has i) (m : NamespaceId) :
    k ∈ (w.link i m).links j ↔ k ∈ w.links j ∨ i = j ∧ k = m := by
  have hi := includes_link (j := j) h m
  have hp := proj_link (w := w) (i := i) Namespace.parent (fun _ _ _ => rfl) m j
  have hs := proj_link (w := w) (i := i) Namespace.superclass (fun _ _ _ => rfl) m j
  rw [links, Namespace.mem_links, hi, hp, hs, links, Namespace.mem_links, List.mem_append]
  by_cases hij : i = j
  · rw [if_pos hij, List.mem_singleton]
    tauto
  · rw [if_neg hij]
    simp [hij]

theorem mem_dependents_link {m : NamespaceId} (h : w.Has m) {d : NamespaceId} :
    d ∈ ((w.link i m).node j).dependents ↔ d ∈ (w.node j).dependents ∨ m = j ∧ d = i := by
  have hd := proj_update (w := w) (i := i) (f := fun n => { n with includes := n.includes ++ [m] })
    Namespace.dependents (fun _ => rfl) j
  rw [link, mem_dependents_addDependent ((has_update _).mpr h), hd]

/-! ### Advancing generations -/

@[simp] theorem size_setGeneration (w : World) (i : NamespaceId) (g : UInt64) :
    (w.setGeneration i g).size = w.size := by
  unfold setGeneration
  exact size_update w i _

@[simp] theorem held_setGeneration (w : World) (i : NamespaceId) (g : UInt64) :
    (w.setGeneration i g).held = w.held := by
  unfold setGeneration
  exact held_update w i _

@[simp] theorem size_advance (w : World) (is : List NamespaceId) : (w.advance is).1.size = w.size := by
  induction is generalizing w with
  | nil => rfl
  | cons i is ih =>
      unfold advance
      dsimp only
      split
      · exact size_setGeneration w i _
      · rw [ih, size_setGeneration]

@[simp] theorem held_advance (w : World) (is : List NamespaceId) : (w.advance is).1.held = w.held := by
  induction is generalizing w with
  | nil => rfl
  | cons i is ih =>
      unfold advance
      dsimp only
      split
      · exact held_setGeneration w i _
      · rw [ih, held_setGeneration]

/-- An advance changes generations only. -/
theorem proj_advance {β : Type} (g : Namespace → β) (h : ∀ n x, g { n with generation := x } = g n)
    (is : List NamespaceId) (j : NamespaceId) : g ((w.advance is).1.node j) = g (w.node j) := by
  induction is generalizing w with
  | nil => rfl
  | cons i is ih =>
      have hset : g ((w.setGeneration i (w.generation i + 1)).node j) = g (w.node j) := by
        unfold setGeneration
        exact proj_update g (fun n => h n _) j
      unfold advance
      dsimp only
      split
      · exact hset
      · rw [ih, hset]

/-! ### How links, dependents and life fit together -/

/-- The links of a world are sound. -/
structure Linked (w : World) : Prop where
  /-- links lead to namespaces that exist -/
  has : ∀ {i j}, j ∈ w.links i → w.Has j
  /-- links of what lives lead to what lives -/
  alive : ∀ {i j}, w.isAlive i = true → j ∈ w.links i → w.isAlive j = true
  /-- dependents are the other ends of links -/
  dependents : ∀ {i j}, j ∈ (w.node i).dependents ↔ i ∈ w.links j
  /-- what is held from outside lives -/
  holders : ∀ {i}, 0 < (w.node i).holders → w.isAlive i = true

/-- What the soundness of links depends on. -/
def Namespace.ties (n : Namespace) : List NamespaceId × List NamespaceId × Nat × Bool :=
  (n.links, n.dependents, n.holders, n.alive)

theorem Linked.congr {w' : World} (h : w.Linked) (hs : w'.size = w.size)
    (ht : ∀ j, Namespace.ties (w'.node j) = Namespace.ties (w.node j)) : w'.Linked := by
  have hlinks : ∀ j, w'.links j = w.links j := fun j => congrArg (·.1) (ht j)
  have hdeps : ∀ j, (w'.node j).dependents = (w.node j).dependents := fun j => congrArg (·.2.1) (ht j)
  have hhold : ∀ j, (w'.node j).holders = (w.node j).holders := fun j => congrArg (·.2.2.1) (ht j)
  have halive : ∀ j, w'.isAlive j = w.isAlive j := fun j => congrArg (·.2.2.2) (ht j)
  constructor
  · intro i j hj
    rw [hlinks] at hj
    have := h.has hj
    rwa [Has, ← hs] at this
  · intro i j hi hj
    rw [halive] at hi ⊢
    rw [hlinks] at hj
    exact h.alive hi hj
  · intro i j
    rw [hdeps, hlinks]
    exact h.dependents
  · intro i hi
    rw [hhold] at hi
    rw [halive]
    exact h.holders hi

theorem Linked.empty : Linked {} := by
  constructor
  · intro i j hj
    rw [links, node_empty] at hj
    exact absurd hj List.not_mem_nil
  · intro i j _ hj
    rw [links, node_empty] at hj
    exact absurd hj List.not_mem_nil
  · intro i j
    rw [links, node_empty, node_empty]
    exact ⟨fun h => absurd h List.not_mem_nil, fun h => absurd h List.not_mem_nil⟩
  · intro i hi
    rw [node_empty] at hi
    exact absurd hi (Nat.lt_irrefl 0)

end World
end ConstantResolution
