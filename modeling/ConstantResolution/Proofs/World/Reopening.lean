import ConstantResolution.Proofs.World.Definition

/-! # Reopening

To open a namespace again changes nothing of a world but generations (`reopen_ageless`): those of the namespace
and of all that lives and depends on it advance by one, unless one of them stands at its greatest value, in which
case the reopening fails (`Linked.reopen_spec`).  What is bound, linked and registered cannot be told from before
(`Ageless`). -/

namespace ConstantResolution

/-- All of a namespace but its generation. -/
def Namespace.ageless (n : Namespace) : Namespace := { n with generation := 0 }

namespace World

variable {w w' w'' : World} {i j : NamespaceId}

/-- Two worlds differ in generations at most. -/
structure Ageless (w w' : World) : Prop where
  size : w'.size = w.size
  held : w'.held = w.held
  node : ∀ j, (w'.node j).ageless = (w.node j).ageless

/-- A namespace lives, and resolves through another one over any number of links. -/
def DependsOn (w : World) (j i : NamespaceId) : Prop := w.isAlive j = true ∧ Reaches w.links j i

/-- What a number of changes of `i` does to the generations, none of which runs over. -/
structure Aged (i : NamespaceId) (k : Nat) (w w' : World) : Prop where
  advanced : ∀ {j : NamespaceId}, w.DependsOn j i → (w'.generation j).toNat = (w.generation j).toNat + k
  kept : ∀ {j : NamespaceId}, ¬ w.DependsOn j i → w'.generation j = w.generation j

namespace Ageless

theorem refl (w : World) : Ageless w w := ⟨rfl, rfl, fun _ => rfl⟩

theorem trans (h : Ageless w w') (h' : Ageless w' w'') : Ageless w w'' :=
  ⟨h'.size.trans h.size, h'.held.trans h.held, fun j => (h'.node j).trans (h.node j)⟩

variable (h : Ageless w w')

include h

/-- Every part of a namespace but its generation is the same. -/
theorem proj {β : Type} (g : Namespace → β) (hg : ∀ n, g n.ageless = g n) (j : NamespaceId) :
    g (w'.node j) = g (w.node j) := by
  rw [← hg (w'.node j), h.node, hg]

theorem local?_eq (j : NamespaceId) (name : String) : w'.local? j name = w.local? j name :=
  congrArg (Dictionary.get? · name) (h.proj Namespace.constants (fun _ => rfl) j)

theorem isAlive_eq (j : NamespaceId) : w'.isAlive j = w.isAlive j := h.proj Namespace.alive (fun _ => rfl) j

theorem links_eq : w'.links = w.links := funext (h.proj Namespace.links fun _ => rfl)

theorem dependsOn_iff : w'.DependsOn j i ↔ w.DependsOn j i := by
  rw [DependsOn, DependsOn, h.isAlive_eq, h.links_eq]

theorem linked (hl : w.Linked) : w'.Linked :=
  hl.congr h.size (h.proj Namespace.ties fun _ => rfl)

theorem sameFrame : SameFrame w w' := ⟨h.size, h.proj Namespace.frame fun _ => rfl⟩

theorem dependentCount_eq (j : NamespaceId) : w'.dependentCount j = w.dependentCount j := by
  have halive : w'.isAlive = w.isAlive := funext h.isAlive_eq
  rw [dependentCount, dependentCount, liveDependents, liveDependents, halive,
    h.proj Namespace.dependents (fun _ => rfl)]

end Ageless

/-! ### Ages -/

namespace Aged

variable {k k' : Nat}

theorem refl (i : NamespaceId) (w : World) : Aged i 0 w w := ⟨fun _ => rfl, fun _ => rfl⟩

/-- Ages add up while links and lives stay as they are. -/
theorem trans (h : Aged i k w w') (hw : Ageless w w') (h' : Aged i k' w' w'') : Aged i (k + k') w w'' where
  advanced := fun hj => by rw [h'.advanced (hw.dependsOn_iff.mpr hj), h.advanced hj, Nat.add_assoc]
  kept := fun hj => (h'.kept (mt hw.dependsOn_iff.mp hj)).trans (h.kept hj)

end Aged

/-! ### One reopening -/

theorem reopen_state (i : NamespaceId) (w : World) : (reopen i w).state = (w.advance (w.affected i)).1 := by
  rw [reopen_eq, changing_state]
  rfl

theorem reopen_ageless (i : NamespaceId) (w : World) : Ageless w (reopen i w).state := by
  rw [reopen_state]
  exact ⟨size_advance _ _, held_advance _ _, proj_advance Namespace.ageless (fun _ _ => rfl) _⟩

theorem generation_reopen (hi : w.Has i) : (reopen i w).state.generation i = w.generation i + 1 := by
  rw [reopen_eq, generation_changing hi]
  rfl

/-- **A reopening succeeds unless a generation that it advances runs over**, and then adds one to each of them. -/
theorem Linked.reopen_spec (hl : w.Linked) (hi : w.isAlive i = true) :
    ((∀ j, w.DependsOn j i → w.generation j ≠ lastGeneration) ∧ Aged i 1 w (reopen i w).state ∧
        ∃ g, (reopen i w).result = .ok g) ∨
      (∃ j, w.DependsOn j i ∧ w.generation j = lastGeneration) ∧ ∃ e, (reopen i w).result = .error e := by
  have hn := nodup_affected w i
  have hmem : ∀ j, j ∈ w.affected i ↔ w.DependsOn j i := fun j => hl.mem_affected_iff hi
  cases hf : (w.advance (w.affected i)).2 with
  | none =>
      have hroom := (advance_eq_none_iff hn).mp hf
      refine Or.inl ⟨fun j hj => hroom j ((hmem j).mpr hj), ⟨fun {j} hj => ?_, fun {j} hj => ?_⟩, ?_⟩
      · have haffected := (hmem j).mpr hj
        rw [reopen_state, generation_advance hn hf, if_pos ⟨haffected, has_of_alive hj.1⟩,
          toNat_succ_of_ne_last (hroom j haffected)]
      · rw [reopen_state, generation_advance_of_not_mem (mt (hmem j).mp hj)]
      · rw [reopen_eq, changing_of_none hf]
        exact ⟨_, rfl⟩
  | some f =>
      refine Or.inr ⟨?_, .fault f, ?_⟩
      · by_contra hnot
        have hnone : (w.advance (w.affected i)).2 = none :=
          (advance_eq_none_iff hn).mpr fun j hj hlast => hnot ⟨j, (hmem j).mp hj, hlast⟩
        exact Option.some_ne_none f (hf.symm.trans hnone)
      · rw [reopen_eq, changing_of_some hf]

/-! ### What is created and bound -/

section frame

variable (h : SameFrame w w')

include h

theorem SameFrame.kind_eq (j : NamespaceId) : (w'.node j).kind = (w.node j).kind := congrArg (·.1) (h.frame j)

theorem SameFrame.superclass_eq (j : NamespaceId) : (w'.node j).superclass = (w.node j).superclass :=
  congrArg (·.2.2.1) (h.frame j)

theorem SameFrame.links_eq : w'.links = w.links := by
  funext j
  have hparent : (w'.node j).parent = (w.node j).parent := congrArg (·.2.1) (h.frame j)
  have hincludes : (w'.node j).includes = (w.node j).includes := congrArg (·.2.2.2.1) (h.frame j)
  rw [links, links, Namespace.links, Namespace.links, hparent, h.superclass_eq, hincludes]

end frame

/-- A definition that succeeds had room for its advance. -/
theorem define_room {name : String} {v : Value} {a : Option Value} (hn : isConstantName name = true)
    (h : (define i name v w).result = .ok a) : ∀ j ∈ w.affected i, w.generation j ≠ lastGeneration := by
  have hsame := bind_sameFrame w i name v
  have hgeneration : ∀ j, (w.bind i name v).generation j = w.generation j :=
    proj_bind Namespace.generation (fun _ _ => rfl) name v
  rw [define_eq i hn] at h
  cases hf : ((w.bind i name v).advance ((w.bind i name v).affected i)).2 with
  | none =>
      have hroom := (advance_eq_none_iff (nodup_affected _ i)).mp hf
      intro j hj
      rw [← hgeneration]
      exact hroom j (hsame.affected_eq i ▸ hj)
  | some f =>
      rw [changing_of_some hf] at h
      exact absurd h (by simp)

/-- What is old does not lead to a namespace that is new. -/
theorem Linked.not_reaches_created (hl : w.Linked) (n : Namespace) (hj : w.Has j) :
    ¬ Reaches (w.create n).links j (w.size + 1) := by
  have hold : ∀ {k}, Reaches (w.create n).links j k → w.Has k := by
    intro k hr
    induction hr with
    | refl => exact hj
    | tail _ hkl ih =>
        have hne := Nat.ne_of_lt (Nat.lt_succ_of_le ih.2)
        rw [links_create, if_neg hne] at hkl
        exact hl.has hkl
  exact fun hr => Nat.not_succ_le_self _ (hold hr).2

/-- A namespace was created for a name and bound to it in its parent: it stands at its first generation, and the
parent has advanced once. -/
structure Founded (p : NamespaceId) (name : String) (n : Namespace) (w u : World) : Prop where
  size : u.size = w.size + 1
  bound : u.local? p name = some (.ns (w.size + 1))
  kind : (u.node (w.size + 1)).kind = n.kind
  superclass : (u.node (w.size + 1)).superclass = n.superclass
  first : (u.generation (w.size + 1)).toNat = 1
  parent : (u.generation p).toNat = (w.generation p).toNat + 1
  /-- the parent does not resolve through what is new in it -/
  apart : ¬ u.DependsOn p (w.size + 1)

/-- A holder more makes no difference. -/
theorem Founded.retain {p : NamespaceId} {name : String} {n : Namespace} {u : World} (h : Founded p name n w u)
    (i : NamespaceId) : Founded p name n w (u.retain i) where
  size := (size_retain u i).trans h.size
  bound := (congrArg (Dictionary.get? · name) (proj_retain Namespace.constants (fun _ _ => rfl) p)).trans h.bound
  kind := (proj_retain Namespace.kind (fun _ _ => rfl) _).trans h.kind
  superclass := (proj_retain Namespace.superclass (fun _ _ => rfl) _).trans h.superclass
  first := (congrArg UInt64.toNat (proj_retain Namespace.generation (fun _ _ => rfl) _)).trans h.first
  parent := (congrArg UInt64.toNat (proj_retain Namespace.generation (fun _ _ => rfl) _)).trans h.parent
  apart := by
    have hlinks : (u.retain i).links = u.links := funext (proj_retain Namespace.links fun _ _ => rfl)
    have halive : (u.retain i).isAlive p = u.isAlive p := proj_retain Namespace.alive (fun _ _ => rfl) p
    rw [DependsOn, hlinks, halive]
    exact h.apart

section founding

variable {n : Namespace} {p : NamespaceId} {name : String} (hl : w.Linked) (hc : w.Creatable n)
  (hparent : n.parent = some p) (hn : isConstantName name = true)

include hl hc hparent hn

/-- What is new and its parent are advanced by the binding. -/
theorem generation_founding (hroom : ∀ j ∈ (w.create n).affected p, (w.create n).generation j ≠ lastGeneration)
    (hj : j = p ∨ j = w.size + 1) :
    ((define p name (.ns (w.size + 1)) (w.create n)).state.generation j).toNat = (w.generation j).toNat + 1 := by
  have hp := hc.parent hparent
  have halive : ∀ j, (w.create n).isAlive j = if j = w.size + 1 then n.alive else w.isAlive j := isAlive_create w n
  have hlive : (w.create n).isAlive p = true := by rw [halive, if_neg (ne_of_alive hp), hp]
  have hdepends : (w.create n).DependsOn j p := by
    rcases hj with rfl | rfl
    · exact ⟨hlive, Reaches.refl _ _⟩
    · refine ⟨by rw [halive, if_pos rfl, hc.fresh], (Reaches.refl _ _).tail ?_⟩
      rw [links_create, if_pos rfl, Namespace.mem_links]
      exact Or.inl hparent
  have haffected := ((hl.create hc).mem_affected_iff hlive).mpr hdepends
  obtain ⟨u, notes, old, -, -, rfl, hgeneration⟩ := define_of_ne_last hn (v := .ns (w.size + 1)) hroom
  rw [hgeneration, if_pos ⟨haffected, has_of_alive hdepends.1⟩, toNat_succ_of_ne_last (hroom j haffected),
    generation_create (by rw [hc.fresh])]

/-- **What is created for a name is founded** when its binding succeeds. -/
theorem Linked.founded {a : Option Value} (h : (define p name (.ns (w.size + 1)) (w.create n)).result = .ok a) :
    Founded p name n w (define p name (.ns (w.size + 1)) (w.create n)).state := by
  have hhas := has_of_alive (hc.parent hparent)
  have hsame := define_sameFrame (w := w.create n) (i := p) hn (v := .ns (w.size + 1))
  have hgeneration := fun {j} => generation_founding (j := j) hl hc hparent hn (define_room hn h)
  refine ⟨?_, ?_, ?_, ?_, ?_, hgeneration (Or.inl rfl), ?_⟩
  · rw [hsame.size, size_create]
  · rw [local?_define hn ((has_create n).mpr (Or.inl hhas)), if_pos ⟨rfl, rfl⟩]
  · rw [hsame.kind_eq, proj_create Namespace.kind (fun _ _ => rfl), if_pos rfl]
  · rw [hsame.superclass_eq, proj_create Namespace.superclass (fun _ _ => rfl), if_pos rfl]
  · rw [hgeneration (Or.inr rfl), generation, node_of_not_has (by simp [Has])]
    rfl
  · rintro ⟨-, hr⟩
    rw [hsame.links_eq] at hr
    exact hl.not_reaches_created n hhas hr

end founding

end World
end ConstantResolution
