import ConstantResolution.Proofs.Success
import ConstantResolution.Proofs.World.Propagation

/-! # What a definition changes

A definition leaves everything of a world alone but one constant and the generations (`define_sameFrame`,
`local?_define`).  So paths stay as they are, and a name that is bound at one place of a path alone resolves to
what it is bound to there (`lookup_eq_local?`), before and after. -/

namespace ConstantResolution

/-- All of a namespace but its constants and what counts changes and holders. -/
def Namespace.frame (n : Namespace) :
    Kind × Option NamespaceId × Option NamespaceId × List NamespaceId × List NamespaceId × Bool :=
  (n.kind, n.parent, n.superclass, n.includes, n.dependents, n.alive)

namespace World

variable {w w' w'' : World} {i : NamespaceId}

/-- Two worlds differ in constants, generations and holders only. -/
structure SameFrame (w w' : World) : Prop where
  size : w'.size = w.size
  frame : ∀ j, (w'.node j).frame = (w.node j).frame

namespace SameFrame

theorem refl (w : World) : SameFrame w w := ⟨rfl, fun _ => rfl⟩

theorem trans (h : SameFrame w w') (h' : SameFrame w' w'') : SameFrame w w'' :=
  ⟨h'.size.trans h.size, fun j => (h'.frame j).trans (h.frame j)⟩

variable (h : SameFrame w w')

include h

theorem path_eq (i : NamespaceId) : w'.path i = w.path i := by
  have hkind : ∀ j, (w'.node j).kind = (w.node j).kind := fun j => congrArg (·.1) (h.frame j)
  have hparent : ∀ j, (w'.node j).parent = (w.node j).parent := fun j => congrArg (·.2.1) (h.frame j)
  have hsuperclass : ∀ j, (w'.node j).superclass = (w.node j).superclass := fun j =>
    congrArg (·.2.2.1) (h.frame j)
  have hincludes : ∀ j, (w'.node j).includes = (w.node j).includes := fun j =>
    congrArg (·.2.2.2.1) (h.frame j)
  have htop : w'.isTopLevel = w.isTopLevel := by
    funext j
    rw [isTopLevel, isTopLevel, hkind]
  have henclosing : w'.enclosing i = w.enclosing i := by
    rw [enclosing, enclosing, funext hparent]
  have huplinks : w'.uplinks = w.uplinks := by
    funext j
    rw [uplinks, uplinks, hincludes, hsuperclass]
  rw [path, path, lexicalScopes, lexicalScopes, ancestors, ancestors, root?, root?, henclosing, htop, huplinks,
    h.size]

theorem isAlive_eq (i : NamespaceId) : w'.isAlive i = w.isAlive i := congrArg (·.2.2.2.2.2) (h.frame i)

theorem affected_eq (i : NamespaceId) : w'.affected i = w.affected i := by
  have hdependents : ∀ j, (w'.node j).dependents = (w.node j).dependents := fun j =>
    congrArg (·.2.2.2.2.1) (h.frame j)
  have halive : w'.isAlive = w.isAlive := funext h.isAlive_eq
  have hlive : w'.liveDependents = w.liveDependents := by
    funext j
    rw [liveDependents, liveDependents, hdependents, halive]
  rw [affected, affected, hlive, h.size]

theorem has_iff (j : NamespaceId) : w'.Has j ↔ w.Has j := by
  rw [Has, Has, h.size]

end SameFrame

/-- A name that is bound at one place of a path alone resolves to what it is bound to there. -/
theorem lookup_eq_local? {t : NamespaceId} {name : String} (ht : t ∈ w.path i)
    (h : ∀ j ∈ w.path i, j ≠ t → w.local? j name = none) : w.lookup i name = w.local? t name := by
  unfold lookup
  generalize w.path i = js at ht h
  induction js with
  | nil => exact absurd ht List.not_mem_nil
  | cons j js ih =>
      rw [List.findSome?_cons]
      have hrest : t ∈ js → js.findSome? (fun k => w.local? k name) = w.local? t name := fun ht' =>
        ih ht' fun k hk hne => h k (List.mem_cons_of_mem j hk) hne
      by_cases hj : j = t
      · subst hj
        cases hv : w.local? j name with
        | some v => rfl
        | none =>
            -- bound nowhere at all
            rw [List.findSome?_eq_none_iff]
            intro k hk
            by_cases hk' : k = j
            · rw [hk', hv]
            · exact h k (List.mem_cons_of_mem j hk) hk'
      · rw [h j List.mem_cons_self hj]
        exact hrest ((List.mem_cons.mp ht).resolve_left (Ne.symm hj))

theorem bind_sameFrame (w : World) (i : NamespaceId) (name : String) (v : Value) : SameFrame w (w.bind i name v) := by
  constructor
  · rw [size_bind]
  · exact proj_bind Namespace.frame (fun _ _ => rfl) name v

section define

variable {name : String} {v : Value} (hn : isConstantName name = true)

include hn

theorem define_state : (define i name v w).state = ((w.bind i name v).advance ((w.bind i name v).affected i)).1 := by
  rw [define_eq i hn, changing_state]

theorem define_sameFrame : SameFrame w (define i name v w).state := by
  rw [define_state hn]
  exact (bind_sameFrame w i name v).trans
    ⟨size_advance _ _, proj_advance Namespace.frame (fun _ _ => rfl) _⟩

/-- **A definition binds one name in one namespace.** -/
theorem local?_define (hi : w.Has i) (j : NamespaceId) (other : String) :
    (define i name v w).state.local? j other = if i = j ∧ other = name then some v else w.local? j other := by
  rw [define_state hn, local?, proj_advance Namespace.constants (fun _ _ => rfl), bind]
  by_cases hij : i = j
  · subst hij
    rw [node_update _ hi, Dictionary.get?_insert]
    simp [local?]
  · rw [node_update_of_ne _ hij, if_neg fun h => hij h.1, local?]

theorem generation_define (hi : w.Has i) : (define i name v w).state.generation i = w.generation i + 1 := by
  have hsame := bind_sameFrame w i name v
  have hgeneration : (w.bind i name v).generation i = w.generation i :=
    proj_bind Namespace.generation (fun _ _ => rfl) name v i
  rw [define_eq i hn, generation_changing ((hsame.has_iff i).mpr hi), hgeneration]

/-- **A definition succeeds and adds one to each generation that it affects**, unless one of them stands at its
greatest value. -/
theorem define_of_ne_last (hg : ∀ j ∈ w.affected i, w.generation j ≠ lastGeneration) :
    (define i name v).Succeeds w fun a w' => a = w.local? i name ∧ w' = (define i name v w).state ∧
      ∀ j, w'.generation j = if j ∈ w.affected i ∧ w.Has j then w.generation j + 1 else w.generation j := by
  have hsame := bind_sameFrame w i name v
  have hgeneration : ∀ j, (w.bind i name v).generation j = w.generation j :=
    proj_bind Namespace.generation (fun _ _ => rfl) name v
  have hnone : ((w.bind i name v).advance ((w.bind i name v).affected i)).2 = none := by
    rw [advance_eq_none_iff (nodup_affected _ i), hsame.affected_eq]
    intro j hj
    rw [hgeneration]
    exact hg j hj
  refine ⟨_, _, _, (define_eq i hn v w).trans (changing_of_none hnone), rfl, (define_state hn).symm, fun j => ?_⟩
  rw [generation_advance (nodup_affected _ i) hnone, hsame.affected_eq, hgeneration]
  simp only [hsame.has_iff]

end define

end World
end ConstantResolution
