import ConstantResolution.Proofs.World.Resolution
import ConstantResolution.Proofs.World.Steps

/-! # Propagation of a change

A change of a namespace advances the generations of a list of namespaces.  Where links are sound, the
list holds exactly the live namespaces from which the changed one is reached, each of them once
(`Linked.mem_affected_iff`, `nodup_affected`), whatever circles the links make.  So each of these
generations grows by one and no other one changes (`Linked.propagated`), unless a counter stands at
its greatest value.

The changes of a world are one action with different values (`changing`). -/

namespace ConstantResolution.World

variable {w w' : World} {i j : NamespaceId}

/-! ### What is affected -/

/-- What is reached from what lives lives. -/
theorem Linked.isAlive_of_reaches (hl : w.Linked) {j : Nat} (hi : w.isAlive i = true)
    (hr : Reaches w.links i j) : w.isAlive j = true := by
  induction hr with
  | refl => exact hi
  | tail _ hkl ih => exact hl.alive ih hkl

theorem Linked.mem_liveDependents (hl : w.Linked) :
    j ∈ w.liveDependents i ↔ i ∈ w.links j ∧ w.isAlive j = true := by
  rw [liveDependents, List.mem_filter, hl.dependents]

/-- Among live namespaces, dependents lead back along links. -/
theorem Linked.reaches_liveDependents_iff (hl : w.Linked) (hi : w.isAlive i = true) {x : Nat} :
    Reaches w.liveDependents i x ↔ w.isAlive x = true ∧ Reaches w.links x i := by
  constructor
  · intro h
    induction h with
    | refl => exact ⟨hi, Reaches.refl _ i⟩
    | tail _ hkl ih =>
        obtain ⟨hlink, hlive⟩ := hl.mem_liveDependents.mp hkl
        exact ⟨hlive, ih.2.head hlink⟩
  · rintro ⟨hx, hr⟩
    -- From the far end on, as life is handed down along links and not back.
    induction hr using Relation.ReflTransGen.head_induction_on with
    | refl => exact Reaches.refl _ _
    | head hkl _ ih => exact (ih (hl.alive hx hkl)).tail (hl.mem_liveDependents.mpr ⟨hkl, hx⟩)

/-- **A change affects the live namespaces that reach what is changed.** -/
theorem Linked.mem_affected_iff (hl : w.Linked) (hi : w.isAlive i = true) {x : Nat} :
    x ∈ w.affected i ↔ w.isAlive x = true ∧ Reaches w.links x i := by
  have hclosed : Closed w.liveDependents (Finset.Icc 1 w.size) := by
    intro j _ k hk
    exact Finset.mem_Icc.mpr (has_of_alive (hl.mem_liveDependents.mp hk).2)
  have hcard : (Finset.Icc 1 w.size).card ≤ w.size + 1 := by
    rw [Nat.card_Icc]
    omega
  rw [affected, mem_visit_iff hclosed (Finset.mem_Icc.mpr (has_of_alive hi)) hcard,
    hl.reaches_liveDependents_iff hi]

theorem nodup_affected (w : World) (i : NamespaceId) : (w.affected i).Nodup :=
  nodup_visit _ _ _ _ List.nodup_nil

/-! ### Advancing a list of generations -/

theorem toNat_succ_of_ne_last {g : UInt64} (h : g ≠ lastGeneration) : (g + 1).toNat = g.toNat + 1 := by
  have hlt := g.toNat_lt
  have hne : g.toNat ≠ 18446744073709551615 := fun hg => h (UInt64.toNat_inj.mp hg)
  have hone : (1 : UInt64).toNat = 1 := rfl
  rw [UInt64.toNat_add, hone]
  omega

theorem generation_setGeneration (w : World) (i : NamespaceId) (g : UInt64) (j : NamespaceId) :
    (w.setGeneration i g).generation j = if i = j ∧ w.Has j then g else w.generation j := by
  rw [setGeneration, generation, generation]
  by_cases hij : i = j
  · subst hij
    by_cases hi : w.Has i
    · rw [node_update _ hi, if_pos ⟨rfl, hi⟩]
    · rw [update_of_not_has _ hi, if_neg fun h => hi h.2]
  · rw [node_update_of_ne _ hij, if_neg fun h => hij h.1]

/-- Generations of different namespaces do not meet the greatest value on each other's account. -/
theorem advance_eq_none_iff {is : List NamespaceId} (hn : is.Nodup) :
    (w.advance is).2 = none ↔ ∀ i ∈ is, w.generation i ≠ lastGeneration := by
  induction is generalizing w with
  | nil => exact ⟨fun _ i hi => absurd hi List.not_mem_nil, fun _ => rfl⟩
  | cons i is ih =>
      obtain ⟨hi, his⟩ := List.nodup_cons.mp hn
      have hsame : ∀ j ∈ is, (w.setGeneration i (w.generation i + 1)).generation j = w.generation j := by
        intro j hj
        rw [generation_setGeneration, if_neg]
        rintro ⟨rfl, -⟩
        exact hi hj
      rw [advance]
      by_cases hg : w.generation i = lastGeneration
      · simp [hg]
      · rw [if_neg hg, ih his, List.forall_mem_cons]
        constructor
        · intro h
          exact ⟨hg, fun j hj => by rw [← hsame j hj]; exact h j hj⟩
        · intro h j hj
          rw [hsame j hj]
          exact h.2 j hj

/-- **An advance without a fault adds one to each generation of its list.** -/
theorem generation_advance {is : List NamespaceId} (hn : is.Nodup) (h : (w.advance is).2 = none)
    (j : NamespaceId) :
    (w.advance is).1.generation j = if j ∈ is ∧ w.Has j then w.generation j + 1 else w.generation j := by
  induction is generalizing w with
  | nil =>
      rw [if_neg fun h => absurd h.1 List.not_mem_nil]
      rfl
  | cons i is ih =>
      obtain ⟨hi, his⟩ := List.nodup_cons.mp hn
      have hg := (advance_eq_none_iff hn).mp h i List.mem_cons_self
      rw [advance, if_neg hg] at h ⊢
      rw [ih his h, generation_setGeneration]
      have hhas : (w.setGeneration i (w.generation i + 1)).Has j ↔ w.Has j := by
        rw [Has, Has, size_setGeneration]
      by_cases hij : i = j
      · subst hij
        simp [hi]
      · simp [hhas, hij, Ne.symm hij]

/-- What an advance does not have in its list is left alone, wherever it stops. -/
theorem generation_advance_of_not_mem {is : List NamespaceId} (hj : j ∉ is) :
    (w.advance is).1.generation j = w.generation j := by
  induction is generalizing w with
  | nil => rfl
  | cons i is ih =>
      obtain ⟨hne, hjs⟩ := not_or.mp (mt List.mem_cons.mpr hj)
      have hset : (w.setGeneration i (w.generation i + 1)).generation j = w.generation j := by
        rw [generation_setGeneration, if_neg fun h => hne h.1.symm]
      unfold advance
      dsimp only
      split
      · exact hset
      · exact (ih hjs).trans hset

/-- The first of a list advances in any case; its counter runs over at the greatest value. -/
theorem generation_advance_head {is : List NamespaceId} (hn : (i :: is).Nodup) (hi : w.Has i) :
    (w.advance (i :: is)).1.generation i = w.generation i + 1 := by
  have hset : (w.setGeneration i (w.generation i + 1)).generation i = w.generation i + 1 := by
    rw [generation_setGeneration, if_pos ⟨rfl, hi⟩]
  unfold advance
  dsimp only
  split
  · exact hset
  · exact (generation_advance_of_not_mem (List.nodup_cons.mp hn).1).trans hset

/-- What stands at no namespace stands at generation zero. -/
theorem generation_ne_last (h : ∀ n ∈ w.nodes, n.generation ≠ lastGeneration) (j : NamespaceId) :
    w.generation j ≠ lastGeneration := by
  by_cases hj : w.Has j
  · exact h _ (mem_nodes hj)
  · rw [generation, node_of_not_has hj]
    exact (by decide : (0 : UInt64) ≠ lastGeneration)

theorem fault_advance (w : World) (is : List NamespaceId) {f : Fault} (h : (w.advance is).2 = some f) :
    f = .overflow .generation := by
  induction is generalizing w with
  | nil => exact nomatch h
  | cons i is ih =>
      unfold advance at h
      dsimp only at h
      split at h
      · exact (Option.some.inj h).symm
      · exact ih _ h

/-! ### Exact propagation -/

/-- Between two worlds, the live namespaces from which `i` is reached were advanced by one, and no
others. -/
structure Propagated (i : NamespaceId) (w w' : World) : Prop where
  advanced : ∀ {j : Nat}, w'.isAlive j = true → Reaches w'.links j i →
    (w'.generation j).toNat = (w.generation j).toNat + 1
  kept : ∀ {j : Nat}, ¬ (w'.isAlive j = true ∧ Reaches w'.links j i) → w'.generation j = w.generation j

theorem links_advance (w : World) (is : List NamespaceId) : (w.advance is).1.links = w.links :=
  funext fun j => proj_advance Namespace.links (fun _ _ => rfl) is j

theorem isAlive_advance (w : World) (is : List NamespaceId) (j : NamespaceId) :
    (w.advance is).1.isAlive j = w.isAlive j := proj_advance Namespace.alive (fun _ _ => rfl) is j

/-- **The advance that follows a change adds one to each generation that it has to, and to no
other.** -/
theorem Linked.propagated (hl : w.Linked) (hi : w.isAlive i = true)
    (hg : ∀ j, w.generation j ≠ lastGeneration) :
    (w.advance (w.affected i)).2 = none ∧ Propagated i w (w.advance (w.affected i)).1 := by
  have hn := nodup_affected w i
  have hnone : (w.advance (w.affected i)).2 = none := (advance_eq_none_iff hn).mpr fun j _ => hg j
  refine ⟨hnone, ?_, ?_⟩
  · intro j hj hr
    rw [isAlive_advance] at hj
    rw [links_advance] at hr
    have hmem := (hl.mem_affected_iff hi).mpr ⟨hj, hr⟩
    rw [generation_advance hn hnone, if_pos ⟨hmem, has_of_alive hj⟩, toNat_succ_of_ne_last (hg j)]
  · intro j hj
    rw [isAlive_advance, links_advance] at hj
    refine generation_advance_of_not_mem fun hmem => hj ?_
    exact (hl.mem_affected_iff hi).mp hmem

/-! ### One shape for all changes -/

/-- Changes a world, advances what depends on a namespace, and takes a note.  What it gives may
depend on the new generation. -/
def changing {α : Type} (f : World → World) (i : NamespaceId) (n : UInt64 → Note) (a : UInt64 → α) :
    Action World α := do
  Action.modify f
  let g ← bump i
  Action.note (n g)
  return a g

theorem define_eq (i : NamespaceId) {name : String} (hn : isConstantName name = true) (v : Value)
    (w : World) :
    define i name v w = changing (fun w => w.bind i name v) i
      (.defined (w.local? i name).isSome (w.qualifiedName i) name) (fun _ => w.local? i name) w := by
  unfold define
  rw [if_pos hn]
  rfl

theorem define_of_not_name (i : NamespaceId) {name : String} (hn : ¬ isConstantName name = true)
    (v : Value) : define i name v = Action.raise (.wrongName name) := by
  unfold define
  rw [if_neg hn]

theorem remove_of_some {name : String} {v : Value} (h : w.local? i name = some v) :
    remove i name w = changing (fun w => w.unbind i name) i (.removed (w.qualifiedName i) name)
      (fun _ => some v) w := by
  unfold remove
  rw [Action.get_bind]
  simp only [h]
  rfl

theorem remove_of_none {name : String} (h : w.local? i name = none) :
    remove i name w = ⟨w, [], .ok none⟩ := by
  unfold remove
  rw [Action.get_bind]
  simp only [h]
  rfl

theorem reopen_eq (i : NamespaceId) (w : World) :
    reopen i w = changing id i (.reopened (w.qualifiedName i)) id w := rfl

/-- A module is included anew. -/
structure Includable (w : World) (i m : NamespaceId) : Prop where
  kind : (w.node m).kind = .moduleScope
  ne : m ≠ i
  acyclic : i ∉ w.ancestors m
  new : m ∉ w.ancestors i

theorem includeModule_of_includable {m : NamespaceId} (h : w.Includable i m) :
    includeModule i m w = changing (fun w => w.link i m) i
      (.included (w.qualifiedName m) (w.qualifiedName i)) (fun _ => ()) w := by
  unfold includeModule
  rw [Action.get_bind]
  simp only [h.kind, h.ne, h.acyclic, h.new, ne_eq, not_true, or_self, if_false]
  rfl

section changing

variable {α : Type} {f : World → World} {n : UInt64 → Note} {a : UInt64 → α}

theorem changing_of_none (h : ((f w).advance ((f w).affected i)).2 = none) :
    changing f i n a w = ⟨((f w).advance ((f w).affected i)).1,
      [n (((f w).advance ((f w).affected i)).1.generation i)],
      .ok (a (((f w).advance ((f w).affected i)).1.generation i))⟩ := by
  have hb : bump i (f w) = ⟨((f w).advance ((f w).affected i)).1, [],
      .ok (((f w).advance ((f w).affected i)).1.generation i)⟩ := by
    unfold bump
    rw [← Prod.eta ((f w).advance ((f w).affected i)), h]
  unfold changing
  rw [Action.modify_bind, Action.bind_of_ok hb]
  rfl

theorem changing_of_some {e : Fault} (h : ((f w).advance ((f w).affected i)).2 = some e) :
    changing f i n a w = ⟨((f w).advance ((f w).affected i)).1, [.fault e], .error (.fault e)⟩ := by
  have hb : bump i (f w) = ⟨((f w).advance ((f w).affected i)).1, [.fault e], .error (.fault e)⟩ := by
    unfold bump
    rw [← Prod.eta ((f w).advance ((f w).affected i)), h]
  unfold changing
  rw [Action.modify_bind, Action.bind_of_error hb]

/-- The world that a change leaves behind, with a fault or without. -/
theorem changing_state : (changing f i n a w).state = ((f w).advance ((f w).affected i)).1 := by
  cases h : ((f w).advance ((f w).affected i)).2 with
  | none => rw [changing_of_none h]
  | some e => rw [changing_of_some h]

/-- **What is changed advances by one**, with a fault or without: at its greatest value its generation runs over. -/
theorem generation_changing (hi : (f w).Has i) :
    (changing f i n a w).state.generation i = (f w).generation i + 1 := by
  obtain ⟨is, his⟩ : ∃ is, (f w).affected i = i :: is := visit_eq_cons _ _ i
  have hn := nodup_affected (f w) i
  rw [his] at hn
  rw [changing_state, his, generation_advance_head hn hi]

/-- **A change succeeds and is propagated exactly**, while no counter stands at its greatest value. -/
theorem Linked.changing_propagated (hl : w.Linked) (hc : w.Change i (f w)) (hi : w.isAlive i = true)
    (hg : ∀ j, w.generation j ≠ lastGeneration) :
    (changing f i n a w).result = .ok (a ((changing f i n a w).state.generation i)) ∧
      Propagated i w (changing f i n a w).state := by
  have hi' : (f w).isAlive i = true := (hc.isAlive_eq i).trans hi
  obtain ⟨hnone, hp⟩ := (hl.change hc).propagated hi' fun j => by rw [hc.generation_eq]; exact hg j
  rw [changing_of_none hnone]
  refine ⟨rfl, ?_, ?_⟩
  · intro j hj hr
    rw [← hc.generation_eq]
    exact hp.advanced hj hr
  · intro j hj
    rw [← hc.generation_eq]
    exact hp.kept hj

end changing

/-! ### The changes of a world -/

section changes

variable (hl : w.Linked) (hi : w.isAlive i = true) (hg : ∀ j, w.generation j ≠ lastGeneration)

include hl hi hg

theorem Linked.define_propagated {name : String} (hn : isConstantName name = true) (v : Value) :
    (define i name v w).result = .ok (w.local? i name) ∧ Propagated i w (define i name v w).state := by
  rw [define_eq i hn]
  exact hl.changing_propagated (Change.bind name v hn) hi hg

theorem Linked.remove_propagated {name : String} {v : Value} (hv : w.local? i name = some v) :
    (remove i name w).result = .ok (some v) ∧ Propagated i w (remove i name w).state := by
  rw [remove_of_some hv]
  exact hl.changing_propagated (Change.unbind name (by rw [hv]; rfl)) hi hg

theorem Linked.reopen_propagated :
    (reopen i w).result = .ok ((reopen i w).state.generation i) ∧ Propagated i w (reopen i w).state := by
  rw [reopen_eq]
  exact hl.changing_propagated Change.touch hi hg

theorem Linked.includeModule_propagated {m : NamespaceId} (hm : w.isAlive m = true)
    (h : w.Includable i m) :
    (includeModule i m w).result = .ok () ∧ Propagated i w (includeModule i m w).state := by
  rw [includeModule_of_includable h]
  exact hl.changing_propagated (Change.link m hi hm h.kind h.ne h.acyclic h.new) hi hg

end changes

/-- The module that is included anew becomes the last one. -/
theorem includes_includeModule {m : NamespaceId} (hi : w.isAlive i = true) (h : w.Includable i m) :
    ((includeModule i m w).state.node i).includes = (w.node i).includes ++ [m] := by
  rw [includeModule_of_includable h, changing_state,
    proj_advance Namespace.includes (fun _ _ => rfl), includes_link (has_of_alive hi), if_pos rfl]

/-- What includes no module anew changes nothing. -/
theorem includeModule_of_not_includable {m : NamespaceId} (h : ¬ w.Includable i m) :
    (includeModule i m w).state = w := by
  unfold includeModule
  rw [Action.get_bind]
  split
  · rfl
  · split
    · rfl
    · split
      · rfl
      · rename_i hk hc hnew
        rw [not_or] at hc
        exact absurd ⟨Decidable.not_not.mp hk, hc.1, hc.2, hnew⟩ h

/-- A new namespace stands at generation zero, as what does not exist does. -/
theorem generation_create {n : Namespace} (hn : n.generation = 0) (j : NamespaceId) :
    (w.create n).generation j = w.generation j := by
  rw [generation, generation, proj_create Namespace.generation (fun _ _ => rfl)]
  split
  · rename_i hj
    rw [hj, hn, node_of_not_has (by simp [Has])]
    rfl
  · rfl

theorem generation_newModule (name : String) (p : NamespaceId) (w : World) (j : NamespaceId) :
    (newModule name p w).state.generation j = w.generation j := generation_create rfl j

theorem generation_newClass (name : String) (p : NamespaceId) (sup : Option NamespaceId) (w : World)
    (j : NamespaceId) : (newClass name p sup w).state.generation j = w.generation j := by
  unfold newClass
  rw [Action.get_bind]
  cases sup.filter fun s => (w.node s).kind == .moduleScope with
  | some s => rfl
  | none => exact generation_create rfl j

end ConstantResolution.World
