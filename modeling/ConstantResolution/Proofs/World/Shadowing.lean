import ConstantResolution.Proofs.World.Definition

/-! # Shadowing

Whether a definition is seen from a namespace is a matter of the path of that namespace alone: the one that the
constant is defined in must stand on it, and no table before its first place may bind the name (`Unshadowed`).
The definition then gives its value, and every other lookup, from wherever and of whatever name, gives what it
gave before (`lookup_define`).  A name that was not bound in a namespace can be defined there and removed
again without a trace in any lookup (`lookup_remove_define`). -/

namespace ConstantResolution.World

variable {w : World} {i j : NamespaceId} {name : String}

/-- A namespace is on the path of `j`, and no table before its first place there binds a name. -/
def Unshadowed (w : World) (j i : NamespaceId) (name : String) : Prop :=
  i ∈ w.path j ∧ ∀ k ∈ (w.path j).takeWhile (· ≠ i), w.local? k name = none

instance (w : World) (j i : NamespaceId) (name : String) : Decidable (w.Unshadowed j i name) :=
  inferInstanceAs (Decidable (_ ∧ _))

/-- A place in a row that is given a value is found, unless a place before it has one. -/
theorem findSome?_update {α β : Type} [DecidableEq α] {f g : α → Option β} {a : α} {b : β} (ha : g a = some b)
    (hne : ∀ c, c ≠ a → g c = f c) (l : List α) :
    l.findSome? g = if a ∈ l ∧ ∀ c ∈ l.takeWhile (· ≠ a), f c = none then some b else l.findSome? f := by
  induction l with
  | nil => rw [if_neg fun h => absurd h.1 List.not_mem_nil, List.findSome?_nil, List.findSome?_nil]
  | cons c l ih =>
      by_cases hc : c = a
      · -- the first place of `a`: nothing stands before it
        subst hc
        have hbefore : (c :: l).takeWhile (· ≠ c) = [] := List.takeWhile_cons_of_neg (by simp)
        rw [List.findSome?_cons, ha, hbefore, if_pos ⟨List.mem_cons_self, fun _ h => absurd h List.not_mem_nil⟩]
      · have hbefore : (c :: l).takeWhile (· ≠ a) = c :: l.takeWhile (· ≠ a) :=
          List.takeWhile_cons_of_pos (by simpa using hc)
        have hseen : (a ∈ c :: l ∧ ∀ k ∈ (c :: l).takeWhile (· ≠ a), f k = none) ↔
            f c = none ∧ a ∈ l ∧ ∀ k ∈ l.takeWhile (· ≠ a), f k = none := by
          rw [hbefore, List.forall_mem_cons, List.mem_cons, or_iff_right (Ne.symm hc), and_left_comm]
        rw [List.findSome?_cons, List.findSome?_cons, hne c hc, ih]
        cases hv : f c with
        | some v => rw [if_neg fun h => Option.some_ne_none v (hv.symm.trans (hseen.mp h).1)]
        | none => exact if_congr (hseen.trans (and_iff_right hv)).symm rfl rfl

/-! ### Definitions -/

/-- **A definition is seen where it is not shadowed, and nowhere else.** -/
theorem lookup_define (hn : isConstantName name = true) (hi : w.Has i) (v : Value) (j : NamespaceId)
    (other : String) :
    (define i name v w).state.lookup j other =
      if other = name ∧ w.Unshadowed j i name then some v else w.lookup j other := by
  have hlocal := local?_define hn (v := v) hi
  rw [lookup, lookup, (define_sameFrame hn).path_eq]
  by_cases ho : other = name
  · subst ho
    have hdefined : (define i other v w).state.local? i other = some v := by rw [hlocal, if_pos ⟨rfl, rfl⟩]
    have hkept : ∀ k, k ≠ i → (define i other v w).state.local? k other = w.local? k other := fun k hk => by
      rw [hlocal, if_neg fun h => hk h.1.symm]
    rw [findSome?_update (f := fun k => w.local? k other) hdefined hkept]
    simp only [Unshadowed, true_and]
  · rw [if_neg fun h => ho h.1]
    refine findSome?_congr fun k _ => ?_
    rw [hlocal, if_neg fun h => ho h.2]

/-! ### Removals -/

theorem remove_state {v : Value} (hv : w.local? i name = some v) :
    (remove i name w).state = ((w.unbind i name).advance ((w.unbind i name).affected i)).1 := by
  rw [remove_of_some hv, changing_state]

theorem unbind_sameFrame (w : World) (i : NamespaceId) (name : String) : SameFrame w (w.unbind i name) :=
  ⟨size_unbind w i name, proj_unbind Namespace.frame (fun _ _ => rfl) name⟩

theorem remove_sameFrame (w : World) (i : NamespaceId) (name : String) : SameFrame w (remove i name w).state := by
  cases hv : w.local? i name with
  | none =>
      rw [remove_of_none hv]
      exact SameFrame.refl w
  | some v =>
      rw [remove_state hv]
      exact (unbind_sameFrame w i name).trans ⟨size_advance _ _, proj_advance Namespace.frame (fun _ _ => rfl) _⟩

/-- **A removal takes one name out of one namespace.** -/
theorem local?_remove (j : NamespaceId) (other : String) :
    (remove i name w).state.local? j other = if i = j ∧ other = name then none else w.local? j other := by
  cases hv : w.local? i name with
  | none =>
      rw [remove_of_none hv]
      split
      · rename_i h
        rw [← h.1, h.2, hv]
      · rfl
  | some v =>
      rw [remove_state hv, local?, proj_advance Namespace.constants (fun _ _ => rfl), unbind]
      by_cases hij : i = j
      · subst hij
        have hi : w.Has i := by
          by_contra hnot
          rw [local?, node_of_not_has hnot] at hv
          exact Option.some_ne_none v hv.symm
        rw [node_update _ hi, Dictionary.get?_erase]
        simp [local?]
      · rw [node_update_of_ne _ hij, if_neg fun h => hij h.1, local?]

/-- A removal succeeds, unless a generation that it affects stands at its greatest value. -/
theorem remove_of_ne_last {v : Value} (hv : w.local? i name = some v)
    (hg : ∀ j ∈ w.affected i, w.generation j ≠ lastGeneration) : (remove i name w).result = .ok (some v) := by
  have hsame := unbind_sameFrame w i name
  have hgeneration : ∀ j, (w.unbind i name).generation j = w.generation j :=
    proj_unbind Namespace.generation (fun _ _ => rfl) name
  have hnone : ((w.unbind i name).advance ((w.unbind i name).affected i)).2 = none := by
    rw [advance_eq_none_iff (nodup_affected _ i), hsame.affected_eq]
    intro j hj
    rw [hgeneration]
    exact hg j hj
  rw [remove_of_some hv, changing_of_none hnone]

/-- **What is defined anew and removed again leaves no trace in any lookup.** -/
theorem lookup_remove_define (hn : isConstantName name = true) (hi : w.Has i) (hnew : w.local? i name = none)
    (v : Value) (j : NamespaceId) (other : String) :
    (remove i name (define i name v w).state).state.lookup j other = w.lookup j other := by
  have hsame := (define_sameFrame hn (v := v)).trans (remove_sameFrame (define i name v w).state i name)
  rw [lookup, lookup, hsame.path_eq]
  refine findSome?_congr fun k _ => ?_
  rw [local?_remove, local?_define hn hi]
  split
  · rename_i h
    rw [← h.1, h.2, hnew]
  · rfl

/-! ### Both together -/

/-- After a definition there is room for one change more, when there was room for two. -/
theorem generation_define_ne_last (hn : isConstantName name = true) {v : Value}
    (hg : ∀ j ∈ w.affected i, (w.generation j).toNat + 2 < 2 ^ 64) :
    (define i name v w).result = .ok (w.local? i name) ∧
      ∀ j ∈ (define i name v w).state.affected i, (define i name v w).state.generation j ≠ lastGeneration := by
  have hroom : ∀ j ∈ w.affected i, w.generation j ≠ lastGeneration := by
    intro j hj heq
    have hlast := hg j hj
    rw [heq] at hlast
    exact absurd hlast (by decide)
  obtain ⟨w', notes, a, hdefine, rfl, rfl, hgeneration⟩ := define_of_ne_last hn (v := v) hroom
  refine ⟨by rw [hdefine], fun j hj heq => ?_⟩
  rw [(define_sameFrame hn).affected_eq] at hj
  have hlast : lastGeneration.toNat = 2 ^ 64 - 1 := rfl
  have hbound := hg j hj
  rw [← heq, hgeneration] at hlast
  split at hlast
  · rw [toNat_succ_of_ne_last (hroom j hj)] at hlast
    omega
  · omega

/-- **Definitions are local, and shadowed by what is nearer.**  In every world, after a constant is defined in a
namespace a lookup gives its value if and only if it is for that name, and from a namespace that has the other
one on its path with no table before its first place there that binds the name.  Every other lookup gives what
it gave before.  If the name was not bound in the namespace itself, its removal brings all lookups back.  As long
as the generations have room for both, the changes succeed: the first gives what the namespace itself bound the
name to before, and the second what it was bound to in between. -/
theorem definition_shadowed (w : World) {i : NamespaceId} (hi : w.Has i) {name : String}
    (hn : isConstantName name = true) (v : Value) :
    let defined := define i name v w
    let removed := remove i name defined.state
    (∀ j other, defined.state.lookup j other =
        if other = name ∧ w.Unshadowed j i name then some v else w.lookup j other) ∧
      (w.local? i name = none → ∀ j other, removed.state.lookup j other = w.lookup j other) ∧
      ((∀ j ∈ w.affected i, (w.generation j).toNat + 2 < 2 ^ 64) →
        defined.result = .ok (w.local? i name) ∧ removed.result = .ok (some v)) := by
  intro defined removed
  refine ⟨lookup_define hn hi v, fun hnew => lookup_remove_define hn hi hnew v, fun hg => ?_⟩
  obtain ⟨hdefined, hroom⟩ := generation_define_ne_last hn (v := v) hg
  have hbound : defined.state.local? i name = some v := by rw [local?_define hn hi, if_pos ⟨rfl, rfl⟩]
  exact ⟨hdefined, remove_of_ne_last hbound hroom⟩

/-- A class that is written in its superclass, and that one in the top level, which is its superclass too. -/
def twofold : World := (newClass "K" 2 (some 2) (newClass "C" 1 (some 1) (newTopLevel {}).state).state).state

/-- The inner class has both of the others on its path two times.  A constant of the top level is shadowed for it
by that of its superclass, and it sees one that the superclass does not bind. -/
theorem definition_shadowed_twofold :
    let w := (define 2 "X" (.int 1) twofold).state
    let shadowed := (define 1 "X" (.int 2) w).state
    let seen := (define 1 "Y" (.int 3) w).state
    w.Has 1 ∧ isConstantName "X" = true ∧ isConstantName "Y" = true ∧ w.path 3 = [3, 2, 2, 1, 1] ∧
      w.local? 1 "X" = none ∧ shadowed.lookup 3 "X" = some (.int 1) ∧ shadowed.lookup 1 "X" = some (.int 2) ∧
      seen.lookup 3 "Y" = some (.int 3) ∧ (remove 1 "X" shadowed).state.lookup 1 "X" = none := by
  intro w shadowed seen
  have htop : w.Has 1 := by decide +kernel
  have hx : isConstantName "X" = true := by decide +kernel
  have hy : isConstantName "Y" = true := by decide +kernel
  have hnew : w.local? 1 "X" = none := by decide +kernel
  obtain ⟨hlookup, hrestored, -⟩ := definition_shadowed w htop hx (.int 2)
  obtain ⟨hlookup', -, -⟩ := definition_shadowed w htop hy (.int 3)
  refine ⟨htop, hx, hy, by decide +kernel, hnew, ?_, ?_, ?_, ?_⟩
  · rw [hlookup, if_neg (by decide +kernel)]
    decide +kernel
  · rw [hlookup, if_pos (by decide +kernel)]
  · rw [hlookup', if_pos (by decide +kernel)]
  · rw [hrestored hnew]
    decide +kernel

end ConstantResolution.World
