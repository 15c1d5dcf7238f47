/-! # Walks along links

Two walks over numbered nodes.  `ascend` follows a link that each node has at most one of; `visit`
goes depth first along many links and lists each node once, when it is first reached.  Both carry a
bound for their depth.

Main statements: a walk goes on with what was listed before it (`isPrefix_visit`), lists its start
(`mem_visit_self`), first of all if nothing was listed (`visit_eq_cons`), and lists no node twice
(`nodup_visit`). -/

namespace ConstantResolution

/-- The nodes met by following `link` from `i`, without `i` itself, for at most `bound` steps. -/
def ascend (link : Nat → Option Nat) : Nat → Nat → List Nat
  | 0, _ => []
  | bound + 1, i =>
    match link i with
    | none => []
    | some j => j :: ascend link bound j

/-- Extends the list of nodes seen by those that are reached from `i`, depth first: each is listed where
the walk first comes to it, and is not listed again when it is met once more. -/
def visit (next : Nat → List Nat) : Nat → List Nat → Nat → List Nat
  | 0, seen, _ => seen
  | bound + 1, seen, i =>
    if i ∈ seen then seen else (next i).foldl (visit next bound) (seen ++ [i])

/-- Visits several nodes one after another. -/
def visitAll (next : Nat → List Nat) (bound : Nat) (seen : List Nat) (is : List Nat) : List Nat :=
  is.foldl (visit next bound) seen

/-! ### What was listed stays listed -/

/-- A fold goes on with what it has when each of its steps does. -/
theorem isPrefix_foldl {f : List Nat → Nat → List Nat} (hf : ∀ seen i, seen <+: f seen i)
    (is seen : List Nat) : seen <+: is.foldl f seen := by
  induction is generalizing seen with
  | nil => exact List.prefix_refl seen
  | cons i is ih => exact (hf seen i).trans (ih (f seen i))

/-- A walk goes on with what was listed before it. -/
theorem isPrefix_visit (next : Nat → List Nat) (bound : Nat) (seen : List Nat) (i : Nat) :
    seen <+: visit next bound seen i := by
  induction bound generalizing seen i with
  | zero => exact List.prefix_refl seen
  | succ bound ih =>
    unfold visit
    split
    · exact List.prefix_refl seen
    · exact (List.prefix_append seen [i]).trans (isPrefix_foldl ih _ _)

/-- The first that a walk lists is its start. -/
theorem visit_eq_cons (next : Nat → List Nat) (bound : Nat) (i : Nat) :
    ∃ is, visit next (bound + 1) [] i = i :: is := by
  obtain ⟨is, his⟩ := isPrefix_foldl (isPrefix_visit next bound) (next i) [i]
  refine ⟨is, ?_⟩
  rw [visit, if_neg List.not_mem_nil, List.nil_append, ← his]
  rfl

theorem mem_visit_self (next : Nat → List Nat) (bound : Nat) (seen : List Nat) (i : Nat) :
    i ∈ visit next (bound + 1) seen i := by
  unfold visit
  split
  · assumption
  · exact (isPrefix_foldl (isPrefix_visit next bound) _ _).subset (by simp)

/-! ### No node is listed twice -/

theorem nodup_foldl {f : List Nat → Nat → List Nat} (hf : ∀ seen i, seen.Nodup → (f seen i).Nodup)
    (is seen : List Nat) (h : seen.Nodup) : (is.foldl f seen).Nodup := by
  induction is generalizing seen with
  | nil => exact h
  | cons i is ih => exact ih (f seen i) (hf seen i h)

theorem nodup_visit (next : Nat → List Nat) (bound : Nat) (seen : List Nat) (i : Nat)
    (h : seen.Nodup) : (visit next bound seen i).Nodup := by
  induction bound generalizing seen i with
  | zero => exact h
  | succ bound ih =>
    unfold visit
    split
    · exact h
    · rename_i hi
      refine nodup_foldl ih _ _ ?_
      rw [List.nodup_append]
      exact ⟨h, by simp, fun a ha b hb hab => hi (by simp_all)⟩

end ConstantResolution
