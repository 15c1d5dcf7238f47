import Mathlib.Order.Interval.Finset.Nat
import ConstantResolution.Proofs.Expansion

/-! # The order of ancestors

The ancestors of a namespace are the first occurrences of its full expansion: its included modules, last one
first, each followed by its own expansion, and then the superclass followed by its own
(`Linked.ancestors_eq`).

So an ancestor does not always come before its own ancestors.  It does if and only if it lies on the way
that always takes the first direct ancestor through which one gets to the other one (`Linked.idxOf_ancestors_lt_iff`);
where there is another way that is taken first, a constant of it is shadowed by one of its own ancestors
(`Linked.provider_of_ancestor`). -/

namespace ConstantResolution.World

/-- All direct ancestors of a namespace, each followed by its own expansion.  Nothing is left out. -/
def expansion (w : World) (i : NamespaceId) : List NamespaceId := expand w.uplinks w.size i

/-- The first direct ancestor through which one gets from a namespace to another one. -/
def toward (w : World) (x i : NamespaceId) : Option NamespaceId :=
  (w.uplinks i).find? fun j => j = x ∨ x ∈ w.ancestors j

/-- The namespace whose table a name is found in. -/
def provider? (w : World) (i : NamespaceId) (name : String) : Option NamespaceId :=
  (w.path i).find? fun j => (w.local? j name).isSome

variable {w : World} {i j m x : NamespaceId} {name : String}

theorem lookup_eq_provider (w : World) (i : NamespaceId) (name : String) :
    w.lookup i name = (w.provider? i name).bind fun j => w.local? j name := by
  rw [lookup, provider?]
  induction w.path i with
  | nil => rfl
  | cons j js ih =>
      rw [List.findSome?_cons, List.find?_cons]
      cases hj : w.local? j name with
      | none => exact ih
      | some v => simp [hj]

section linked

variable (hl : w.Linked) (ha : Acyclic w.uplinks)
include hl ha

/-! ### First occurrences of the full expansion -/

theorem Linked.shallow (i : NamespaceId) : Shallow w.uplinks w.size i := by
  have hfrom : ∀ i, ∀ j ∈ w.uplinks i, j ∈ Finset.Icc 1 w.size := by
    intro i j hj
    exact Finset.mem_Icc.mpr (hl.has (uplinks_subset_links w i hj))
  have hdepth := ha.shallow hfrom i
  rwa [Nat.card_Icc, Nat.add_sub_cancel] at hdepth

theorem Linked.isExpansion : IsExpansion w.uplinks w.expansion := isExpansion_expand (hl.shallow ha)

theorem Linked.eq_expansion {e : NamespaceId → List NamespaceId} (he : IsExpansion w.uplinks e) :
    e = w.expansion := funext fun i => (hl.shallow ha i).eq_expand he

/-- **Ancestors are the first occurrences of the full expansion.** -/
theorem Linked.ancestors_eq (i : NamespaceId) : w.ancestors i = (w.expansion i).eraseDups :=
  (hl.shallow ha i).visitAll_eq ha

theorem Linked.nodup_ancestors (i : NamespaceId) : (w.ancestors i).Nodup := by
  rw [hl.ancestors_eq ha]
  exact nodup_eraseDups (w.expansion i)

theorem Linked.not_mem_ancestors_self (i : NamespaceId) : i ∉ w.ancestors i := by
  rw [hl.mem_ancestors_iff]
  exact ha i

/-! ### Which of two comes first -/

/-- **Which of two ancestors comes first**, where one is an ancestor of the other. -/
theorem Linked.idxOf_ancestors_lt_iff (hx : x ∈ w.ancestors m) :
    (w.ancestors i).idxOf m < (w.ancestors i).idxOf x ↔
      Relation.TransGen (fun j k => w.toward x j = some k) i m := by
  have hp : ∀ j, decide (j = x ∨ x ∈ w.ancestors j) = true ↔ Reaches w.uplinks j x := by
    intro j
    rw [decide_eq_true_iff, hl.mem_ancestors_iff, Reaches, Relation.reflTransGen_iff_eq_or_transGen, eq_comm]
  rw [hl.ancestors_eq ha, idxOf_eraseDups_lt_iff]
  exact Shallow.idxOf_expand_lt_iff hp ha (hl.mem_ancestors_iff.mp hx) (hl.shallow ha i)

/-- A constant of an ancestor is shadowed by one of an ancestor of its own only where that one comes first,
or is a scope around the place. -/
theorem Linked.provider_of_ancestor (hm : m ∈ w.ancestors i) (hx : x ∈ w.ancestors m)
    (hname : (w.local? m name).isSome) (hprovider : w.provider? i name = some x) :
    x ∈ w.lexicalScopes i ∨ ¬ (w.ancestors i).idxOf m < (w.ancestors i).idxOf x := by
  have hxi : x ≠ i := by
    rintro rfl
    exact ha x ((hl.mem_ancestors_iff.mp hm).trans (hl.mem_ancestors_iff.mp hx))
  rw [provider?, path, List.find?_append, List.find?_append] at hprovider
  cases hnear : (i :: w.lexicalScopes i).find? fun j => (w.local? j name).isSome with
  | some y =>
      left
      rw [hnear, Option.some_or, Option.some_or, Option.some.injEq] at hprovider
      rw [hprovider] at hnear
      exact (List.mem_cons.mp (List.mem_of_find?_eq_some hnear)).resolve_left hxi
  | none =>
      right
      rw [hnear, Option.none_or] at hprovider
      cases hfound : (w.ancestors i).find? fun j => (w.local? j name).isSome with
      | none => exact absurd hname (List.find?_eq_none.mp hfound m hm)
      | some y =>
          rw [hfound, Option.some_or, Option.some.injEq] at hprovider
          rw [hprovider] at hfound
          exact not_idxOf_lt_of_find? hfound hname

end linked

end ConstantResolution.World
