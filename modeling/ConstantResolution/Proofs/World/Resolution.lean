import Mathlib.Order.Interval.Finset.Nat
import ConstantResolution.Proofs.Reachability
import ConstantResolution.Proofs.World.Links

/-! # What resolution reads

Resolution from a namespace reads the namespaces that are reached from it along links, and of these
it reads kind, links and constants.  Two worlds that agree on this (`SameView`) give the same
ancestors (`SameView.ancestors_eq`), the same path (`SameView.path_eq`) and the same value for each
name (`SameView.lookup_eq`). -/

namespace ConstantResolution

/-- What resolution reads of a namespace. -/
def Namespace.resolving (n : Namespace) :
    Kind × Option NamespaceId × Option NamespaceId × List NamespaceId × Table :=
  (n.kind, n.parent, n.superclass, n.includes, n.constants)

theorem Namespace.links_congr {n n' : Namespace} (h : n'.resolving = n.resolving) : n'.links = n.links := by
  simp only [resolving, Prod.mk.injEq] at h
  obtain ⟨-, hp, hs, hi, -⟩ := h
  rw [links, links, hp, hs, hi]

namespace World

/-- All that resolution from a namespace reads is the same in two worlds. -/
def SameView (w w' : World) (i : NamespaceId) : Prop :=
  ∀ j, Reaches w.links i j → (w'.node j).resolving = (w.node j).resolving

variable {w w' w'' : World} {i j : NamespaceId}

namespace SameView

theorem of_forall (h : ∀ j, (w'.node j).resolving = (w.node j).resolving) : SameView w w' i :=
  fun j _ => h j

theorem refl (w : World) (i : NamespaceId) : SameView w w i := of_forall fun _ => rfl

theorem links_eq (h : SameView w w' i) (hj : Reaches w.links i j) : w'.links j = w.links j :=
  Namespace.links_congr (h j hj)

theorem reaches (h : SameView w w' i) (hj : Reaches w.links i j) : Reaches w'.links i j :=
  hj.congr fun _ hk => h.links_eq hk

theorem reaches_of (h : SameView w w' i) (hj : Reaches w'.links i j) : Reaches w.links i j := by
  induction hj with
  | refl => exact Reaches.refl _ i
  | tail _ hkl ih =>
      rw [h.links_eq ih] at hkl
      exact ih.tail hkl

theorem symm (h : SameView w w' i) : SameView w' w i := fun j hj => (h j (h.reaches_of hj)).symm

theorem trans (h : SameView w w' i) (h' : SameView w' w'' i) : SameView w w'' i :=
  fun j hj => (h' j (h.reaches hj)).trans (h j hj)

/-! ### Parts of what is read -/

section parts

variable (h : SameView w w' i) (hj : Reaches w.links i j)

include h hj

theorem isTopLevel_eq : w'.isTopLevel j = w.isTopLevel j := by
  have := h j hj
  simp only [Namespace.resolving, Prod.mk.injEq] at this
  rw [isTopLevel, isTopLevel, this.1]

theorem parent_eq : (w'.node j).parent = (w.node j).parent := by
  have := h j hj
  simp only [Namespace.resolving, Prod.mk.injEq] at this
  exact this.2.1

theorem uplinks_eq : w'.uplinks j = w.uplinks j := by
  have := h j hj
  simp only [Namespace.resolving, Prod.mk.injEq] at this
  rw [uplinks, uplinks, this.2.2.1, this.2.2.2.1]

theorem local?_eq (name : String) : w'.local? j name = w.local? j name := by
  have := h j hj
  simp only [Namespace.resolving, Prod.mk.injEq] at this
  rw [local?, local?, this.2.2.2.2]

end parts

end SameView

/-! ### What is on the path is reached -/

theorem uplinks_subset_links (w : World) (i : NamespaceId) : w.uplinks i ⊆ w.links i := by
  intro j hj
  rw [uplinks, List.mem_append, List.mem_reverse, Option.mem_toList] at hj
  rw [links, Namespace.mem_links]
  rcases hj with hj | hj
  · exact Or.inr (Or.inr hj)
  · exact Or.inr (Or.inl hj)

theorem parent_subset_links (w : World) (i : NamespaceId) :
    single (fun j => (w.node j).parent) i ⊆ w.links i := by
  intro j hj
  rw [single, Option.mem_toList] at hj
  rw [links, Namespace.mem_links]
  exact Or.inl hj

theorem reaches_of_mem_enclosing (h : j ∈ w.enclosing i) : Reaches w.links i j :=
  (reaches_of_mem_ascend h).mono (parent_subset_links w)

theorem reaches_of_mem_lexicalScopes (h : j ∈ w.lexicalScopes i) : Reaches w.links i j :=
  reaches_of_mem_enclosing (List.takeWhile_subset _ h)

theorem reaches_of_root? (h : w.root? i = some j) : Reaches w.links i j := by
  rw [root?, Option.filter_eq_some_iff] at h
  exact reaches_of_mem_enclosing (List.mem_of_getLast? h.1)

theorem reaches_of_mem_ancestors (h : j ∈ w.ancestors i) : Reaches w.links i j := by
  rw [ancestors, visitAll] at h
  rcases mem_foldl_visit (fun _ _ _ => mem_or_reaches_of_mem_visit) _ _ j h with h | ⟨k, hk, hr⟩
  · exact absurd h List.not_mem_nil
  · exact (hr.mono (uplinks_subset_links w)).head (uplinks_subset_links w i hk)

theorem reaches_of_mem_path (h : j ∈ w.path i) : Reaches w.links i j := by
  rw [path, List.mem_append, List.mem_append, List.mem_cons, Option.mem_toList] at h
  rcases h with ((rfl | h) | h) | h
  · exact Reaches.refl _ _
  · exact reaches_of_mem_lexicalScopes h
  · exact reaches_of_mem_ancestors h
  · exact reaches_of_root? h

/-! ### The finite part of a world that is read -/

section region

open Classical

/-- The namespaces that are reached from `i`, with `i` itself only if it exists. -/
noncomputable def region (w : World) (i : NamespaceId) : Finset Nat :=
  (Finset.Icc 1 w.size).filter fun j => Reaches w.links i j

theorem mem_region {j : Nat} : j ∈ w.region i ↔ w.Has j ∧ Reaches w.links i j := by
  rw [region, Finset.mem_filter, Finset.mem_Icc]
  rfl

theorem card_region_le (w : World) (i : NamespaceId) : (w.region i).card ≤ w.size := by
  refine (Finset.card_filter_le _ _).trans_eq ?_
  rw [Nat.card_Icc, Nat.add_sub_cancel]

end region

theorem Linked.closed_region (hl : w.Linked) (i : NamespaceId) : Closed w.links (w.region i) := by
  intro j hj k hk
  exact mem_region.mpr ⟨hl.has hk, (mem_region.mp hj).2.tail hk⟩

theorem Linked.closed_uplinks (hl : w.Linked) (i : NamespaceId) : Closed w.uplinks (w.region i) :=
  fun j hj k hk => hl.closed_region i j hj k (uplinks_subset_links w j hk)

theorem Linked.uplinks_subset_region (hl : w.Linked) (i : NamespaceId) :
    ∀ j ∈ w.uplinks i, j ∈ w.region i := by
  intro j hj
  have hj := uplinks_subset_links w i hj
  exact mem_region.mpr ⟨hl.has hj, (Reaches.refl _ i).tail hj⟩

/-! ### Worlds that agree on what is read -/

section agreement

theorem takeWhile_congr {α : Type} {p q : α → Bool} {l : List α} (h : ∀ a ∈ l, p a = q a) :
    l.takeWhile p = l.takeWhile q := by
  induction l with
  | nil => rfl
  | cons a l ih =>
      rw [List.takeWhile_cons, List.takeWhile_cons, h a List.mem_cons_self,
        ih fun b hb => h b (List.mem_cons_of_mem a hb)]

theorem findSome?_congr {α β : Type} {f g : α → Option β} {l : List α} (h : ∀ a ∈ l, f a = g a) :
    l.findSome? f = l.findSome? g := by
  induction l with
  | nil => rfl
  | cons a l ih =>
      rw [List.findSome?_cons, List.findSome?_cons, h a List.mem_cons_self,
        ih fun b hb => h b (List.mem_cons_of_mem a hb)]

variable (h : SameView w w' i)

include h

theorem SameView.enclosing_eq : w'.enclosing i = w.enclosing i :=
  ascend_congr (fun _ hj => h.parent_eq (hj.mono (parent_subset_links w))) i

theorem SameView.lexicalScopes_eq : w'.lexicalScopes i = w.lexicalScopes i := by
  rw [lexicalScopes, lexicalScopes, h.enclosing_eq]
  apply takeWhile_congr
  intro j hj
  rw [h.isTopLevel_eq (reaches_of_mem_enclosing hj)]

theorem SameView.root?_eq : w'.root? i = w.root? i := by
  rw [root?, root?, h.enclosing_eq]
  cases hlast : (w.enclosing i).getLast? with
  | none => rfl
  | some j =>
      have hj := reaches_of_mem_enclosing (List.mem_of_getLast? hlast)
      simp only [Option.filter_some, h.isTopLevel_eq hj]

/-- **The ancestors of a namespace depend only on what is reached from it.** -/
theorem SameView.ancestors_eq (hl : w.Linked) (hs : w.size ≤ w'.size) : w'.ancestors i = w.ancestors i := by
  have hcard := card_region_le w i
  rw [ancestors, ancestors, h.uplinks_eq (Reaches.refl _ i)]
  exact visitAll_congr (hl.closed_uplinks i) (fun j hj => h.uplinks_eq (mem_region.mp hj).2)
    (hl.uplinks_subset_region i) hcard (hcard.trans hs)

theorem SameView.path_eq (hl : w.Linked) (hs : w.size ≤ w'.size) : w'.path i = w.path i := by
  rw [path, path, h.lexicalScopes_eq, h.ancestors_eq hl hs, h.root?_eq]

/-- **What names resolve to depends only on what is reached.** -/
theorem SameView.lookup_eq (hl : w.Linked) (hs : w.size ≤ w'.size) (name : String) :
    w'.lookup i name = w.lookup i name := by
  rw [lookup, lookup, h.path_eq hl hs]
  exact findSome?_congr fun j hj => h.local?_eq (reaches_of_mem_path hj) name

end agreement

end World
end ConstantResolution
