import ConstantResolution.Proofs.World.Actions

/-! # Ancestry has no circles

No namespace is its own ancestor, in any world that steps lead to (`acyclic_notedRun`).  A class is newer
than its superclass, and nothing leads to a namespace when it is created; a module is included only
where its own ancestors do not include the place.  Ancestors are exactly what is reached
(`Linked.mem_ancestors_iff`), so the check refuses a module if and only if it would close a circle
(`includeModule_cyclic_iff`, `Acyclic.link_iff`). -/

namespace ConstantResolution

/-! ### Links without circles -/

/-- Links lead from no node back to it. -/
def Acyclic (next : Nat → List Nat) : Prop := ∀ i, ¬ Relation.TransGen (fun j k => k ∈ next j) i i

section circles

variable {next next' : Nat → List Nat} {i m x y : Nat}

/-- What is reached in one step or more is reached from the end of the first one. -/
theorem transGen_iff : Relation.TransGen (fun j k => k ∈ next j) x y ↔ ∃ z ∈ next x, Reaches next z y :=
  Relation.TransGen.head'_iff

theorem acyclic_iff : Acyclic next ↔ ∀ x, ∀ y ∈ next x, ¬ Reaches next y x := by
  constructor
  · intro h x y hy hr
    exact h x (transGen_iff.mpr ⟨y, hy, hr⟩)
  · intro h x hx
    obtain ⟨y, hy, hr⟩ := transGen_iff.mp hx
    exact h x y hy hr

/-- One link more leads somewhere new only by way of that link. -/
theorem Reaches.of_link (hnext : ∀ x y, y ∈ next' x ↔ y ∈ next x ∨ i = x ∧ y = m)
    (hr : Reaches next' x y) : Reaches next x y ∨ Reaches next x i ∧ Reaches next m y := by
  induction hr with
  | refl => exact Or.inl (Reaches.refl next x)
  | tail _ hyz ih =>
      rcases (hnext _ _).mp hyz with hyz | ⟨rfl, rfl⟩
      · rcases ih with ih | ⟨hi, hm⟩
        · exact Or.inl (ih.tail hyz)
        · exact Or.inr ⟨hi, hm.tail hyz⟩
      · rcases ih with ih | ⟨hi, -⟩
        · exact Or.inr ⟨ih, Reaches.refl next _⟩
        · exact Or.inr ⟨hi, Reaches.refl next _⟩

/-- **One link more closes a circle if and only if there is a way back.** -/
theorem Acyclic.link_iff (h : Acyclic next) (hnext : ∀ x y, y ∈ next' x ↔ y ∈ next x ∨ i = x ∧ y = m) :
    Acyclic next' ↔ ¬ Reaches next m i := by
  have hmono : ∀ {x y}, Reaches next x y → Reaches next' x y :=
    Reaches.mono fun x y hy => (hnext x y).mpr (Or.inl hy)
  rw [acyclic_iff] at h ⊢
  constructor
  · intro h' hr
    exact h' i m ((hnext i m).mpr (Or.inr ⟨rfl, rfl⟩)) (hmono hr)
  · intro hback x y hxy hr
    rcases hr.of_link hnext with hr | ⟨hyi, hmx⟩
    · rcases (hnext x y).mp hxy with hxy | ⟨rfl, rfl⟩
      · exact h x y hxy hr
      · exact hback hr
    · -- The way back passes the new link, and both ends of it are on one way without it.
      rcases (hnext x y).mp hxy with hxy | ⟨rfl, -⟩
      · exact hback ((hmx.tail hxy).trans hyi)
      · exact hback hmx

/-- A node that nothing leads to closes no circle. -/
theorem Acyclic.source {a : Nat} (h : Acyclic next) (hother : ∀ x, x ≠ a → next' x = next x)
    (hnone : ∀ x, a ∉ next' x) : Acyclic next' := by
  have hreach : ∀ {x y}, x ≠ a → Reaches next' x y → y ≠ a ∧ Reaches next x y := by
    intro x y hx hr
    induction hr with
    | refl => exact ⟨hx, Reaches.refl next x⟩
    | @tail y z _ hyz ih =>
        have hz : z ≠ a := by
          rintro rfl
          exact hnone y hyz
        rw [hother y ih.1] at hyz
        exact ⟨hz, ih.2.tail hyz⟩
  rw [acyclic_iff] at h ⊢
  intro x y hxy hr
  have hy : y ≠ a := by
    rintro rfl
    exact hnone x hxy
  obtain ⟨hx, hr⟩ := hreach hy hr
  rw [hother x hx] at hxy
  exact h x y hxy hr

end circles

/-- The direct ancestors of a namespace. -/
def Namespace.uplinks (n : Namespace) : List NamespaceId := n.includes.reverse ++ n.superclass.toList

namespace World

variable {w w' : World} {i j m : NamespaceId}

/-! ### Ancestors are what is reached -/

/-- **The ancestors of a namespace are exactly the namespaces that are reached from it.** -/
theorem Linked.mem_ancestors_iff (hl : w.Linked) :
    j ∈ w.ancestors i ↔ Relation.TransGen (fun k l => l ∈ w.uplinks k) i j := by
  rw [ancestors, mem_visitAll_iff (hl.closed_uplinks i) (hl.uplinks_subset_region i) (card_region_le w i),
    transGen_iff]

/-! ### Steps close no circle -/

theorem uplinks_eq_of_node {f : World} (h : ∀ j, (f.node j).uplinks = (w.node j).uplinks) :
    f.uplinks = w.uplinks := funext h

theorem mem_uplinks_link (hi : w.Has i) (m x y : NamespaceId) :
    y ∈ (w.link i m).uplinks x ↔ y ∈ w.uplinks x ∨ i = x ∧ y = m := by
  have hincludes := includes_link (j := x) hi m
  have hsuper := proj_link (w := w) (i := i) Namespace.superclass (fun _ _ _ => rfl) m x
  rw [uplinks, uplinks, hincludes, hsuper]
  by_cases hx : i = x
  · simp only [if_pos hx, List.mem_append, List.mem_reverse, List.mem_singleton]
    tauto
  · simp [hx]

/-- A new namespace has its superclass for an ancestor, and is an ancestor of nothing. -/
theorem uplinks_create (w : World) (n : Namespace) (j : NamespaceId) :
    (w.create n).uplinks j = if j = w.size + 1 then n.uplinks else w.uplinks j :=
  proj_create Namespace.uplinks (fun _ _ => rfl) n j

theorem acyclic_create (hl : w.Linked) (h : Acyclic w.uplinks) {n : Namespace} (hn : w.Creatable n) :
    Acyclic (w.create n).uplinks := by
  refine h.source (a := w.size + 1) (fun x hx => ?_) fun x hx => ?_
  · rw [uplinks_create, if_neg hx]
  · rw [uplinks_create] at hx
    split at hx
    · have hincludes : n.includes = [] := by rw [hn.fresh]
      have hsuper : n.superclass = some (w.size + 1) := by
        simpa [Namespace.uplinks, hincludes] using hx
      exact ne_of_alive (hn.superclass hsuper) rfl
    · have hhas := hl.has (uplinks_subset_links w x hx)
      exact Nat.not_succ_le_self w.size hhas.2

theorem acyclic_change (hl : w.Linked) (h : Acyclic w.uplinks) (hc : w.Change i w') :
    Acyclic w'.uplinks := by
  cases hc with
  | bind name v _ =>
      rwa [uplinks_eq_of_node (proj_bind Namespace.uplinks (fun _ _ => rfl) name v)]
  | unbind name _ =>
      rwa [uplinks_eq_of_node (proj_unbind Namespace.uplinks (fun _ _ => rfl) name)]
  | link m hi _ _ hne hcycle _ =>
      rw [h.link_iff (mem_uplinks_link (has_of_alive hi) m)]
      intro hr
      rcases hr.cases_head with hmi | ⟨z, hz, hr⟩
      · exact hne hmi
      · exact hcycle (hl.mem_ancestors_iff.mpr (transGen_iff.mpr ⟨z, hz, hr⟩))
  | touch => exact h

/-- Generations and holders are no part of ancestry. -/
theorem acyclic_step (hl : w.Linked) (h : Acyclic w.uplinks) {f : Option Fault} (hs : Step w f w') :
    Acyclic w'.uplinks := by
  have hg : Structural Namespace.uplinks := ⟨fun _ _ => rfl, fun _ _ => rfl, fun _ _ => rfl, fun _ => rfl⟩
  obtain ⟨i, v, hc, heq⟩ | ⟨n, hn, rfl⟩ | heq := hs.structural hg
  · rw [uplinks_eq_of_node heq]
    exact acyclic_change hl h hc
  · exact acyclic_create hl h hn
  · rwa [uplinks_eq_of_node heq]

/-- **Ancestry stays without circles in every run.** -/
theorem acyclic_notedRun {notes : List Note} (hl : w.Linked) (h : Acyclic w.uplinks)
    (hr : NotedRun w notes w') : Acyclic w'.uplinks :=
  NotedRun.keeps (P := fun w => Acyclic w.uplinks) (fun hl h hs => acyclic_step hl h hs) hl h hr

theorem acyclic_empty : Acyclic ({} : World).uplinks := by
  rw [acyclic_iff]
  intro x y hxy
  rw [uplinks, node_empty] at hxy
  exact absurd hxy List.not_mem_nil

/-! ### The check -/

/-- A change may stop with a fault, but it raises no error. -/
theorem changing_ne_raised {α : Type} {f : World → World} {n : UInt64 → Note} {a : UInt64 → α}
    (e : RaisedError) : (changing f i n a w).result ≠ .error (.raised e) := by
  cases h : ((f w).advance ((f w).affected i)).2 with
  | none => simp [changing_of_none h]
  | some f => simp [changing_of_some h]

/-- A module is refused as an ancestor of itself if and only if the place is among its ancestors. -/
theorem includeModule_eq_cyclic_iff (hk : (w.node m).kind = .moduleScope) :
    (includeModule i m w).result = .error (.raised ⟨.cyclicInclude, none⟩) ↔
      m = i ∨ i ∈ w.ancestors m := by
  constructor
  · intro h
    by_contra hc
    by_cases hnew : m ∈ w.ancestors i
    · have hok : (includeModule i m w).result = .ok () := by
        unfold includeModule
        rw [Action.get_bind, if_neg (not_not.mpr hk), if_neg hc, if_pos hnew]
        rfl
      rw [hok] at h
      exact nomatch h
    · rw [not_or] at hc
      rw [includeModule_of_includable ⟨hk, hc.1, hc.2, hnew⟩] at h
      exact changing_ne_raised _ h
  · intro hc
    unfold includeModule
    rw [Action.get_bind, if_neg (not_not.mpr hk), if_pos hc]
    rfl

/-- **The check refuses exactly the modules from which the place is reached.** -/
theorem Linked.includeModule_cyclic_iff (hl : w.Linked) (hk : (w.node m).kind = .moduleScope) :
    (includeModule i m w).result = .error (.raised ⟨.cyclicInclude, none⟩) ↔ Reaches w.uplinks m i := by
  rw [includeModule_eq_cyclic_iff hk, hl.mem_ancestors_iff, Reaches, Relation.reflTransGen_iff_eq_or_transGen,
    eq_comm]

end World
end ConstantResolution
