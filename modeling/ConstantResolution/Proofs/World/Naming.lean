import Mathlib.Data.List.Nodup
import ConstantResolution.Proofs.Text.Segments
import ConstantResolution.Proofs.World.Definition
import ConstantResolution.Proofs.World.Liveness

/-! # Names of namespaces

A row of namespaces is rooted in a top level (`Rooted`) when each of them is bound to its own name in its
parent, and the parent is the top level or in the row as well.  Then the path of names of such a namespace
grows by one name from that of its parent (`Rooted.trail_of_parent`), and parent and name determine it
(`Rooted.nodup_origins`).

A world that keeps the names of a row (`NamesKept`) keeps it rooted; a new namespace that is bound where it is
written in goes at its end (`Rooted.snoc`). -/

namespace ConstantResolution

/-- What a namespace is called, and where it is written. -/
def Namespace.home (n : Namespace) : String × Kind × Option NamespaceId := (n.name, n.kind, n.parent)

/-- Where a namespace stands, and what it binds. -/
def Namespace.naming (n : Namespace) : (String × Kind × Option NamespaceId) × Table := (n.home, n.constants)

namespace World

variable {w w' w'' : World} {i j p top : NamespaceId} {is : List NamespaceId} {name : String}

/-! ### The path of names -/

/-- A bound that is not below the number of a node does not end a walk to older nodes. -/
theorem ascend_of_le {link : Nat → Option Nat} (h : ∀ i j, link i = some j → j < i) {bound i : Nat}
    (hb : i ≤ bound) : ascend link bound i = ascend link i i := by
  induction i using Nat.strong_induction_on generalizing bound with
  | _ i ih =>
      cases hl : link i with
      | none => cases bound <;> cases i <;> simp [ascend, hl]
      | some j =>
          have hj := h i j hl
          obtain ⟨b, rfl⟩ : ∃ b, bound = b + 1 := ⟨bound - 1, by omega⟩
          obtain ⟨k, rfl⟩ : ∃ k, i = k + 1 := ⟨i - 1, by omega⟩
          have hb' : ascend link b j = ascend link j j := ih j hj (by omega)
          have hk : ascend link k j = ascend link j j := ih j hj (by omega)
          rw [ascend, ascend, hl]
          dsimp only
          rw [hb', hk]

/-- The names from the top level to a namespace. -/
def trail (w : World) (i : NamespaceId) : List String := if w.isTopLevel i then [] else w.segments i

/-- **The path of a namespace is that of its parent and its name.** -/
theorem Ordered.segments_of_parent (h : w.Ordered) (hp : (w.node i).parent = some p) :
    w.segments i = w.trail p ++ [(w.node i).name] := by
  have holder : ∀ i j, (w.node i).parent = some j → j < i := fun i j hj => h i j (Or.inl hj)
  have hlt := holder i p hp
  obtain ⟨k, rfl⟩ := Nat.exists_eq_add_one_of_ne_zero (Nat.ne_of_gt (Nat.zero_lt_of_lt hlt))
  have henclosing : w.enclosing (k + 1) = p :: w.enclosing p := by
    rw [enclosing, ascend, hp]
    dsimp only
    rw [ascend_of_le holder (Nat.le_of_lt_succ hlt), enclosing]
  rw [segments, trail, lexicalScopes, henclosing, List.takeWhile_cons]
  cases htop : w.isTopLevel p with
  | true => simp
  | false => simp [segments, lexicalScopes]

/-! ### Rows of namespaces that are bound to their names -/

/-- A namespace is bound to its own name in its parent, which is one of `is`. -/
structure BoundIn (w : World) (is : List NamespaceId) (i : NamespaceId) : Prop where
  name : isConstantName (w.node i).name = true
  inner : w.isTopLevel i = false
  parent : ∃ p ∈ is, (w.node i).parent = some p ∧ w.local? p (w.node i).name = some (.ns i)

/-- The parent of a namespace, and its name. -/
def origin (w : World) (i : NamespaceId) : Option NamespaceId × String := ((w.node i).parent, (w.node i).name)

/-- A top level, and a row of namespaces that are bound to their names below it. -/
structure Rooted (w : World) (top : NamespaceId) (is : List NamespaceId) : Prop where
  isTop : w.isTopLevel top = true
  nodup : (top :: is).Nodup
  has : ∀ {i}, i ∈ top :: is → w.Has i
  bound : ∀ {i}, i ∈ is → w.BoundIn (top :: is) i

namespace Rooted

variable (h : w.Rooted top is)

include h

theorem trail_top : w.trail top = [] := if_pos h.isTop

theorem segments_eq_trail (hi : i ∈ is) : w.segments i = w.trail i := by
  rw [trail, (h.bound hi).inner]
  rfl

/-- **Induction along parents.** -/
theorem induction (ho : w.Ordered) {P : NamespaceId → Prop} (htop : P top)
    (hstep : ∀ {i p}, i ∈ is → p ∈ top :: is → (w.node i).parent = some p →
      w.local? p (w.node i).name = some (.ns i) → P p → P i) (hi : i ∈ top :: is) : P i := by
  induction i using Nat.strong_induction_on with
  | _ i ih =>
      rcases List.mem_cons.mp hi with rfl | hmem
      · exact htop
      · obtain ⟨p, hp, hparent, hlocal⟩ := (h.bound hmem).parent
        exact hstep hmem hp hparent hlocal (ih p (ho i p (Or.inl hparent)) hp)

theorem trail_of_parent (ho : w.Ordered) (hi : i ∈ is) (hp : (w.node i).parent = some p) :
    w.trail i = w.trail p ++ [(w.node i).name] := by
  rw [← h.segments_eq_trail hi, ho.segments_of_parent hp]

/-- **A path consists of names of constants.** -/
theorem isConstantName_of_mem_trail (ho : w.Ordered) (hi : i ∈ top :: is) :
    ∀ name ∈ w.trail i, isConstantName name = true := by
  refine h.induction (P := fun i => ∀ name ∈ w.trail i, isConstantName name = true) ho ?_ ?_ hi
  · rw [h.trail_top]
    exact fun _ hname => absurd hname List.not_mem_nil
  · intro i p hmem _ hparent _ ih name hname
    rw [h.trail_of_parent ho hmem hparent] at hname
    rcases List.mem_append.mp hname with hname | hname
    · exact ih name hname
    · rw [List.mem_singleton.mp hname]
      exact (h.bound hmem).name

/-- The segments of the path of a namespace are the names that lead to it. -/
theorem pathSegments_qualifiedName (ho : w.Ordered) (hi : i ∈ is) :
    pathSegments (w.qualifiedName i) = w.trail i := by
  have hne : w.segments i ≠ [] := by simp [segments]
  rw [qualifiedName, pathSegments_intercalate hne, h.segments_eq_trail hi]
  rw [h.segments_eq_trail hi]
  exact h.isConstantName_of_mem_trail ho (List.mem_cons_of_mem top hi)

/-- **Parent and name determine a namespace.** -/
theorem nodup_origins : (is.map w.origin).Nodup := by
  refine List.Nodup.map_on (fun i hi j hj hij => ?_) (List.nodup_cons.mp h.nodup).2
  obtain ⟨p, -, hp, hlocal⟩ := (h.bound hi).parent
  obtain ⟨q, -, hq, hlocal'⟩ := (h.bound hj).parent
  obtain ⟨hparent, hname⟩ := Prod.mk.inj hij
  rw [hp, hq] at hparent
  rw [Option.some.inj hparent, hname, hlocal'] at hlocal
  exact (Value.ns.inj (Option.some.inj hlocal)).symm

end Rooted

/-! ### What keeps names -/

/-- A world that comes after another one in which every namespace is called and written as before, and the
namespaces `is` are still bound where they were. -/
structure NamesKept (is : List NamespaceId) (w w' : World) : Prop where
  has : ∀ {j}, w.Has j → w'.Has j
  home : ∀ {j}, w.Has j → (w'.node j).home = (w.node j).home
  bound : ∀ {j name k}, k ∈ is → w.local? j name = some (.ns k) → w'.local? j name = some (.ns k)

theorem NamesKept.refl (is : List NamespaceId) (w : World) : NamesKept is w w :=
  ⟨fun h => h, fun _ => rfl, fun _ h => h⟩

theorem NamesKept.trans (h : NamesKept is w w') (h' : NamesKept is w' w'') : NamesKept is w w'' where
  has := fun hj => h'.has (h.has hj)
  home := fun hj => (h'.home (h.has hj)).trans (h.home hj)
  bound := fun hk hj => h'.bound hk (h.bound hk hj)

/-- What leaves names and constants alone. -/
theorem NamesKept.of_naming (hs : w'.size = w.size)
    (hn : ∀ j, (w'.node j).naming = (w.node j).naming) : NamesKept is w w' where
  has := fun hj => by rwa [Has, hs]
  home := fun {j} _ => congrArg Prod.fst (hn j)
  bound := fun {j name k} _ hlocal => by
    have hconstants : (w'.node j).constants = (w.node j).constants := congrArg Prod.snd (hn j)
    rwa [local?, hconstants]

/-- The contract of what keeps the names of a row of namespaces. -/
def naming (is : List NamespaceId) : Contract World where
  valid := fun _ => True
  step := fun w _ w' => NamesKept is w w'
  refl := fun w _ => NamesKept.refl is w
  trans := NamesKept.trans

theorem NamesKept.origin_eq (hk : NamesKept is w w') (hi : w.Has i) : w'.origin i = w.origin i := by
  have hname : (w'.node i).name = (w.node i).name := congrArg (·.1) (hk.home hi)
  have hparent : (w'.node i).parent = (w.node i).parent := congrArg (·.2.2) (hk.home hi)
  rw [origin, origin, hname, hparent]

theorem NamesKept.isTopLevel_eq (hk : NamesKept is w w') (hi : w.Has i) : w'.isTopLevel i = w.isTopLevel i := by
  have hkind : (w'.node i).kind = (w.node i).kind := congrArg (·.2.1) (hk.home hi)
  rw [isTopLevel, isTopLevel, hkind]

/-- **What keeps names keeps a row rooted.** -/
theorem Rooted.kept (h : w.Rooted top is) (hk : NamesKept (top :: is) w w') : w'.Rooted top is := by
  refine ⟨(hk.isTopLevel_eq (h.has List.mem_cons_self)).trans h.isTop, h.nodup, fun hi => hk.has (h.has hi),
    fun {i} hi => ?_⟩
  have hmem := List.mem_cons_of_mem top hi
  obtain ⟨hparent, hname⟩ := Prod.mk.inj (hk.origin_eq (h.has hmem))
  obtain ⟨p, hp, hpi, hlocal⟩ := (h.bound hi).parent
  refine ⟨hname ▸ (h.bound hi).name, (hk.isTopLevel_eq (h.has hmem)).trans (h.bound hi).inner, p, hp,
    hparent.trans hpi, ?_⟩
  rw [hname]
  exact hk.bound hmem hlocal

/-- **A namespace that is bound to its name in one of a row goes at its end.** -/
theorem Rooted.snoc (h : w.Rooted top is) (hi : w.Has i) (hnew : i ∉ top :: is)
    (hb : w.BoundIn (top :: is) i) : w.Rooted top (is ++ [i]) := by
  have hmono : ∀ {j}, w.BoundIn (top :: is) j → w.BoundIn (top :: (is ++ [i])) j := by
    rintro j ⟨hname, hinner, p, hp, hparent⟩
    exact ⟨hname, hinner, p, List.mem_append_left [i] hp, hparent⟩
  refine ⟨h.isTop, ?_, fun {j} hj => ?_, fun {j} hj => ?_⟩
  · rw [← List.cons_append, List.nodup_append]
    exact ⟨h.nodup, List.nodup_singleton i, fun j hj k hk hjk => hnew (by simp_all)⟩
  · rcases List.mem_append.mp (show j ∈ (top :: is) ++ [i] from hj) with hj | hj
    · exact h.has hj
    · rwa [List.mem_singleton.mp hj]
  · rcases List.mem_append.mp hj with hj | hj
    · exact hmono (h.bound hj)
    · rw [List.mem_singleton.mp hj]
      exact hmono hb

/-! ### Changes -/

/-- A change of what one name is bound to, where this is none of `is`. -/
theorem NamesKept.update {f : Table → Table}
    (hf : ∀ t other, other ≠ name → (f t).get? other = t.get? other)
    (hn : ∀ k ∈ is, w.local? i name ≠ some (.ns k)) :
    NamesKept is w (w.update i fun n => { n with constants := f n.constants }) where
  has := fun hj => (has_update _).mpr hj
  home := fun {j} _ => by
    refine proj_update Namespace.home (fun n => ?_) j
    rfl
  bound := by
    intro j other k hk hlocal
    by_cases hi : w.Has i
    · by_cases hij : i = j
      · subst hij
        have hother : other ≠ name := by
          rintro rfl
          exact hn k hk hlocal
        rw [local?, node_update _ hi]
        show (f (w.node i).constants).get? other = some (.ns k)
        rw [hf _ _ hother]
        exact hlocal
      · rwa [local?, node_update_of_ne _ hij]
    · rwa [local?, update_of_not_has _ hi]

theorem changing_names {α : Type} {f : World → World} {n : UInt64 → Note} {a : UInt64 → α}
    (h : NamesKept is w (f w)) : (changing f i n a).Keeps (naming is) w fun _ _ => True := by
  refine fun _ => ⟨trivial, ?_, fun _ _ => trivial⟩
  rw [changing_state]
  exact h.trans (NamesKept.of_naming (size_advance _ _) (proj_advance Namespace.naming (fun _ _ => rfl) _))

theorem define_names (v : Value) (hn : ∀ k ∈ is, w.local? i name ≠ some (.ns k)) :
    (define i name v).Keeps (naming is) w fun _ _ => True := by
  by_cases hname : isConstantName name = true
  · refine Action.Keeps.congr (define_eq i hname v w) (changing_names ?_)
    exact NamesKept.update (f := (·.insert name v)) (fun t other ho => by rw [Dictionary.get?_insert, if_neg ho]) hn
  · rw [define_of_not_name i hname]
    exact Action.Keeps.raise

theorem remove_names (hn : ∀ k ∈ is, w.local? i name ≠ some (.ns k)) :
    (remove i name).Keeps (naming is) w fun _ _ => True := by
  cases hv : w.local? i name with
  | none => exact Action.Keeps.congr (remove_of_none hv) (Action.Keeps.pure trivial)
  | some v =>
      refine Action.Keeps.congr (remove_of_some hv) (changing_names ?_)
      exact NamesKept.update (f := (·.erase name)) (fun t other ho => by rw [Dictionary.get?_erase, if_neg ho]) hn

theorem reopen_names (w : World) (i : NamespaceId) :
    (reopen i).Keeps (naming is) w fun _ _ => True :=
  Action.Keeps.congr (reopen_eq i w) (changing_names (NamesKept.refl is w))

theorem includeModule_names (w : World) (i m : NamespaceId) :
    (includeModule i m).Keeps (naming is) w fun _ _ => True := by
  by_cases h : w.Includable i m
  · refine Action.Keeps.congr (includeModule_of_includable h) (changing_names ?_)
    exact NamesKept.of_naming (size_link w i m) (proj_link Namespace.naming (fun _ _ _ => rfl) m)
  · exact Action.Keeps.of_state (includeModule_of_not_includable h) fun _ _ => trivial

/-! ### Creation -/

theorem NamesKept.create (w : World) (n : Namespace) : NamesKept is w (w.create n) where
  has := fun hj => (has_create n).mpr (Or.inl hj)
  home := fun {j} hj => by
    have hne : j ≠ w.size + 1 := by
      rintro rfl
      exact Nat.not_succ_le_self w.size hj.2
    rw [proj_create Namespace.home (fun _ _ => rfl), if_neg hne]
  bound := fun {j name k} _ hlocal => by
    have hne : j ≠ w.size + 1 := by
      rintro rfl
      rw [local?, node_of_not_has (by simp [Has])] at hlocal
      exact absurd hlocal (Option.some_ne_none (Value.ns k)).symm
    rwa [local?, proj_create Namespace.constants (fun _ _ => rfl), if_neg hne]

/-- A namespace is there, bears a name that it is bound to in its parent, and is no top level. -/
structure Placed (w : World) (p : NamespaceId) (name : String) (i : NamespaceId) : Prop where
  has : w.Has i
  origin : w.origin i = (some p, name)
  inner : w.isTopLevel i = false
  bound : w.local? p name = some (.ns i)

theorem Placed.of_naming (h : w.Placed p name i) (hs : w'.size = w.size)
    (hn : ∀ j, (w'.node j).naming = (w.node j).naming) : w'.Placed p name i := by
  have hkept : NamesKept [i] w w' := NamesKept.of_naming hs hn
  exact ⟨hkept.has h.has, (hkept.origin_eq h.has).trans h.origin, (hkept.isTopLevel_eq h.has).trans h.inner,
    hkept.bound (List.mem_singleton_self i) h.bound⟩

/-- **A namespace that is created and bound** leaves the names of all others alone when its name was free. -/
theorem define_create (is : List NamespaceId) {n : Namespace} (hn : isConstantName name = true) (hp : w.Has p)
    (hfree : w.local? p name = none) (horigin : (n.parent, n.name) = (some p, name))
    (hkind : n.kind ≠ .topLevel) :
    NamesKept is w (define p name (.ns (w.size + 1)) (w.create n)).state ∧
      (define p name (.ns (w.size + 1)) (w.create n)).state.Placed p name (w.size + 1) := by
  have hne : p ≠ w.size + 1 := by
    rintro rfl
    exact Nat.not_succ_le_self _ hp.2
  have hunbound : (w.create n).local? p name = none := by
    rw [local?, proj_create Namespace.constants (fun _ _ => rfl), if_neg hne]
    exact hfree
  have hdefine : ∀ js, NamesKept js (w.create n) (define p name (.ns (w.size + 1)) (w.create n)).state := by
    intro js
    refine (define_names (.ns (w.size + 1)) (fun k _ => ?_) trivial).2.1
    rw [hunbound]
    exact (Option.some_ne_none _).symm
  have hhas : (w.create n).Has (w.size + 1) := (has_create n).mpr (Or.inr rfl)
  refine ⟨(NamesKept.create w n).trans (hdefine is), (hdefine []).has hhas, ?_, ?_, ?_⟩
  · rw [(hdefine []).origin_eq hhas, origin, proj_create Namespace.parent (fun _ _ => rfl),
      proj_create Namespace.name (fun _ _ => rfl), if_pos rfl, if_pos rfl, horigin]
  · rw [(hdefine []).isTopLevel_eq hhas, isTopLevel, proj_create Namespace.kind (fun _ _ => rfl), if_pos rfl]
    exact beq_eq_false_iff_ne.mpr hkind
  · rw [local?_define hn ((has_create n).mpr (Or.inl hp)), if_pos ⟨rfl, rfl⟩]

/-! ### Kinds -/

theorem Change.kind_eq (h : w.Change i w') (j : NamespaceId) : (w'.node j).kind = (w.node j).kind := by
  cases h with
  | bind name v _ => exact proj_bind Namespace.kind (fun _ _ => rfl) name v j
  | unbind name _ => exact proj_unbind Namespace.kind (fun _ _ => rfl) name j
  | link m _ _ _ _ _ _ => exact proj_link Namespace.kind (fun _ _ _ => rfl) m j
  | touch => rfl

theorem Step.size_le {f : Option Fault} (h : Step w f w') : w.size ≤ w'.size := by
  cases h with
  | change hc => rw [size_advance, hc.size_eq]
  | create _ => exact (size_create w _).symm ▸ Nat.le_succ _
  | handler i d => exact (size_setHandler w i d).ge
  | retain _ => exact (size_retain w _).ge
  | loosen i => exact (size_loosen w i).ge
  | bury _ _ => exact (size_bury w _).ge
  | rename _ => exact Nat.le_refl _

/-- **A namespace stays where it is and of its kind in every run.** -/
theorem NotedRun.has_kind {notes : List Note} (hr : NotedRun w notes w') (hl : w.Linked) (hi : w.Has i) :
    w'.Has i ∧ (w'.node i).kind = (w.node i).kind := by
  refine hr.keeps (P := fun v => v.Has i ∧ (v.node i).kind = (w.node i).kind) ?_ hl ⟨hi, rfl⟩
  intro v v' f _ ⟨hhas, hkind⟩ hs
  refine ⟨⟨hhas.1, hhas.2.trans hs.size_le⟩, Eq.trans ?_ hkind⟩
  have hg : Structural Namespace.kind := ⟨fun _ _ => rfl, fun _ _ => rfl, fun _ _ => rfl, fun _ => rfl⟩
  obtain ⟨_, _, hc, heq⟩ | ⟨n, -, rfl⟩ | heq := hs.structural hg
  · exact (heq i).trans (hc.kind_eq i)
  · rw [proj_create Namespace.kind (fun _ _ => rfl), if_neg]
    rintro rfl
    exact Nat.not_succ_le_self _ hhas.2
  · exact heq i

/-! ### Taking hold of a namespace -/

section holding

variable {β : Type} {g : Namespace → β} (hg : ∀ n k, g { n with holders := k } = g n)
  (hg' : ∀ n, g { n with alive := false } = g n)

include hg'

theorem proj_collect (bound : Nat) (w : World) (j : NamespaceId) :
    g ((collect bound w).node j) = g (w.node j) := by
  induction bound generalizing w with
  | zero => rfl
  | succ bound ih =>
      unfold collect
      split
      · rfl
      · rw [ih, proj_bury g hg']

include hg

theorem proj_release (w : World) (i j : NamespaceId) : g ((w.release i).node j) = g (w.node j) :=
  (proj_collect hg' _ (w.loosen i) j).trans (proj_loosen g hg j)

/-- To take hold of a namespace changes holders and lives only. -/
theorem proj_hold (w : World) (holder : String) (i j : NamespaceId) :
    g ((w.hold holder i).node j) = g (w.node j) := by
  have htake : g ((w.take holder i).node j) = g (w.node j) :=
    proj_retain (w := { w with held := w.held.insert holder i }) g hg j
  rw [hold_eq]
  cases w.held.get? holder with
  | none => exact htake
  | some o => exact (proj_release hg hg' _ o j).trans htake

end holding

theorem size_collect (bound : Nat) (w : World) : (collect bound w).size = w.size := by
  induction bound generalizing w with
  | zero => rfl
  | succ bound ih =>
      unfold collect
      split
      · rfl
      · rw [ih, size_bury]

theorem size_hold (w : World) (holder : String) (i : NamespaceId) : (w.hold holder i).size = w.size := by
  have htake : (w.take holder i).size = w.size := size_retain _ i
  rw [hold_eq]
  cases w.held.get? holder with
  | none => exact htake
  | some o => exact ((size_collect _ _).trans (size_loosen _ o)).trans htake

theorem NamesKept.hold (w : World) (holder : String) (i : NamespaceId) : NamesKept is w (w.hold holder i) :=
  NamesKept.of_naming (size_hold w holder i)
    (proj_hold (g := Namespace.naming) (fun _ _ => rfl) (fun _ => rfl) w holder i)

end World
end ConstantResolution
