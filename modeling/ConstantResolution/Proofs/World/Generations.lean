import ConstantResolution.Proofs.World.Propagation

/-! # Generations stand for what resolves

`Later w w'` says how a world `w'` that came after `w` may differ from it: there are no fewer
namespaces, what is dead stays dead, no generation is smaller, and a live namespace whose generation
is the same resolves the same.  Every run without an overflow leads to a later world (`Later.run`);
so an equal generation means equal ancestors and an equal value for each name
(`Later.ancestors_eq`, `Later.lookup_eq`). -/

namespace ConstantResolution.World

variable {w w' w'' : World} {i j : NamespaceId}

/-- One world comes after another one without an overflow in between. -/
structure Later (w w' : World) : Prop where
  size : w.size ≤ w'.size
  /-- what is dead stays dead -/
  alive : ∀ {i}, w.Has i → w'.isAlive i = true → w.isAlive i = true
  generation : ∀ i, w.generation i ≤ w'.generation i
  /-- what lives at the same generation resolves the same -/
  view : ∀ {i}, w.Has i → w'.isAlive i = true → w'.generation i = w.generation i → SameView w w' i

namespace Later

theorem refl (w : World) : Later w w where
  size := Nat.le_refl _
  alive := fun _ h => h
  generation := fun _ => UInt64.le_refl _
  view := fun {i} _ _ _ => SameView.refl w i

theorem has (h : Later w w') (hi : w.Has i) : w'.Has i := ⟨hi.1, hi.2.trans h.size⟩

theorem trans (h : Later w w') (h' : Later w' w'') : Later w w'' where
  size := h.size.trans h'.size
  alive := fun hi ha => h.alive hi (h'.alive (h.has hi) ha)
  generation := fun i => UInt64.le_trans (h.generation i) (h'.generation i)
  view := by
    intro i hi ha hg
    have ha' := h'.alive (h.has hi) ha
    have hle := h.generation i
    have hle' := h'.generation i
    -- A generation that is the same at the end was the same all the way.
    have hmid : w'.generation i = w.generation i := UInt64.le_antisymm (by rwa [hg] at hle') hle
    exact (h.view hi ha' hmid).trans (h'.view (h.has hi) ha (by rw [hg, hmid]))

/-- What changes neither generations nor anything that resolves. -/
theorem of_same (hs : w'.size = w.size) (ha : ∀ j, w'.isAlive j = true → w.isAlive j = true)
    (hg : ∀ j, w'.generation j = w.generation j)
    (hr : ∀ j, (w'.node j).resolving = (w.node j).resolving) : Later w w' where
  size := hs.ge
  alive := fun _ h => ha _ h
  generation := fun j => by rw [hg]; exact UInt64.le_refl _
  view := fun _ _ _ => SameView.of_forall hr

end Later

/-! ### What a change leaves alone -/

/-- A change of one namespace is no change of what resolution reads of another one. -/
theorem Change.resolving_eq (h : w.Change i w') (hj : i ≠ j) :
    (w'.node j).resolving = (w.node j).resolving := by
  cases h with
  | bind name v _ => rw [World.bind, node_update_of_ne _ hj]
  | unbind name _ => rw [World.unbind, node_update_of_ne _ hj]
  | link m _ _ _ _ _ _ =>
      rw [World.link, proj_addDependent Namespace.resolving (fun _ _ => rfl), node_update_of_ne _ hj]
  | touch => rfl

theorem resolving_advance (w : World) (is : List NamespaceId) (j : NamespaceId) :
    ((w.advance is).1.node j).resolving = (w.node j).resolving :=
  proj_advance Namespace.resolving (fun _ _ => rfl) is j

/-! ### Every step leads to a later world -/

theorem lt_succ_of_ne_last {g : UInt64} (h : g ≠ lastGeneration) : g < g + 1 := by
  rw [UInt64.lt_iff_toNat_lt, toNat_succ_of_ne_last h]
  omega

/-- **A change and its advance**: what keeps its generation does not reach what was changed. -/
theorem Later.change (hl : w.Linked) (hc : w.Change i w')
    (h : (w'.advance (w'.affected i)).2 = none) : Later w (w'.advance (w'.affected i)).1 := by
  have hl' := hl.change hc
  have hn := nodup_affected w' i
  have hlast := (advance_eq_none_iff hn).mp h
  constructor
  · rw [size_advance, hc.size_eq]
  · intro j _ ha
    rwa [isAlive_advance, hc.isAlive_eq] at ha
  · intro j
    rw [generation_advance hn h, hc.generation_eq]
    split
    · rename_i hj
      have hne := hlast j hj.1
      rw [hc.generation_eq] at hne
      exact UInt64.le_of_lt (lt_succ_of_ne_last hne)
    · exact UInt64.le_refl _
  · intro j hj ha hg
    rw [isAlive_advance] at ha
    -- What is affected was advanced, and so it does not stand where it stood.
    have hnot : j ∉ w'.affected i := by
      intro hm
      have hne := hlast j hm
      rw [hc.generation_eq] at hne
      rw [generation_advance hn h, if_pos ⟨hm, has_of_alive ha⟩, hc.generation_eq] at hg
      have hlt := lt_succ_of_ne_last hne
      rw [hg] at hlt
      exact UInt64.lt_irrefl _ hlt
    have hview : SameView w' w j := by
      intro k hk
      refine (hc.resolving_eq ?_).symm
      rintro rfl
      exact hnot ((hl'.mem_affected_iff (hl'.isAlive_of_reaches ha hk)).mpr ⟨ha, hk⟩)
    exact hview.symm.trans (SameView.of_forall fun k => resolving_advance w' _ k)

theorem Later.create (hl : w.Linked) {n : Namespace} (hn : w.Creatable n) : Later w (w.create n) := by
  have hold : ∀ {j : Nat}, w.Has j → j ≠ w.size + 1 := by
    rintro j hj rfl
    exact Nat.not_succ_le_self w.size hj.2
  constructor
  · rw [size_create]
    exact Nat.le_succ _
  · intro j hj ha
    rwa [isAlive_create, if_neg (hold hj)] at ha
  · intro j
    rw [generation_create (by rw [hn.fresh])]
    exact UInt64.le_refl _
  · intro j hj _ _ k hk
    have hhas : w.Has k := by
      cases hk with
      | refl => exact hj
      | tail _ hkl => exact hl.has hkl
    rw [proj_create Namespace.resolving (fun _ _ => rfl), if_neg (hold hhas)]

theorem Later.step (hl : w.Linked) (hs : Step w none w') : Later w w' := by
  generalize hf : (none : Option Fault) = f at hs
  cases hs with
  | change hc => exact Later.change hl hc hf.symm
  | create hn => exact Later.create hl hn
  | handler i d =>
      refine Later.of_same (size_setHandler w i d) (fun j hj => ?_)
        (proj_setHandler Namespace.generation (fun _ _ => rfl) d)
        (proj_setHandler Namespace.resolving (fun _ _ => rfl) d)
      rwa [isAlive, proj_setHandler Namespace.alive (fun _ _ => rfl)] at hj
  | @retain i _ =>
      refine Later.of_same (size_retain w i) (fun j hj => ?_)
        (proj_retain Namespace.generation fun _ _ => rfl) (proj_retain Namespace.resolving fun _ _ => rfl)
      rwa [isAlive, proj_retain Namespace.alive fun _ _ => rfl] at hj
  | loosen i =>
      refine Later.of_same (size_loosen w i) (fun j hj => ?_)
        (proj_loosen Namespace.generation fun _ _ => rfl) (proj_loosen Namespace.resolving fun _ _ => rfl)
      rwa [isAlive, proj_loosen Namespace.alive fun _ _ => rfl] at hj
  | @bury i _ _ =>
      exact Later.of_same (size_bury w i) (fun j hj => ((isAlive_bury w i j).mp hj).1)
        (proj_bury Namespace.generation fun _ => rfl) (proj_bury Namespace.resolving fun _ => rfl)
  | rename d => exact Later.of_same rfl (fun _ h => h) (fun _ => rfl) fun _ => rfl

theorem Step.fault_eq {f : Fault} (h : Step w (some f) w') : f = .overflow .generation := by
  generalize hf : some f = g at h
  cases h with
  | change _ => exact fault_advance _ _ hf.symm
  | _ => exact nomatch hf

/-- **A run without overflow leads to a later world.** -/
theorem Later.run {fs : List (Option Fault)} (hl : w.Linked) (hr : Run w fs w')
    (hf : some (.overflow .generation) ∉ fs) : Later w w' := by
  induction hr with
  | refl w => exact Later.refl w
  | @step w _ _ f fs hs _ ih =>
      rw [List.mem_cons, not_or] at hf
      have hnone : f = none := by
        cases f with
        | none => rfl
        | some f => exact absurd (congrArg some hs.fault_eq.symm) hf.1
      subst hnone
      exact (Later.step hl hs).trans (ih (hl.step hs) hf.2)

theorem NotedRun.later {notes : List Note} (h : NotedRun w notes w') (hl : w.Linked)
    (hn : .fault (.overflow .generation) ∉ notes) : Later w w' := by
  obtain ⟨fs, hr, hf⟩ := h
  exact Later.run hl hr fun hm => hn (hf _ hm)

/-! ### What an equal generation means -/

section equal

variable (h : Later w w') (hl : w.Linked) (hi : w.isAlive i = true) (hi' : w'.isAlive i = true)
  (hg : w'.generation i = w.generation i)

include h hl hi hi' hg

theorem Later.ancestors_eq : w'.ancestors i = w.ancestors i :=
  (h.view (has_of_alive hi) hi' hg).ancestors_eq hl h.size

/-- **At an equal generation each name resolves to the same value.** -/
theorem Later.lookup_eq (name : String) : w'.lookup i name = w.lookup i name :=
  (h.view (has_of_alive hi) hi' hg).lookup_eq hl h.size name

end equal

end ConstantResolution.World
