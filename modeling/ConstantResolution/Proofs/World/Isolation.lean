import ConstantResolution.Proofs.World.Naming

/-! # Parts of a world that nothing leads into

A part of a world is walled off (`Walled`) when no link of a live namespace leads into it or out of it.  What is
done to a namespace outside of the part then leaves every namespace in it alone (`Spares`): a change is passed on
to dependents, and these are outside as well (`Walled.not_mem_affected`); and what dies is held by nothing, while
what lives in the part is held from within it (`Walled.release`).

A handler is obedient (`Obedient`) when it binds names outside of the part only, and lets only namespaces answer
whose handlers are obedient as well; then its calls leave the part alone too (`dispatch_walled`). -/

namespace ConstantResolution.World

variable {O A : NamespaceId → Prop} {w w' w'' : World} {i j m : NamespaceId} {name : String}

/-! ### Walls -/

/-- A part `O` of a world that no link of a live namespace leads into or out of, and whose live namespaces are
held. -/
structure Walled (O : NamespaceId → Prop) (w : World) : Prop where
  linked : w.Linked
  has : ∀ {i}, O i → w.Has i
  closed : ∀ {i j}, w.isAlive i = true → j ∈ w.links i → (O i ↔ O j)
  upheld : ∀ {i}, O i → w.isAlive i = true → w.isHeld i = true

/-- The namespaces in a part are as before. -/
def Spares (O : NamespaceId → Prop) (w w' : World) : Prop := ∀ j, O j → w'.get? j = w.get? j

theorem Spares.refl (O : NamespaceId → Prop) (w : World) : Spares O w w := fun _ _ => rfl

theorem Spares.trans (h : Spares O w w') (h' : Spares O w' w'') : Spares O w w'' :=
  fun j hj => (h' j hj).trans (h j hj)

theorem Spares.node_eq (h : Spares O w w') (hj : O j) : w'.node j = w.node j := by
  rw [node, node, h j hj]

theorem Spares.update (hi : ¬ O i) (f : Namespace → Namespace) : Spares O w (w.update i f) := by
  intro j hj
  refine get?_update_of_ne w ?_ f
  rintro rfl
  exact hi hj

theorem Spares.advance {is : List NamespaceId} (h : ∀ i ∈ is, ¬ O i) : Spares O w (w.advance is).1 := by
  induction is generalizing w with
  | nil => exact Spares.refl O w
  | cons i is ih =>
      have hset : Spares O w (w.setGeneration i (w.generation i + 1)) := Spares.update (h i List.mem_cons_self) _
      unfold World.advance
      dsimp only
      split
      · exact hset
      · exact hset.trans (ih fun k hk => h k (List.mem_cons_of_mem i hk))

/-- **A part that is spared stays walled off** when no link into it or out of it is added. -/
theorem Walled.spared (h : Walled O w) (hs : Spares O w w') (hl : w'.Linked)
    (hc : ∀ {i j}, w'.isAlive i = true → j ∈ w'.links i → (O i ↔ O j)) : Walled O w' where
  linked := hl
  has := by
    intro i hi
    have hget := exists_get? (h.has hi)
    rw [← hs i hi] at hget
    exact get?_eq_some_lt hget
  closed := hc
  upheld := by
    intro i hi halive
    have hnode := hs.node_eq hi
    rw [isAlive, hnode] at halive
    refine isHeld_mono (w := w) (by rw [hnode]) (fun k hk hik => ?_) (h.upheld hi halive)
    -- What is linked to a namespace in the part is in the part, and so it is spared as well.
    have hnode' := hs.node_eq ((h.closed hk hik).mpr hi)
    exact ⟨by rwa [isAlive, hnode'], by rwa [links, hnode']⟩

/-- No link is added at all. -/
theorem Walled.spared_of_links (h : Walled O w) (hs : Spares O w w') (hl : w'.Linked)
    (halive : ∀ j, w'.isAlive j = true → w.isAlive j = true) (hlinks : ∀ j, w'.links j = w.links j) :
    Walled O w' :=
  h.spared hs hl fun hi hj => h.closed (halive _ hi) (hlinks _ ▸ hj)

/-- **A change outside of a part affects nothing in it.** -/
theorem Walled.not_mem_affected (h : Walled O w) (hi : ¬ O i) (hj : j ∈ w.affected i) : ¬ O j := by
  rcases mem_or_reaches_of_mem_visit hj with hnil | hr
  · exact absurd hnil List.not_mem_nil
  · clear hj
    induction hr with
    | refl => exact hi
    | @tail k l _ hkl ih =>
        obtain ⟨hlink, halive⟩ := h.linked.mem_liveDependents.mp hkl
        exact fun hl => ih ((h.closed halive hlink).mp hl)

/-! ### Obedient handlers -/

/-- What a handler may do where the part `O` is to be left alone: binding names outside of it, and letting
namespaces answer that satisfy `A`. -/
def Response.Obeys (O A : NamespaceId → Prop) (w : World) : Response → Prop
  | .defineIn target _ => ∀ t, w.held.get? target = some t → ¬ O t
  | .forward target => ∀ t, w.held.get? target = some t → A t
  | _ => True

/-- The namespaces of `A` are outside of `O`, and their handlers obey. -/
def Obedient (O A : NamespaceId → Prop) (w : World) : Prop :=
  ∀ i, A i → ¬ O i ∧ ∀ h, w.handler? i = some h → Response.Obeys O A w h.response

/-- No namespace at all is asked. -/
abbrev nobody : NamespaceId → Prop := fun _ => False

theorem Obedient.nobody (O : NamespaceId → Prop) (w : World) : Obedient O nobody w := fun _ hi => hi.elim

/-- What settles which handler answers. -/
def Namespace.answering (n : Namespace) : Option NamespaceId × Option Handler := (n.superclass, n.handler)

theorem handler?_congr (h : ∀ j, Namespace.answering (w'.node j) = Namespace.answering (w.node j)) (i : NamespaceId) :
    w'.handler? i = w.handler? i := by
  have hsuper : ∀ j, (w'.node j).superclass = (w.node j).superclass := fun j => congrArg Prod.fst (h j)
  have hhandler : ∀ j, (w'.node j).handler = (w.node j).handler := fun j => congrArg Prod.snd (h j)
  rw [handler?, handler?, superclasses, superclasses, funext hsuper, funext hhandler]

theorem Obedient.congr (h : Obedient O A w) (hheld : w'.held = w.held)
    (hn : ∀ j, Namespace.answering (w'.node j) = Namespace.answering (w.node j)) : Obedient O A w' := by
  intro i hi
  obtain ⟨hout, hobeys⟩ := h i hi
  refine ⟨hout, fun d hd => ?_⟩
  rw [handler?_congr hn] at hd
  have := hobeys d hd
  unfold Response.Obeys at this ⊢
  rwa [hheld]

/-! ### The contract -/

/-- The contract of what leaves the part `O` alone, where the handlers of `A` obey. -/
def walled (O A : NamespaceId → Prop) : Contract World where
  valid := fun w => Walled O w ∧ Obedient O A w
  step := fun w notes w' => Spares O w w' ∧ w.Follows notes w'
  refl := fun w notes => ⟨Spares.refl O w, Follows.refl w notes⟩
  trans := fun h h' => ⟨h.1.trans h'.1, h.2.trans h'.2⟩

/-- An action that keeps the contract of worlds leaves a part alone when its state does. -/
theorem walled_of_keeps {α : Type} {x : Action World α} {q : α → World → Prop} (hx : x.Keeps contract w q)
    (h : Walled O w → Spares O w (x w).state ∧
      ∀ {i j}, (x w).state.isAlive i = true → j ∈ (x w).state.links i → (O i ↔ O j))
    (ho : Obedient O A w → Obedient O A (x w).state) : x.Keeps (walled O A) w q := by
  rintro ⟨hw, hobey⟩
  obtain ⟨hl, hfollows, hq⟩ := hx hw.linked
  obtain ⟨hs, hc⟩ := h hw
  exact ⟨⟨hw.spared hs hl hc, ho hobey⟩, ⟨hs, hfollows⟩, hq⟩

/-! ### Changes -/

/-- **A change outside of a part leaves the part alone**, with all that it affects. -/
theorem Walled.change_spares (h : Walled O w) (hc : w.Change i w') (hi : ¬ O i) (hs : Spares O w w')
    (hlinks : ∀ {j k}, w.isAlive j = true → k ∈ w'.links j → (O j ↔ O k)) :
    Spares O w (w'.advance (w'.affected i)).1 ∧
      ∀ {j k}, (w'.advance (w'.affected i)).1.isAlive j = true → k ∈ (w'.advance (w'.affected i)).1.links j →
        (O j ↔ O k) := by
  have hc' : ∀ {j k}, w'.isAlive j = true → k ∈ w'.links j → (O j ↔ O k) := by
    intro j k hj hk
    rw [hc.isAlive_eq] at hj
    exact hlinks hj hk
  have hw' : Walled O w' := h.spared hs (h.linked.change hc) hc'
  refine ⟨hs.trans (Spares.advance fun j hj => hw'.not_mem_affected hi hj), fun {j k} hj hk => ?_⟩
  rw [isAlive_advance] at hj
  rw [links_advance] at hk
  exact hc' hj hk

section changing

variable {α : Type} {f : World → World} {n : UInt64 → Note} {a : UInt64 → α}

theorem changing_walled (hc : w.Change i (f w)) (hi : ¬ O i) (hs : Spares O w (f w))
    (hlinks : Walled O w → ∀ {j k}, w.isAlive j = true → k ∈ (f w).links j → (O j ↔ O k))
    (hn : Obedient O A w → Obedient O A (f w)) : (changing f i n a).Keeps (walled O A) w fun _ _ => True := by
  refine walled_of_keeps (changing_keeps hc) (fun hw => ?_) fun ho => ?_
  · rw [changing_state]
    exact hw.change_spares hc hi hs (hlinks hw)
  · rw [changing_state]
    exact (hn ho).congr (held_advance _ _) (proj_advance Namespace.answering (fun _ _ => rfl) _)

end changing

theorem define_walled (w : World) (hi : ¬ O i) (name : String) (v : Value) :
    (define i name v).Keeps (walled O A) w fun _ _ => True := by
  by_cases hn : isConstantName name = true
  · refine Action.Keeps.congr (define_eq i hn v w)
      (changing_walled (Change.bind name v hn) hi (Spares.update hi _) (fun hw {j k} hj hk => ?_) fun ho => ?_)
    · have hlinks : (w.bind i name v).links j = w.links j := proj_bind Namespace.links (fun _ _ => rfl) name v j
      rw [hlinks] at hk
      exact hw.closed hj hk
    · exact ho.congr (held_update w i _) (proj_bind Namespace.answering (fun _ _ => rfl) name v)
  · rw [define_of_not_name i hn]
    exact Action.Keeps.raise

theorem remove_walled (w : World) (hi : ¬ O i) (name : String) :
    (remove i name).Keeps (walled O nobody) w fun _ _ => True := by
  cases hv : w.local? i name with
  | none => exact Action.Keeps.congr (remove_of_none hv) (Action.Keeps.pure trivial)
  | some v =>
      have hsome : (w.local? i name).isSome = true := by rw [hv]; rfl
      refine Action.Keeps.congr (remove_of_some hv) (changing_walled (Change.unbind name hsome) hi
        (Spares.update hi _) (fun hw {j k} hj hk => ?_) fun _ => Obedient.nobody O _)
      have hlinks : (w.unbind i name).links j = w.links j := proj_unbind Namespace.links (fun _ _ => rfl) name j
      rw [hlinks] at hk
      exact hw.closed hj hk

theorem reopen_walled (w : World) (hi : ¬ O i) :
    (reopen i).Keeps (walled O nobody) w fun _ _ => True :=
  Action.Keeps.congr (reopen_eq i w) (changing_walled Change.touch hi (Spares.refl O w)
    (fun hw _ _ hj hk => hw.closed hj hk) id)

/-- **A link between namespaces outside of a part leaves the part walled off.** -/
theorem includeModule_walled (hi : w.isAlive i = true) (hm : w.isAlive m = true) (hOi : ¬ O i) (hOm : ¬ O m) :
    (includeModule i m).Keeps (walled O nobody) w fun _ _ => True := by
  by_cases h : w.Includable i m
  · refine Action.Keeps.congr (includeModule_of_includable h)
      (changing_walled (Change.link m hi hm h.kind h.ne h.acyclic h.new) hOi ?_ (fun hw {j k} hj hk => ?_)
        fun _ => Obedient.nobody O _)
    · exact (Spares.update hOi _).trans (Spares.update hOm _)
    · rcases (mem_links_link (has_of_alive hi) m).mp hk with hk | ⟨rfl, rfl⟩
      · exact hw.closed hj hk
      · exact iff_of_false hOi hOm
  · exact Action.Keeps.of_state (includeModule_of_not_includable h) fun _ _ => trivial

theorem setHandler_walled (w : World) (hi : ¬ O i) (h : Handler) :
    (Action.modify fun w => w.setHandler i h).Keeps (walled O nobody) w fun _ _ => True := by
  refine walled_of_keeps (setHandler_keeps w i h) (fun hw => ⟨Spares.update hi _, fun {j k} hj hk => ?_⟩)
    fun _ => Obedient.nobody O _
  have hlinks : (w.setHandler i h).links j = w.links j := proj_setHandler Namespace.links (fun _ _ => rfl) h j
  have halive : (w.setHandler i h).isAlive j = w.isAlive j := proj_setHandler Namespace.alive (fun _ _ => rfl) h j
  rw [Action.modify_apply] at hj hk
  rw [halive] at hj
  rw [hlinks] at hk
  exact hw.closed hj hk

/-! ### Creation -/

theorem get?_addDependent_of_ne (hij : i ≠ j) (d : NamespaceId) : (w.addDependent i d).get? j = w.get? j :=
  get?_update_of_ne w hij _

/-- **A namespace that is written outside of a part leaves the part alone.** -/
theorem Walled.create (h : Walled O w) {n : Namespace} (hn : w.Creatable n)
    (hlinks : ∀ k ∈ n.links, ¬ O k) : Spares O w (w.create n) ∧ Walled O (w.create n) := by
  have hnew : ∀ {j}, O j → j ≠ w.size + 1 := by
    rintro j hj rfl
    exact Nat.not_succ_le_self _ (h.has hj).2
  have hspares : Spares O w (w.create n) := by
    intro j hj
    have hp : ∀ p, n.parent = some p → p ≠ j := by
      rintro p hp rfl
      exact hlinks p (Namespace.mem_links.mpr (Or.inl hp)) hj
    have hs : ∀ p, n.superclass = some p → p ≠ j := by
      rintro p hsup rfl
      exact hlinks p (Namespace.mem_links.mpr (Or.inr (Or.inl hsup))) hj
    have hpush : (w.push n).get? j = w.get? j := by rw [get?_push, if_neg (hnew hj)]
    unfold World.create
    cases hpar : n.parent <;> cases hsup : n.superclass
    · exact hpush
    · exact (get?_addDependent_of_ne (hs _ hsup) _).trans hpush
    · exact (get?_addDependent_of_ne (hp _ hpar) _).trans hpush
    · exact (get?_addDependent_of_ne (hs _ hsup) _).trans ((get?_addDependent_of_ne (hp _ hpar) _).trans hpush)
  refine ⟨hspares, h.spared hspares (h.linked.create hn) fun {j k} hj hk => ?_⟩
  rw [isAlive_create] at hj
  rw [links_create] at hk
  split at hk
  · rename_i hj'
    exact iff_of_false (fun hO => hnew hO hj') (hlinks k hk)
  · rename_i hj'
    rw [if_neg hj'] at hj
    exact h.closed hj hk

theorem newNode_walled {n : Namespace} (hn : w.Creatable n) (hlinks : ∀ k ∈ n.links, ¬ O k) :
    (newNode n).Keeps (walled O nobody) w fun i w' => w'.isAlive i = true ∧ ¬ O i := by
  rintro ⟨hw, -⟩
  obtain ⟨hl, hfollows, hq⟩ := (newNode_makes hn).keeps hw.linked
  obtain ⟨hs, hw'⟩ := hw.create hn hlinks
  refine ⟨⟨hw', Obedient.nobody O _⟩, ⟨hs, hfollows⟩, fun i hi => ⟨hq i hi, ?_⟩⟩
  obtain rfl : w.size + 1 = i := Except.ok.inj hi
  exact fun hO => Nat.not_succ_le_self _ (hw.has hO).2

theorem newTopLevel_walled (w : World) :
    newTopLevel.Keeps (walled O nobody) w fun i w' => w'.isAlive i = true ∧ ¬ O i :=
  newNode_walled (creatable_topLevel w) fun _ hk => absurd hk List.not_mem_nil

theorem newModule_walled (name : String) {p : NamespaceId} (hp : w.isAlive p = true) (hO : ¬ O p) :
    (newModule name p).Keeps (walled O nobody) w fun i w' => w'.isAlive i = true ∧ ¬ O i := by
  refine newNode_walled (creatable_module name hp) fun k hk => ?_
  obtain rfl : k = p := by simpa [Namespace.links] using hk
  exact hO

theorem newClass_walled (name : String) {p : NamespaceId} {sup : Option NamespaceId}
    (hp : w.isAlive p = true) (hs : ∀ {s}, sup = some s → w.isAlive s = true) (hO : ¬ O p)
    (hOs : ∀ {s}, sup = some s → ¬ O s) :
    (newClass name p sup).Keeps (walled O nobody) w fun i w' => w'.isAlive i = true ∧ ¬ O i := by
  unfold newClass
  refine Action.Keeps.get_bind fun _ => ?_
  split
  · exact Action.Keeps.raise
  · rename_i hfilter
    refine newNode_walled (creatable_class name hp hs hfilter) fun k hk => ?_
    rcases Namespace.mem_links.mp hk with hk | hk | hk
    · rwa [← Option.some.inj hk]
    · exact hOs hk
    · exact absurd hk List.not_mem_nil

/-- **A namespace that is created and bound outside of a part leaves the part alone**, also where it dies at once. -/
theorem establish_walled {p : NamespaceId} {x : Action World NamespaceId} (hmakes : w.Makes x)
    (hx : x.Keeps (walled O nobody) w fun i w' => w'.isAlive i = true ∧ ¬ O i) (hp : ¬ O p) (name : String) :
    (establish p name x).Keeps (walled O nobody) w fun i w' => w'.isAlive i = true ∧ ¬ O i := by
  rintro ⟨hw, hobey⟩
  obtain ⟨hl, hfollows, halive⟩ := establish_keeps hmakes p name hw.linked
  obtain ⟨hvalid, ⟨hspares, -⟩, hmade⟩ := hx ⟨hw, hobey⟩
  rcases hmakes with ⟨e, heq⟩ | ⟨n, -, heq⟩ <;> rw [heq] at hvalid hspares hmade
  · rw [establish_of_error heq]
    exact ⟨⟨hw, hobey⟩, ⟨Spares.refl O w, Follows.refl w []⟩, nofun⟩
  · obtain ⟨-, hout⟩ := hmade _ rfl
    obtain ⟨⟨hw', -⟩, ⟨hspares', -⟩, -⟩ := define_walled (w.create n) hp name (.ns (w.size + 1)) hvalid
    rw [establish_of_ok heq] at hl hfollows halive ⊢
    rcases hd : define p name (.ns (w.size + 1)) (w.create n) with ⟨v, notes, e | a⟩ <;>
      rw [hd] at hl hfollows halive hw' hspares'
    · have hs : Spares O v (v.bury (w.size + 1)) := Spares.update hout _
      have hburied : Walled O (v.bury (w.size + 1)) :=
        hw'.spared_of_links hs hl (fun j hj => ((isAlive_bury v _ j).mp hj).1) (proj_bury Namespace.links fun _ => rfl)
      exact ⟨⟨hburied, Obedient.nobody O _⟩, ⟨(hspares.trans hspares').trans hs, hfollows⟩, nofun⟩
    · refine ⟨⟨hw', Obedient.nobody O _⟩, ⟨hspares.trans hspares', hfollows⟩, fun i hi => ⟨halive i hi, ?_⟩⟩
      rwa [← Except.ok.inj hi]

/-! ### Taking hold of namespaces and letting go of them -/

/-- **What dies is held by nothing**, so it is outside of a part whose namespaces are held. -/
theorem Walled.collect (h : Walled O w) (bound : Nat) :
    Walled O (collect bound w) ∧ Spares O w (collect bound w) := by
  induction bound generalizing w with
  | zero => exact ⟨h, Spares.refl O w⟩
  | succ bound ih =>
      unfold World.collect
      split
      · exact ⟨h, Spares.refl O w⟩
      · rename_i i hi
        have hfree := List.find?_some hi
        rw [Bool.and_eq_true, Bool.not_eq_true'] at hfree
        have hout : ¬ O i := by
          intro hO
          rw [h.upheld hO hfree.1] at hfree
          exact Bool.noConfusion hfree.2
        have hs : Spares O w (w.bury i) := Spares.update hout _
        have hw : Walled O (w.bury i) := h.spared_of_links hs (h.linked.bury hfree.2)
          (fun j hj => ((isAlive_bury w i j).mp hj).1) (proj_bury Namespace.links fun _ => rfl)
        obtain ⟨hw', hs'⟩ := ih hw
        exact ⟨hw', hs.trans hs'⟩

theorem Walled.release (h : Walled O w) (hi : ¬ O i) : Walled O (w.release i) ∧ Spares O w (w.release i) := by
  have hs : Spares O w (w.loosen i) := Spares.update hi _
  have hw : Walled O (w.loosen i) := h.spared_of_links hs (h.linked.loosen i)
    (fun j hj => by rwa [isAlive, proj_loosen Namespace.alive fun _ _ => rfl] at hj)
    (proj_loosen Namespace.links fun _ _ => rfl)
  obtain ⟨hw', hs'⟩ := hw.collect (w.loosen i).size
  exact ⟨hw', hs.trans hs'⟩

/-- A hold more, of a namespace in the part or outside of it, leaves the part walled off. -/
theorem Walled.retain (h : Walled O w) (ha : w.isAlive i = true) : Walled O (w.retain i) := by
  have hlinks : ∀ j, (w.retain i).links j = w.links j := proj_retain Namespace.links fun _ _ => rfl
  have halive : ∀ j, (w.retain i).isAlive j = w.isAlive j := proj_retain Namespace.alive fun _ _ => rfl
  refine ⟨h.linked.retain ha, fun {j} hj => ?_, fun {j k} hj hk => ?_, fun {j} hj hj' => ?_⟩
  · rw [Has, size_retain]
    exact h.has hj
  · rw [halive] at hj
    rw [hlinks] at hk
    exact h.closed hj hk
  · rw [halive] at hj'
    refine isHeld_mono ?_ (fun k hk hjk => ?_) (h.upheld hj hj')
    · rw [holders_retain (has_of_alive ha)]
      exact Nat.le_add_right _ _
    · rw [halive, hlinks]
      exact ⟨hk, hjk⟩

/-- Only what names hold is seen otherwise. -/
theorem Walled.rename (h : Walled O w) (d : Dictionary NamespaceId) : Walled O { w with held := d } :=
  h.spared_of_links (fun _ _ => rfl) (h.linked.step (Step.rename d)) (fun _ hj => hj) fun _ => rfl

/-- **A name may take hold of a namespace** when what it held is outside of the part; the part is left alone when
the namespace is outside as well. -/
theorem Walled.hold (h : Walled O w) {holder : String} (ha : w.isAlive i = true)
    (hold : ∀ o, w.held.get? holder = some o → ¬ O o) :
    Walled O (w.hold holder i) ∧ (¬ O i → Spares O w (w.hold holder i)) := by
  have hw := (h.rename (w.held.insert holder i)).retain (i := i) ha
  have hs : ¬ O i → Spares O w ({ w with held := w.held.insert holder i }.retain i) := fun hi => Spares.update hi _
  rw [hold_eq]
  cases ho : w.held.get? holder with
  | none => exact ⟨hw, hs⟩
  | some o =>
      obtain ⟨hw', hs'⟩ := hw.release (hold o ho)
      exact ⟨hw', fun hi => (hs hi).trans hs'⟩

theorem Walled.letGo (h : Walled O w) {holder : String} (hold : ∀ o, w.held.get? holder = some o → ¬ O o) :
    Walled O (w.letGo holder) ∧ Spares O w (w.letGo holder) := by
  unfold World.letGo
  split
  · exact ⟨h, Spares.refl O w⟩
  · rename_i o ho
    exact (h.rename (w.held.erase holder)).release (hold o ho)

theorem Walled.releaseAll (h : Walled O w) {is : List NamespaceId} (his : ∀ i ∈ is, ¬ O i) :
    Walled O (is.foldl World.release w) ∧ Spares O w (is.foldl World.release w) := by
  induction is generalizing w with
  | nil => exact ⟨h, Spares.refl O w⟩
  | cons i is ih =>
      obtain ⟨hw, hs⟩ := h.release (his i List.mem_cons_self)
      obtain ⟨hw', hs'⟩ := ih hw fun k hk => his k (List.mem_cons_of_mem i hk)
      exact ⟨hw', hs.trans hs'⟩

/-! ### Calls of handlers -/

theorem respond_walled {again : NamespaceId → Action World Value}
    (hagain : ∀ j w, A j → (again j).Keeps (walled O A) w fun _ _ => True) (w : World) (hi : ¬ O i) (name : String)
    (r : Response) (hr : Response.Obeys O A w r) :
    (respond again i name r).Keeps (walled O A) w fun _ _ => True := by
  cases r with
  | refuse => exact Action.Keeps.get_bind fun _ => Action.Keeps.raise
  | describe => exact Action.Keeps.get_bind fun _ => Action.Keeps.pure trivial
  | symbol => exact Action.Keeps.pure trivial
  | value v => exact (valueOf_keeps w v).imp fun _ _ _ _ => trivial
  | define v =>
      refine Action.Keeps.bind (valueOf_keeps w v) fun v u _ _ _ _ => ?_
      exact Action.Keeps.map (define_walled u hi name v)
  | defineIn target v =>
      refine Action.Keeps.bind (valueOf_keeps w v) ?_
      rintro v _ _ - - rfl
      refine Action.Keeps.bind (heldBy_keeps _ target) ?_
      rintro j u _ - - ⟨rfl, hj⟩
      exact Action.Keeps.map (define_walled u (hr j hj) name v)
  | lookup other =>
      refine Action.Keeps.get_bind fun _ => ?_
      split
      · exact Action.Keeps.pure trivial
      · exact Action.Keeps.raise
  | forward target =>
      refine Action.Keeps.bind (heldBy_keeps w target) ?_
      rintro j u _ - - ⟨rfl, hj⟩
      exact hagain j u (hr j hj)
  | fail e => exact Action.Keeps.fail

theorem dispatchWithin_walled (bound : Nat) (w : World) (hi : A i) (name : String) :
    (dispatchWithin bound i name).Keeps (walled O A) w fun _ _ => True := by
  induction bound generalizing w i with
  | zero => exact Action.Keeps.fault
  | succ bound ih =>
      unfold dispatchWithin
      refine Action.Keeps.get_bind fun hv => ?_
      obtain ⟨hout, hobeys⟩ := hv.2 i hi
      split
      · exact respond_walled (fun _ _ _ => Action.Keeps.fault) w hout name .refuse trivial
      · rename_i h hh
        refine Action.Keeps.bind (recordCall_keeps w h i name) fun _ u _ _ hstep _ => ?_
        refine respond_walled (fun j v hj => ih v hj) u hout name h.response ?_
        have := hobeys h hh
        unfold Response.Obeys at this ⊢
        rwa [hstep.2.held]

/-- **The calls of obedient handlers leave the part alone.** -/
theorem dispatch_walled (w : World) (hi : A i) (name : String) :
    (dispatch i name).Keeps (walled O A) w fun _ _ => True :=
  Action.Keeps.congr rfl (dispatchWithin_walled (w.size + 1) w hi name)

/-! ### Who may answer -/

/-- The namespace that the handler for a scope lets answer. -/
def asks (w : World) (i : NamespaceId) : List NamespaceId :=
  match (w.handler? i).map Handler.response with
  | some (.forward target) => (w.held.get? target).toList
  | _ => []

/-- The namespaces that may answer for a scope, one after another. -/
def answerers (w : World) (i : NamespaceId) : List NamespaceId := visit w.asks (w.size + 1) [] i

/-- The namespace that the handler for a scope binds names in, if it binds any elsewhere. -/
def binds (w : World) (i : NamespaceId) : List NamespaceId :=
  match (w.handler? i).map Handler.response with
  | some (.defineIn target _) => (w.held.get? target).toList
  | _ => []

theorem mem_answerers (hheld : ∀ {holder j}, w.held.get? holder = some j → w.isAlive j = true)
    (hi : w.isAlive i = true) : j ∈ w.answerers i ↔ Reaches w.asks i j := by
  have hclosed : Closed w.asks (Finset.Icc 1 w.size) := by
    intro k _ l hkl
    unfold asks at hkl
    split at hkl
    · exact Finset.mem_Icc.mpr (has_of_alive (hheld (Option.mem_toList.mp hkl)))
    · exact absurd hkl List.not_mem_nil
  have hcard : (Finset.Icc 1 w.size).card ≤ w.size + 1 := by
    rw [Nat.card_Icc]
    omega
  exact mem_visit_iff hclosed (Finset.mem_Icc.mpr (has_of_alive hi)) hcard j

/-- **Handlers obey** that bind names outside of a part, and whose namespaces are outside of it. -/
theorem obedient_of_answerers (hout : ∀ j, Reaches w.asks i j → ¬ O j ∧ ∀ t ∈ w.binds j, ¬ O t) :
    Obedient O (Reaches w.asks i) w := by
  intro j hj
  obtain ⟨hOj, hbinds⟩ := hout j hj
  refine ⟨hOj, fun h hh => ?_⟩
  cases hr : h.response with
  | defineIn target v =>
      intro t ht
      refine hbinds t ?_
      rw [binds, hh, Option.map_some, hr]
      exact Option.mem_toList.mpr ht
  | forward target =>
      intro t ht
      refine hj.tail ?_
      rw [asks, hh, Option.map_some, hr]
      exact Option.mem_toList.mpr ht
  | _ => trivial

/-! ### Neighbours -/

/-- The live namespaces that a live namespace is linked to, and those that are linked to it. -/
def neighbours (w : World) (i : NamespaceId) : List NamespaceId :=
  if w.isAlive i then w.links i ++ w.liveDependents i else []

theorem Linked.mem_neighbours (hl : w.Linked) :
    j ∈ w.neighbours i ↔ w.isAlive i = true ∧ w.isAlive j = true ∧ (j ∈ w.links i ∨ i ∈ w.links j) := by
  unfold neighbours
  split
  · rename_i hi
    rw [List.mem_append, hl.mem_liveDependents]
    constructor
    · rintro (hj | ⟨hi', hj⟩)
      · exact ⟨hi, hl.alive hi hj, Or.inl hj⟩
      · exact ⟨hi, hj, Or.inr hi'⟩
    · rintro ⟨-, hj, h | h⟩
      · exact Or.inl h
      · exact Or.inr ⟨h, hj⟩
  · rename_i hi
    exact iff_of_false List.not_mem_nil fun h => hi h.1

/-- **Neighbours are on the same side of a wall**, over any number of steps. -/
theorem Walled.reaches (h : Walled O w) (hr : Reaches w.neighbours i j) : O i ↔ O j := by
  induction hr with
  | refl => exact Iff.rfl
  | tail _ hkl ih =>
      obtain ⟨hk, hl, hlink | hlink⟩ := h.linked.mem_neighbours.mp hkl
      · exact ih.trans (h.closed hk hlink)
      · exact ih.trans (h.closed hl hlink).symm

/-- **What depends on a namespace of a part is the same as before** when the part is spared. -/
theorem Walled.liveDependents_eq (h : Walled O w) (h' : Walled O w') (hs : Spares O w w') (hi : O i) :
    w'.liveDependents i = w.liveDependents i := by
  have hnode := hs.node_eq hi
  unfold liveDependents
  rw [hnode]
  refine List.filter_congr fun d hd => Bool.eq_iff_iff.mpr ⟨fun hd' => ?_, fun hd' => ?_⟩
  · -- What lives after is linked to the part as well, so it is in it.
    rw [← hnode, h'.linked.dependents] at hd
    have hO : O d := (h'.closed hd' hd).mpr hi
    rwa [isAlive, hs.node_eq hO] at hd'
  · rw [h.linked.dependents] at hd
    have hO : O d := (h.closed hd' hd).mpr hi
    rwa [isAlive, hs.node_eq hO]

theorem Walled.neighbours_eq (h : Walled O w) (h' : Walled O w') (hs : Spares O w w') (hi : O i) :
    w'.neighbours i = w.neighbours i := by
  rw [neighbours, neighbours, isAlive, isAlive, links, links, hs.node_eq hi, h.liveDependents_eq h' hs hi]

end ConstantResolution.World
