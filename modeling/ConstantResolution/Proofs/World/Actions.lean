import ConstantResolution.World.Dispatch
import ConstantResolution.Proofs.Contract
import ConstantResolution.Proofs.World.Generations

/-! # Actions on a world are runs

The contract of worlds: links are sound, and an action is a run of steps that lets no namespace die,
lets names and holders hold what they held, and notes each fault that it meets.  Every action that a
program can perform on a world keeps it, calls of missing-name handlers included
(`dispatch_keeps`). -/

namespace ConstantResolution.World

variable {w w' w'' : World} {i : NamespaceId}

/-- What an action on a world leaves behind. -/
structure Follows (w : World) (notes : List Note) (w' : World) : Prop where
  run : NotedRun w notes w'
  held : w'.held = w.held
  holders : ∀ j, (w'.node j).holders = (w.node j).holders
  alive : ∀ {j}, w.isAlive j = true → w'.isAlive j = true

namespace Follows

variable {notes notes' : List Note}

theorem refl (w : World) (notes : List Note) : Follows w notes w where
  run := NotedRun.refl w notes
  held := rfl
  holders := fun _ => rfl
  alive := fun h => h

theorem trans (h : Follows w notes w') (h' : Follows w' notes' w'') : Follows w (notes ++ notes') w'' where
  run := h.run.trans h'.run
  held := h'.held.trans h.held
  holders := fun j => (h'.holders j).trans (h.holders j)
  alive := fun ha => h'.alive (h.alive ha)

/-- One step that meets no fault. -/
theorem of_step (hs : Step w none w') (hh : w'.held = w.held)
    (hk : ∀ j, (w'.node j).holders = (w.node j).holders)
    (ha : ∀ {j}, w.isAlive j = true → w'.isAlive j = true) : Follows w notes w' where
  run := NotedRun.quiet hs
  held := hh
  holders := hk
  alive := ha

end Follows

/-- The contract that actions on a world keep. -/
def contract : Contract World where
  valid := Linked
  step := Follows
  refl := Follows.refl
  trans := Follows.trans

/-! ### Changes -/

/-- A change and its advance, which notes the fault that it meets. -/
theorem Follows.change {notes : List Note} (hc : w.Change i w')
    (hf : ∀ f, (w'.advance (w'.affected i)).2 = some f → .fault f ∈ notes) :
    Follows w notes (w'.advance (w'.affected i)).1 where
  run := NotedRun.step (Step.change hc) hf
  held := by rw [held_advance, hc.held_eq]
  holders := fun j => by rw [proj_advance Namespace.holders (fun _ _ => rfl), hc.holders_eq]
  alive := fun ha => by rwa [isAlive_advance, hc.isAlive_eq]

section changes

variable {α : Type} {f : World → World} {n : UInt64 → Note} {a : UInt64 → α}

theorem changing_keeps (hc : w.Change i (f w)) :
    (changing f i n a).Keeps contract w fun _ _ => True := by
  intro hl
  have hv : ((f w).advance ((f w).affected i)).1.Linked := (Linked.change hl hc).advance _
  cases h : ((f w).advance ((f w).affected i)).2 with
  | none =>
      rw [changing_of_none h]
      exact ⟨hv, Follows.change hc (by simp [h]), fun _ _ => trivial⟩
  | some e =>
      rw [changing_of_some h]
      exact ⟨hv, Follows.change hc (by simp [h]), fun _ _ => trivial⟩

theorem define_keeps (w : World) (i : NamespaceId) (name : String) (v : Value) :
    (define i name v).Keeps contract w fun _ _ => True := by
  by_cases hn : isConstantName name = true
  · exact Action.Keeps.congr (define_eq i hn v w) (changing_keeps (Change.bind name v hn))
  · rw [define_of_not_name i hn]
    exact Action.Keeps.raise

theorem remove_keeps (w : World) (i : NamespaceId) (name : String) :
    (remove i name).Keeps contract w fun _ _ => True := by
  cases hv : w.local? i name with
  | none => exact Action.Keeps.congr (remove_of_none hv) (Action.Keeps.pure trivial)
  | some v =>
      have hsome : (w.local? i name).isSome = true := by rw [hv]; rfl
      exact Action.Keeps.congr (remove_of_some hv) (changing_keeps (Change.unbind name hsome))

theorem reopen_keeps (w : World) (i : NamespaceId) :
    (reopen i).Keeps contract w fun _ _ => True :=
  Action.Keeps.congr (reopen_eq i w) (changing_keeps Change.touch)

theorem includeModule_keeps {m : NamespaceId} (hi : w.isAlive i = true) (hm : w.isAlive m = true) :
    (includeModule i m).Keeps contract w fun _ _ => True := by
  by_cases h : w.Includable i m
  · exact Action.Keeps.congr (includeModule_of_includable h)
      (changing_keeps (Change.link m hi hm h.kind h.ne h.acyclic h.new))
  · exact Action.Keeps.of_state (includeModule_of_not_includable h) fun _ _ => trivial

end changes

/-! ### Creation -/

/-- A top level can be created in every world. -/
theorem creatable_topLevel (w : World) : w.Creatable { name := topLevelName, kind := .topLevel } :=
  ⟨rfl, nofun, nofun, ⟨fun _ => rfl, fun _ => rfl⟩, nofun⟩

theorem creatable_module (name : String) {p : NamespaceId} (hp : w.isAlive p = true) :
    w.Creatable { name, kind := .moduleScope, parent := some p } := by
  refine ⟨rfl, ?_, nofun, ⟨nofun, nofun⟩, nofun⟩
  intro q hq
  rwa [← Option.some.inj hq]

/-- A class can be created unless its superclass is a module. -/
theorem creatable_class (name : String) {p : NamespaceId} {sup : Option NamespaceId} (hp : w.isAlive p = true)
    (hs : ∀ {s}, sup = some s → w.isAlive s = true)
    (hfilter : (sup.filter fun s => (w.node s).kind == .moduleScope) = none) :
    w.Creatable { name, kind := .classScope, parent := some p, superclass := sup } := by
  refine ⟨rfl, ?_, hs, ⟨nofun, nofun⟩, ?_⟩
  · intro q hq
    rwa [← Option.some.inj hq]
  · intro s hsup
    refine ⟨rfl, fun hk => ?_⟩
    obtain rfl : sup = some s := hsup
    simp [Option.filter_some, hk] at hfilter

theorem Follows.create {n : Namespace} (notes : List Note) (hn : w.Creatable n) : Follows w notes (w.create n) := by
  refine Follows.of_step (Step.create hn) (held_create w n) (fun j => ?_) fun {j} hj => ?_
  · rw [proj_create Namespace.holders (fun _ _ => rfl)]
    split
    · rename_i hj
      rw [hj, node_of_not_has (by simp [Has]), hn.fresh]
      rfl
    · rfl
  · rw [isAlive_create, if_neg (ne_of_alive hj), hj]

/-- An action that creates a namespace, or is refused and changes nothing. -/
def Makes (w : World) (x : Action World NamespaceId) : Prop :=
  (∃ e, x w = ⟨w, [], .error e⟩) ∨ ∃ n, w.Creatable n ∧ x w = ⟨w.create n, [], .ok (w.size + 1)⟩

theorem newNode_makes {n : Namespace} (hn : w.Creatable n) : w.Makes (newNode n) := Or.inr ⟨n, hn, rfl⟩

theorem newTopLevel_makes (w : World) : w.Makes newTopLevel := newNode_makes (creatable_topLevel w)

theorem newModule_makes (name : String) {p : NamespaceId} (hp : w.isAlive p = true) : w.Makes (newModule name p) :=
  newNode_makes (creatable_module name hp)

/-- A class whose superclass is a module is refused. -/
theorem newClass_of_some {name : String} {p m : NamespaceId} {sup : Option NamespaceId}
    (h : (sup.filter fun s => (w.node s).kind == .moduleScope) = some m) :
    newClass name p sup w = ⟨w, [], .error (.raised ⟨.superclassNotClass (w.qualifiedName m), none⟩)⟩ := by
  unfold newClass
  rw [Action.get_bind, h]
  rfl

theorem newClass_of_none {name : String} {p : NamespaceId} {sup : Option NamespaceId}
    (h : (sup.filter fun s => (w.node s).kind == .moduleScope) = none) :
    newClass name p sup w =
      ⟨w.create { name, kind := .classScope, parent := some p, superclass := sup }, [], .ok (w.size + 1)⟩ := by
  unfold newClass
  rw [Action.get_bind, h]
  rfl

theorem newClass_makes (name : String) {p : NamespaceId} {sup : Option NamespaceId} (hp : w.isAlive p = true)
    (hs : ∀ {s}, sup = some s → w.isAlive s = true) : w.Makes (newClass name p sup) := by
  cases h : sup.filter fun s => (w.node s).kind == .moduleScope with
  | some m => exact Or.inl ⟨_, newClass_of_some h⟩
  | none => exact Or.inr ⟨_, creatable_class name hp hs h, newClass_of_none h⟩

/-- **A namespace that is created lives.** -/
theorem Makes.keeps {x : Action World NamespaceId} (hx : w.Makes x) :
    x.Keeps contract w fun i w' => w'.isAlive i = true := by
  rcases hx with ⟨e, hx⟩ | ⟨n, hn, hx⟩
  · exact Action.Keeps.of_state (by rw [hx]) fun i hi => by rw [hx] at hi; exact nomatch hi
  · intro hl
    rw [hx]
    refine ⟨hl.create hn, Follows.create [] hn, fun i hi => ?_⟩
    obtain rfl : w.size + 1 = i := Except.ok.inj hi
    rw [isAlive_create, if_pos rfl, hn.fresh]

/-! ### Handlers -/

theorem setHandler_keeps (w : World) (i : NamespaceId) (h : Handler) :
    (Action.modify fun w => w.setHandler i h).Keeps contract w fun _ _ => True := by
  refine Action.Keeps.modify fun hl => ⟨Linked.step hl (Step.handler i h), ?_, trivial⟩
  refine Follows.of_step (Step.handler i h) (held_update w i _)
    (proj_setHandler Namespace.holders (fun _ _ => rfl) h) fun {j} hj => ?_
  rwa [isAlive, proj_setHandler Namespace.alive (fun _ _ => rfl)]

section handlers

variable {c : Contract World}

theorem heldBy_keeps (w : World) (holder : String) :
    (heldBy holder).Keeps c w fun i w' => w' = w ∧ w.held.get? holder = some i := by
  unfold heldBy
  refine Action.Keeps.get_bind fun _ => ?_
  split
  · rename_i i hi
    exact Action.Keeps.pure ⟨rfl, hi⟩
  · exact Action.Keeps.fail

theorem valueOf_keeps (w : World) (v : ValueTerm) :
    (valueOf v).Keeps c w fun _ w' => w' = w := by
  cases v with
  | value v => exact Action.Keeps.pure rfl
  | heldNamespace holder =>
      unfold valueOf
      refine Action.Keeps.bind (heldBy_keeps w holder) ?_
      rintro i _ notes - - ⟨rfl, -⟩
      exact Action.Keeps.pure rfl

theorem recordCall_keeps (w : World) (h : Handler) (i : NamespaceId) (name : String) :
    (recordCall h i name).Keeps c w fun _ _ => True := by
  unfold recordCall
  split
  · exact Action.Keeps.pure trivial
  · exact Action.Keeps.get_bind fun _ => Action.Keeps.note trivial

variable (hdefine : ∀ w i name v, (define i name v).Keeps c w fun _ _ => True)

include hdefine

/-- An answer keeps a contract when bindings do, and the answers of other namespaces. -/
theorem respond_keeps {again : NamespaceId → Action World Value}
    (hagain : ∀ j w', (again j).Keeps c w' fun _ _ => True) (w : World) (i : NamespaceId)
    (name : String) (r : Response) : (respond again i name r).Keeps c w fun _ _ => True := by
  have hbinding : ∀ (w' : World) (j : NamespaceId) (v : Value),
      (do let _ ← define j name v; return v : Action World Value).Keeps c w' fun _ _ => True := by
    intro w' j v
    exact Action.Keeps.map (hdefine w' j name v)
  cases r with
  | refuse => exact Action.Keeps.get_bind fun _ => Action.Keeps.raise
  | describe => exact Action.Keeps.get_bind fun _ => Action.Keeps.pure trivial
  | symbol => exact Action.Keeps.pure trivial
  | value v => exact (valueOf_keeps w v).imp fun _ _ _ _ => trivial
  | define v => exact Action.Keeps.bind (valueOf_keeps w v) fun v w' _ _ _ _ => hbinding w' i v
  | defineIn target v =>
      refine Action.Keeps.bind (valueOf_keeps w v) fun v w' _ _ _ _ => ?_
      exact Action.Keeps.bind (heldBy_keeps w' target) fun j w'' _ _ _ _ => hbinding w'' j v
  | lookup other =>
      refine Action.Keeps.get_bind fun _ => ?_
      split
      · exact Action.Keeps.pure trivial
      · exact Action.Keeps.raise
  | forward target => exact Action.Keeps.bind (heldBy_keeps w target) fun j w' _ _ _ _ => hagain j w'
  | fail e => exact Action.Keeps.fail

theorem dispatchWithin_keeps (bound : Nat) (w : World) (i : NamespaceId) (name : String) :
    (dispatchWithin bound i name).Keeps c w fun _ _ => True := by
  induction bound generalizing w i with
  | zero => exact Action.Keeps.fault
  | succ bound ih =>
      unfold dispatchWithin
      refine Action.Keeps.get_bind fun _ => ?_
      split
      · exact respond_keeps hdefine (fun _ _ => Action.Keeps.fault) w i name .refuse
      · rename_i h _
        refine Action.Keeps.bind (recordCall_keeps w h i name) fun _ u _ _ _ _ => ?_
        exact respond_keeps hdefine (fun j w => ih w j) u i name h.response

/-- **Handlers keep every contract that bindings keep.** -/
theorem dispatch_keeps_of (w : World) (i : NamespaceId) (name : String) :
    (dispatch i name).Keeps c w fun _ _ => True :=
  Action.Keeps.congr rfl (dispatchWithin_keeps hdefine (w.size + 1) w i name)

end handlers

/-- **Handlers may change a world only as other programs do.** -/
theorem dispatch_keeps (w : World) (i : NamespaceId) (name : String) :
    (dispatch i name).Keeps contract w fun _ _ => True :=
  dispatch_keeps_of define_keeps w i name

end ConstantResolution.World
