import ConstantResolution.Site.Scope

/-! # What logs no warnings

Only reports of sites are logged as warnings (`Note.warns`).  Changes of a world and handlers log none
(`World.scope_silent`), and neither do stubs (`Stub.scope_silent`), so that the warnings of a run are those of
its sites. -/

namespace ConstantResolution

variable {σ α β : Type}

/-! ### Warnings -/

/-- A note that is logged as a warning. -/
def Note.warns (n : Note) : Bool := n.record?.any fun r => r.1 == .warn

/-- The warnings among notes. -/
def warningsOf (notes : List Note) : List Note := notes.filter Note.warns

theorem warningsOf_append (notes notes' : List Note) :
    warningsOf (notes ++ notes') = warningsOf notes ++ warningsOf notes' := List.filter_append ..

namespace Action

/-- An action that logs no warning. -/
def Silent (x : Action σ α) : Prop := ∀ s, warningsOf (x s).notes = []

theorem Silent.pure (a : α) : (Pure.pure a : Action σ α).Silent := fun _ => rfl

theorem Silent.get : (Action.get : Action σ σ).Silent := fun _ => rfl

theorem Silent.modify (f : σ → σ) : (Action.modify f).Silent := fun _ => rfl

theorem Silent.fail (e : Failure) : (Action.fail e : Action σ α).Silent := fun _ => rfl

theorem Silent.raise (e : Cause) : (Action.raise e : Action σ α).Silent := Silent.fail _

theorem Silent.fault (f : Fault) : (Action.fault f : Action σ α).Silent := fun _ => rfl

theorem Silent.note {n : Note} (h : n.warns = false) : (Action.note n : Action σ Unit).Silent := by
  intro s
  simp [warningsOf, h]

theorem Silent.bind {x : Action σ α} {f : α → Action σ β} (hx : x.Silent) (hf : ∀ a, (f a).Silent) :
    (x >>= f).Silent := by
  intro s
  have hnotes := hx s
  rcases hxs : x s with ⟨t, notes, e | a⟩
  · rw [bind_of_error hxs]
    rwa [hxs] at hnotes
  · rw [hxs] at hnotes
    rw [bind_of_ok hxs, warningsOf_append, hnotes, hf a t, List.append_nil]

end Action

/-- A scope that logs no warning when a name is missing. -/
def Scope.Silent (c : Scope σ) : Prop := ∀ name, (c.missing name).Silent

namespace World

theorem bump_silent (i : NamespaceId) : (bump i).Silent := by
  intro w
  unfold bump
  split <;> rfl

theorem define_silent (i : NamespaceId) (name : String) (v : Value) : (define i name v).Silent := by
  unfold define
  split
  · refine Action.Silent.bind Action.Silent.get fun w => ?_
    refine Action.Silent.bind (Action.Silent.modify _) fun _ => ?_
    refine Action.Silent.bind (bump_silent i) fun g => ?_
    exact Action.Silent.bind (Action.Silent.note rfl) fun _ => Action.Silent.pure _
  · exact Action.Silent.raise _

theorem heldBy_silent (holder : String) : (heldBy holder).Silent := by
  refine Action.Silent.bind Action.Silent.get fun w => ?_
  split
  · exact Action.Silent.pure _
  · exact Action.Silent.fail _

theorem valueOf_silent (v : ValueTerm) : (valueOf v).Silent := by
  cases v with
  | value v => exact Action.Silent.pure v
  | heldNamespace holder => exact Action.Silent.bind (heldBy_silent holder) fun _ => Action.Silent.pure _

theorem recordCall_silent (h : Handler) (i : NamespaceId) (name : String) : (recordCall h i name).Silent := by
  unfold recordCall
  split
  · exact Action.Silent.pure _
  · exact Action.Silent.bind Action.Silent.get fun w => Action.Silent.note rfl

theorem respond_silent {again : NamespaceId → Action World Value} (hagain : ∀ i, (again i).Silent)
    (i : NamespaceId) (name : String) (response : Response) : (respond again i name response).Silent := by
  cases response with
  | refuse => exact Action.Silent.bind Action.Silent.get fun w => Action.Silent.raise _
  | describe => exact Action.Silent.bind Action.Silent.get fun w => Action.Silent.pure _
  | symbol => exact Action.Silent.pure _
  | value v => exact valueOf_silent v
  | define v =>
      refine Action.Silent.bind (valueOf_silent v) fun v => ?_
      exact Action.Silent.bind (define_silent i name v) fun _ => Action.Silent.pure v
  | defineIn target v =>
      refine Action.Silent.bind (valueOf_silent v) fun v => ?_
      refine Action.Silent.bind (heldBy_silent target) fun j => ?_
      exact Action.Silent.bind (define_silent j name v) fun _ => Action.Silent.pure v
  | lookup other =>
      refine Action.Silent.bind Action.Silent.get fun w => ?_
      split
      · exact Action.Silent.pure _
      · exact Action.Silent.raise _
  | forward target => exact Action.Silent.bind (heldBy_silent target) hagain
  | fail e => exact Action.Silent.fail _

theorem dispatchWithin_silent (bound : Nat) (i : NamespaceId) (name : String) :
    (dispatchWithin bound i name).Silent := by
  induction bound generalizing i with
  | zero => exact Action.Silent.fault _
  | succ bound ih =>
      refine Action.Silent.bind Action.Silent.get fun w => ?_
      split
      · exact respond_silent (fun _ => Action.Silent.fault _) i name .refuse
      · exact Action.Silent.bind (recordCall_silent _ i name) fun _ => respond_silent (fun j => ih j) i name _

/-- **Handlers log no warnings.** -/
theorem scope_silent (i : NamespaceId) : (World.scope i).Silent :=
  fun name w => dispatchWithin_silent (w.size + 1) i name w

end World

theorem Stub.scope_silent : Stub.scope.Silent := by
  intro name
  refine Action.Silent.bind Action.Silent.get fun s => ?_
  split
  · exact Action.Silent.pure _
  · exact Action.Silent.fail _

end ConstantResolution
