import ConstantResolution.Proofs.Agreement
import ConstantResolution.Proofs.Commuting
import ConstantResolution.Proofs.World.Isolation

/-! # Handlers along superclasses

A missing name is answered by the handler of the nearest namespace on the chain of superclasses that has one
(`Nearest`), and refused where none has.  That is at most one handler, and it is called with the scope that the name
is missing in, not with the one that it was installed on (`dispatch_eq_invoke`).  Parents and included modules have
no part in it, since the chain is made of superclasses alone.

A handler that is installed becomes the nearest one of those namespaces whose chain leads to where it is installed
with no handler before it (`DefersTo`), and of no others.  It is not seen by any lookup (`lookup_setHandler`), nor by a
dispatch that it has no part in, which goes on and ends as if it had not been installed (`dispatch_commutes`). -/

namespace ConstantResolution.World

variable {w : World} {i j k N t : NamespaceId} {name : String} {h : Handler} {o : Option Handler}

/-! ### The chain of superclasses -/

/-- The chain of superclasses leads from one namespace to another. -/
def Inherits (w : World) : NamespaceId → NamespaceId → Prop :=
  Relation.ReflTransGen fun j k => (w.node j).superclass = some k

/-- A namespace leaves its missing names to its superclass. -/
def LeavesTo (w : World) (j k : NamespaceId) : Prop := (w.node j).handler = none ∧ (w.node j).superclass = some k

/-- The chain of superclasses leads from one namespace to another, and none before that has a handler. -/
def DefersTo (w : World) : NamespaceId → NamespaceId → Prop := Relation.ReflTransGen w.LeavesTo

theorem DefersTo.inherits (hd : w.DefersTo i j) : w.Inherits i j := hd.lift id fun _ _ hstep => hstep.2

/-- The handler of the nearest namespace on the chain of superclasses that has one, if there is one. -/
inductive Nearest (w : World) (i : NamespaceId) : Option Handler → Prop
  | of_handler {j : NamespaceId} {h : Handler} (hd : w.DefersTo i j) (hh : (w.node j).handler = some h) :
      Nearest w i (some h)
  | of_none (hn : ∀ j, w.Inherits i j → (w.node j).handler = none) : Nearest w i none

theorem Ordered.superclasses_of_superclass (ho : w.Ordered) (hs : (w.node i).superclass = some k) :
    w.superclasses i = k :: w.superclasses k := by
  have holder : ∀ a b, (w.node a).superclass = some b → b < a := fun a b hb => ho a b (Or.inr hb)
  have hlt : k < i := holder i k hs
  obtain ⟨i, rfl⟩ : ∃ b, i = b + 1 := ⟨i - 1, by unfold NamespaceId at *; omega⟩
  rw [superclasses, ascend, hs]
  dsimp only
  rw [ascend_of_le holder (Nat.le_of_lt_succ hlt), superclasses]

theorem handler?_of_handler (hh : (w.node i).handler = some h) : w.handler? i = some h := by
  rw [handler?, List.findSome?_cons, hh]

theorem Ordered.handler?_of_superclass (ho : w.Ordered) (hn : (w.node i).handler = none)
    (hs : (w.node i).superclass = some k) : w.handler? i = w.handler? k := by
  rw [handler?, List.findSome?_cons, hn, ho.superclasses_of_superclass hs]
  rfl

theorem handler?_of_none (hn : (w.node i).handler = none) (hs : (w.node i).superclass = none) :
    w.handler? i = none := by
  have hnil : w.superclasses i = [] := by
    rw [superclasses]
    cases i with
    | zero => rfl
    | succ i => rw [ascend, hs]
  rw [handler?, List.findSome?_cons, hn, hnil]
  rfl

/-- A namespace without a handler has the nearest one of its superclass. -/
theorem Nearest.of_superclass (hk : w.Nearest k o) (hn : (w.node i).handler = none)
    (hs : (w.node i).superclass = some k) : w.Nearest i o := by
  cases hk with
  | of_handler hd hh => exact .of_handler (hd.head ⟨hn, hs⟩) hh
  | of_none hnone =>
      refine .of_none fun j hj => ?_
      rcases hj.cases_head with rfl | ⟨l, hl, hj⟩
      · exact hn
      · obtain rfl : k = l := Option.some.inj (hs.symm.trans hl)
        exact hnone j hj

/-- The handler that is found is the nearest one. -/
theorem Ordered.nearest_handler? (ho : w.Ordered) (i : NamespaceId) : w.Nearest i (w.handler? i) := by
  induction i using Nat.strong_induction_on with
  | _ i ih =>
      cases hh : (w.node i).handler with
      | some h =>
          rw [handler?_of_handler hh]
          exact .of_handler .refl hh
      | none =>
          cases hs : (w.node i).superclass with
          | none =>
              rw [handler?_of_none hh hs]
              refine .of_none fun j hj => ?_
              rcases hj.cases_head with rfl | ⟨k, hk, -⟩
              · exact hh
              · exact absurd (hs.symm.trans hk) (Option.some_ne_none k).symm
          | some k =>
              rw [ho.handler?_of_superclass hh hs]
              exact (ih k (ho i k (Or.inr hs))).of_superclass hh hs

/-- **There is one nearest handler at most**, the one that is found. -/
theorem Ordered.nearest_iff (ho : w.Ordered) : w.Nearest i o ↔ w.handler? i = o := by
  constructor
  · intro h
    cases h with
    | of_handler hd hh =>
        induction hd using Relation.ReflTransGen.head_induction_on with
        | refl => exact handler?_of_handler hh
        | head hstep _ ih => rw [ho.handler?_of_superclass hstep.1 hstep.2, ih]
    | of_none hn =>
        -- a handler that is found belongs to the chain
        have hfound := ho.nearest_handler? i
        generalize w.handler? i = o at hfound
        cases hfound with
        | of_none _ => rfl
        | of_handler hd hh =>
            exact absurd (hh.symm.trans (hn _ hd.inherits)) (Option.some_ne_none _)
  · rintro rfl
    exact ho.nearest_handler? i

/-! ### Calls of handlers -/

/-- A handler is called with a scope and a name; without a handler the name is refused. -/
def invoke (again : NamespaceId → Action World Value) (o : Option Handler) (i : NamespaceId) (name : String) :
    Action World Value :=
  match o with
  | none => respond again i name .refuse
  | some h => do
    recordCall h i name
    respond again i name h.response

/-- A dispatch that comes back to where it was. -/
def Endless (o : Outcome World Value) : Prop := o.result = .error (.fault .endlessDispatch)

theorem recordCall_apply (h : Handler) (i : NamespaceId) (name : String) (w : World) :
    recordCall h i name w =
      ⟨w, (h.label.map fun l => Note.called ⟨l, w.qualifiedName i, name⟩).toList, .ok ()⟩ := by
  unfold recordCall
  cases h.label <;> rfl

theorem heldBy_apply (holder : String) (w : World) :
    heldBy holder w = ⟨w, [], (w.held.get? holder).elim (.error (.unbound holder)) .ok⟩ := by
  unfold heldBy
  rw [Action.get_bind]
  cases w.held.get? holder <;> rfl

theorem heldBy_of_some {holder : String} (hi : w.held.get? holder = some i) : heldBy holder w = ⟨w, [], .ok i⟩ := by
  rw [heldBy_apply, hi]
  rfl

theorem heldBy_of_none {holder : String} (hi : w.held.get? holder = none) :
    heldBy holder w = ⟨w, [], .error (.unbound holder)⟩ := by
  rw [heldBy_apply, hi]
  rfl

/-- What is spoken of depends on what names hold, and on nothing else. -/
theorem valueOf_apply (v : ValueTerm) (w : World) :
    valueOf v w = ⟨w, [], match v with
      | .value v => .ok v
      | .heldNamespace holder => (w.held.get? holder).elim (.error (.unbound holder)) fun i => .ok (.ns i)⟩ := by
  cases v with
  | value v => rfl
  | heldNamespace holder =>
      show (heldBy holder >>= fun i => pure (Value.ns i)) w =
        ⟨w, [], (w.held.get? holder).elim (.error (.unbound holder)) fun i => .ok (Value.ns i)⟩
      cases hi : w.held.get? holder with
      | none => exact Action.bind_of_error (heldBy_of_none hi) _
      | some i => exact Action.bind_of_quiet (heldBy_of_some hi) _

theorem invoke_some (again : NamespaceId → Action World Value) (h : Handler) (i : NamespaceId) (name : String)
    (w : World) : invoke again (some h) i name w =
      ⟨(respond again i name h.response w).state,
        (h.label.map fun l => Note.called ⟨l, w.qualifiedName i, name⟩).toList ++
          (respond again i name h.response w).notes,
        (respond again i name h.response w).result⟩ :=
  Action.bind_of_ok (recordCall_apply h i name w) _

theorem respond_forward {again : NamespaceId → Action World Value} {target : String}
    (ht : w.held.get? target = some t) : respond again i name (.forward target) w = again t w :=
  Action.bind_of_quiet (heldBy_of_some ht) again

theorem respond_forward_of_none {again : NamespaceId → Action World Value} {target : String}
    (ht : w.held.get? target = none) :
    respond again i name (.forward target) w = ⟨w, [], .error (.unbound target)⟩ :=
  Action.bind_of_error (heldBy_of_none ht) again

/-- Only a handler that lets another namespace answer asks for it. -/
theorem respond_congr {again again' : NamespaceId → Action World Value} {r : Response}
    (h : ∀ target t, r = .forward target → w.held.get? target = some t → again t w = again' t w) :
    respond again i name r w = respond again' i name r w := by
  cases r with
  | forward target =>
      cases ht : w.held.get? target with
      | none => rw [respond_forward_of_none ht, respond_forward_of_none ht]
      | some t => rw [respond_forward ht, respond_forward ht, h target t rfl ht]
  | _ => rfl

theorem dispatchWithin_succ_eq (bound : Nat) (i : NamespaceId) (name : String) (w : World) :
    dispatchWithin (bound + 1) i name w =
      invoke (fun t => dispatchWithin bound t name) (w.handler? i) i name w := by
  rw [dispatchWithin, Action.get_bind]
  cases w.handler? i <;> rfl

/-- **A dispatch that has an end needs no greater bound.** -/
theorem dispatchWithin_succ {bound : Nat} (hend : ¬ Endless (dispatchWithin bound i name w)) :
    dispatchWithin (bound + 1) i name w = dispatchWithin bound i name w := by
  induction bound generalizing i with
  | zero => exact absurd rfl hend
  | succ bound ih =>
      rw [dispatchWithin_succ_eq bound] at hend
      rw [dispatchWithin_succ_eq, dispatchWithin_succ_eq bound]
      cases hh : w.handler? i with
      | none => rfl
      | some d =>
          rw [hh, invoke_some] at hend
          rw [invoke_some, invoke_some]
          have hrespond : respond (fun t => dispatchWithin (bound + 1) t name) i name d.response w =
              respond (fun t => dispatchWithin bound t name) i name d.response w := by
            refine respond_congr fun target t hr ht => ih ?_
            unfold Endless at hend ⊢
            rwa [hr, respond_forward ht] at hend
          rw [hrespond]

/-- **A dispatch calls one handler.**  It is the one that is found for the scope, and it is called with the scope and
the name that were passed. -/
theorem dispatch_eq_invoke (i : NamespaceId) (name : String) (w : World) :
    dispatch i name w = invoke (fun t => dispatchWithin w.size t name) (w.handler? i) i name w :=
  dispatchWithin_succ_eq w.size i name w

/-- A handler that lets another namespace answer starts a dispatch there. -/
theorem dispatch_eq_invoke_dispatch (hend : ¬ Endless (dispatch i name w)) :
    dispatch i name w = invoke (fun t => dispatch t name) (w.handler? i) i name w := by
  rw [dispatch_eq_invoke] at hend ⊢
  cases hh : w.handler? i with
  | none => rfl
  | some d =>
      rw [hh, invoke_some] at hend
      rw [invoke_some, invoke_some]
      have hrespond : respond (fun t => dispatchWithin w.size t name) i name d.response w =
          respond (fun t => dispatch t name) i name d.response w := by
        refine respond_congr fun target t hr ht => (dispatchWithin_succ ?_).symm
        unfold Endless at hend ⊢
        rwa [hr, respond_forward ht] at hend
      rw [hrespond]

/-! ### Calls that are recorded -/

theorem callsOf_define (i : NamespaceId) (name : String) (v : Value) (w : World) :
    callsOf (define i name v w).notes = [] := by
  by_cases hn : isConstantName name = true
  · rw [define_eq i hn]
    cases hf : ((w.bind i name v).advance ((w.bind i name v).affected i)).2 with
    | none => rw [changing_of_none hf]; rfl
    | some f => rw [changing_of_some hf]; rfl
  · rw [define_of_not_name i hn]
    rfl

/-- A handler that lets no other namespace answer calls no other handler. -/
theorem callsOf_respond {again : NamespaceId → Action World Value} {r : Response}
    (hr : ∀ target, r ≠ .forward target) : callsOf (respond again i name r w).notes = [] := by
  have hvalue : ∀ v w, callsOf (valueOf v w).notes = [] := fun v w => by rw [valueOf_apply]; rfl
  cases r with
  | forward target => exact absurd rfl (hr target)
  | value v => exact hvalue v w
  | define v =>
      refine Action.callsOf_bind (hvalue v w) fun v w => ?_
      exact Action.callsOf_bind (callsOf_define i name v w) fun _ _ => rfl
  | defineIn target v =>
      refine Action.callsOf_bind (hvalue v w) fun v w => ?_
      refine Action.callsOf_bind (by rw [heldBy_apply]; rfl) fun j w => ?_
      exact Action.callsOf_bind (callsOf_define j name v w) fun _ _ => rfl
  | lookup other =>
      rw [respond, Action.get_bind]
      cases w.lookup i other <;> rfl
  | _ => rfl

/-- A missing name is handed to a handler, or refused without one.  The handler is called once, with the scope and the
name that were passed; what is called besides is called by the handler, when it lets another namespace answer. -/
structure DispatchedBy (w : World) (o : Option Handler) (i : NamespaceId) (name : String) : Prop where
  invoked : dispatch i name w = invoke (fun t => dispatchWithin w.size t name) o i name w
  again : ¬ Endless (dispatch i name w) → dispatch i name w = invoke (fun t => dispatch t name) o i name w
  calls : ∀ d, o = some d → (∀ target, d.response ≠ .forward target) →
    callsOf (dispatch i name w).notes = (d.label.map fun l => ⟨l, w.qualifiedName i, name⟩).toList

theorem dispatchedBy_handler? (w : World) (i : NamespaceId) (name : String) :
    w.DispatchedBy (w.handler? i) i name where
  invoked := dispatch_eq_invoke i name w
  again := dispatch_eq_invoke_dispatch
  calls := by
    intro d hd hr
    rw [dispatch_eq_invoke, hd, invoke_some, callsOf_append, callsOf_respond hr, List.append_nil]
    cases d.label <;> rfl

/-! ### Handlers that are installed -/

theorem handler_setHandler (hN : w.Has N) (h : Handler) (j : NamespaceId) :
    ((w.setHandler N h).node j).handler = if N = j then some h else (w.node j).handler := by
  unfold setHandler
  by_cases hj : N = j
  · subst hj
    rw [node_update _ hN, if_pos rfl]
  · rw [node_update_of_ne _ hj, if_neg hj]

theorem superclass_setHandler (w : World) (N : NamespaceId) (h : Handler) (j : NamespaceId) :
    ((w.setHandler N h).node j).superclass = (w.node j).superclass :=
  proj_setHandler Namespace.superclass (fun _ _ => rfl) h j

theorem Ordered.setHandler (ho : w.Ordered) (N : NamespaceId) (h : Handler) : (w.setHandler N h).Ordered :=
  ho.congr (proj_setHandler Namespace.origin (fun _ _ => rfl) h)

/-- **Where the chain leads to what a handler is installed on, it is the nearest one.** -/
theorem DefersTo.nearest_setHandler (hd : w.DefersTo i N) (hN : w.Has N) (h : Handler) :
    (w.setHandler N h).Nearest i (some h) := by
  have hown : (w.setHandler N h).Nearest N (some h) :=
    .of_handler .refl ((handler_setHandler hN h N).trans (if_pos rfl))
  induction hd using Relation.ReflTransGen.head_induction_on with
  | refl => exact hown
  | @head j k hstep _ ih =>
      by_cases hj : N = j
      · exact hj ▸ hown
      · refine ih.of_superclass ?_ ((superclass_setHandler w N h j).trans hstep.2)
        rw [handler_setHandler hN, if_neg hj, hstep.1]

/-- **Everywhere else the nearest handler is what it was.** -/
theorem Ordered.handler?_setHandler (ho : w.Ordered) (hN : w.Has N) (h : Handler) (hd : ¬ w.DefersTo i N) :
    (w.setHandler N h).handler? i = w.handler? i := by
  induction i using Nat.strong_induction_on with
  | _ i ih =>
      have hne : N ≠ i := by
        rintro rfl
        exact hd .refl
      have hhandler : ((w.setHandler N h).node i).handler = (w.node i).handler := by
        rw [handler_setHandler hN, if_neg hne]
      have hsuper := superclass_setHandler w N h i
      cases hh : (w.node i).handler with
      | some d => rw [handler?_of_handler hh, handler?_of_handler (hhandler.trans hh)]
      | none =>
          cases hs : (w.node i).superclass with
          | none => rw [handler?_of_none hh hs, handler?_of_none (hhandler.trans hh) (hsuper.trans hs)]
          | some k =>
              have hk : ¬ w.DefersTo k N := fun hk => hd (hk.head ⟨hh, hs⟩)
              rw [ho.handler?_of_superclass hh hs,
                (ho.setHandler N h).handler?_of_superclass (hhandler.trans hh) (hsuper.trans hs)]
              exact ih k (ho i k (Or.inr hs)) hk

section unseen

variable (w : World) (N : NamespaceId) (h : Handler) (i : NamespaceId)

theorem setHandler_sameFrame : SameFrame w (w.setHandler N h) :=
  ⟨size_setHandler w N h, proj_setHandler Namespace.frame (fun _ _ => rfl) h⟩

theorem held_setHandler : (w.setHandler N h).held = w.held := held_update w N _

theorem generation_setHandler : (w.setHandler N h).generation i = w.generation i :=
  proj_setHandler Namespace.generation (fun _ _ => rfl) h i

theorem local?_setHandler (name : String) : (w.setHandler N h).local? i name = w.local? i name :=
  congrArg (·.get? name) (proj_setHandler Namespace.constants (fun _ _ => rfl) h i)

/-- **No lookup sees a handler.** -/
theorem lookup_setHandler (name : String) : (w.setHandler N h).lookup i name = w.lookup i name := by
  rw [lookup, lookup, (setHandler_sameFrame w N h).path_eq]
  exact findSome?_congr fun j _ => local?_setHandler w N h j name

theorem qualifiedName_setHandler : (w.setHandler N h).qualifiedName i = w.qualifiedName i := by
  have hview : SameView w (w.setHandler N h) i := .of_forall (proj_setHandler Namespace.resolving (fun _ _ => rfl) h)
  have hname : ∀ j, ((w.setHandler N h).node j).name = (w.node j).name := proj_setHandler Namespace.name (fun _ _ => rfl) h
  rw [qualifiedName, qualifiedName, segments, segments, hview.lexicalScopes_eq, funext hname]

theorem uninitialized_setHandler (name : String) :
    (w.setHandler N h).uninitialized i name = w.uninitialized i name := by
  have htop : (w.setHandler N h).isTopLevel i = w.isTopLevel i :=
    congrArg (· == Kind.topLevel) (proj_setHandler Namespace.kind (fun _ _ => rfl) h i)
  rw [uninitialized, uninitialized, htop, qualifiedName_setHandler]

end unseen

/-! ### Dispatches that do not see a handler -/

/-- Changes of different parts of namespaces can be made in either order. -/
theorem update_comm {f g : Namespace → Namespace} (hfg : ∀ n, f (g n) = g (f n)) (w : World) (i j : NamespaceId) :
    (w.update i f).update j g = (w.update j g).update i f := by
  cases i with
  | zero => rfl
  | succ i =>
      cases j with
      | zero => rfl
      | succ j =>
          have hnodes : (w.nodes.modify i f).modify j g = (w.nodes.modify j g).modify i f := by
            ext k hk hk'
            · simp only [Array.size_modify]
            · simp only [Array.getElem_modify]
              split <;> split <;> first | rfl | exact (hfg _).symm
          exact congrArg (fun nodes => ({ w with nodes } : World)) hnodes

theorem setGeneration_setHandler (w : World) (N i : NamespaceId) (h : Handler) (g : UInt64) :
    (w.setHandler N h).setGeneration i g = (w.setGeneration i g).setHandler N h := by
  unfold setGeneration setHandler
  apply update_comm
  exact fun _ => rfl

theorem bind_setHandler (w : World) (N i : NamespaceId) (h : Handler) (name : String) (v : Value) :
    (w.setHandler N h).bind i name v = (w.bind i name v).setHandler N h := by
  unfold bind setHandler
  apply update_comm
  exact fun _ => rfl

theorem advance_setHandler (w : World) (N : NamespaceId) (h : Handler) (is : List NamespaceId) :
    (w.setHandler N h).advance is = ((w.advance is).1.setHandler N h, (w.advance is).2) := by
  induction is generalizing w with
  | nil => rfl
  | cons i is ih =>
      rw [advance, advance, generation_setHandler, setGeneration_setHandler]
      split
      · rfl
      · exact ih _

/-- A definition does not see a handler. -/
theorem define_commutes (w : World) (N i : NamespaceId) (h : Handler) (name : String) (v : Value) :
    (define i name v).Commutes (·.setHandler N h) w := by
  by_cases hn : isConstantName name = true
  · have hsame := (setHandler_sameFrame (w.bind i name v) N h).affected_eq i
    unfold Action.Commutes
    dsimp only
    rw [define_eq i hn, define_eq i hn, local?_setHandler, qualifiedName_setHandler]
    cases hf : ((w.bind i name v).advance ((w.bind i name v).affected i)).2 with
    | none =>
        have hf' : (((w.setHandler N h).bind i name v).advance (((w.setHandler N h).bind i name v).affected i)).2 =
            none := by rw [bind_setHandler, hsame, advance_setHandler, hf]
        rw [changing_of_none hf', changing_of_none hf, bind_setHandler, hsame, advance_setHandler,
          generation_setHandler]
    | some f =>
        have hf' : (((w.setHandler N h).bind i name v).advance (((w.setHandler N h).bind i name v).affected i)).2 =
            some f := by rw [bind_setHandler, hsame, advance_setHandler, hf]
        rw [changing_of_some hf', changing_of_some hf, bind_setHandler, hsame, advance_setHandler]
  · rw [define_of_not_name i hn]
    exact .raise _

theorem heldBy_commutes (w : World) (N : NamespaceId) (h : Handler) (holder : String) :
    (heldBy holder).Commutes (·.setHandler N h) w := by
  unfold Action.Commutes
  rw [heldBy_apply, heldBy_apply, held_setHandler]

theorem valueOf_commutes (w : World) (N : NamespaceId) (h : Handler) (v : ValueTerm) :
    (valueOf v).Commutes (·.setHandler N h) w := by
  unfold Action.Commutes
  rw [valueOf_apply, valueOf_apply, held_setHandler]

theorem recordCall_commutes (w : World) (N i : NamespaceId) (h d : Handler) (name : String) :
    (recordCall d i name).Commutes (·.setHandler N h) w := by
  unfold Action.Commutes
  rw [recordCall_apply, recordCall_apply, qualifiedName_setHandler]

/-- What a handler does sees no other handlers, unless it lets a namespace answer that does. -/
theorem respond_commutes {again : NamespaceId → Action World Value} (N i : NamespaceId) (h : Handler) (name : String)
    {r : Response} (hagain : ∀ target t, r = .forward target → w.held.get? target = some t →
      (again t).Commutes (·.setHandler N h) w) : (respond again i name r).Commutes (·.setHandler N h) w := by
  cases r with
  | refuse => exact .get_bind (by rw [uninitialized_setHandler]) (.raise _)
  | describe =>
      have hname : ((w.setHandler N h).node i).name = (w.node i).name :=
        proj_setHandler Namespace.name (fun _ _ => rfl) h i
      exact .get_bind (by rw [hname]) (.pure _)
  | symbol => exact .pure _
  | value v => exact valueOf_commutes w N h v
  | define v =>
      refine .bind (valueOf_commutes w N h v) fun v _ => ?_
      exact .bind (define_commutes _ N i h name v) fun _ _ => .pure _
  | defineIn target v =>
      refine .bind (valueOf_commutes w N h v) fun v _ => .bind (heldBy_commutes _ N h target) fun j _ => ?_
      exact .bind (define_commutes _ N j h name v) fun _ _ => .pure _
  | lookup other =>
      refine .get_bind (by rw [lookup_setHandler, uninitialized_setHandler]) ?_
      cases w.lookup i other with
      | some v => exact .pure _
      | none => exact .raise _
  | forward target =>
      have hheld := held_setHandler w N h
      cases ht : w.held.get? target with
      | none =>
          unfold Action.Commutes
          rw [respond_forward_of_none ht, respond_forward_of_none (by rw [hheld, ht])]
      | some t =>
          exact .bind_of_quiet (heldBy_of_some ht) (heldBy_of_some (by rw [hheld, ht])) (hagain target t rfl ht)
  | fail e => exact .fail _

/-- The handler for a namespace lets another one answer. -/
def ForwardsTo (w : World) (i t : NamespaceId) : Prop :=
  ∃ d target, w.handler? i = some d ∧ d.response = .forward target ∧ w.held.get? target = some t

theorem dispatchWithin_commutes (N : NamespaceId) (h : Handler) (bound : Nat) (name : String)
    (hsame : ∀ t, Relation.ReflTransGen w.ForwardsTo i t → (w.setHandler N h).handler? t = w.handler? t) :
    (dispatchWithin bound i name).Commutes (·.setHandler N h) w := by
  induction bound generalizing i with
  | zero => exact .fault _
  | succ bound ih =>
      refine .get_bind (by rw [hsame i .refl]) ?_
      cases hd : w.handler? i with
      | none => exact respond_commutes N i h name fun _ _ hr => absurd hr (by simp)
      | some d =>
          refine .bind (recordCall_commutes w N i h d name) fun _ _ => ?_
          rw [recordCall_apply]
          refine respond_commutes N i h name fun target t hr ht => ih fun u hu => hsame u ?_
          exact hu.head ⟨d, target, hd, hr, ht⟩

/-- **A dispatch that a handler has no part in does not see it.** -/
theorem Ordered.dispatch_commutes (ho : w.Ordered) (hN : w.Has N) (h : Handler) (name : String)
    (hd : ∀ t, Relation.ReflTransGen w.ForwardsTo i t → ¬ w.DefersTo t N) :
    (dispatch i name).Commutes (·.setHandler N h) w := by
  have hwithin := dispatchWithin_commutes N h (w.size + 1) name fun t ht => ho.handler?_setHandler hN h (hd t ht)
  unfold Action.Commutes dispatch at *
  rw [size_setHandler]
  exact hwithin

/-- What becomes of a world in which a handler is installed: the dispatch of those namespaces that defer to where it
is installed, and nothing else. -/
structure Installed (w : World) (N : NamespaceId) (h : Handler) (w' : World) : Prop where
  nearest : ∀ i, w.DefersTo i N → w'.Nearest i (some h)
  others : ∀ i o, ¬ w.DefersTo i N → (w'.Nearest i o ↔ w.Nearest i o)
  unseen : ∀ i name, (∀ t, Relation.ReflTransGen w.ForwardsTo i t → ¬ w.DefersTo t N) →
    dispatch i name w' =
      ⟨(dispatch i name w).state.setHandler N h, (dispatch i name w).notes, (dispatch i name w).result⟩
  generation : ∀ i, w'.generation i = w.generation i
  lookup : ∀ i name, w'.lookup i name = w.lookup i name

/-- **A handler changes the dispatch of the namespaces that defer to where it is installed, and nothing else.** -/
theorem Ordered.installed (ho : w.Ordered) (hN : w.Has N) (h : Handler) : w.Installed N h (w.setHandler N h) where
  nearest := fun _ hd => hd.nearest_setHandler hN h
  others := fun i o hd => by rw [ho.nearest_iff, (ho.setHandler N h).nearest_iff, ho.handler?_setHandler hN h hd]
  unseen := fun _ name hd => ho.dispatch_commutes hN h name hd
  generation := generation_setHandler w N h
  lookup := lookup_setHandler w N h

end ConstantResolution.World
