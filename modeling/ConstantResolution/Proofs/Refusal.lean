import ConstantResolution.Proofs.World.Propagation
import ConstantResolution.Store.Realm

/-! # Refusals

An action that is refused has a failure for its result, other than a counter that ran over.  `x.Atomic s`
says that an action which is refused in `s` leaves `s` as it is, and `x.Accepts s` that it is not refused
there.  An action is atomic when it looks before it changes anything (`Atomic.bind_quiet`), and when what
it does after its first change is accepted (`Atomic.bind`).

The actions of worlds and stores that can be refused are atomic: binding a constant, including a module,
creating and opening classes and modules, making sites and renaming them. -/

namespace ConstantResolution

/-- A failure other than a counter that ran over. -/
def Failure.IsRefusal : Failure → Prop
  | .fault (.overflow _) => False
  | _ => True

instance : DecidablePred Failure.IsRefusal
  | .fault (.overflow _) => isFalse id
  | .fault (.invalidSiteName _) | .fault .endlessDispatch | .raised _ | .unbound _ => isTrue trivial

namespace Action

variable {σ τ α β : Type} {s : σ} {x : Action σ α} {f : α → Action σ β}

/-- A refusal leaves the state as it was. -/
def Atomic (x : Action σ α) (s : σ) : Prop :=
  ∀ e, (x s).result = .error e → e.IsRefusal → (x s).state = s

/-- There is no refusal. -/
def Accepts (x : Action σ α) (s : σ) : Prop := ∀ e, (x s).result = .error e → ¬ e.IsRefusal

/-! ### What is not refused -/

theorem Accepts.of_ok {a : α} (h : (x s).result = .ok a) : x.Accepts s := by
  intro e he
  rw [h] at he
  exact nomatch he

theorem Accepts.pure {a : α} : (Pure.pure a : Action σ α).Accepts s := Accepts.of_ok rfl

theorem Accepts.modify {g : σ → σ} : (Action.modify g).Accepts s := Accepts.of_ok rfl

theorem Accepts.bind (hx : x.Accepts s) (hf : ∀ a, (f a).Accepts (x s).state) :
    (x >>= f).Accepts s := by
  intro e he
  rcases hxs : x s with ⟨t, notes, d | a⟩
  · rw [bind_of_error hxs] at he
    obtain rfl : d = e := Except.error.inj he
    exact hx d (by rw [hxs])
  · rw [bind_of_ok hxs] at he
    have ht := hf a
    rw [hxs] at ht
    exact ht e he

/-! ### What is refused before it changes anything -/

theorem Accepts.atomic (h : x.Accepts s) : x.Atomic s := fun e he hr => absurd hr (h e he)

theorem Atomic.of_state (h : (x s).state = s) : x.Atomic s := fun _ _ _ => h

theorem Atomic.raise {c : Cause} : (Action.raise c : Action σ α).Atomic s := Atomic.of_state rfl

/-- Only what an action does in its start state matters. -/
theorem Atomic.congr {y : Action σ α} (h : x s = y s) (hy : y.Atomic s) : x.Atomic s := by
  unfold Atomic
  rw [h]
  exact hy

/-- Two actions that change nothing change nothing together. -/
theorem state_bind_of_quiet (hx : (x s).state = s) (hf : ∀ a, (f a s).state = s) :
    ((x >>= f) s).state = s := by
  rcases hxs : x s with ⟨t, notes, e | a⟩
  · rw [hxs] at hx
    rw [bind_of_error hxs]
    exact hx
  · rw [hxs] at hx
    obtain rfl : t = s := hx
    rw [bind_of_ok hxs]
    exact hf a

/-- What goes before changes nothing. -/
theorem Atomic.bind_quiet (hx : (x s).state = s) (hf : ∀ a, (x s).result = .ok a → (f a).Atomic s) :
    (x >>= f).Atomic s := by
  intro e he hr
  rcases hxs : x s with ⟨t, notes, d | a⟩
  · rw [hxs] at hx
    rw [bind_of_error hxs]
    exact hx
  · rw [hxs] at hx hf
    obtain rfl : t = s := hx
    rw [bind_of_ok hxs] at he ⊢
    exact hf a rfl e he hr

/-- What comes after is not refused. -/
theorem Atomic.bind (hx : x.Atomic s) (hf : ∀ a, (f a).Accepts (x s).state) : (x >>= f).Atomic s := by
  intro e he hr
  rcases hxs : x s with ⟨t, notes, d | a⟩
  · rw [bind_of_error hxs] at he ⊢
    obtain rfl : d = e := Except.error.inj he
    have hs := hx d (by rw [hxs]) hr
    rwa [hxs] at hs
  · rw [bind_of_ok hxs] at he
    have ht := hf a
    rw [hxs] at ht
    exact absurd hr (ht e he)

theorem Atomic.map {g : α → β} (hx : x.Atomic s) : (x >>= fun a => Pure.pure (g a)).Atomic s :=
  hx.bind fun _ => Accepts.pure

theorem Atomic.within {part : τ → σ} {put : σ → τ → τ} {t : τ} (hx : x.Atomic (part t))
    (hput : put (part t) t = t) : (Action.within part put x).Atomic t := by
  intro e he hr
  rw [within_apply, hx e he hr]
  exact hput

end Action

namespace World

variable {w : World} {i m : NamespaceId}

/-! ### Worlds -/

/-- A change stops only where a counter runs over. -/
theorem changing_accepts {α : Type} {f : World → World} {n : UInt64 → Note} {a : UInt64 → α} :
    (changing f i n a).Accepts w := by
  cases h : ((f w).advance ((f w).affected i)).2 with
  | none => exact Action.Accepts.of_ok (by rw [changing_of_none h])
  | some d =>
      intro e he
      rw [changing_of_some h] at he
      obtain rfl : Failure.fault d = e := Except.error.inj he
      obtain rfl := fault_advance _ _ h
      exact id

theorem define_accepts {name : String} (hn : isConstantName name = true) (v : Value) :
    (define i name v).Accepts w := by
  unfold Action.Accepts
  rw [define_eq i hn]
  exact changing_accepts

theorem define_atomic (i : NamespaceId) (name : String) (v : Value) : (define i name v).Atomic w := by
  by_cases hn : isConstantName name = true
  · exact (define_accepts hn v).atomic
  · rw [define_of_not_name i hn]
    exact Action.Atomic.raise

theorem reopen_accepts : (reopen i).Accepts w := by
  unfold Action.Accepts
  rw [reopen_eq]
  exact changing_accepts

theorem includeModule_atomic (i m : NamespaceId) : (includeModule i m).Atomic w := by
  by_cases h : w.Includable i m
  · exact Action.Atomic.congr (includeModule_of_includable h) changing_accepts.atomic
  · exact Action.Atomic.of_state (includeModule_of_not_includable h)

theorem newNode_accepts {n : Namespace} : (newNode n).Accepts w := Action.Accepts.of_ok rfl

theorem newClass_atomic (name : String) (p : NamespaceId) (sup : Option NamespaceId) :
    (newClass name p sup).Atomic w := by
  refine Action.Atomic.bind_quiet rfl fun v hv => ?_
  obtain rfl : w = v := Except.ok.inj hv
  split
  · exact Action.Atomic.raise
  · exact newNode_accepts.atomic

/-- A binding that meets an overflow is not refused, and nothing else can go wrong after the creation. -/
theorem establish_atomic {x : Action World NamespaceId} (hx : x.Atomic w) {p : NamespaceId} {name : String}
    (hn : isConstantName name = true) : (establish p name x).Atomic w := by
  refine hx.bind fun i => ?_
  have hdefine := define_accepts (i := p) (w := (x w).state) hn (.ns i)
  intro e he
  rw [Action.bind_of_ok (Action.outcome_apply _ _)] at he
  cases hr : (define p name (.ns i) (x w).state).result with
  | ok old =>
      rw [hr] at he
      exact nomatch he
  | error d =>
      rw [hr] at he
      obtain rfl : d = e := Except.error.inj he
      exact hdefine d hr

end World

namespace Store

variable {s : Store} {r : RealmId} {i p : NamespaceId}

/-! ### Stores -/

theorem onWorld_accepts {α : Type} {x : Action World α} (hx : x.Accepts s.world) :
    (onWorld x).Accepts s := hx

theorem onWorld_atomic {α : Type} {x : Action World α} (hx : x.Atomic s.world) : (onWorld x).Atomic s :=
  Action.Atomic.within hx rfl

theorem register_accepts : (register r i).Accepts s := Action.Accepts.of_ok rfl

theorem install_atomic {x : Action World NamespaceId} (hx : x.Atomic s.world) {name : String}
    (hn : isConstantName name = true) : (install r name p x).Atomic s :=
  (onWorld_atomic (World.establish_atomic hx hn)).bind fun _ =>
    Action.Accepts.bind register_accepts fun _ => Action.Accepts.pure

theorem reopened_accepts : (reopened i).Accepts s :=
  Action.Accepts.bind (onWorld_accepts World.reopen_accepts) fun _ => Action.Accepts.pure

/-- **A class that may not be opened changes nothing**: all that can be refused is asked first. -/
theorem openClass_atomic (r : RealmId) (name : String) (p : NamespaceId) (sup : Option NamespaceId) :
    (openClass r name p sup).Atomic s := by
  unfold openClass
  split
  · rename_i hn
    refine Action.Atomic.bind_quiet rfl fun t ht => ?_
    obtain rfl : s = t := Except.ok.inj ht
    split
    · exact install_atomic (World.newClass_atomic name p sup) hn
    · split
      · exact Action.Atomic.raise
      · exact reopened_accepts.atomic
    · exact Action.Atomic.raise
  · exact Action.Atomic.raise

theorem openModule_atomic (r : RealmId) (name : String) (p : NamespaceId) :
    (openModule r name p).Atomic s := by
  unfold openModule
  split
  · rename_i hn
    refine Action.Atomic.bind_quiet rfl fun t ht => ?_
    obtain rfl : s = t := Except.ok.inj ht
    split
    · exact install_atomic World.newNode_accepts.atomic hn
    · exact reopened_accepts.atomic
    · exact Action.Atomic.raise
  · exact Action.Atomic.raise

/-- A site that may not be made takes no number. -/
theorem newSite_atomic (name : String) (position : Position) (policy : Policy) (t : TallyId) :
    (newSite name position policy t).Atomic s := by
  intro e he _
  unfold newSite at he ⊢
  split at he
  · exact nomatch he
  · rfl

theorem makeSite_atomic (r : RealmId) (name : String) (position : Position) :
    (makeSite r name position).Atomic s := by
  refine Action.Atomic.bind_quiet rfl fun m _ => ?_
  refine (newSite_atomic name position m.policy m.tally).bind fun k => ?_
  refine Action.Accepts.bind (Action.Accepts.of_ok rfl) fun _ => ?_
  exact Action.Accepts.bind Action.Accepts.modify fun _ => Action.Accepts.pure

theorem renameSite_atomic (k : SiteId) (name : String) : (renameSite k name).Atomic s := by
  refine Action.Atomic.bind_quiet ?_ fun p _ => ?_
  · unfold placed
    split <;> rfl
  · split
    · exact Action.Accepts.modify.atomic
    · exact Action.Atomic.raise

end Store
end ConstantResolution
