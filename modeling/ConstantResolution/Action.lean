import ConstantResolution.Note

/-! # Actions

An action turns a state into another one; it takes notes and has a result or fails.  What it
changed before it failed stays changed.  Actions on a part of a state are actions on the whole
(`within`).

Actions take place one after another.  What threads do between two steps of one action, the locks that
they wait for, and the order in which memory shows their writes have no place here. -/

namespace ConstantResolution

/-- Results are compared by their values or by their errors. -/
instance decidableEqExcept {ε α : Type} [DecidableEq ε] [DecidableEq α] : DecidableEq (Except ε α)
  | .ok a, .ok b => decidable_of_iff (a = b) (by simp)
  | .error d, .error e => decidable_of_iff (d = e) (by simp)
  | .ok _, .error _ => isFalse (by simp)
  | .error _, .ok _ => isFalse (by simp)

/-- What an action leaves behind. -/
structure Outcome (σ α : Type) where
  state : σ
  notes : List Note
  result : Except Failure α
deriving DecidableEq

/-- An action on states of type `σ` with results of type `α`. -/
def Action (σ α : Type) : Type := σ → Outcome σ α

namespace Action

variable {σ τ α β : Type}

/-- Runs an action. -/
def run (x : Action σ α) (s : σ) : Outcome σ α := x s

/-- Does nothing. -/
protected def pure (a : α) : Action σ α := fun s => ⟨s, [], .ok a⟩

/-- One action after another; the second does not start when the first fails. -/
protected def bind (x : Action σ α) (f : α → Action σ β) : Action σ β := fun s =>
  match x s with
  | ⟨s', notes, .error e⟩ => ⟨s', notes, .error e⟩
  | ⟨s', notes, .ok a⟩ =>
    let o := f a s'
    ⟨o.state, notes ++ o.notes, o.result⟩

instance : Monad (Action σ) where
  pure := Action.pure
  bind := Action.bind

/-! ### Primitive actions -/

/-- The state. -/
def get : Action σ σ := fun s => ⟨s, [], .ok s⟩

/-- A part of the state. -/
def read (f : σ → α) : Action σ α := fun s => ⟨s, [], .ok (f s)⟩

def modify (f : σ → σ) : Action σ Unit := fun s => ⟨f s, [], .ok ()⟩

def note (n : Note) : Action σ Unit := fun s => ⟨s, [n], .ok ()⟩

def fail (e : Failure) : Action σ α := fun s => ⟨s, [], .error e⟩

/-- Stops with a fault, and notes it. -/
def fault (f : Fault) : Action σ α := fun s => ⟨s, [.fault f], .error (.fault f)⟩

/-- Raises an error without a position. -/
def raise (c : Cause) : Action σ α := fail (.raised ⟨c, none⟩)

/-- Attaches a position to an error that has none. -/
def locating (p : Position) (x : Action σ α) : Action σ α := fun s =>
  match x s with
  | ⟨s', notes, .error (.raised e)⟩ => ⟨s', notes, .error (.raised (e.located p))⟩
  | o => o

/-- The result of an action as a value, a failure included. -/
def outcome (x : Action σ α) : Action σ (Except Failure α) := fun s =>
  let o := x s
  ⟨o.state, o.notes, .ok o.result⟩

/-- A result that is known already. -/
def ofResult (r : Except Failure α) : Action σ α := fun s => ⟨s, [], r⟩

/-- An action on a part of a larger state. -/
def within (part : τ → σ) (put : σ → τ → τ) (x : Action σ α) : Action τ α := fun t =>
  let o := x (part t)
  ⟨put o.state t, o.notes, o.result⟩

/-- The same action with each number from `i` on, `n` times, until one fails. -/
def times : Nat → Nat → (Nat → Action σ Unit) → Action σ Unit
  | 0, _, _ => Action.pure ()
  | n + 1, i, body => Action.bind (body i) fun _ => times n (i + 1) body

/-- The same action once and `more` times, whatever becomes of the first ones.  The result is that
of the last one. -/
def repeated : Nat → Action σ α → Action σ α
  | 0, x => x
  | more + 1, x => Action.bind (outcome x) fun _ => repeated more x

/-! ### Equations -/

@[simp] theorem pure_apply (a : α) (s : σ) : (pure a : Action σ α) s = ⟨s, [], .ok a⟩ := rfl

theorem bind_apply (x : Action σ α) (f : α → Action σ β) (s : σ) :
    (x >>= f) s = match x s with
      | ⟨s', notes, .error e⟩ => ⟨s', notes, .error e⟩
      | ⟨s', notes, .ok a⟩ => ⟨(f a s').state, notes ++ (f a s').notes, (f a s').result⟩ := rfl

/-- A first action that succeeds leaves its state and notes to the second. -/
theorem bind_of_ok {x : Action σ α} {s s' : σ} {notes : List Note} {a : α}
    (h : x s = ⟨s', notes, .ok a⟩) (f : α → Action σ β) :
    (x >>= f) s = ⟨(f a s').state, notes ++ (f a s').notes, (f a s').result⟩ := by
  rw [bind_apply, h]

/-- A first action that fails is all that happens. -/
theorem bind_of_error {x : Action σ α} {s s' : σ} {notes : List Note} {e : Failure}
    (h : x s = ⟨s', notes, .error e⟩) (f : α → Action σ β) :
    (x >>= f) s = ⟨s', notes, .error e⟩ := by
  rw [bind_apply, h]

/-- A first action that leaves nothing behind hands its state and result to the second. -/
theorem bind_of_quiet {x : Action σ α} {s s' : σ} {a : α} (h : x s = ⟨s', [], .ok a⟩)
    (f : α → Action σ β) : (x >>= f) s = f a s' := by
  rw [bind_of_ok h, List.nil_append]

/-- What is made of a result changes neither state nor notes. -/
theorem bind_pure_apply (x : Action σ α) (g : α → β) (s : σ) :
    (x >>= fun a => pure (g a)) s = ⟨(x s).state, (x s).notes, (x s).result.map g⟩ := by
  rcases h : x s with ⟨s', notes, e | a⟩
  · rw [bind_of_error h]
    rfl
  · rw [bind_of_ok h, pure_apply, List.append_nil]
    rfl

theorem get_bind (f : σ → Action σ β) (s : σ) : (get >>= f) s = f s s := rfl

theorem read_bind (g : σ → α) (f : α → Action σ β) (s : σ) : (read g >>= f) s = f (g s) s := rfl

theorem modify_bind (g : σ → σ) (f : Unit → Action σ β) (s : σ) : (modify g >>= f) s = f () (g s) := rfl

@[simp] theorem get_apply (s : σ) : (get : Action σ σ) s = ⟨s, [], .ok s⟩ := rfl

@[simp] theorem modify_apply (f : σ → σ) (s : σ) : modify f s = ⟨f s, [], .ok ()⟩ := rfl

@[simp] theorem note_apply (n : Note) (s : σ) : note n s = ⟨s, [n], .ok ()⟩ := rfl

@[simp] theorem fault_apply (f : Fault) (s : σ) :
    (fault f : Action σ α) s = ⟨s, [.fault f], .error (.fault f)⟩ := rfl

@[simp] theorem raise_apply (c : Cause) (s : σ) :
    (raise c : Action σ α) s = ⟨s, [], .error (.raised ⟨c, none⟩)⟩ := rfl

@[simp] theorem outcome_apply (x : Action σ α) (s : σ) :
    outcome x s = ⟨(x s).state, (x s).notes, .ok (x s).result⟩ := rfl

@[simp] theorem ofResult_apply (r : Except Failure α) (s : σ) : ofResult r s = ⟨s, [], r⟩ := rfl

@[simp] theorem within_apply (part : τ → σ) (put : σ → τ → τ) (x : Action σ α) (t : τ) :
    within part put x t = ⟨put (x (part t)).state t, (x (part t)).notes, (x (part t)).result⟩ := rfl

/-- A position is attached to the failure of a part as to that of the whole. -/
theorem locating_within (p : Position) (part : τ → σ) (put : σ → τ → τ) (x : Action σ α) (t : τ) :
    locating p (within part put x) t = within part put (locating p x) t := by
  rcases h : x (part t) with ⟨s, notes, (_ | _ | _) | a⟩ <;> simp only [locating, within, h]

/-- No handler is called when none is called in either part. -/
theorem callsOf_bind {x : Action σ α} {f : α → Action σ β} {s : σ} (hx : callsOf (x s).notes = [])
    (hf : ∀ a t, callsOf (f a t).notes = []) : callsOf ((x >>= f) s).notes = [] := by
  rcases hs : x s with ⟨t, notes, e | a⟩
  · rw [hs] at hx
    rw [bind_of_error hs, hx]
  · rw [hs] at hx
    rw [bind_of_ok hs, callsOf_append, hx, hf, List.append_nil]

end Action
end ConstantResolution
