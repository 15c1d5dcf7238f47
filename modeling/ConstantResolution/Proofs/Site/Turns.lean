import ConstantResolution.Proofs.Silence
import ConstantResolution.Proofs.Site.Calls

/-! # Turns of a site

What happens at a site and around it, one after another: it is asked in some way, invalidated or renamed, or
something else changes the scopes and the counters (`Turn`).  A run of turns has calls, each of them a lookup or
a hit (`Reading.calls`), and warnings (`Reading.warnings`).

However a site is asked, its name is resolved once, and a handler may be called after that
(`Question.put_outcome`). -/

namespace ConstantResolution

variable {σ : Type}

/-! ### Turns -/

/-- How a site is asked. -/
inductive Question where
  | resolve
  | isDefined
  | definition
  | evaluate

/-- Asks a site in a scope. -/
def Question.put (c : Scope σ) : Question → Action (Reading σ) Unit
  | .resolve => do let _ ← Reading.resolve c
  | .isDefined => do let _ ← Reading.isDefined c
  | .definition => do let _ ← Reading.definition c
  | .evaluate => do let _ ← Reading.evaluate c

/-- What happens at a site and around it, one after another.  A handler that asks the site again does so in
turns after the one that called it. -/
inductive Turn (σ : Type) where
  /-- The site is asked in a scope that logs no warnings of its own. -/
  | ask (q : Question) (c : Scope σ) (silent : c.Silent)
  | invalidate
  | rename (name : String)
  /-- Something else changes the scopes, or the counters that the site reports to. -/
  | elsewhere (f : σ → σ) (g : Tally → Tally)

namespace Turn

def perform : Turn σ → Action (Reading σ) Unit
  | ask q c _ => q.put c
  | invalidate => Reading.invalidate
  | rename name => Reading.rename name
  | elsewhere f g => Action.modify fun r => { r with scope := f r.scope, tally := g r.tally }

/-- What others tell the counters in a turn. -/
def others : Turn σ → Tally → Tally
  | elsewhere _ g => g
  | _ => id

/-- Whether the site is called in a turn, and makes a lookup then. -/
def calls (r : Reading σ) : Turn σ → List Bool
  | ask q c _ => [!(r.asked (q.put c.watched)).isEmpty]
  | _ => []

end Turn

namespace Reading

/-- What is left after turns, whatever becomes of each. -/
def turned (r : Reading σ) (es : List (Turn σ)) : Reading σ := es.foldl (fun r e => (e.perform r).state) r

/-- The calls of a site, in their order. -/
def calls (r : Reading σ) : List (Turn σ) → List Bool
  | [] => []
  | e :: es => e.calls r ++ calls (e.perform r).state es

/-- The warnings that are logged in turns. -/
def warnings (r : Reading σ) : List (Turn σ) → List Note
  | [] => []
  | e :: es => warningsOf (e.perform r).notes ++ warnings (e.perform r).state es

variable {r : Reading σ} {es es' : List (Turn σ)} {e : Turn σ}

theorem turned_concat (r : Reading σ) (es : List (Turn σ)) (e : Turn σ) :
    r.turned (es ++ [e]) = (e.perform (r.turned es)).state := by
  rw [turned, List.foldl_append]
  rfl

theorem calls_append (r : Reading σ) (es es' : List (Turn σ)) :
    r.calls (es ++ es') = r.calls es ++ (r.turned es).calls es' := by
  induction es generalizing r with
  | nil => rfl
  | cons e es ih =>
      rw [List.cons_append, calls, calls, ih, List.append_assoc]
      rfl

theorem calls_concat (r : Reading σ) (es : List (Turn σ)) (e : Turn σ) :
    r.calls (es ++ [e]) = r.calls es ++ e.calls (r.turned es) := by
  rw [calls_append, calls, calls, List.append_nil]

theorem warnings_concat (r : Reading σ) (es : List (Turn σ)) (e : Turn σ) :
    r.warnings (es ++ [e]) = r.warnings es ++ warningsOf (e.perform (r.turned es)).notes := by
  induction es generalizing r with
  | nil => exact List.append_nil _
  | cons d es ih =>
      rw [List.cons_append, warnings, warnings, ih, List.append_assoc]
      rfl

end Reading

/-! ### A question is a resolution -/

namespace Question

variable {q : Question} {c : Scope σ} {r : Reading σ}

/-- However a site is asked, its name is resolved once.  After that a handler may be called. -/
theorem put_outcome (q : Question) (c : Scope σ) (r : Reading σ) :
    ((q.put c r).state = (Reading.resolve c r).state ∧ (q.put c r).notes = (Reading.resolve c r).notes) ∨
      ∃ name, (q.put c r).state = { (Reading.resolve c r).state with
          scope := (c.missing name (Reading.resolve c r).state.scope).state } ∧
        (q.put c r).notes =
          (Reading.resolve c r).notes ++ (c.missing name (Reading.resolve c r).state.scope).notes := by
  have hdefined := Action.bind_pure_apply (Reading.resolve c) Option.isSome r
  have hdefinition := Action.bind_pure_apply (Reading.isDefined c) (fun b => if b then some "constant" else none) r
  cases q with
  | resolve =>
      rw [put, Action.bind_pure_apply]
      exact Or.inl ⟨rfl, rfl⟩
  | isDefined =>
      rw [put, Action.bind_pure_apply, Reading.isDefined, hdefined]
      exact Or.inl ⟨rfl, rfl⟩
  | definition =>
      rw [put, Action.bind_pure_apply, Reading.definition, hdefinition, Reading.isDefined, hdefined]
      exact Or.inl ⟨rfl, rfl⟩
  | evaluate =>
      rw [put, Action.bind_pure_apply]
      exact Reading.evaluate_state c r

theorem put_site (q : Question) (c : Scope σ) (r : Reading σ) :
    (q.put c r).state.site = (Reading.resolve c r).state.site ∧
      (q.put c r).state.tally = (Reading.resolve c r).state.tally := by
  rcases put_outcome q c r with ⟨hstate, -⟩ | ⟨name, hstate, -⟩ <;> rw [hstate] <;> exact ⟨rfl, rfl⟩

theorem warningsOf_put (hc : c.Silent) (q : Question) (r : Reading σ) :
    warningsOf (q.put c r).notes = warningsOf (Reading.resolve c r).notes := by
  rcases put_outcome q c r with ⟨-, hnotes⟩ | ⟨name, -, hnotes⟩
  · rw [hnotes]
  · rw [hnotes, warningsOf_append, hc name, List.append_nil]

/-- A handler makes no lookup for the site. -/
theorem asked_put (q : Question) (c : Scope σ) (r : Reading σ) :
    r.asked (q.put c.watched) = r.asked (Reading.resolve c.watched) := by
  rw [Reading.asked, Reading.asked]
  rcases put_outcome q c.watched ⟨r.site, r.tally, r.scope, []⟩ with ⟨hstate, -⟩ | ⟨name, hstate, -⟩ <;>
    rw [hstate]
  rfl

end Question

end ConstantResolution
