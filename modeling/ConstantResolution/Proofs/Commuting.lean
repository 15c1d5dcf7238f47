import ConstantResolution.Action

/-! # Actions that do not see a change

An action commutes with a change of the state when the change can be made after it as well as before it: what the
action tells and gives is the same, and so is the state in the end (`Action.Commutes`).  This is kept by the ways of
putting actions together. -/

namespace ConstantResolution.Action

variable {σ α β : Type} {f : σ → σ} {x : Action σ α} {k : α → Action σ β} {s : σ}

/-- An action that starts in `s` does not see whether `f` was applied before. -/
def Commutes (f : σ → σ) (x : Action σ α) (s : σ) : Prop := x (f s) = ⟨f (x s).state, (x s).notes, (x s).result⟩

theorem Commutes.pure (a : α) : (Pure.pure a : Action σ α).Commutes f s := rfl

theorem Commutes.fail (e : Failure) : (Action.fail e : Action σ α).Commutes f s := rfl

theorem Commutes.raise (c : Cause) : (Action.raise c : Action σ α).Commutes f s := rfl

theorem Commutes.fault (e : Fault) : (Action.fault e : Action σ α).Commutes f s := rfl

/-- What is done with the state is the same for the changed one. -/
theorem Commutes.get_bind {k : σ → Action σ β} (hk : k (f s) = k s) (h : (k s).Commutes f s) :
    (Action.get >>= k).Commutes f s := by
  unfold Commutes
  rw [Action.get_bind, Action.get_bind, hk]
  exact h

theorem Commutes.bind (hx : x.Commutes f s) (hk : ∀ a, (x s).result = .ok a → (k a).Commutes f (x s).state) :
    (x >>= k).Commutes f s := by
  unfold Commutes at hx ⊢
  rcases h : x s with ⟨t, notes, e | a⟩
  · rw [h] at hx
    rw [bind_of_error h, bind_of_error hx]
  · rw [h] at hx hk
    rw [bind_of_ok h, bind_of_ok hx, hk a rfl]

/-- A part that leaves the state as it is. -/
theorem Commutes.bind_of_quiet {a : α} (h : x s = ⟨s, [], .ok a⟩) (hf : x (f s) = ⟨f s, [], .ok a⟩)
    (hk : (k a).Commutes f s) : (x >>= k).Commutes f s := by
  unfold Commutes
  rw [Action.bind_of_quiet h, Action.bind_of_quiet hf]
  exact hk

end ConstantResolution.Action
