import ConstantResolution.Action

/-! # Actions that succeed

`x.Succeeds s q` says that an action that starts in `s` gives something, and that what it gives and leaves behind
satisfies `q`.  A loop succeeds as soon as each round does, with an invariant that counts the rounds
(`Succeeds.times`). -/

namespace ConstantResolution.Action

variable {σ τ α β : Type} {s : σ} {x : Action σ α} {q q' : α → σ → Prop}

/-- An action that starts in `s` does not fail, and what it gives satisfies `q`. -/
def Succeeds (x : Action σ α) (s : σ) (q : α → σ → Prop) : Prop :=
  ∃ t notes a, x s = ⟨t, notes, .ok a⟩ ∧ q a t

theorem Succeeds.imp (h : x.Succeeds s q) (hq : ∀ a t, q a t → q' a t) : x.Succeeds s q' := by
  obtain ⟨t, notes, a, hx, ha⟩ := h
  exact ⟨t, notes, a, hx, hq a t ha⟩

/-- What an action gives and leaves behind is known each on its own. -/
theorem Succeeds.of_result {a : α} (hr : (x s).result = .ok a) (hq : q a (x s).state) : x.Succeeds s q :=
  ⟨(x s).state, (x s).notes, a, by rw [← hr], hq⟩

theorem Succeeds.pure {a : α} (h : q a s) : (Pure.pure a : Action σ α).Succeeds s q := ⟨s, [], a, rfl, h⟩

theorem Succeeds.read_bind {γ : Type} {f : σ → γ} {g : γ → Action σ α} (h : (g (f s)).Succeeds s q) :
    (Action.read f >>= g).Succeeds s q := h

/-- A first action whose outcome is known. -/
theorem Succeeds.bind_of_eq {f : α → Action σ β} {r : β → σ → Prop} {t : σ} {notes : List Note} {a : α}
    (hx : x s = ⟨t, notes, .ok a⟩) (hf : (f a).Succeeds t r) : (x >>= f).Succeeds s r := by
  obtain ⟨u, notes', b, hb, hr⟩ := hf
  refine ⟨u, notes ++ notes', b, ?_, hr⟩
  rw [bind_of_ok hx, hb]

theorem Succeeds.bind {f : α → Action σ β} {r : β → σ → Prop} (hx : x.Succeeds s q)
    (hf : ∀ a t, q a t → (f a).Succeeds t r) : (x >>= f).Succeeds s r := by
  obtain ⟨t, notes, a, hx, ha⟩ := hx
  exact bind_of_eq hx (hf a t ha)

/-- A success that is taken for a value, made use of, and given back. -/
theorem Succeeds.outcome_bind {y : Action σ Unit} {p : σ → Prop} (hx : x.Succeeds s q)
    (hy : ∀ a t, q a t → y.Succeeds t fun _ u => p u) :
    (do
      let result ← Action.outcome x
      y
      Action.ofResult result : Action σ α).Succeeds s fun _ u => p u := by
  obtain ⟨t, notes, a, hx, ha⟩ := hx
  have hout : Action.outcome x s = ⟨t, notes, .ok (.ok a)⟩ := by rw [outcome_apply, hx]
  refine Succeeds.bind_of_eq hout ?_
  exact Succeeds.bind (hy a _ ha) fun _ u hu => ⟨u, [], a, rfl, hu⟩

/-- **A loop whose rounds succeed succeeds.**  The invariant says how many rounds are done. -/
theorem Succeeds.times {body : Nat → Action σ Unit} (P : Nat → σ → Prop) {n i : Nat}
    (hstep : ∀ j t, j < i + n → P j t → (body j).Succeeds t fun _ u => P (j + 1) u) (h : P i s) :
    (Action.times n i body).Succeeds s fun _ t => P (i + n) t := by
  induction n generalizing i s with
  | zero => exact ⟨s, [], (), rfl, h⟩
  | succ n ih =>
      refine Succeeds.bind (hstep i s (by omega) h) fun _ t ht => ?_
      have hrest := ih (i := i + 1) (fun j u hj => hstep j u (by omega)) ht
      rwa [Nat.add_right_comm] at hrest

end ConstantResolution.Action
