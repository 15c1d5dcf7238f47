import ConstantResolution.Action

/-! # Contracts of actions

A contract says which states are valid, and how a state may follow another one when certain notes
were taken in between.  `x.Keeps c s q` says of an action that starts in a valid state `s`: it ends
in a valid state, which follows `s` by the contract whether the action fails or not, and what it
gives satisfies `q` there.  Contracts are kept by the ways of putting actions together
(`Keeps.bind`, `Keeps.outcome`, `Keeps.repeated`, `Keeps.times`, `Keeps.within`), so that a program
keeps a contract as soon as its primitive steps do. -/

namespace ConstantResolution

/-- Which states are valid, and which state may follow another one. -/
structure Contract (σ : Type) where
  valid : σ → Prop
  /-- the state before, the notes taken, and the state after -/
  step : σ → List Note → σ → Prop
  refl : ∀ s notes, step s notes s
  trans : ∀ {s t u notes notes'}, step s notes t → step t notes' u → step s (notes ++ notes') u

namespace Action

variable {σ τ α β : Type} {c : Contract σ} {s : σ} {x : Action σ α} {q q' : α → σ → Prop}

/-- An action that starts in `s` keeps a contract, and what it gives satisfies `q`. -/
def Keeps (c : Contract σ) (x : Action σ α) (s : σ) (q : α → σ → Prop) : Prop :=
  c.valid s → c.valid (x s).state ∧ c.step s (x s).notes (x s).state ∧
    ∀ a, (x s).result = .ok a → q a (x s).state

theorem Keeps.imp (h : x.Keeps c s q) (hq : ∀ a t, c.valid t → q a t → q' a t) :
    x.Keeps c s q' := by
  intro hs
  obtain ⟨hv, hst, hr⟩ := h hs
  exact ⟨hv, hst, fun a ha => hq a _ hv (hr a ha)⟩

theorem Keeps.of_valid (h : c.valid s → x.Keeps c s q) : x.Keeps c s q := fun hs => h hs hs

/-- Only what an action does in its start state matters. -/
theorem Keeps.congr {y : Action σ α} (h : x s = y s) (hy : y.Keeps c s q) : x.Keeps c s q := by
  unfold Keeps
  rw [h]
  exact hy

/-- A contract that says more is kept in place of one that says less. -/
theorem Keeps.weaken {d : Contract σ} (h : x.Keeps c s q) (hv : ∀ t, c.valid t ↔ d.valid t)
    (hst : ∀ t notes u, c.step t notes u → d.step t notes u) : x.Keeps d s q := by
  intro hs
  obtain ⟨hv', hst', hr⟩ := h ((hv s).mpr hs)
  exact ⟨(hv _).mp hv', hst _ _ _ hst', hr⟩

/-! ### Steps that change nothing -/

/-- An action that ends in its start state. -/
theorem Keeps.of_state (hs : (x s).state = s) (hq : ∀ a, (x s).result = .ok a → q a s) :
    x.Keeps c s q := by
  intro hv
  rw [hs]
  exact ⟨hv, c.refl s _, hq⟩

theorem Keeps.pure {a : α} (h : q a s) : (Pure.pure a : Action σ α).Keeps c s q := by
  intro hs
  refine ⟨hs, c.refl s [], fun b hb => ?_⟩
  obtain rfl : a = b := by simpa using hb
  exact h

theorem Keeps.note {n : Note} {q : Unit → σ → Prop} (h : q () s) : (Action.note n).Keeps c s q :=
  fun hs => ⟨hs, c.refl s [n], fun _ _ => h⟩

theorem Keeps.fail {e : Failure} : (Action.fail e : Action σ α).Keeps c s q :=
  fun hs => ⟨hs, c.refl s [], fun _ ha => nomatch ha⟩

theorem Keeps.raise {e : Cause} : (Action.raise e : Action σ α).Keeps c s q := Keeps.fail

theorem Keeps.fault {f : Fault} : (Action.fault f : Action σ α).Keeps c s q :=
  fun hs => ⟨hs, c.refl s _, fun _ ha => nomatch ha⟩

theorem Keeps.ofResult {r : Except Failure α} (h : ∀ a, r = .ok a → q a s) :
    (Action.ofResult r).Keeps c s q :=
  fun hs => ⟨hs, c.refl s [], fun a ha => h a (by simpa using ha)⟩

theorem Keeps.modify {f : σ → σ} {q : Unit → σ → Prop}
    (h : c.valid s → c.valid (f s) ∧ c.step s [] (f s) ∧ q () (f s)) :
    (Action.modify f).Keeps c s q := by
  intro hs
  obtain ⟨hv, hst, hq⟩ := h hs
  exact ⟨hv, hst, fun _ _ => hq⟩

/-! ### Putting actions together -/

/-- The second action starts in a valid state that follows `s`, with what the first one gave. -/
theorem Keeps.bind {f : α → Action σ β} {r : β → σ → Prop} (hx : x.Keeps c s q)
    (hf : ∀ a t notes, c.valid t → c.step s notes t → q a t → (f a).Keeps c t r) :
    (x >>= f).Keeps c s r := by
  intro hs
  obtain ⟨hv, hst, hr⟩ := hx hs
  rcases hxs : x s with ⟨t, notes, e | a⟩
  · rw [hxs] at hv hst
    rw [bind_of_error hxs]
    exact ⟨hv, hst, fun _ hb => nomatch hb⟩
  · rw [hxs] at hv hst hr
    rw [bind_of_ok hxs]
    obtain ⟨hv', hst', hr'⟩ := hf a t notes hv hst (hr a rfl) hv
    exact ⟨hv', c.trans hst hst', hr'⟩

/-- What is done after a look at the state is done with the start state. -/
theorem Keeps.bind_still {f : α → Action σ β} {P : α → Prop} {r : β → σ → Prop}
    (hx : x.Keeps c s fun a t => t = s ∧ P a) (hf : ∀ a, P a → (f a).Keeps c s r) : (x >>= f).Keeps c s r := by
  refine Keeps.bind hx ?_
  rintro a _ _ - - ⟨rfl, ha⟩
  exact hf a ha

/-- What is made of a result changes nothing more. -/
theorem Keeps.map {g : α → β} (hx : x.Keeps c s q) :
    (x >>= fun a => Pure.pure (g a)).Keeps c s fun _ _ => True :=
  Keeps.bind hx fun _ _ _ _ _ _ => Keeps.pure trivial

/-- What is done with the state is done with the start state. -/
theorem Keeps.get_bind {f : σ → Action σ β} {r : β → σ → Prop} (h : c.valid s → (f s).Keeps c s r) :
    (Action.get >>= f).Keeps c s r :=
  Keeps.congr (y := f s) rfl (Keeps.of_valid h)

theorem Keeps.read_bind {g : σ → α} {f : α → Action σ β} {r : β → σ → Prop}
    (h : c.valid s → (f (g s)).Keeps c s r) : (Action.read g >>= f).Keeps c s r :=
  Keeps.congr (y := f (g s)) rfl (Keeps.of_valid h)

theorem Keeps.outcome (hx : x.Keeps c s q) :
    (Action.outcome x).Keeps c s fun r t => ∀ a, r = .ok a → q a t := by
  intro hs
  obtain ⟨hv, hst, hr⟩ := hx hs
  refine ⟨hv, hst, fun r h a ha => ?_⟩
  obtain rfl : (x s).result = r := by simpa using h
  exact hr a ha

theorem Keeps.locating {p : Position} (hx : x.Keeps c s q) : (Action.locating p x).Keeps c s q := by
  intro hs
  obtain ⟨hv, hst, hr⟩ := hx hs
  unfold Action.locating
  rcases hxs : x s with ⟨t, notes, (_ | _ | _) | a⟩ <;> rw [hxs] at hv hst hr
  · exact ⟨hv, hst, fun _ hb => nomatch hb⟩
  · exact ⟨hv, hst, hr⟩
  · exact ⟨hv, hst, hr⟩
  · exact ⟨hv, hst, hr⟩

/-- An action that keeps the contract wherever it may come to start keeps it when it is repeated. -/
theorem Keeps.repeated (hx : ∀ t notes, c.valid t → c.step s notes t → x.Keeps c t q) (n : Nat) :
    (Action.repeated n x).Keeps c s q := by
  induction n generalizing s with
  | zero => exact Keeps.of_valid fun hs => hx s [] hs (c.refl s [])
  | succ n ih =>
      refine Keeps.of_valid fun hs => ?_
      refine Keeps.bind (hx s [] hs (c.refl s [])).outcome fun _ t notes ht hst _ => ih ?_
      exact fun u notes' hu hst' => hx u _ hu (c.trans hst hst')

theorem Keeps.times {body : Nat → Action σ Unit}
    (hx : ∀ i t notes, c.valid t → c.step s notes t → (body i).Keeps c t fun _ _ => True)
    (n i : Nat) : (Action.times n i body).Keeps c s fun _ _ => True := by
  induction n generalizing s i with
  | zero => exact Keeps.pure trivial
  | succ n ih =>
      refine Keeps.of_valid fun hs => ?_
      refine Keeps.bind (hx i s [] hs (c.refl s [])) fun _ t notes ht hst _ => ih ?_ (i + 1)
      exact fun j u notes' hu hst' => hx j u _ hu (c.trans hst hst')

/-- An action on a part of a state keeps a contract on the whole when the contract on the part says
enough about what is put back. -/
theorem Keeps.within {d : Contract τ} {part : τ → σ} {put : σ → τ → τ} {t : τ}
    (hx : x.Keeps c (part t) q) (hpart : d.valid t → c.valid (part t))
    (hput : ∀ s' notes, d.valid t → c.valid s' → c.step (part t) notes s' →
      d.valid (put s' t) ∧ d.step t notes (put s' t)) :
    (Action.within part put x).Keeps d t fun a t' => ∃ s', t' = put s' t ∧ q a s' := by
  intro ht
  obtain ⟨hv, hst, hr⟩ := hx (hpart ht)
  obtain ⟨hv', hst'⟩ := hput _ _ ht hv hst
  exact ⟨hv', hst', fun a ha => ⟨_, rfl, hr a ha⟩⟩

/-- Whatever an action on a part does, what is put back may satisfy the contract on the whole. -/
theorem Keeps.within_any {d : Contract τ} {part : τ → σ} {put : σ → τ → τ} {t : τ}
    (hput : ∀ s' notes, d.valid t → d.valid (put s' t) ∧ d.step t notes (put s' t)) :
    (Action.within part put x).Keeps d t fun _ t' => ∃ s', t' = put s' t := by
  intro ht
  obtain ⟨hv, hst⟩ := hput (x (part t)).state (x (part t)).notes ht
  exact ⟨hv, hst, fun _ _ => ⟨_, rfl⟩⟩

end Action
end ConstantResolution
