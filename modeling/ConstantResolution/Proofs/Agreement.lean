import ConstantResolution.Proofs.Contract

/-! # Agreement of actions

Two actions agree from two states when, unless a counter runs over in one of them, they end in related
states with the same result, and call the same handlers (`Action.Agrees`).  Agreement is kept by the ways
of putting actions together.  What actions leave behind by a contract can be used for what comes next
(`Agrees.keeps`), or be made part of the relation (`Agrees.and`). -/

namespace ConstantResolution

/-- Whether a note says that a counter ran over. -/
def Note.isOverflow : Note → Bool
  | .fault (.overflow _) => true
  | _ => false

/-- No counter ran over. -/
def NoOverflow (notes : List Note) : Prop := ∀ n ∈ notes, n.isOverflow = false

instance (notes : List Note) : Decidable (NoOverflow notes) :=
  inferInstanceAs (Decidable (∀ n ∈ notes, n.isOverflow = false))

theorem noOverflow_append {notes notes' : List Note} :
    NoOverflow (notes ++ notes') ↔ NoOverflow notes ∧ NoOverflow notes' := by
  unfold NoOverflow
  simp only [List.mem_append, or_imp, forall_and]

theorem NoOverflow.not_mem {notes : List Note} (h : NoOverflow notes) (c : Counter) :
    .fault (.overflow c) ∉ notes := fun hmem => nomatch h _ hmem

/-- A failure with a position, when it is an error that has none. -/
def Failure.located (p : Position) : Failure → Failure
  | .raised e => .raised (e.located p)
  | f => f

variable {σ τ α β : Type}

namespace Action

variable {R S : σ → σ → Prop} {x y : Action σ α} {s t : σ} {p q : α → σ → σ → Prop}

/-- Two actions that start in `s` and `t` agree, and what they give satisfies `q`. -/
def Agrees (R : σ → σ → Prop) (x y : Action σ α) (s t : σ) (q : α → σ → σ → Prop) : Prop :=
  NoOverflow (x s).notes → NoOverflow (y t).notes →
    R (x s).state (y t).state ∧ callsOf (x s).notes = callsOf (y t).notes ∧
      (x s).result = (y t).result ∧ ∀ a, (x s).result = .ok a → q a (x s).state (y t).state

theorem Agrees.imp (h : Agrees R x y s t q) (hR : ∀ {s' t'}, R s' t' → S s' t')
    (hq : ∀ a s' t', R s' t' → q a s' t' → p a s' t') : Agrees S x y s t p := by
  intro hx hy
  obtain ⟨hstate, hcalls, hresult, hgiven⟩ := h hx hy
  exact ⟨hR hstate, hcalls, hresult, fun a ha => hq a _ _ hstate (hgiven a ha)⟩

/-- Only what actions do in their start states matters. -/
theorem Agrees.congr {u v : Action σ α} (hx : x s = u s) (hy : y t = v t)
    (h : Agrees R u v s t q) : Agrees R x y s t q := by
  unfold Agrees
  rw [hx, hy]
  exact h

/-! ### Steps -/

theorem Agrees.pure {a : α} (h : R s t) (hq : q a s t) :
    Agrees R (Pure.pure a) (Pure.pure a) s t q := by
  intro _ _
  refine ⟨h, rfl, rfl, fun b hb => ?_⟩
  obtain rfl : a = b := Except.ok.inj hb
  exact hq

/-- What is known already, and of which enough is known. -/
theorem Agrees.ofResult {r : Except Failure α} (h : R s t) (hq : ∀ a, r = .ok a → q a s t) :
    Agrees R (Action.ofResult r) (Action.ofResult r) s t q := fun _ _ => ⟨h, rfl, rfl, hq⟩

theorem Agrees.fail {e : Failure} (h : R s t) : Agrees R (Action.fail e) (Action.fail e) s t q :=
  fun _ _ => ⟨h, rfl, rfl, fun _ ha => nomatch ha⟩

theorem Agrees.raise {c : Cause} (h : R s t) : Agrees R (Action.raise c) (Action.raise c) s t q :=
  Agrees.fail h

theorem Agrees.modify {f g : σ → σ} {q : Unit → σ → σ → Prop} (h : R (f s) (g t))
    (hq : q () (f s) (g t)) : Agrees R (Action.modify f) (Action.modify g) s t q :=
  fun _ _ => ⟨h, rfl, rfl, fun _ _ => hq⟩

theorem Agrees.note {m n : Note} {q : Unit → σ → σ → Prop} (h : R s t) (hcall : m.call? = n.call?)
    (hq : q () s t) : Agrees R (Action.note m) (Action.note n) s t q := by
  refine fun _ _ => ⟨h, ?_, rfl, fun _ _ => hq⟩
  simp only [Action.note_apply, callsOf, List.filterMap_cons, List.filterMap_nil, hcall]

/-! ### Putting actions together -/

/-- Programs bind actions one after another. -/
theorem bind_assoc {γ : Type} (x : Action σ α) (f : α → Action σ β) (g : β → Action σ γ) :
    (x >>= f) >>= g = x >>= fun a => f a >>= g := by
  funext s
  rcases hx : x s with ⟨t, notes, e | a⟩
  · rw [bind_of_error hx, bind_of_error (bind_of_error hx f)]
  · rw [bind_of_ok hx, bind_apply, bind_of_ok hx]
    rcases hf : f a t with ⟨u, notes', e | b⟩
    · rw [bind_of_error hf]
    · rw [bind_of_ok hf]
      simp only [List.append_assoc]

/-- The second actions start in related states, with what the first ones gave. -/
theorem Agrees.bind {f g : α → Action σ β} {r : β → σ → σ → Prop} (hxy : Agrees R x y s t q)
    (hfg : ∀ a s' t', R s' t' → q a s' t' → Agrees R (f a) (g a) s' t' r) :
    Agrees R (x >>= f) (y >>= g) s t r := by
  unfold Agrees at hxy
  intro hx hy
  rcases hxs : x s with ⟨s', notes, e | a⟩
  · rw [bind_of_error hxs] at hx ⊢
    rcases hyt : y t with ⟨t', notes', d | b⟩
    · rw [bind_of_error hyt] at hy ⊢
      rw [hxs, hyt] at hxy
      obtain ⟨hstate, hcalls, hresult, -⟩ := hxy hx hy
      exact ⟨hstate, hcalls, congrArg Except.error (Except.error.inj hresult), fun _ hb => nomatch hb⟩
    · rw [bind_of_ok hyt] at hy
      rw [hxs, hyt] at hxy
      exact nomatch (hxy hx (noOverflow_append.mp hy).1).2.2.1
  · rw [bind_of_ok hxs] at hx ⊢
    obtain ⟨hx₁, hx₂⟩ := noOverflow_append.mp hx
    rcases hyt : y t with ⟨t', notes', d | b⟩
    · rw [bind_of_error hyt] at hy
      rw [hxs, hyt] at hxy
      exact nomatch (hxy hx₁ hy).2.2.1
    · rw [bind_of_ok hyt] at hy ⊢
      obtain ⟨hy₁, hy₂⟩ := noOverflow_append.mp hy
      rw [hxs, hyt] at hxy
      obtain ⟨hstate, hcalls, hresult, hgiven⟩ := hxy hx₁ hy₁
      obtain rfl : a = b := Except.ok.inj hresult
      obtain ⟨hstate', hcalls', hresult', hgiven'⟩ := hfg a s' t' hstate (hgiven a rfl) hx₂ hy₂
      refine ⟨hstate', ?_, hresult', hgiven'⟩
      rw [callsOf_append, callsOf_append, hcalls', ← hcalls]

/-- The first actions fail alike, and leave their states as they are. -/
theorem Agrees.bind_of_fails {γ : Type} {x : Action σ α} {y : Action σ γ} {f : α → Action σ β}
    {g : γ → Action σ β} {r : β → σ → σ → Prop} {e : Failure} (hx : x s = ⟨s, [], .error e⟩)
    (hy : y t = ⟨t, [], .error e⟩) (h : R s t) : Agrees R (x >>= f) (y >>= g) s t r := by
  unfold Agrees
  rw [bind_of_error hx, bind_of_error hy]
  exact fun _ _ => ⟨h, rfl, rfl, fun _ hb => nomatch hb⟩

/-- The first actions give something, and leave their states as they are. -/
theorem Agrees.bind_of_gives {γ : Type} {x : Action σ α} {y : Action σ γ} {f : α → Action σ β}
    {g : γ → Action σ β} {r : β → σ → σ → Prop} {a : α} {b : γ} (hx : x s = ⟨s, [], .ok a⟩)
    (hy : y t = ⟨t, [], .ok b⟩) (h : Agrees R (f a) (g b) s t r) :
    Agrees R (x >>= f) (y >>= g) s t r :=
  Agrees.congr (bind_of_quiet hx f) (bind_of_quiet hy g) h

/-- What is made of a result makes no difference. -/
theorem Agrees.map {f : α → β} (h : Agrees R x y s t q) :
    Agrees R (x >>= fun a => Pure.pure (f a)) (y >>= fun a => Pure.pure (f a)) s t fun _ _ _ => True :=
  Agrees.bind h fun _ _ _ hR _ => Agrees.pure hR trivial

/-- What is done with the states is done with the start states. -/
theorem Agrees.get_bind {f g : σ → Action σ β} {r : β → σ → σ → Prop} (h : Agrees R (f s) (g t) s t r) :
    Agrees R (Action.get >>= f) (Action.get >>= g) s t r :=
  Agrees.congr (u := f s) (v := g t) rfl rfl h

theorem Agrees.read_bind {γ δ : Type} {p : σ → γ} {p' : σ → δ} {f : γ → Action σ β} {g : δ → Action σ β}
    {r : β → σ → σ → Prop} (h : Agrees R (f (p s)) (g (p' t)) s t r) :
    Agrees R (Action.read p >>= f) (Action.read p' >>= g) s t r :=
  Agrees.congr (u := f (p s)) (v := g (p' t)) rfl rfl h

/-- A failure is a value like any other. -/
theorem Agrees.outcome (h : Agrees R x y s t q) :
    Agrees R (Action.outcome x) (Action.outcome y) s t fun _ _ _ => True := by
  intro hx hy
  obtain ⟨hstate, hcalls, hresult, -⟩ := h hx hy
  exact ⟨hstate, hcalls, congrArg Except.ok hresult, fun _ _ => trivial⟩

/-- A position is attached to the failure alone. -/
theorem locating_apply (p : Position) (x : Action σ α) (s : σ) :
    locating p x s = ⟨(x s).state, (x s).notes, (x s).result.mapError (Failure.located p)⟩ := by
  unfold locating
  rcases x s with ⟨s', notes, (_ | _ | _) | a⟩ <;> rfl

theorem Agrees.locating (p : Position) (h : Agrees R x y s t q) :
    Agrees R (Action.locating p x) (Action.locating p y) s t fun _ _ _ => True := by
  unfold Agrees
  rw [locating_apply, locating_apply]
  intro hx hy
  obtain ⟨hstate, hcalls, hresult, -⟩ := h hx hy
  exact ⟨hstate, hcalls, congrArg (Except.mapError (Failure.located p)) hresult, fun _ _ => trivial⟩

theorem Agrees.times {body : Nat → Action σ Unit}
    (h : ∀ i s t, R s t → Agrees R (body i) (body i) s t fun _ _ _ => True) (hR : R s t) (n i : Nat) :
    Agrees R (Action.times n i body) (Action.times n i body) s t fun _ _ _ => True := by
  induction n generalizing s t i with
  | zero => exact Agrees.pure hR trivial
  | succ n ih => exact Agrees.bind (h i s t hR) fun _ s' t' hR' _ => ih hR' (i + 1)

theorem Agrees.repeated (h : ∀ s t, R s t → Agrees R x y s t fun _ _ _ => True) (hR : R s t) (n : Nat) :
    Agrees R (Action.repeated n x) (Action.repeated n y) s t fun _ _ _ => True := by
  induction n generalizing s t with
  | zero => exact h s t hR
  | succ n ih => exact Agrees.bind (h s t hR).outcome fun _ s' t' hR' _ => ih hR'

/-- One and the same action on equal parts. -/
theorem Agrees.within {part : τ → σ} {put : σ → τ → τ} {R : τ → τ → Prop} {s t : τ} {x : Action σ α}
    (hpart : part s = part t) (hput : ∀ u, R (put u s) (put u t)) :
    Agrees R (Action.within part put x) (Action.within part put x) s t fun _ _ _ => True := by
  intro _ _
  rw [within_apply, within_apply, hpart]
  exact ⟨hput _, rfl, rfl, fun _ _ => trivial⟩

/-- Actions on parts that agree. -/
theorem Agrees.within_of {part : τ → σ} {put put' : σ → τ → τ} {R' : τ → τ → Prop} {s t : τ}
    {part' : τ → σ} (h : Agrees R x y (part s) (part' t) q) (hput : ∀ u v, R u v → R' (put u s) (put' v t)) :
    Agrees R' (Action.within part put x) (Action.within part' put' y) s t fun _ _ _ => True := by
  intro hx hy
  obtain ⟨hstate, hcalls, hresult, -⟩ := h hx hy
  exact ⟨hput _ _ hstate, hcalls, hresult, fun _ _ => trivial⟩

end Action

/-! ### Contracts -/

/-- A state is led to when it is valid and follows by the contract, with no overflow on the way. -/
def Contract.Leads (c : Contract σ) (s s' : σ) : Prop :=
  c.valid s' ∧ ∃ notes, NoOverflow notes ∧ c.step s notes s'

namespace Action

variable {R : σ → σ → Prop} {x y : Action σ α} {s t : σ} {q : α → σ → σ → Prop}

/-- What is known of actions that keep contracts is known where they agree. -/
theorem Agrees.keeps {c : Contract σ} {p p' : α → σ → Prop} (h : Agrees R x y s t q) (hx : x.Keeps c s p)
    (hy : y.Keeps c t p') (hs : c.valid s) (ht : c.valid t) :
    Agrees R x y s t fun a s' t' =>
      q a s' t' ∧ (c.Leads s s' ∧ p a s') ∧ (c.Leads t t' ∧ p' a t') := by
  intro hnx hny
  obtain ⟨hstate, hcalls, hresult, hgiven⟩ := h hnx hny
  obtain ⟨hv, hstep, hp⟩ := hx hs
  obtain ⟨hv', hstep', hp'⟩ := hy ht
  refine ⟨hstate, hcalls, hresult, fun a ha => ⟨hgiven a ha, ⟨⟨hv, _, hnx, hstep⟩, hp a ha⟩, ?_⟩⟩
  exact ⟨⟨hv', _, hny, hstep'⟩, hp' a (hresult ▸ ha)⟩

/-- What both actions keep can be made part of the relation. -/
theorem Agrees.and {I : σ → Prop} (h : Agrees R x y s t q) (hx : NoOverflow (x s).notes → I (x s).state)
    (hy : NoOverflow (y t).notes → I (y t).state) :
    Agrees (fun s' t' => R s' t' ∧ I s' ∧ I t') x y s t q := by
  intro hnx hny
  obtain ⟨hstate, hcalls, hresult, hgiven⟩ := h hnx hny
  exact ⟨⟨hstate, hx hnx, hy hny⟩, hcalls, hresult, hgiven⟩

theorem Keeps.leads {c : Contract σ} {p : α → σ → Prop} (h : x.Keeps c s p) (hs : c.valid s)
    (hn : NoOverflow (x s).notes) : c.Leads s (x s).state := by
  obtain ⟨hv, hstep, -⟩ := h hs
  exact ⟨hv, _, hn, hstep⟩

end Action
end ConstantResolution
