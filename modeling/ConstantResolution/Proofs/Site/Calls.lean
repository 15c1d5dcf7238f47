import ConstantResolution.Proofs.Agreement
import ConstantResolution.Proofs.World.Calm
import ConstantResolution.Proofs.Site.History

/-! # Calls of a site

A call of a site resolves its name once, whatever is made of the result.  `Call` keeps what there is to know
of it: where it was made, which lookups it asked its scope for, and whether the site was reported in it.  A
call that asks for no lookup counts a hit, and any other one counts a miss and a lookup (`tally_resolve`).

What evaluations, questions and definitions leave behind is what a resolution leaves behind, except that an
evaluation may let a handler answer (`evaluate_state`). -/

namespace ConstantResolution

/-- A call of a site. -/
structure Call where
  site : SiteId
  tally : TallyId
  /-- the namespace that it was made in, if it was made in one -/
  place : Option NamespaceId
  /-- whether the site keeps memos -/
  memos : Bool
  lookups : List Asking
  /-- whether the site was reported as thrashing in it -/
  reported : Bool

namespace Call

/-- The call asked its scope and found nothing. -/
def missed (c : Call) : Bool := c.lookups.any fun a => a.found.isNone

/-- **What a call adds to the counters.**  What was not found is counted for sites that keep memos only. -/
def counts (c : Call) : List Count :=
  (if c.lookups = [] then [.hit] else [.miss, .lookup]) ++
    (if c.memos && c.missed then [.notFound] else []) ++ if c.reported then [.thrashing] else []

end Call

namespace Reading

variable {σ : Type} {r : Reading σ} {k : SiteId} {t : TallyId} {o : Option NamespaceId}

/-- The call that a resolution is. -/
def call (k : SiteId) (t : TallyId) (place : Option NamespaceId) (c : Scope σ) (r : Reading σ) : Call where
  site := k
  tally := t
  place := place
  memos := r.site.policy.enabled
  lookups := r.asked (resolve c.watched)
  reported := (resolve c r).state.site.reported && !r.site.reported

/-! ### What a call looks up -/

theorem lookups_of_disabled (c : Scope σ) (he : r.site.policy.enabled = false) :
    (r.call k t o c).lookups = [r.asking c] := by
  have hwatched := resolve_of_disabled c.watched (r := ⟨r.site, r.tally, r.scope, []⟩) he
  rw [call, asked, hwatched]
  rfl

theorem lookups_of_served (c : Scope σ) {v : Value} (he : r.site.policy.enabled = true)
    (hv : r.site.served? (c.generation r.scope) = some v) : (r.call k t o c).lookups = [] :=
  (resolve_without_lookup c he hv).1

theorem lookups_of_stale (c : Scope σ) (he : r.site.policy.enabled = true)
    (hv : r.site.served? (c.generation r.scope) = none) : (r.call k t o c).lookups = [r.asking c] :=
  (resolve_with_lookup c he hv).1

/-! ### What a call counts -/

theorem reported_store (s : Site) (g : UInt64) (found : Option Value) :
    (s.store g found).reported = s.reported := by
  unfold Site.store
  split <;> rfl

/-- A report is counted when the site becomes a reported one. -/
theorem tally_trackStreak (r : Reading σ) :
    (trackStreak r).state.tally = r.tally.recordAll
      (if (trackStreak r).state.site.reported && !r.site.reported then [.thrashing] else []) := by
  unfold trackStreak
  rw [Action.read_bind]
  split
  · simp only [Action.pure_apply, Bool.and_not_self, Bool.false_eq_true, if_false]
    rfl
  · rw [modifySite, Action.modify_bind]
    split
    · simp only [Action.fault_apply, Site.countLookup, Bool.and_not_self, Bool.false_eq_true, if_false]
      rfl
    · rw [Action.read_bind]
      split
      · rename_i hthrashing
        rw [Site.isThrashing, Bool.and_eq_true] at hthrashing
        have hnew : (!r.site.reported) = true := hthrashing.2
        simp only [modifySite, count, Action.modify_bind, Action.note_apply, Site.markReported, hnew,
          Bool.and_self, if_true]
      · simp only [Action.pure_apply, Site.countLookup, Bool.and_not_self, Bool.false_eq_true, if_false]
        rfl

/-- **A call counts a hit if it asks for no lookup, and a miss and a lookup otherwise.** -/
theorem tally_resolve (c : Scope σ) (r : Reading σ) :
    (resolve c r).state.tally = r.tally.recordAll (r.call k t o c).counts := by
  unfold Call.counts
  cases he : r.site.policy.enabled with
  | false =>
      rw [lookups_of_disabled c he, if_neg (List.cons_ne_nil _ _), call, resolve_of_disabled c he]
      simp [lookUp, he]
  | true =>
      cases hv : r.site.served? (c.generation r.scope) with
      | some v =>
          have hmissed : (r.call k t o c).missed = false := by
            rw [Call.missed, lookups_of_served c he hv]
            rfl
          have hreported : (r.call k t o c).reported = false := by
            rw [call, resolve_of_served c he hv]
            exact Bool.and_not_self r.site.reported
          rw [lookups_of_served c he hv, hmissed, hreported, resolve_of_served c he hv]
          simp
      | none =>
          have hlooked : (r.lookedIn c).site.reported = r.site.reported := reported_store _ _ _
          have hmissed : (r.call k t o c).missed = !(c.lookup r.site.name r.scope).1.isSome := by
            rw [Call.missed, lookups_of_stale c he hv]
            simp [asking]
          have htally : (r.lookedIn c).tally = r.tally.recordAll ([.miss, .lookup] ++
              if (c.lookup r.site.name r.scope).1.isSome then [] else [.notFound]) := rfl
          rw [hmissed, lookups_of_stale c he hv, if_neg (List.cons_ne_nil _ _), call,
            resolve_of_stale c he hv, (refresh_after c r).1, tally_trackStreak, hlooked, htally, he,
            Bool.true_and, Tally.recordAll, Tally.recordAll, Tally.recordAll, ← List.foldl_append]
          cases (c.lookup r.site.name r.scope).1.isSome <;> rfl

/-! ### What a call leaves behind -/

/-- A resolution keeps the policy of the site. -/
theorem policy_resolve (c : Scope σ) (r : Reading σ) : (resolve c r).state.site.policy = r.site.policy := by
  cases he : r.site.policy.enabled with
  | false =>
      rw [resolve_of_disabled c he]
      rfl
  | true =>
      cases hv : r.site.served? (c.generation r.scope) with
      | some v =>
          rw [resolve_of_served c he hv]
          rfl
      | none =>
          rw [resolve_of_stale c he hv, (refresh_after c r).1, (trackStreak_state _).policy]
          exact Site.policy_store _ _ _

theorem definition_state (c : Scope σ) (r : Reading σ) : (definition c r).state = (resolve c r).state := by
  have happly := Action.bind_pure_apply (isDefined c) (fun b => if b then some "constant" else none) r
  rw [definition, happly]
  exact isDefined_state c r

/-- An evaluation is a resolution, after which the scope may answer. -/
theorem evaluate_state (c : Scope σ) (r : Reading σ) :
    ((evaluate c r).state = (resolve c r).state ∧ (evaluate c r).notes = (resolve c r).notes) ∨
      ∃ name, (evaluate c r).state =
          { (resolve c r).state with scope := (c.missing name (resolve c r).state.scope).state } ∧
        (evaluate c r).notes = (resolve c r).notes ++ (c.missing name (resolve c r).state.scope).notes := by
  unfold evaluate
  rcases hr : resolve c r with ⟨r', notes, e | found⟩
  · rw [Action.bind_of_error hr]
    exact Or.inl ⟨rfl, rfl⟩
  · rw [Action.bind_of_ok hr]
    cases found with
    | some v => exact Or.inl ⟨rfl, List.append_nil _⟩
    | none =>
        simp only [Action.read_bind, Action.locating_apply]
        exact Or.inr ⟨r'.site.name, rfl, rfl⟩

/-- What is done with a site in any scope leaves behind what one resolution leaves behind, apart from the
scope; and in a namespace it creates nothing and holds nothing. -/
structure IsCall {α : Type} (x : {σ : Type} → Scope σ → Action (Reading σ) α) : Prop where
  state : ∀ {σ : Type} (c : Scope σ) (r : Reading σ),
    (x c r).state = { (resolve c r).state with scope := (x c r).state.scope }
  calm : ∀ {i : NamespaceId} {r : Reading World}, r.scope.Linked →
    r.scope.Calm (x (World.scope i) r).notes (x (World.scope i) r).state.scope

theorem resolve_isCall : IsCall resolve where
  state := fun _ _ => rfl
  calm := fun {i r} _ => by
    rw [resolve_scope i r]
    exact World.Calm.refl _ _

theorem isDefined_isCall : IsCall isDefined where
  state := fun c r => by rw [isDefined_state]
  calm := fun {i r} _ => by
    rw [isDefined_scope i r]
    exact World.Calm.refl _ _

theorem definition_isCall : IsCall definition where
  state := fun c r => by rw [definition_state]
  calm := fun {i r} _ => by
    rw [definition_scope i r]
    exact World.Calm.refl _ _

/-- **An evaluation is one call**, after which a handler may change the world. -/
theorem evaluate_isCall : IsCall evaluate where
  state := fun c r => by
    rcases evaluate_state c r with ⟨hstate, -⟩ | ⟨_, hstate, -⟩ <;> rw [hstate]
  calm := fun {i r} hl => by
    have hscope := resolve_scope i r
    rcases evaluate_state (World.scope i) r with ⟨hstate, -⟩ | ⟨name, hstate, hnotes⟩
    · rw [hstate, hscope]
      exact World.Calm.refl _ _
    · rw [hstate, hnotes, hscope]
      exact (World.Calm.refl r.scope _).trans (World.dispatch_calm r.scope i name hl).2.1

end Reading
end ConstantResolution
