import ConstantResolution.Proofs.Site.History
import ConstantResolution.Proofs.Site.Thrashing

/-! # Rows that run over

The length of a row is counted in a word of 32 bits, and nothing but a hit sets it back.  In a run of any length
the counter is the length of the row modulo 2³² (`counted_after`).  So a resolution fails if and only if it makes
a lookup by which the length becomes a multiple of 2³², and whatever else happens it gives an answer
(`overflow_by_rows`). -/

namespace ConstantResolution

variable {σ : Type}

/-- The counter of a site is the length of its row, as far as the word goes. -/
def Site.CountsRow (s : Site) (calls : List Bool) : Prop := s.streak.toNat = rowLength calls % 2 ^ 32

/-! ### Calls in a history -/

/-- Whether a site is called in an event, and makes a lookup then. -/
def Event.calls (r : Reading σ) : Event σ → List Bool
  | .resolve c => [r.looksUp c]
  | .isDefined c => [r.looksUp c]
  | .invalidate => []
  | .rename _ => []
  | .change _ => []

namespace Reading

/-- The calls of a site in events, in their order. -/
def called (r : Reading σ) : List (Event σ) → List Bool
  | [] => []
  | e :: es => e.calls r ++ called (e.perform r).state es

variable {r : Reading σ} {c : Scope σ} {calls : List Bool}

theorem after_append (r : Reading σ) (es es' : List (Event σ)) : r.after (es ++ es') = (r.after es).after es' :=
  List.foldl_append

theorem after_concat (r : Reading σ) (es : List (Event σ)) (e : Event σ) :
    r.after (es ++ [e]) = (e.perform (r.after es)).state := after_append r es [e]

theorem called_concat (r : Reading σ) (es : List (Event σ)) (e : Event σ) :
    r.called (es ++ [e]) = r.called es ++ e.calls (r.after es) := by
  induction es generalizing r with
  | nil => rw [List.nil_append, called, called, called, List.append_nil]; rfl
  | cons d es ih =>
      rw [List.cons_append, called, called, ih, List.append_assoc]
      rfl

/-- However a site is asked, this is a resolution and a change of the scopes. -/
theorem put_eq_after (q : Question) (c : Scope σ) (r : Reading σ) :
    ∃ f, (q.put c r).state = r.after [.resolve c, .change f] := by
  have happly := Action.bind_pure_apply (resolve c) (fun _ => ()) r
  have hafter : ∀ f, r.after [.resolve c, .change f] =
      { (resolve c r).state with scope := f (resolve c r).state.scope } := by
    intro f
    show (Event.perform (.change f) (Event.perform (.resolve c) r).state).state = _
    rw [Event.perform, Event.perform, happly]
    rfl
  rcases Question.put_outcome q c r with ⟨hstate, -⟩ | ⟨name, hstate, -⟩
  · exact ⟨id, by rw [hstate, hafter]; rfl⟩
  · exact ⟨fun s => (c.missing name s).state, by rw [hstate, hafter]⟩

/-! ### One resolution -/

/-- The row is counted, and the counter fails when it runs over. -/
theorem trackStreak_counts (h : r.site.policy.threshold ≠ 0) :
    (trackStreak r).state.site.streak = r.site.streak + 1 ∧
      (trackStreak r).result =
        if r.site.streak = Site.lastStreak then .error (.fault (.overflow .streak)) else .ok () := by
  by_cases hs : r.site.streak = Site.lastStreak
  · unfold trackStreak
    rw [Action.read_bind, if_neg h, modifySite, Action.modify_bind, if_pos hs, if_pos hs]
    exact ⟨rfl, rfl⟩
  · rw [if_neg hs, trackStreak_of_counted h hs]
    split
    · exact ⟨rfl, rfl⟩
    · exact ⟨rfl, rfl⟩

theorem looksUp_of_served {v : Value} (he : r.site.policy.enabled = true)
    (hv : r.site.served? (c.generation r.scope) = some v) : r.looksUp c = false := by
  rw [looksUp, (resolve_without_lookup c he hv).1]
  rfl

theorem looksUp_of_stale (he : r.site.policy.enabled = true)
    (hv : r.site.served? (c.generation r.scope) = none) : r.looksUp c = true := by
  rw [looksUp, (resolve_with_lookup c he hv).1]
  rfl

/-- A lookup makes the counter greater by one, and a hit sets it back. -/
theorem streak_resolve (h : r.site.policy.counts) :
    (resolve c r).state.site.streak = if r.looksUp c then r.site.streak + 1 else 0 := by
  cases hv : r.site.served? (c.generation r.scope) with
  | some v =>
      rw [looksUp_of_served h.1 hv, resolve_of_served c h.1 hv]
      rfl
  | none =>
      have hpolicy : (r.lookedIn c).site.policy = r.site.policy := Site.policy_store _ _ _
      have hthreshold : (r.lookedIn c).site.policy.threshold ≠ 0 := hpolicy ▸ h.2
      rw [looksUp_of_stale h.1 hv, resolve_of_stale c h.1 hv, (refresh_after c r).1,
        (trackStreak_counts hthreshold).1, streak_lookedIn]
      rfl

/-- **A resolution fails when the counter runs over, and at no other time.** -/
theorem resolve_overflow_iff (c : Scope σ) (r : Reading σ) :
    let overflows := r.site.policy.counts ∧ r.looksUp c = true ∧ r.site.streak = Site.lastStreak
    (overflows → (resolve c r).result = .error (.fault (.overflow .streak))) ∧
      (¬ overflows → ∃ v, (resolve c r).result = .ok v) := by
  intro overflows
  cases he : r.site.policy.enabled with
  | false =>
      rw [resolve_of_disabled c he]
      refine ⟨fun h => ?_, fun _ => ⟨_, rfl⟩⟩
      exact absurd (he.symm.trans h.1.1) Bool.false_ne_true
  | true =>
      cases hv : r.site.served? (c.generation r.scope) with
      | some v =>
          rw [resolve_of_served c he hv]
          refine ⟨fun h => ?_, fun _ => ⟨_, rfl⟩⟩
          exact absurd ((looksUp_of_served he hv).symm.trans h.2.1) Bool.false_ne_true
      | none =>
          have hpolicy : (r.lookedIn c).site.policy = r.site.policy := Site.policy_store _ _ _
          rw [resolve_of_stale c he hv, (refresh_after c r).2]
          by_cases ht : r.site.policy.threshold = 0
          · have htrack : trackStreak (r.lookedIn c) = ⟨r.lookedIn c, [], .ok ()⟩ :=
              trackStreak_of_uncounted (by rw [hpolicy, ht])
            rw [htrack]
            exact ⟨fun h => absurd ht h.1.2, fun _ => ⟨_, rfl⟩⟩
          · have hthreshold : (r.lookedIn c).site.policy.threshold ≠ 0 := hpolicy ▸ ht
            rw [(trackStreak_counts hthreshold).2, streak_lookedIn]
            by_cases hs : r.site.streak = Site.lastStreak
            · rw [if_pos hs]
              exact ⟨fun _ => rfl, fun h => absurd ⟨⟨he, ht⟩, looksUp_of_stale he hv, hs⟩ h⟩
            · rw [if_neg hs]
              exact ⟨fun h => absurd h.2.2 hs, fun _ => ⟨_, rfl⟩⟩

/-! ### Runs -/

/-- No event changes the policy of a site. -/
theorem policy_perform (e : Event σ) (r : Reading σ) : (e.perform r).state.site.policy = r.site.policy := by
  cases e with
  | resolve c =>
      rw [Event.perform, Action.bind_pure_apply]
      exact policy_resolve c r
  | isDefined c =>
      rw [Event.perform, Action.bind_pure_apply, isDefined_state]
      exact policy_resolve c r
  | rename name =>
      by_cases hn : isConstantName name = true
      · rw [Event.perform, rename_of_name hn]
      · rw [Event.perform, rename_of_not_name hn]
  | _ => rfl

theorem policy_after (r : Reading σ) (es : List (Event σ)) : (r.after es).site.policy = r.site.policy := by
  induction es using List.reverseRecOn with
  | nil => rfl
  | append_singleton es e ih => rw [after_concat, policy_perform, ih]

theorem countsRow_resolve (h : r.site.policy.counts) (hc : r.site.CountsRow calls) :
    (resolve c r).state.site.CountsRow (calls ++ [r.looksUp c]) := by
  have hone : (1 : UInt32).toNat = 1 := rfl
  unfold Site.CountsRow at hc ⊢
  rw [streak_resolve h]
  cases r.looksUp c with
  | true =>
      rw [if_pos rfl, UInt32.toNat_add, hc, hone, rowLength_lookup]
      omega
  | false =>
      rw [if_neg Bool.false_ne_true, rowLength_hit]
      rfl

/-- What an event does to the counter is what its calls say. -/
theorem countsRow_perform (e : Event σ) (h : r.site.policy.counts) (hc : r.site.CountsRow calls) :
    (e.perform r).state.site.CountsRow (calls ++ e.calls r) := by
  cases e with
  | resolve c =>
      rw [Event.perform, Action.bind_pure_apply]
      exact countsRow_resolve h hc
  | isDefined c =>
      rw [Event.perform, Action.bind_pure_apply, isDefined_state]
      exact countsRow_resolve h hc
  | rename name =>
      rw [Event.calls, List.append_nil]
      by_cases hn : isConstantName name = true
      · rw [Event.perform, rename_of_name hn]
        exact hc
      · rw [Event.perform, rename_of_not_name hn]
        exact hc
  | _ =>
      rw [Event.calls, List.append_nil]
      exact hc

/-- **The counter is the length of the row modulo its range, in runs of any length.** -/
theorem counted_after (h : r.site.policy.counts) (hnew : r.site.streak = 0) (es : List (Event σ)) :
    (r.after es).site.CountsRow (r.called es) := by
  induction es using List.reverseRecOn with
  | nil => rw [Site.CountsRow, after, List.foldl_nil, hnew]; rfl
  | append_singleton es e ih =>
      rw [after_concat, called_concat]
      exact countsRow_perform e (by rw [policy_after]; exact h) ih

/-- **A resolution fails when its row fills the counter, and at no other time.**  After any run of events, of any
length, at a site that was new and around it, the next resolution fails if and only if the site keeps memos, has a
threshold, and now makes a lookup by which the lookups since its last hit become a multiple of 2³²; it then fails
because the counter of the row runs over.  In all other cases it gives an answer, and so it does as long as no row
has 2³² lookups.  The counter holds the length of the row modulo 2³².  To ask a site in any other way is to resolve
its name, and then to change the scopes. -/
theorem overflow_by_rows (name : String) (position : Position) (policy : Policy) (tally : Tally) (scope : σ)
    (es : List (Event σ)) (c : Scope σ) :
    let start : Reading σ := ⟨{ name, position, policy }, tally, scope⟩
    let r := start.after es
    let calls := start.called es
    let counts := policy.enabled = true ∧ policy.threshold ≠ 0
    let fills := r.looksUp c = true ∧ 2 ^ 32 ∣ rowLength (calls ++ [r.looksUp c])
    (counts ∧ fills → (resolve c r).result = .error (.fault (.overflow .streak))) ∧
      (¬ (counts ∧ fills) → ∃ v, (resolve c r).result = .ok v) ∧
      (counts → r.site.streak.toNat = rowLength calls % 2 ^ 32) ∧
      ∀ q : Question, ∃ f, (q.put c r).state = start.after (es ++ [.resolve c, .change f]) := by
  intro start r calls counts fills
  have hpolicy : r.site.policy = policy := policy_after start es
  have hcounted : counts → r.site.CountsRow calls := fun h => counted_after (r := start) h rfl es
  have hlast : Site.lastStreak.toNat = 2 ^ 32 - 1 := rfl
  -- the counter stands at its end exactly when one lookup more fills it
  have hfills : counts → (r.site.streak = Site.lastStreak ↔ 2 ^ 32 ∣ rowLength calls + 1) := by
    intro h
    have hrow : r.site.streak.toNat = rowLength calls % 2 ^ 32 := hcounted h
    rw [← UInt32.toNat_inj, hrow, hlast]
    omega
  have hiff : (r.site.policy.counts ∧ r.looksUp c = true ∧ r.site.streak = Site.lastStreak) ↔ counts ∧ fills := by
    rw [hpolicy]
    refine and_congr_right fun h => and_congr_right fun hlookup => ?_
    rw [hfills h, hlookup, rowLength_lookup]
  obtain ⟨hfails, hgives⟩ := resolve_overflow_iff c r
  refine ⟨fun h => hfails (hiff.mpr h), fun h => hgives (mt hiff.mp h), hcounted, fun q => ?_⟩
  obtain ⟨f, hf⟩ := put_eq_after q c r
  exact ⟨f, by rw [hf, after_append]⟩

end Reading
end ConstantResolution
