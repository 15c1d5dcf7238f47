import ConstantResolution.Proofs.Site.Agreement
import ConstantResolution.Proofs.Site.Overflow

/-! # Missing names at sites

What is not found is not remembered, so a site whose name is missing makes a full lookup, finds nothing, and dispatches
the name in the world as it is (`evaluate_of_missing`).  Two things can come between: a memo of the same generation is
served (`evaluate_of_remembered`), though a fresh site has none while its name is missing (`Fresh.remembered?_eq_none`),
and the counter of the row runs over when the row is counted and the counter is at its greatest value
(`evaluate_of_full`). -/

namespace ConstantResolution

variable {σ : Type}

/-- There is room for one lookup more in the row of a site, or the row is not counted. -/
def Site.HasRoom (s : Site) : Prop := s.policy.counts → s.streak ≠ Site.lastStreak

/-- What a site has in its memo for a generation, if it keeps memos. -/
def Site.remembered? (s : Site) (g : UInt64) : Option Value := if s.policy.enabled then s.served? g else none

/-- A fresh site remembers nothing of a name that is missing. -/
theorem Site.Fresh.remembered?_eq_none {s : Site} {w : World} {i : NamespaceId} (h : s.Fresh w i)
    (hi : w.isAlive i = true) (hmissing : w.lookup i s.name = none) : s.remembered? (w.generation i) = none := by
  unfold Site.remembered?
  split
  · cases hv : s.served? (w.generation i) with
    | none => rfl
    | some v => exact absurd ((h.served hi hv).symm.trans hmissing) (Option.some_ne_none v)
  · rfl

namespace Reading

theorem noOverflow_trackStreak {r : Reading σ}
    (h : r.site.policy.threshold ≠ 0 → r.site.streak ≠ Site.lastStreak) : NoOverflow (trackStreak r).notes := by
  by_cases ht : r.site.policy.threshold = 0
  · rw [trackStreak_of_uncounted ht]
    exact List.forall_mem_nil _
  · rw [trackStreak_of_counted ht (h ht)]
    split
    · exact List.forall_mem_singleton.mpr rfl
    · exact List.forall_mem_nil _

/-- The counter of the row does not run over as long as there is room. -/
theorem noOverflow_resolve (c : Scope σ) {r : Reading σ} (h : r.site.HasRoom) : NoOverflow (resolve c r).notes := by
  cases he : r.site.policy.enabled with
  | false =>
      rw [resolve_of_disabled c he]
      exact List.forall_mem_nil _
  | true =>
      cases hv : r.site.served? (c.generation r.scope) with
      | some v =>
          rw [resolve_of_served c he hv]
          exact List.forall_mem_nil _
      | none =>
          have hpolicy : (r.lookedIn c).site.policy = r.site.policy := Site.policy_store _ _ _
          have htrack : NoOverflow (trackStreak (r.lookedIn c)).notes := by
            refine noOverflow_trackStreak fun ht => ?_
            rw [streak_lookedIn]
            exact h ⟨he, hpolicy ▸ ht⟩
          rw [resolve_of_stale c he hv, refresh_apply, Action.bind_of_ok (Action.note_apply _ _)]
          rw [noOverflow_append]
          refine ⟨List.forall_mem_singleton.mpr rfl, ?_⟩
          rcases ho : trackStreak (r.lookedIn c) with ⟨t, notes, e | u⟩
          · rw [ho] at htrack
            rwa [Action.bind_of_error ho]
          · rw [ho] at htrack
            rwa [Action.bind_of_ok ho, Action.pure_apply, List.append_nil]

section evaluate

variable {r : Reading World} {i : NamespaceId}

theorem served_of_remembered {v : Value} (h : r.site.remembered? (r.scope.generation i) = some v) :
    r.site.policy.enabled = true ∧ r.site.served? (r.scope.generation i) = some v := by
  unfold Site.remembered? at h
  split at h
  · exact ⟨‹_›, h⟩
  · exact nomatch h

/-- What is remembered is given without a lookup, and nothing else happens. -/
theorem evaluate_of_remembered {v : Value} (h : r.site.remembered? (r.scope.generation i) = some v) :
    (evaluate (World.scope i) r).result = .ok v ∧ (evaluate (World.scope i) r).state.scope = r.scope ∧
      callsOf (evaluate (World.scope i) r).notes = [] := by
  obtain ⟨he, hv⟩ := served_of_remembered h
  unfold evaluate
  rw [Action.bind_of_ok (resolve_of_served (World.scope i) he hv)]
  exact ⟨rfl, rfl, rfl⟩

variable (h : r.site.remembered? (r.scope.generation i) = none)

include h

/-- **A site that remembers nothing, and whose name is missing, dispatches the name** in the world as it is. -/
theorem evaluate_of_missing (hroom : r.site.HasRoom) (hmissing : r.scope.lookup i r.site.name = none) :
    let d := Action.locating r.site.position (World.dispatch i r.site.name) r.scope
    (evaluate (World.scope i) r).result = d.result ∧ (evaluate (World.scope i) r).state.scope = d.state ∧
      callsOf (evaluate (World.scope i) r).notes = callsOf d.notes := by
  have hnone : r.given i = none := by
    unfold Site.remembered? at h
    split at h
    · rw [given_of_stale h, hmissing]
    · rw [given_of_disabled (Bool.eq_false_of_not_eq_true ‹_›), hmissing]
  obtain ⟨hgiven, halike⟩ := resolve_of_noOverflow (noOverflow_resolve (World.scope i) hroom)
  have hcalls := callsOf_resolve (World.scope i) r
  rw [hnone] at hgiven
  obtain ⟨r', notes, hr⟩ : ∃ r' notes, resolve (World.scope i) r = ⟨r', notes, .ok none⟩ :=
    ⟨_, _, by rw [← hgiven]⟩
  rw [hr] at halike hcalls
  unfold evaluate
  rw [Action.bind_of_ok hr]
  simp only [Action.read_bind, locating_dispatch, Action.within_apply]
  rw [halike.position, halike.name, halike.scope]
  refine ⟨rfl, rfl, ?_⟩
  rw [callsOf_append, hcalls, List.nil_append]

/-- A site that remembers nothing fails when there is no room in its row, before any handler is called. -/
theorem evaluate_of_full (hfull : ¬ r.site.HasRoom) :
    (evaluate (World.scope i) r).result = .error (.fault (.overflow .streak)) ∧
      (evaluate (World.scope i) r).state.scope = r.scope ∧ callsOf (evaluate (World.scope i) r).notes = [] := by
  obtain ⟨hcounts, hlast⟩ := Classical.not_imp.mp hfull
  have hunserved : r.site.served? (r.scope.generation i) = none := by
    rw [← h, Site.remembered?, if_pos hcounts.1]
  have hresult := (resolve_overflow_iff (World.scope i) r).1
    ⟨hcounts, looksUp_of_stale hcounts.1 hunserved, not_not.mp hlast⟩
  have hscope := resolve_scope i r
  have hcalls := callsOf_resolve (World.scope i) r
  unfold evaluate
  rcases ho : resolve (World.scope i) r with ⟨r', notes, e | v⟩
  · rw [ho] at hresult hscope hcalls
    obtain rfl : e = .fault (.overflow .streak) := Except.error.inj hresult
    rw [Action.bind_of_error ho]
    exact ⟨rfl, hscope, hcalls⟩
  · rw [ho] at hresult
    exact nomatch hresult

end evaluate

end Reading
end ConstantResolution
