import ConstantResolution.Proofs.Site.Turns

/-! # Reports of thrashing

The lookups of a site since its last hit are a row (`rowLength`).  When a row first becomes as long as the
threshold of the site, this is logged and counted.  It is the only time, whatever else is done with the site and
around it, and there is no report without a row that is long enough, without a threshold, or without memos
(`Reading.reported_once`).

The site keeps the length of its row and a mark of the report.  These are what the calls so far say
(`Site.Tracks`, `Turn.tracks_perform`), as long as the length fits its counter. -/

namespace ConstantResolution

variable {σ : Type}

/-! ### Rows -/

/-- The lookups since the last hit, or since the beginning.  Each call is a lookup or a hit. -/
def rowLength (calls : List Bool) : Nat := (calls.reverse.takeWhile id).length

/-- At some point the row was as long as this. -/
def RowReaches (t : Nat) (calls : List Bool) : Prop := ∃ now, now <+: calls ∧ rowLength now = t

section rows

variable {calls : List Bool} {t : Nat}

theorem rowLength_lookup (calls : List Bool) : rowLength (calls ++ [true]) = rowLength calls + 1 := by
  simp [rowLength]

theorem rowLength_hit (calls : List Bool) : rowLength (calls ++ [false]) = 0 := by
  simp [rowLength]

theorem rowLength_le_count (calls : List Bool) : rowLength calls ≤ calls.count true := by
  induction calls using List.reverseRecOn with
  | nil => exact Nat.le_refl 0
  | append_singleton calls b ih =>
      rw [List.count_append]
      cases b with
      | true =>
          rw [rowLength_lookup]
          exact Nat.add_le_add_right ih 1
      | false =>
          rw [rowLength_hit]
          exact Nat.zero_le _

theorem not_rowReaches_nil (ht : t ≠ 0) : ¬ RowReaches t [] := by
  rintro ⟨now, hnow, hlength⟩
  rw [List.prefix_nil.mp hnow] at hlength
  exact ht hlength.symm

/-- A row comes to a length now, or it did before. -/
theorem rowReaches_concat (b : Bool) :
    RowReaches t (calls ++ [b]) ↔ rowLength (calls ++ [b]) = t ∨ RowReaches t calls := by
  constructor
  · rintro ⟨now, hnow, hlength⟩
    rcases List.prefix_concat_iff.mp hnow with rfl | hbefore
    · exact Or.inl hlength
    · exact Or.inr ⟨now, hbefore, hlength⟩
  · rintro (hlength | ⟨now, hbefore, hlength⟩)
    · exact ⟨_, List.prefix_refl _, hlength⟩
    · exact ⟨now, hbefore.trans (List.prefix_append calls [b]), hlength⟩

/-- A row becomes longer by one at a time. -/
theorem rowReaches_of_le (h : t ≤ rowLength calls) : RowReaches t calls := by
  induction calls using List.reverseRecOn with
  | nil => exact ⟨[], List.prefix_refl _, (Nat.le_zero.mp h).symm⟩
  | append_singleton calls b ih =>
      rw [rowReaches_concat]
      rcases Nat.eq_or_lt_of_le h with heq | hlt
      · exact Or.inl heq.symm
      · right
        apply ih
        cases b with
        | true =>
            rw [rowLength_lookup] at hlt
            omega
        | false =>
            rw [rowLength_hit] at hlt
            omega

/-- A row is as long as this for the first time after more calls. -/
def Completes (t : Nat) (calls more : List Bool) : Prop := RowReaches t (calls ++ more) ∧ ¬ RowReaches t calls

/-- What a row has reached stays reached. -/
theorem rowReaches_append (more : List Bool) :
    RowReaches t (calls ++ more) ↔ RowReaches t calls ∨ Completes t calls more := by
  constructor
  · intro h
    by_cases hbefore : RowReaches t calls
    · exact Or.inl hbefore
    · exact Or.inr ⟨h, hbefore⟩
  · rintro (⟨now, hnow, hlength⟩ | h)
    · exact ⟨now, hnow.trans (List.prefix_append calls more), hlength⟩
    · exact h.1

theorem not_completes_nil : ¬ Completes t calls [] := by
  rw [Completes, List.append_nil]
  exact and_not_self

theorem rowReaches_hit (ht : t ≠ 0) : RowReaches t (calls ++ [false]) ↔ RowReaches t calls := by
  rw [rowReaches_concat, rowLength_hit]
  exact or_iff_right ht.symm

theorem not_completes_hit (ht : t ≠ 0) : ¬ Completes t calls [false] := by
  rw [Completes, rowReaches_hit ht]
  exact and_not_self

/-- A row is completed by the lookup that makes it long enough, and not later. -/
theorem completes_lookup_iff :
    Completes t calls [true] ↔ t ≤ rowLength calls + 1 ∧ ¬ RowReaches t calls := by
  rw [Completes, rowReaches_concat, rowLength_lookup]
  constructor
  · rintro ⟨hlength | hbefore, hnew⟩
    · exact ⟨hlength.ge, hnew⟩
    · exact absurd hbefore hnew
  · rintro ⟨hle, hnew⟩
    have hlt : rowLength calls < t := Nat.lt_of_not_le (mt rowReaches_of_le hnew)
    exact ⟨Or.inl (by omega), hnew⟩

theorem Completes.rowLength_eq {b : Bool} (h : Completes t calls [b]) : rowLength (calls ++ [b]) = t :=
  (rowReaches_concat b |>.mp h.1).resolve_right h.2

end rows

/-! ### One resolution -/

/-- A site that counts its rows. -/
def Policy.counts (p : Policy) : Prop := p.enabled = true ∧ p.threshold ≠ 0

theorem Policy.counts.threshold {p : Policy} (h : p.counts) : p.threshold.toNat ≠ 0 :=
  fun hzero => h.2 (UInt32.toNat_inj.mp hzero)

namespace Reading

variable {r : Reading σ}

theorem trackStreak_of_uncounted (h : r.site.policy.threshold = 0) : trackStreak r = ⟨r, [], .ok ()⟩ := by
  unfold trackStreak
  rw [Action.read_bind, if_pos h]
  rfl

/-- One lookup more in a row, with the report where it is due. -/
theorem trackStreak_of_counted (h : r.site.policy.threshold ≠ 0) (hs : r.site.streak ≠ Site.lastStreak) :
    trackStreak r =
      if r.site.policy.threshold ≤ r.site.streak + 1 ∧ r.site.reported = false then
        ⟨{ r with site := r.site.countLookup.markReported, tally := r.tally.recordAll [.thrashing] },
          [.thrashing r.site.name (r.site.streak + 1)], .ok ()⟩
      else ⟨{ r with site := r.site.countLookup }, [], .ok ()⟩ := by
  have hthrashing : r.site.countLookup.isThrashing = true ↔
      r.site.policy.threshold ≤ r.site.streak + 1 ∧ r.site.reported = false := by
    rw [Site.isThrashing, Bool.and_eq_true, decide_eq_true_eq, Bool.not_eq_true']
    rfl
  unfold trackStreak
  rw [Action.read_bind, if_neg h, modifySite, Action.modify_bind, if_neg hs, Action.read_bind]
  by_cases hdue : r.site.policy.threshold ≤ r.site.streak + 1 ∧ r.site.reported = false
  · rw [if_pos hdue, if_pos (hthrashing.mpr hdue)]
    rfl
  · rw [if_neg hdue, if_neg (mt hthrashing.mp hdue)]
    rfl

/-- Nothing is reported. -/
structure Unreported {α : Type} (x : Action (Reading σ) α) (r : Reading σ) : Prop where
  warnings : warningsOf (x r).notes = []
  counted : (x r).state.tally.thrashingSites = r.tally.thrashingSites

/-- A site is reported once, with a row of a certain length. -/
structure Reported {α : Type} (x : Action (Reading σ) α) (streak : UInt32) (r : Reading σ) : Prop where
  warnings : warningsOf (x r).notes = [.thrashing r.site.name streak]
  counted : (x r).state.tally.thrashingSites = r.tally.thrashingSites + 1

theorem warningsOf_refresh (c : Scope σ) (r : Reading σ) :
    warningsOf (refresh c r).notes = warningsOf (trackStreak (r.lookedIn c)).notes := by
  rw [refresh_apply, Action.bind_of_ok (Action.note_apply _ _)]
  rcases ht : trackStreak (r.lookedIn c) with ⟨t, notes, e | u⟩
  · rw [Action.bind_of_error ht]
    rfl
  · rw [Action.bind_of_ok ht, Action.pure_apply, List.append_nil]
    rfl

theorem thrashingSites_lookedIn (c : Scope σ) (r : Reading σ) :
    (r.lookedIn c).tally.thrashingSites = r.tally.thrashingSites := by
  unfold lookedIn
  cases (c.lookup r.site.name r.scope).1 <;> rfl

theorem streak_lookedIn (c : Scope σ) (r : Reading σ) : (r.lookedIn c).site.streak = r.site.streak := by
  unfold lookedIn Site.store
  cases (c.lookup r.site.name r.scope).1 <;> rfl

theorem resolve_of_hit (c : Scope σ) {v : Value} (he : r.site.policy.enabled = true)
    (hv : r.site.served? (c.generation r.scope) = some v) :
    Unreported (resolve c) r ∧ (resolve c r).state.site = r.site.endStreak := by
  have hresolve := resolve_of_served c he hv
  refine ⟨⟨?_, ?_⟩, ?_⟩ <;> rw [hresolve]
  · rfl
  · rfl

/-- **A site that does not count its rows is never reported.** -/
theorem resolve_of_uncounted (c : Scope σ) (h : ¬ r.site.policy.counts) : Unreported (resolve c) r := by
  cases he : r.site.policy.enabled with
  | false =>
      constructor <;> rw [resolve_of_disabled c he] <;> rfl
  | true =>
      cases hv : r.site.served? (c.generation r.scope) with
      | some v => exact (resolve_of_hit c he hv).1
      | none =>
          have hpolicy : (r.lookedIn c).site.policy = r.site.policy := Site.policy_store _ _ _
          have hzero : (r.lookedIn c).site.policy.threshold = 0 := by
            rw [hpolicy]
            by_contra hne
            exact h ⟨he, hne⟩
          constructor
          · rw [resolve_of_stale c he hv, warningsOf_refresh, trackStreak_of_uncounted hzero]
            rfl
          · rw [resolve_of_stale c he hv, (refresh_after c r).1, trackStreak_of_uncounted hzero,
              thrashingSites_lookedIn]

/-- **A lookup makes the row longer by one**, and the site is reported if the row is long enough then and it was
not reported before. -/
theorem resolve_of_lookup (c : Scope σ) (h : r.site.policy.counts) (hs : r.site.streak ≠ Site.lastStreak)
    (hv : r.site.served? (c.generation r.scope) = none) :
    let due := r.site.policy.threshold ≤ r.site.streak + 1 ∧ r.site.reported = false
    (resolve c r).state.site.streak = r.site.streak + 1 ∧
      ((resolve c r).state.site.reported = true ↔ r.site.reported = true ∨ due) ∧
      (due → Reported (resolve c) (r.site.streak + 1) r) ∧ (¬ due → Unreported (resolve c) r) := by
  intro due
  have hpolicy : (r.lookedIn c).site.policy = r.site.policy := Site.policy_store _ _ _
  have hreported : (r.lookedIn c).site.reported = r.site.reported := reported_store _ _ _
  have hname : (r.lookedIn c).site.name = r.site.name := Site.name_store _ _ _
  have hstreak := streak_lookedIn c r
  have htrack := trackStreak_of_counted (r := r.lookedIn c) (hpolicy ▸ h.2) (hstreak ▸ hs)
  have hwarnings := warningsOf_refresh c r
  have hstate := (refresh_after c r).1
  rw [htrack, hpolicy, hreported, hname, hstreak] at hwarnings hstate
  rw [resolve_of_stale c h.1 hv]
  by_cases hdue : due
  · rw [if_pos hdue] at hwarnings hstate
    rw [hstate]
    refine ⟨?_, ?_, fun _ => ⟨?_, ?_⟩, fun hnot => absurd hdue hnot⟩
    · rw [← hstreak]
      rfl
    · exact iff_of_true rfl (Or.inr hdue)
    · rw [resolve_of_stale c h.1 hv, hwarnings]
      rfl
    · rw [resolve_of_stale c h.1 hv, hstate, ← thrashingSites_lookedIn c r]
      rfl
  · rw [if_neg hdue] at hwarnings hstate
    rw [hstate]
    refine ⟨?_, ?_, fun hyes => absurd hyes hdue, fun _ => ⟨?_, ?_⟩⟩
    · rw [← hstreak]
      rfl
    · rw [← hreported]
      exact (or_iff_left hdue).symm
    · rw [resolve_of_stale c h.1 hv, hwarnings]
      rfl
    · rw [resolve_of_stale c h.1 hv, hstate]
      exact thrashingSites_lookedIn c r

end Reading

/-! ### Reports in questions -/

namespace Question

variable {q : Question} {c : Scope σ} {r : Reading σ}

theorem unreported_put (hc : c.Silent) (h : Reading.Unreported (Reading.resolve c) r) :
    Reading.Unreported (q.put c) r where
  warnings := by rw [warningsOf_put hc, h.warnings]
  counted := by rw [(put_site q c r).2, h.counted]

theorem reported_put {streak : UInt32} (hc : c.Silent) (h : Reading.Reported (Reading.resolve c) streak r) :
    Reading.Reported (q.put c) streak r where
  warnings := by rw [warningsOf_put hc, h.warnings]
  counted := by rw [(put_site q c r).2, h.counted]

end Question

/-! ### What a site keeps of its calls -/

/-- A site that counts its rows knows the length of the last one, and whether one was as long as its
threshold. -/
structure Site.Tracks (s : Site) (calls : List Bool) : Prop where
  counts : s.policy.counts
  streak : s.streak.toNat = rowLength calls
  reported : s.reported = true ↔ RowReaches s.policy.threshold.toNat calls

namespace Site.Tracks

variable {s : Site} {calls : List Bool}

theorem congr {s' : Site} (h : s.Tracks calls) (hpolicy : s'.policy = s.policy)
    (hstreak : s'.streak = s.streak) (hreported : s'.reported = s.reported) : s'.Tracks calls where
  counts := hpolicy ▸ h.counts
  streak := by rw [hstreak, h.streak]
  reported := by rw [hreported, hpolicy, h.reported]

/-- The counter does not run over in the next lookup. -/
theorem streak_succ (h : s.Tracks calls) (hfew : (calls ++ [true]).count true < 2 ^ 32) :
    s.streak ≠ Site.lastStreak ∧ (s.streak + 1).toNat = rowLength calls + 1 := by
  have hlt : rowLength calls + 1 < 2 ^ 32 := by
    rw [← rowLength_lookup]
    exact Nat.lt_of_le_of_lt (rowLength_le_count _) hfew
  constructor
  · intro heq
    have hlast : s.streak.toNat = 2 ^ 32 - 1 := by rw [heq]; rfl
    rw [h.streak] at hlast
    omega
  · have hone : (1 : UInt32).toNat = 1 := rfl
    rw [UInt32.toNat_add, h.streak, hone, Nat.mod_eq_of_lt hlt]

/-- A report is due in the next lookup if that completes a row. -/
theorem due_iff (h : s.Tracks calls) (hfew : (calls ++ [true]).count true < 2 ^ 32) :
    s.policy.threshold ≤ s.streak + 1 ∧ s.reported = false ↔ Completes s.policy.threshold.toNat calls [true] := by
  rw [completes_lookup_iff, UInt32.le_iff_toNat_le, (h.streak_succ hfew).2, ← h.reported, Bool.not_eq_true]

/-- The report of a completed row is about a row as long as the threshold. -/
theorem streak_of_completes (h : s.Tracks calls) (hfew : (calls ++ [true]).count true < 2 ^ 32)
    (hc : Completes s.policy.threshold.toNat calls [true]) :
    s.streak + 1 = s.policy.threshold := by
  apply UInt32.toNat_inj.mp
  rw [(h.streak_succ hfew).2, ← rowLength_lookup]
  exact hc.rowLength_eq

end Site.Tracks

/-- A new site has made no calls. -/
theorem Site.tracks_new {name : String} {position : Position} {policy : Policy} (h : policy.counts) :
    ({ name, position, policy } : Site).Tracks [] where
  counts := h
  streak := rfl
  reported := iff_of_false Bool.false_ne_true (not_rowReaches_nil h.threshold)

namespace Reading

variable {r : Reading σ} {calls : List Bool}

/-- Whether a resolution makes a lookup. -/
def looksUp (c : Scope σ) (r : Reading σ) : Bool := !(r.asked (resolve c.watched)).isEmpty

/-- **A resolution is kept in the count, and reported if it completes a row.** -/
theorem tracks_resolve (c : Scope σ) (h : r.site.Tracks calls)
    (hfew : (calls ++ [r.looksUp c]).count true < 2 ^ 32) :
    let completed := Completes r.site.policy.threshold.toNat calls [r.looksUp c]
    (resolve c r).state.site.Tracks (calls ++ [r.looksUp c]) ∧
      (completed → Reported (resolve c) r.site.policy.threshold r) ∧ (¬ completed → Unreported (resolve c) r) := by
  intro completed
  have hpolicy := policy_resolve c r
  have ht := h.counts.threshold
  cases hv : r.site.served? (c.generation r.scope) with
  | some v =>
      have hhit : r.looksUp c = false := by
        rw [looksUp, (resolve_without_lookup c h.counts.1 hv).1]
        rfl
      obtain ⟨hunreported, hsite⟩ := resolve_of_hit c h.counts.1 hv
      have hnot : ¬ completed := by
        show ¬ Completes _ calls [r.looksUp c]
        rw [hhit]
        exact not_completes_hit ht
      refine ⟨⟨hpolicy ▸ h.counts, ?_, ?_⟩, fun hyes => absurd hyes hnot, fun _ => hunreported⟩
      · rw [hhit, rowLength_hit, hsite]
        rfl
      · rw [hhit, hpolicy, rowReaches_hit ht, hsite]
        exact h.reported
  | none =>
      have hlookup : r.looksUp c = true := by
        rw [looksUp, (resolve_with_lookup c h.counts.1 hv).1]
        rfl
      rw [hlookup] at hfew
      obtain ⟨hlast, hlength⟩ := h.streak_succ hfew
      obtain ⟨hstreak, hreported, hdue, hnotdue⟩ := resolve_of_lookup c h.counts hlast hv
      have hiff : r.site.policy.threshold ≤ r.site.streak + 1 ∧ r.site.reported = false ↔ completed := by
        show _ ↔ Completes _ calls [r.looksUp c]
        rw [hlookup]
        exact h.due_iff hfew
      refine ⟨⟨hpolicy ▸ h.counts, ?_, ?_⟩, fun hyes => ?_, fun hnot => hnotdue (mt hiff.mp hnot)⟩
      · rw [hlookup, rowLength_lookup, hstreak, hlength]
      · rw [hreported, hiff, hpolicy, h.reported]
        exact (rowReaches_append _).symm
      · have hcompleted : Completes _ calls [r.looksUp c] := hyes
        rw [hlookup] at hcompleted
        rw [← h.streak_of_completes hfew hcompleted]
        exact hdue (hiff.mpr hyes)

end Reading

namespace Turn

variable {r : Reading σ} {calls : List Bool}

/-- No turn changes the policy of a site. -/
theorem policy_perform (e : Turn σ) (r : Reading σ) : (e.perform r).state.site.policy = r.site.policy := by
  cases e with
  | ask q c silent =>
      rw [perform, (Question.put_site q c r).1]
      exact Reading.policy_resolve c r
  | invalidate => rfl
  | rename name =>
      by_cases hn : isConstantName name = true
      · rw [perform, Reading.rename_of_name hn]
      · rw [perform, Reading.rename_of_not_name hn]
  | elsewhere f g => rfl

theorem policy_turned (r : Reading σ) (es : List (Turn σ)) : (r.turned es).site.policy = r.site.policy := by
  induction es using List.reverseRecOn with
  | nil => rfl
  | append_singleton es e ih => rw [Reading.turned_concat, policy_perform, ih]

/-- There is no report in a turn. -/
structure Unreported (e : Turn σ) (r : Reading σ) : Prop where
  warnings : warningsOf (e.perform r).notes = []
  counted : (e.perform r).state.tally.thrashingSites = (e.others r.tally).thrashingSites

/-- A turn that does not ask the site leaves its rows alone, and is no time for a report. -/
theorem tracks_of_unasked {e : Turn σ} (calls : List Bool) (he : e.calls r = []) :
    (r.site.Tracks calls → (e.perform r).state.site.Tracks calls) ∧ e.Unreported r := by
  cases e with
  | ask q c silent => exact absurd he (List.cons_ne_nil _ _)
  | invalidate => exact ⟨fun h => h.congr rfl rfl rfl, rfl, rfl⟩
  | rename name =>
      by_cases hn : isConstantName name = true
      · refine ⟨fun h => ?_, ?_, ?_⟩ <;> rw [perform, Reading.rename_of_name hn]
        · exact h.congr rfl rfl rfl
        · rfl
        · rfl
      · refine ⟨fun h => ?_, ?_, ?_⟩ <;> rw [perform, Reading.rename_of_not_name hn]
        · exact h
        · rfl
        · rfl
  | elsewhere f g => exact ⟨fun h => h.congr rfl rfl rfl, rfl, rfl⟩

/-- **A turn is kept in the count, and the site is reported in it if it completes a row.** -/
theorem tracks_perform (e : Turn σ) (h : r.site.Tracks calls)
    (hfew : (calls ++ e.calls r).count true < 2 ^ 32) :
    let completed := Completes r.site.policy.threshold.toNat calls (e.calls r)
    (e.perform r).state.site.Tracks (calls ++ e.calls r) ∧
      (completed → rowLength (calls ++ e.calls r) = r.site.policy.threshold.toNat ∧
        Reading.Reported e.perform r.site.policy.threshold r) ∧
      (¬ completed → e.Unreported r) := by
  intro completed
  by_cases hasked : e.calls r = []
  · obtain ⟨htracks, hunreported⟩ := tracks_of_unasked calls hasked
    have hnot : ¬ completed := by
      show ¬ Completes _ calls (e.calls r)
      rw [hasked]
      exact not_completes_nil
    rw [hasked, List.append_nil]
    exact ⟨htracks h, fun hyes => absurd hyes hnot, fun _ => hunreported⟩
  · cases e with
    | ask q c silent =>
        have hcalls : (ask q c silent).calls r = [r.looksUp c] := by
          rw [Turn.calls, Question.asked_put, Reading.looksUp]
        have hcompleted : completed ↔ Completes r.site.policy.threshold.toNat calls [r.looksUp c] := by
          show Completes _ calls ((ask q c silent).calls r) ↔ _
          rw [hcalls]
        rw [hcalls] at hfew ⊢
        obtain ⟨htracks, hreported, hunreported⟩ := Reading.tracks_resolve c h hfew
        refine ⟨?_, fun hyes => ⟨?_, ?_⟩, fun hnot => ?_⟩
        · rw [perform, (Question.put_site q c r).1]
          exact htracks
        · exact (hcompleted.mp hyes).rowLength_eq
        · exact Question.reported_put silent (hreported (hcompleted.mp hyes))
        · have hput := Question.unreported_put (q := q) silent (hunreported (mt hcompleted.mpr hnot))
          exact ⟨hput.warnings, hput.counted⟩
    | _ => exact absurd rfl hasked

/-- A site that does not count its rows is reported in no turn. -/
theorem unreported_of_uncounted (e : Turn σ) (h : ¬ r.site.policy.counts) : e.Unreported r := by
  cases e with
  | ask q c silent =>
      have hput := Question.unreported_put (q := q) silent (Reading.resolve_of_uncounted c h)
      exact ⟨hput.warnings, hput.counted⟩
  | _ => exact (tracks_of_unasked [] rfl).2

end Turn

namespace Reading

variable {r : Reading σ} {es : List (Turn σ)}

/-! ### Runs -/

theorem count_calls_le (r : Reading σ) (es es' : List (Turn σ)) :
    (r.calls es).count true ≤ (r.calls (es ++ es')).count true := by
  rw [calls_append, List.count_append]
  exact Nat.le_add_right _ _

/-- **A site keeps track of all its calls.** -/
theorem tracks_turned (h : r.site.Tracks []) (hfew : (r.calls es).count true < 2 ^ 32) :
    (r.turned es).site.Tracks (r.calls es) := by
  induction es using List.reverseRecOn with
  | nil => exact h
  | append_singleton es e ih =>
      have hle := count_calls_le r es [e]
      rw [calls_concat] at hfew hle ⊢
      rw [turned_concat]
      exact (Turn.tracks_perform e (ih (by omega)) hfew).1

theorem warnings_of_uncounted (h : ¬ r.site.policy.counts) : r.warnings es = [] := by
  induction es generalizing r with
  | nil => rfl
  | cons e es ih =>
      rw [warnings, (Turn.unreported_of_uncounted e h).warnings, List.nil_append]
      apply ih
      rwa [Turn.policy_perform]

/-- **There is one warning in a run with a row that is long enough, and none in other ones.** -/
theorem warnings_of_tracks (h : r.site.Tracks []) (hfew : (r.calls es).count true < 2 ^ 32) :
    let reached := RowReaches r.site.policy.threshold.toNat (r.calls es)
    (reached → ∃ name, r.warnings es = [.thrashing name r.site.policy.threshold]) ∧
      (¬ reached → r.warnings es = []) := by
  induction es using List.reverseRecOn with
  | nil => exact ⟨fun hreached => absurd hreached (not_rowReaches_nil h.counts.threshold), fun _ => rfl⟩
  | append_singleton es e ih =>
      have hle := count_calls_le r es [e]
      have hbefore : (r.calls es).count true < 2 ^ 32 := by omega
      have htracks := tracks_turned h hbefore
      have hpolicy := Turn.policy_turned r es
      rw [calls_concat] at hfew
      obtain ⟨-, hreported, hunreported⟩ := Turn.tracks_perform e htracks hfew
      obtain ⟨hone, hnone⟩ := ih hbefore
      rw [hpolicy] at hreported hunreported
      rw [calls_concat, warnings_concat, rowReaches_append]
      by_cases hcompleted : Completes r.site.policy.threshold.toNat (r.calls es) (e.calls (r.turned es))
      · rw [hnone hcompleted.2, (hreported hcompleted).2.warnings, List.nil_append]
        exact ⟨fun _ => ⟨_, rfl⟩, fun hnot => absurd (Or.inr hcompleted) hnot⟩
      · rw [(hunreported hcompleted).warnings, List.append_nil, or_iff_left hcompleted]
        exact ⟨hone, hnone⟩

/-- **Thrashing is reported once, and when a row becomes long enough.**  In any run of turns of a site that was new, in which
the site may be asked in any scopes, invalidated and renamed while scopes and counters change, and with fewer than
2³² lookups of the site if its rows are counted: if the site keeps memos and has a threshold, and at some point it has made as many
lookups in a row, then there is one warning in the run, and otherwise there is none.  The warning is logged, and
the site is counted once, in the turn that completes such a row for the first time.  The row is as long as the
threshold then, and so the warning says.  In every other turn nothing is logged, and only others count. -/
theorem reported_once {name : String} {position : Position} {policy : Policy} {site : Site}
    (hsite : Site.new name position policy = .ok site) (tally : Tally) (scope : σ) (es : List (Turn σ))
    (hfew : policy.enabled = true ∧ policy.threshold ≠ 0 → (calls ⟨site, tally, scope⟩ es).count true < 2 ^ 32) :
    let start : Reading σ := ⟨site, tally, scope⟩
    let t := policy.threshold.toNat
    let thrashes := (policy.enabled = true ∧ policy.threshold ≠ 0) ∧ RowReaches t (start.calls es)
    (thrashes → ∃ name, start.warnings es = [.thrashing name policy.threshold]) ∧
      (¬ thrashes → start.warnings es = []) ∧
      ∀ before e later, es = before ++ e :: later →
        let r := start.turned before
        let o := e.perform r
        let now := (policy.enabled = true ∧ policy.threshold ≠ 0) ∧
          Completes t (start.calls before) (e.calls r)
        (now → rowLength (start.calls (before ++ [e])) = t ∧
            warningsOf o.notes = [.thrashing r.site.name policy.threshold] ∧
            o.state.tally.thrashingSites = r.tally.thrashingSites + 1) ∧
          (¬ now → warningsOf o.notes = [] ∧
            o.state.tally.thrashingSites = (e.others r.tally).thrashingSites) := by
  intro start t thrashes
  obtain rfl : site = { name, position, policy } := by
    unfold Site.new at hsite
    split at hsite
    · exact (Except.ok.inj hsite).symm
    · exact nomatch hsite
  by_cases hcounts : policy.counts
  · have hnew : start.site.Tracks [] := Site.tracks_new hcounts
    have hcount := hfew hcounts
    obtain ⟨hone, hnone⟩ := warnings_of_tracks hnew hcount
    refine ⟨fun hyes => hone hyes.2, fun hnot => hnone fun hreached => hnot ⟨hcounts, hreached⟩, ?_⟩
    rintro before e later rfl
    intro r o now
    have hle : (start.calls (before ++ [e])).count true < 2 ^ 32 := by
      have hle := count_calls_le start (before ++ [e]) later
      rw [List.append_assoc, List.singleton_append] at hle
      exact Nat.lt_of_le_of_lt hle hcount
    have hbefore := Nat.lt_of_le_of_lt (count_calls_le start before [e]) hle
    have hpolicy : r.site.policy = policy := Turn.policy_turned start before
    rw [calls_concat] at hle ⊢
    obtain ⟨-, hreported, hunreported⟩ := Turn.tracks_perform e (tracks_turned hnew hbefore) hle
    rw [hpolicy] at hreported hunreported
    refine ⟨fun hnow => ?_, fun hnot => ?_⟩
    · obtain ⟨hlength, hwarnings, hcounted⟩ := hreported hnow.2
      exact ⟨hlength, hwarnings, hcounted⟩
    · obtain ⟨hwarnings, hcounted⟩ := hunreported fun hcompleted => hnot ⟨hcounts, hcompleted⟩
      exact ⟨hwarnings, hcounted⟩
  · refine ⟨fun hyes => absurd hyes.1 hcounts, fun _ => warnings_of_uncounted hcounts, ?_⟩
    intro before e later _ r o now
    have hpolicy : r.site.policy = policy := Turn.policy_turned start before
    obtain ⟨hwarnings, hcounted⟩ := Turn.unreported_of_uncounted e (r := r) (hpolicy ▸ hcounts)
    exact ⟨fun hnow => absurd hnow.1 hcounts, fun _ => ⟨hwarnings, hcounted⟩⟩

/-- A site is asked in an empty stub, renamed, invalidated, and asked two times more. -/
def restless : List (Turn Stub) :=
  [.ask .resolve Stub.scope Stub.scope_silent, .rename "Y", .invalidate,
    .ask .evaluate Stub.scope Stub.scope_silent, .ask .isDefined Stub.scope Stub.scope_silent]

/-- The second lookup is reported, under the new name. -/
theorem reported_once_restless :
    let site : Site := { name := "X", position := .unknown, policy := { threshold := 2 } }
    let start : Reading Stub := ⟨site, {}, {}⟩
    Site.new "X" .unknown { threshold := 2 } = .ok site ∧ (start.calls restless).count true < 2 ^ 32 ∧
      RowReaches 2 (start.calls restless) ∧ start.warnings restless = [.thrashing "Y" 2] ∧
      ∃ name, start.warnings restless = [.thrashing name 2] := by
  intro site start
  have hsite : Site.new "X" .unknown { threshold := 2 } = .ok site := by decide +kernel
  have hfew : (start.calls restless).count true < 2 ^ 32 := by decide +kernel
  have hreached : RowReaches 2 (start.calls restless) := ⟨[true, true], by decide +kernel, by decide +kernel⟩
  obtain ⟨hwarned, -⟩ := reported_once hsite start.tally start.scope restless fun _ => hfew
  exact ⟨hsite, hfew, hreached, by decide +kernel, hwarned ⟨by decide, hreached⟩⟩

end Reading
end ConstantResolution
