import ConstantResolution.Proofs.Site.Overflow

/-! # Stamps

A site keeps its stamp in two places: with its memo, and apart from it for the time when the memo is gone.  Both are
written together, so that a site shows the stamp that it stored last (`Site.Stamped`).

In a run of any length the stamp is that of the last memo that was stored (`stamp_by_history`): it tells the generation
that was read before the last lookup that found something, and nothing that stores no memo changes it.  A site that
stored none shows a sign of its own.  The greatest generation has that same sign for its stamp, and no other one has. -/

namespace ConstantResolution

/-! ### The stamp that is shown -/

namespace Site

variable {s s' : Site}

/-- The stamp that a site shows is the one that it stored last. -/
def Stamped (s : Site) : Prop := s.stamp = s.lastStamp

theorem stamped_of_none (h : s.memo = none) : s.Stamped := by
  rw [Stamped, stamp, h]
  rfl

theorem Stamped.congr (h : s.Stamped) (hmemo : s'.memo = s.memo) (hstamp : s'.lastStamp = s.lastStamp) :
    s'.Stamped := by
  rw [Stamped, stamp, hmemo, hstamp]
  exact h

/-- A memo is stored with its stamp. -/
theorem stamped_store (s : Site) (g : UInt64) (found : Option Value) : (s.store g found).Stamped := by
  cases found with
  | none => exact stamped_of_none rfl
  | some v => exact rfl

theorem stamped_new {name : String} {position : Position} {policy : Policy}
    (h : Site.new name position policy = .ok s) : s.Stamped := by
  unfold Site.new at h
  split at h
  · rw [← Except.ok.inj h]
    exact stamped_of_none rfl
  · exact absurd h (by simp)

theorem memo_rename {name : String} (h : s.rename name = .ok s') : s'.memo = none := by
  unfold Site.rename at h
  split at h
  · rw [← Except.ok.inj h]
  · exact absurd h (by simp)

/-- **To forget does not show in the stamp.** -/
theorem Stamped.stamp_forget (h : s.Stamped) : s.forget.stamp = s.stamp := h.symm

end Site

namespace Reading

variable {σ : Type} {r : Reading σ}

theorem lastStamp_trackStreak (r : Reading σ) : (trackStreak r).state.site.lastStamp = r.site.lastStamp := by
  unfold trackStreak
  rw [Action.read_bind]
  split
  · rfl
  · rw [modifySite, Action.modify_bind]
    split
    · rfl
    · rw [Action.read_bind]
      split <;> rfl

theorem stamped_resolve (c : Scope σ) (h : r.site.Stamped) : (resolve c r).state.site.Stamped := by
  cases he : r.site.policy.enabled with
  | false =>
      rw [resolve_of_disabled c he]
      exact h
  | true =>
      cases hv : r.site.served? (c.generation r.scope) with
      | some v =>
          rw [resolve_of_served c he hv]
          exact h.congr rfl rfl
      | none =>
          rw [resolve_of_stale c he hv, (refresh_after c r).1]
          exact (r.site.stamped_store _ _).congr (trackStreak_state _).memo (lastStamp_trackStreak _)

end Reading

/-! ### Memos that are stored -/

namespace Memo

/-- A stamp tells the generation. -/
theorem toUInt64_stamp (m : Memo) : m.stamp.toUInt64 = m.generation := UInt64.toUInt64_toInt64 m.generation

/-- **One generation is taken for none**, the greatest of all. -/
theorem stamp_eq_never_iff {m : Memo} : m.stamp = neverStamped ↔ m.generation = World.lastGeneration := by
  constructor
  · intro h
    rw [← m.toUInt64_stamp, h]
    rfl
  · intro h
    rw [stamp, h]
    rfl

end Memo

/-- What memos that were stored leave of a site: the stamp of the last one, and this one itself unless it was
dropped. -/
structure Site.Remembers (s : Site) (memos : List Memo) : Prop where
  lastStamp : s.lastStamp = (memos.getLast?.map Memo.stamp).getD neverStamped
  memo : ∀ m, s.memo = some m → memos.getLast? = some m

namespace Site.Remembers

variable {s s' : Site} {memos : List Memo} {m : Memo}

theorem congr (h : s.Remembers memos) (hmemo : s'.memo = s.memo) (hstamp : s'.lastStamp = s.lastStamp) :
    s'.Remembers memos where
  lastStamp := hstamp.trans h.lastStamp
  memo := fun m hm => h.memo m (hmemo.symm.trans hm)

/-- A memo that is dropped leaves its stamp. -/
theorem of_none (h : s.Remembers memos) (hmemo : s'.memo = none) (hstamp : s'.lastStamp = s.lastStamp) :
    s'.Remembers memos where
  lastStamp := hstamp.trans h.lastStamp
  memo := fun m hm => absurd (hmemo.symm.trans hm) (Option.some_ne_none m).symm

/-- A memo that is stored leaves its stamp too. -/
theorem of_some (hmemo : s'.memo = some m) (hstamp : s'.lastStamp = m.stamp) : s'.Remembers (memos ++ [m]) where
  lastStamp := by rw [hstamp, List.getLast?_concat]; rfl
  memo := fun m' hm => by rw [List.getLast?_concat, ← hmemo, hm]

/-- What is found is stored, and what is not found is not. -/
theorem store (h : s.Remembers memos) (g : UInt64) (found : Option Value) :
    (s.store g found).Remembers (memos ++ (found.map fun v => Memo.mk v g).toList) := by
  cases found with
  | none =>
      rw [Option.map_none, Option.toList_none, List.append_nil]
      exact h.of_none rfl rfl
  | some v => exact .of_some rfl rfl

/-- The stamp that is shown is that of the last memo. -/
theorem stamp (h : s.Remembers memos) : s.stamp = (memos.getLast?.map Memo.stamp).getD neverStamped := by
  rw [Site.stamp]
  cases hm : s.memo with
  | none => exact h.lastStamp
  | some m =>
      rw [h.memo m hm]
      rfl

end Site.Remembers

namespace Reading

variable {σ : Type} {r : Reading σ} {c : Scope σ} {memos : List Memo}

/-- The memos that a site stores in events, in their order: those of the lookups that found something.  A site without
memos stores none. -/
def stored (r : Reading σ) (es : List (Event σ)) : List Memo :=
  if r.site.policy.enabled then (r.history es).filterMap Mark.memo else []

theorem history_singleton (r : Reading σ) (e : Event σ) : r.history [e] = e.marks r := List.append_nil _

theorem history_append (r : Reading σ) (es es' : List (Event σ)) :
    r.history (es ++ es') = r.history es ++ (r.after es).history es' := by
  induction es generalizing r with
  | nil => rfl
  | cons e es ih =>
      rw [List.cons_append, history, history, ih, List.append_assoc]
      rfl

theorem stored_append (r : Reading σ) (es es' : List (Event σ)) :
    r.stored (es ++ es') = r.stored es ++ (r.after es).stored es' := by
  unfold stored
  rw [policy_after, history_append]
  split
  · exact List.filterMap_append
  · rfl

theorem stored_of_disabled (he : r.site.policy.enabled = false) (es : List (Event σ)) : r.stored es = [] := by
  rw [stored, he]
  exact if_neg Bool.false_ne_true

/-- Nothing is stored of what is not found. -/
theorem stored_eq_nil {es : List (Event σ)} (h : ∀ a, Mark.asked a ∈ r.history es → a.found = none) :
    r.stored es = [] := by
  unfold stored
  split
  · rw [List.filterMap_eq_nil_iff]
    rintro (a | _) hm
    · rw [Mark.memo, h a hm]
      rfl
    · rfl
  · rfl

theorem stored_resolve_of_served {v : Value} (he : r.site.policy.enabled = true)
    (hv : r.site.served? (c.generation r.scope) = some v) : r.stored [.resolve c] = [] := by
  rw [stored, if_pos he, history_singleton, Event.marks, (resolve_without_lookup c he hv).1]
  rfl

theorem stored_resolve_of_stale (he : r.site.policy.enabled = true)
    (hv : r.site.served? (c.generation r.scope) = none) : r.stored [.resolve c] =
      ((c.lookup r.site.name r.scope).1.map fun v => Memo.mk v (c.generation r.scope)).toList := by
  rw [stored, if_pos he, history_singleton, Event.marks, (resolve_with_lookup c he hv).1, asking]
  cases (c.lookup r.site.name r.scope).1 <;> rfl

/-- To ask whether a name resolves is to resolve it. -/
theorem stored_isDefined (c : Scope σ) (r : Reading σ) : r.stored [.isDefined c] = r.stored [.resolve c] := by
  unfold stored
  rw [history_singleton, history_singleton, Event.marks, Event.marks, asked, isDefined_state]
  rfl

/-! ### Runs -/

/-- What one resolution leaves. -/
theorem remembers_resolve (c : Scope σ) (h : r.site.Remembers memos) :
    (resolve c r).state.site.Remembers (memos ++ r.stored [.resolve c]) := by
  cases he : r.site.policy.enabled with
  | false =>
      rw [stored_of_disabled he, List.append_nil, resolve_of_disabled c he]
      exact h
  | true =>
      cases hv : r.site.served? (c.generation r.scope) with
      | some v =>
          rw [stored_resolve_of_served he hv, List.append_nil, resolve_of_served c he hv]
          exact h.congr rfl rfl
      | none =>
          rw [stored_resolve_of_stale he hv, resolve_of_stale c he hv, (refresh_after c r).1]
          exact (h.store _ _).congr (trackStreak_state _).memo (lastStamp_trackStreak _)

/-- What one event leaves. -/
theorem remembers_perform (e : Event σ) (h : r.site.Remembers memos) :
    (e.perform r).state.site.Remembers (memos ++ r.stored [e]) := by
  cases e with
  | resolve c =>
      rw [Event.perform, Action.bind_pure_apply]
      exact remembers_resolve c h
  | isDefined c =>
      rw [stored_isDefined, Event.perform, Action.bind_pure_apply, isDefined_state]
      exact remembers_resolve c h
  | invalidate =>
      have hstored : r.stored [.invalidate] = [] := stored_eq_nil (by simp [history, Event.marks])
      rw [hstored, List.append_nil]
      exact h.of_none rfl rfl
  | rename name =>
      have hstored : r.stored [.rename name] = [] := by
        refine stored_eq_nil fun a ha => ?_
        rw [history_singleton, Event.marks] at ha
        split at ha
        · exact absurd (List.mem_singleton.mp ha) (by simp)
        · exact absurd ha List.not_mem_nil
      rw [hstored, List.append_nil]
      by_cases hn : isConstantName name = true
      · rw [Event.perform, rename_of_name hn]
        exact h.of_none rfl rfl
      · rw [Event.perform, rename_of_not_name hn]
        exact h
  | change f =>
      have hstored : r.stored [.change f] = [] := stored_eq_nil (by simp [history, Event.marks])
      rw [hstored, List.append_nil]
      exact h

/-- **A site remembers the last memo that it stored**, in runs of any length. -/
theorem remembers_after (h : r.site.Remembers memos) (es : List (Event σ)) :
    (r.after es).site.Remembers (memos ++ r.stored es) := by
  induction es using List.reverseRecOn with
  | nil =>
      have hstored : r.stored [] = [] := stored_eq_nil (by simp [history])
      rw [hstored, List.append_nil]
      exact h
  | append_singleton es e ih =>
      rw [after_concat, stored_append, ← List.append_assoc]
      exact remembers_perform e ih

/-- **The stamp tells the generation of the last memo that was stored.**  After any run of events, of any length, at a
site that was new and around it, the site shows the stamp of the last memo that it stored, and the sign for none if
there was no such memo.  The stamp tells the generation that was read before the lookup of that memo, and this is
the memo that the site keeps as long as it keeps one.  Clearings, other names, and lookups that find nothing do not
change the stamp, however many of them follow.  The sign for none is shown exactly when no memo was stored, or the last
one was stored at the greatest generation.  To ask a site in any other way is to resolve its name, and then to change
the scopes. -/
theorem stamp_by_history (name : String) (position : Position) (policy : Policy) (tally : Tally) (scope : σ)
    (es : List (Event σ)) :
    let start : Reading σ := ⟨{ name, position, policy }, tally, scope⟩
    let r := start.after es
    let memos := start.stored es
    r.site.stamp = (memos.getLast?.map Memo.stamp).getD neverStamped ∧
      (r.site.stamp = neverStamped ↔
        memos = [] ∨ ∃ m, memos.getLast? = some m ∧ m.generation = World.lastGeneration) ∧
      (∀ m, memos.getLast? = some m → r.site.stamp.toUInt64 = m.generation) ∧
      (∀ m, r.site.memo = some m → memos.getLast? = some m) ∧
      (∀ es', (∀ a, Mark.asked a ∈ r.history es' → a.found = none) → (r.after es').site.stamp = r.site.stamp) ∧
      ∀ (q : Question) (c : Scope σ), ∃ f, (q.put c r).state = start.after (es ++ [.resolve c, .change f]) := by
  intro start r memos
  have hnew : start.site.Remembers [] := ⟨rfl, fun m hm => absurd hm.symm (Option.some_ne_none m)⟩
  have hremembers : r.site.Remembers memos := remembers_after hnew es
  have hstamp := hremembers.stamp
  refine ⟨hstamp, ?never, fun m hm => ?generation, hremembers.memo, fun es' hes' => ?kept, fun q c => ?asked⟩
  case never =>
    cases hlast : memos.getLast? with
    | none =>
        rw [hstamp, hlast]
        exact ⟨fun _ => .inl (List.getLast?_eq_none_iff.mp hlast), fun _ => rfl⟩
    | some m =>
        have hne : memos ≠ [] := fun hnil => by rw [hnil] at hlast; exact absurd hlast.symm (Option.some_ne_none m)
        rw [hstamp, hlast]
        refine Memo.stamp_eq_never_iff.trans ⟨fun hm => .inr ⟨m, rfl, hm⟩, ?_⟩
        rintro (hnil | ⟨_, ⟨⟩, hm⟩)
        · exact absurd hnil hne
        · exact hm
  case generation =>
    rw [hstamp, hm]
    exact m.toUInt64_stamp
  case kept =>
    have hrest := remembers_after hremembers es'
    rw [stored_eq_nil hes', List.append_nil] at hrest
    rw [hrest.stamp, hstamp]
  case asked =>
    obtain ⟨f, hf⟩ := put_eq_after q c r
    exact ⟨f, by rw [hf, after_append]⟩

/-- A value that is stored at the greatest generation leaves the sign for none. -/
theorem stamp_of_lastGeneration :
    let start : Reading Stub := ⟨{ name := "X", position := .unknown, policy := {} }, {},
      { table := lone (.int 1), generation := 0xFFFFFFFFFFFFFFFF }⟩
    let r := start.after [.resolve Stub.scope]
    ¬ (r.site.stamp = neverStamped ↔ start.stored [.resolve Stub.scope] = []) ∧ r.site.memoized? = some (.int 1) := by
  decide +kernel

end Reading
end ConstantResolution
