import ConstantResolution.Site.Resolve
import ConstantResolution.Proofs.World.Actions

/-! # Memos are out of date or right

A site is fresh in a namespace when its memo is either older than the generation of the namespace, or
holds what its name resolves to there.  A fresh site that is evaluated in that namespace gives what
a full lookup would give (`given_of_fresh`) and stays fresh, whatever it calls on the way
(`evaluate_keeps`), and a site that is left alone stays fresh while the world goes on
(`Site.Fresh.later`).  It is the dispatch of a missing name that calls handlers, and never the resolution
before it (`callsOf_resolve`). -/

namespace ConstantResolution

variable {w w' : World} {i : NamespaceId}

/-- What an evaluation does that keeps no memo: a full lookup, and when nothing is found a dispatch to
the handler of the scope. -/
def World.evaluateAfresh (i : NamespaceId) (name : String) (p : Position) : Action World Value := do
  match (← Action.get).lookup i name with
  | some v => return v
  | none => Action.locating p (dispatch i name)

/-! ### Fresh sites -/

/-- A memo for a name, seen from a namespace: it is not ahead of it, and right if it is not behind. -/
structure Memo.Fresh (w : World) (i : NamespaceId) (name : String) (m : Memo) : Prop where
  has : w.Has i
  le : w.isAlive i = true → m.generation ≤ w.generation i
  right : w.isAlive i = true → m.generation = w.generation i → w.lookup i name = some m.value

/-- A site whose memo, if there is one, is out of date or right in a namespace. -/
def Site.Fresh (w : World) (i : NamespaceId) (s : Site) : Prop := ∀ m, s.memo = some m → m.Fresh w i s.name

theorem Site.name_store (s : Site) (g : UInt64) (found : Option Value) :
    (s.store g found).name = s.name := by
  unfold store
  split <;> rfl

theorem Site.position_store (s : Site) (g : UInt64) (found : Option Value) :
    (s.store g found).position = s.position := by
  unfold store
  split <;> rfl

theorem Site.policy_store (s : Site) (g : UInt64) (found : Option Value) :
    (s.store g found).policy = s.policy := by
  unfold store
  split <;> rfl

theorem Site.memo_store (s : Site) (g : UInt64) (found : Option Value) :
    (s.store g found).memo = found.map fun v => ⟨v, g⟩ := by
  cases found <;> rfl

/-- What is served is a memo of the present generation. -/
theorem Site.memo_of_served {s : Site} {g : UInt64} {v : Value} (h : s.served? g = some v) :
    s.memo = some ⟨v, g⟩ := by
  rw [served?, Option.map_eq_some_iff] at h
  obtain ⟨m, hm, rfl⟩ := h
  rw [Option.filter_eq_some_iff, beq_iff_eq] at hm
  rw [hm.1, ← hm.2]

theorem Memo.Fresh.later {name : String} {m : Memo} (h : m.Fresh w i name) (hl : w.Linked)
    (hw : w.Later w') : m.Fresh w' i name where
  has := hw.has h.has
  le := fun ha => UInt64.le_trans (h.le (hw.alive h.has ha)) (hw.generation i)
  right := by
    intro ha' hg
    have ha := hw.alive h.has ha'
    have hle := hw.generation i
    rw [← hg] at hle
    -- The memo is not ahead of the namespace, so the generation stood still in between.
    have heq := UInt64.le_antisymm (h.le ha) hle
    rw [hw.lookup_eq hl ha ha' (hg.symm.trans heq)]
    exact h.right ha heq

namespace Site.Fresh

variable {s s' : Site}

theorem later (h : s.Fresh w i) (hl : w.Linked) (hw : w.Later w') : s.Fresh w' i :=
  fun m hm => (h m hm).later hl hw

theorem of_none (h : s.memo = none) : s.Fresh w i := by
  intro m hm
  rw [h] at hm
  exact nomatch hm

theorem congr (h : s.Fresh w i) (hm : s'.memo = s.memo) (hn : s'.name = s.name) : s'.Fresh w i := by
  intro m hs
  rw [hm] at hs
  rw [hn]
  exact h m hs

/-- What a lookup found is right. -/
theorem store (s : Site) (hi : w.Has i) : (s.store (w.generation i) (w.lookup i s.name)).Fresh w i := by
  intro m hm
  cases hv : w.lookup i s.name with
  | none =>
      rw [hv] at hm
      exact nomatch hm
  | some v =>
      rw [hv] at hm
      obtain rfl : ({ value := v, generation := w.generation i } : Memo) = m := Option.some.inj hm
      rw [name_store]
      exact ⟨hi, fun _ => UInt64.le_refl _, fun _ _ => hv⟩

/-- What a fresh site serves is right. -/
theorem served (h : s.Fresh w i) (hi : w.isAlive i = true) {v : Value}
    (hv : s.served? (w.generation i) = some v) : w.lookup i s.name = some v := by
  exact (h _ (memo_of_served hv)).right hi rfl

end Site.Fresh

namespace Reading

/-! ### What a resolution does -/

section anyScope

variable {σ : Type}

/-- Nothing is touched but the row of lookups, which may become longer by one. -/
structure Undisturbed (r r' : Reading σ) : Prop where
  scope : r'.scope = r.scope
  memo : r'.site.memo = r.site.memo
  name : r'.site.name = r.site.name
  position : r'.site.position = r.site.position
  policy : r'.site.policy = r.site.policy
  streak : r'.site.streak = r.site.streak ∨ r'.site.streak = r.site.streak + 1

theorem trackStreak_state (r : Reading σ) : Undisturbed r (trackStreak r).state := by
  unfold trackStreak
  rw [Action.read_bind]
  split
  · exact ⟨rfl, rfl, rfl, rfl, rfl, Or.inl rfl⟩
  · rw [modifySite, Action.modify_bind]
    split
    · exact ⟨rfl, rfl, rfl, rfl, rfl, Or.inr rfl⟩
    · rw [Action.read_bind]
      split
      · exact ⟨rfl, rfl, rfl, rfl, rfl, Or.inr rfl⟩
      · exact ⟨rfl, rfl, rfl, rfl, rfl, Or.inr rfl⟩

/-- The row of lookups can be counted as long as its counter is not at its greatest value. -/
theorem trackStreak_result {r : Reading σ} (h : r.site.streak ≠ Site.lastStreak) :
    (trackStreak r).result = .ok () := by
  unfold trackStreak
  rw [Action.read_bind, if_neg h]
  split
  · rfl
  · rw [modifySite, Action.modify_bind, Action.read_bind]
    split
    · rfl
    · rfl

/-- The row of lookups is counted, unless it is noted that its counter runs over. -/
theorem trackStreak_result_of_not_mem {r : Reading σ}
    (h : .fault (.overflow .streak) ∉ (trackStreak r).notes) : (trackStreak r).result = .ok () := by
  by_cases hs : r.site.streak = Site.lastStreak
  · unfold trackStreak at h ⊢
    rw [Action.read_bind] at h ⊢
    by_cases ht : r.site.policy.threshold = 0
    · rw [if_pos ht]
      rfl
    · rw [if_neg ht, modifySite, Action.modify_bind, if_pos hs] at h
      exact absurd (List.mem_singleton_self _) h
  · exact trackStreak_result hs

theorem callsOf_trackStreak (r : Reading σ) : callsOf (trackStreak r).notes = [] := by
  unfold trackStreak
  refine Action.callsOf_bind rfl fun site r => ?_
  split
  · rfl
  refine Action.callsOf_bind rfl fun _ r => ?_
  split
  · rfl
  refine Action.callsOf_bind rfl fun site r => ?_
  split
  · rfl
  · rfl

theorem resolve_of_disabled (c : Scope σ) {r : Reading σ} (he : r.site.policy.enabled = false) :
    resolve c r = lookUp c { r with tally := r.tally.recordAll [.miss, .lookup] } := by
  unfold resolve
  rw [Action.get_bind, he, if_neg Bool.false_ne_true, count, Action.modify_bind]

theorem resolve_of_served (c : Scope σ) {r : Reading σ} {v : Value} (he : r.site.policy.enabled = true)
    (hv : r.site.served? (c.generation r.scope) = some v) :
    resolve c r =
      ⟨{ r with site := r.site.endStreak, tally := r.tally.recordAll [.hit] }, [], .ok (some v)⟩ := by
  unfold resolve
  rw [Action.get_bind, he, if_pos rfl]
  simp only [hv]
  rfl

theorem resolve_of_stale (c : Scope σ) {r : Reading σ} (he : r.site.policy.enabled = true)
    (hv : r.site.served? (c.generation r.scope) = none) : resolve c r = refresh c r := by
  unfold resolve
  rw [Action.get_bind, he, if_pos rfl]
  simp only [hv]

/-- A reading after a full lookup in a scope, before the row of lookups is counted. -/
def lookedIn (c : Scope σ) (r : Reading σ) : Reading σ where
  site := r.site.store (c.generation r.scope) (c.lookup r.site.name r.scope).1
  tally := r.tally.recordAll
    ([.miss, .lookup] ++ if (c.lookup r.site.name r.scope).1.isSome then [] else [.notFound])
  scope := (c.lookup r.site.name r.scope).2

theorem lookUp_bind {α : Type} (c : Scope σ) (f : Option Value → Action (Reading σ) α) (r : Reading σ) :
    (lookUp c >>= f) r =
      f (c.lookup r.site.name r.scope).1 { r with scope := (c.lookup r.site.name r.scope).2 } := rfl

/-- A full lookup reads, stores and counts, and then takes care of the row. -/
theorem refresh_apply (c : Scope σ) (r : Reading σ) :
    refresh c r =
      (do Action.note (.resolved (r.lookedIn c).site.name (c.generation r.scope)
            (c.lookup r.site.name r.scope).1.isSome)
          trackStreak
          return (c.lookup r.site.name r.scope).1 : Action (Reading σ) (Option Value)) (r.lookedIn c) := by
  unfold refresh
  rw [Action.read_bind, lookUp_bind, count, Action.modify_bind, modifySite, Action.modify_bind,
    Action.read_bind]
  rfl

/-- What a full lookup leaves behind, and what it gives unless the row cannot be counted. -/
theorem refresh_after (c : Scope σ) (r : Reading σ) :
    (refresh c r).state = (trackStreak (r.lookedIn c)).state ∧
      (refresh c r).result =
        (trackStreak (r.lookedIn c)).result.map fun _ => (c.lookup r.site.name r.scope).1 := by
  have htrack := Action.bind_pure_apply trackStreak (fun _ => (c.lookup r.site.name r.scope).1) (r.lookedIn c)
  rw [refresh_apply, Action.bind_of_ok (Action.note_apply _ _), htrack]
  exact ⟨rfl, rfl⟩

/-- A full lookup gives what it finds, unless it is noted that the counter of the row runs over. -/
theorem refresh_result_of_not_mem {c : Scope σ} {r : Reading σ}
    (h : .fault (.overflow .streak) ∉ (refresh c r).notes) :
    (refresh c r).result = .ok (c.lookup r.site.name r.scope).1 := by
  have htrack := Action.bind_pure_apply trackStreak (fun _ => (c.lookup r.site.name r.scope).1) (r.lookedIn c)
  rw [refresh_apply, Action.bind_of_ok (Action.note_apply _ _), htrack, List.mem_append, not_or] at h
  rw [(refresh_after c r).2, trackStreak_result_of_not_mem h.2]
  rfl

/-- **No handler is called while a name is resolved.** -/
theorem callsOf_resolve (c : Scope σ) (r : Reading σ) : callsOf (resolve c r).notes = [] := by
  cases he : r.site.policy.enabled with
  | false =>
      rw [resolve_of_disabled c he]
      rfl
  | true =>
      cases hv : r.site.served? (c.generation r.scope) with
      | some v =>
          rw [resolve_of_served c he hv]
          rfl
      | none =>
          rw [resolve_of_stale c he hv, refresh_apply]
          exact Action.callsOf_bind rfl fun _ r => Action.callsOf_bind (callsOf_trackStreak r) fun _ _ => rfl

end anyScope

variable {r : Reading World}

/-- A reading after a full lookup, before the row of lookups is counted. -/
def looked (i : NamespaceId) (r : Reading World) : Reading World :=
  let found := r.scope.lookup i r.site.name
  { r with
    site := r.site.store (r.scope.generation i) found
    tally := r.tally.recordAll ([.miss, .lookup] ++ if found.isSome then [] else [.notFound]) }

theorem streak_looked (i : NamespaceId) (r : Reading World) :
    (r.looked i).site.streak = r.site.streak := by
  unfold looked Site.store
  dsimp only
  split <;> rfl

theorem refresh_eq (i : NamespaceId) (r : Reading World) :
    refresh (World.scope i) r =
      (do Action.note (.resolved (r.looked i).site.name (r.scope.generation i)
            (r.scope.lookup i r.site.name).isSome)
          trackStreak
          return r.scope.lookup i r.site.name : Action (Reading World) (Option Value)) (r.looked i) :=
  refresh_apply (World.scope i) r

theorem refresh_spec (i : NamespaceId) (r : Reading World) :
    (refresh (World.scope i) r).state = (trackStreak (r.looked i)).state ∧
      (refresh (World.scope i) r).result =
        (trackStreak (r.looked i)).result.map fun _ => r.scope.lookup i r.site.name :=
  refresh_after (World.scope i) r

/-- A resolution changes nothing in the world. -/
theorem resolve_scope (i : NamespaceId) (r : Reading World) :
    (resolve (World.scope i) r).state.scope = r.scope := by
  cases he : r.site.policy.enabled with
  | false =>
      rw [resolve_of_disabled _ he]
      rfl
  | true =>
      cases hv : r.site.served? (r.scope.generation i) with
      | some v => rw [resolve_of_served (World.scope i) he hv]
      | none =>
          rw [resolve_of_stale (World.scope i) he hv, (refresh_spec i r).1, (trackStreak_state _).scope]
          rfl

theorem isDefined_scope (i : NamespaceId) (r : Reading World) :
    (isDefined (World.scope i) r).state.scope = r.scope := by
  have happly := Action.bind_pure_apply (resolve (World.scope i)) Option.isSome r
  rw [isDefined, happly]
  exact resolve_scope i r

theorem definition_scope (i : NamespaceId) (r : Reading World) :
    (definition (World.scope i) r).state.scope = r.scope := by
  have happly := Action.bind_pure_apply (isDefined (World.scope i))
    (fun b => if b then some "constant" else none) r
  rw [definition, happly]
  exact isDefined_scope i r

/-- What a site gives in a namespace: its memo while that is of the present generation, and what a full
lookup gives otherwise. -/
def given (i : NamespaceId) (r : Reading World) : Option Value :=
  match r.site.policy.enabled, r.site.served? (r.scope.generation i) with
  | true, some v => some v
  | _, _ => r.scope.lookup i r.site.name

/-- What a resolution in a namespace leaves behind: the world as it was, and a memo of what it gave. -/
structure Resolved (i : NamespaceId) (r r' : Reading World) : Prop where
  scope : r'.scope = r.scope
  name : r'.site.name = r.site.name
  position : r'.site.position = r.site.position
  policy : r'.site.policy = r.site.policy
  memo : r.site.policy.enabled = true →
    r'.site.memo = (r.given i).map fun v => ⟨v, r.scope.generation i⟩
  streak : r'.site.streak = 0 ∨ r'.site.streak = r.site.streak ∨ r'.site.streak = r.site.streak + 1

theorem given_of_served {v : Value} (he : r.site.policy.enabled = true)
    (hv : r.site.served? (r.scope.generation i) = some v) : r.given i = some v := by
  rw [given, he, hv]

theorem given_of_stale (hv : r.site.served? (r.scope.generation i) = none) :
    r.given i = r.scope.lookup i r.site.name := by
  rw [given, hv]
  split
  · rename_i h
    exact nomatch h
  · rfl

theorem given_of_disabled (he : r.site.policy.enabled = false) :
    r.given i = r.scope.lookup i r.site.name := by
  rw [given, he]

/-- A full lookup succeeds as long as the row can be counted. -/
theorem refresh_result (hv : r.site.served? (r.scope.generation i) = none)
    (hs : r.site.streak ≠ Site.lastStreak) :
    ∃ r' notes, refresh (World.scope i) r = ⟨r', notes, .ok (r.given i)⟩ ∧ Resolved i r r' := by
  rw [← streak_looked i r] at hs
  have hresult := trackStreak_result hs
  have hstate := trackStreak_state (r.looked i)
  have ht : trackStreak (r.looked i) =
      ⟨(trackStreak (r.looked i)).state, (trackStreak (r.looked i)).notes, .ok ()⟩ := by
    rw [← hresult]
  have hrefresh : refresh (World.scope i) r = ⟨(trackStreak (r.looked i)).state,
      .resolved (r.looked i).site.name (r.scope.generation i) (r.scope.lookup i r.site.name).isSome ::
        ((trackStreak (r.looked i)).notes ++ []), .ok (r.scope.lookup i r.site.name)⟩ := by
    rw [refresh_eq, Action.bind_of_ok (Action.note_apply _ _), Action.bind_of_ok ht]
    rfl
  rw [given_of_stale hv]
  refine ⟨_, _, hrefresh, ⟨hstate.scope, ?_, ?_, ?_, fun _ => ?_, ?_⟩⟩
  · rw [hstate.name]
    exact Site.name_store _ _ _
  · rw [hstate.position]
    exact Site.position_store _ _ _
  · rw [hstate.policy]
    exact Site.policy_store _ _ _
  · rw [hstate.memo, given_of_stale hv]
    exact Site.memo_store _ _ _
  · rw [← streak_looked i r]
    exact Or.inr hstate.streak

/-- **A resolution gives the memo or what a full lookup gives**, without a change of the world, as long as
the row of lookups can be counted. -/
theorem resolve_result (i : NamespaceId) (hs : r.site.streak ≠ Site.lastStreak) :
    ∃ r' notes, resolve (World.scope i) r = ⟨r', notes, .ok (r.given i)⟩ ∧ Resolved i r r' := by
  cases he : r.site.policy.enabled with
  | false =>
      rw [resolve_of_disabled _ he, given_of_disabled he]
      refine ⟨_, _, rfl, ⟨rfl, rfl, rfl, rfl, fun h => ?_, Or.inr (Or.inl rfl)⟩⟩
      rw [he] at h
      exact nomatch h
  | true =>
      cases hv : r.site.served? (r.scope.generation i) with
      | some v =>
          rw [resolve_of_served (World.scope i) he hv, given_of_served he hv]
          refine ⟨_, _, rfl, ⟨rfl, rfl, rfl, rfl, fun _ => ?_, Or.inl rfl⟩⟩
          rw [given_of_served he hv]
          exact Site.memo_of_served hv
      | none =>
          rw [resolve_of_stale (World.scope i) he hv]
          exact refresh_result hv hs

/-- **A fresh site gives what a full lookup gives.** -/
theorem given_of_fresh (hf : r.site.Fresh r.scope i) (hi : r.scope.isAlive i = true) :
    r.given i = r.scope.lookup i r.site.name := by
  cases he : r.site.policy.enabled with
  | false => exact given_of_disabled he
  | true =>
      cases hv : r.site.served? (r.scope.generation i) with
      | some v => rw [given_of_served he hv, hf.served hi hv]
      | none => exact given_of_stale hv

/-- A site hands its name to a namespace by a dispatch there. -/
theorem locating_dispatch (i : NamespaceId) (r : Reading World) :
    Action.locating r.site.position (dispatch (World.scope i)) r =
      Action.within Reading.scope (fun scope r => { r with scope })
        (Action.locating r.site.position (World.dispatch i r.site.name)) r := by
  rw [← Action.locating_within]
  rfl

/-- **A fresh site evaluates as if it had no memo**: to the same value or failure, with the same
changes of the world and the same calls of handlers. -/
theorem evaluate_result {r : Reading World} (hf : r.site.Fresh r.scope i)
    (hi : r.scope.isAlive i = true) (hs : r.site.streak ≠ Site.lastStreak) :
    let o := World.evaluateAfresh i r.site.name r.site.position r.scope
    (evaluate (World.scope i) r).result = o.result ∧ (evaluate (World.scope i) r).state.scope = o.state ∧
      callsOf (evaluate (World.scope i) r).notes = callsOf o.notes := by
  obtain ⟨r', notes, hr, ⟨hscope, hname, hposition, -, -, -⟩⟩ := resolve_result i hs
  have hcalls := callsOf_resolve (World.scope i) r
  rw [hr] at hcalls
  unfold evaluate World.evaluateAfresh
  rw [Action.bind_of_ok hr, Action.get_bind, given_of_fresh hf hi]
  cases hv : r.scope.lookup i r.site.name with
  | some v =>
      refine ⟨rfl, hscope, ?_⟩
      simp only [Action.pure_apply, List.append_nil, hcalls]
      rfl
  | none =>
      simp only [Action.read_bind, locating_dispatch, Action.within_apply]
      rw [hscope, hname, hposition]
      refine ⟨rfl, rfl, ?_⟩
      rw [callsOf, List.filterMap_append, ← callsOf, ← callsOf, hcalls, List.nil_append]

/-! ### What stays fresh -/

/-- The contract of what is done with a site that is read in the namespaces of `I` only: the world goes
on as by actions of its own, and in a namespace outside of which the site is not read it stays fresh,
unless a generation overflows. -/
def contract (I : NamespaceId → Prop) : Contract (Reading World) where
  valid := fun r => r.scope.Linked
  step := fun r notes r' => r.scope.Follows notes r'.scope ∧
    (.fault (.overflow .generation) ∉ notes → ∀ i, (∀ j, I j → j = i) → r.site.Fresh r.scope i →
      r'.site.Fresh r'.scope i)
  refl := fun r notes => ⟨World.Follows.refl r.scope notes, fun _ _ _ h => h⟩
  trans := by
    rintro r r' r'' notes notes' ⟨hw, hf⟩ ⟨hw', hf'⟩
    refine ⟨hw.trans hw', fun hn i hi h => ?_⟩
    rw [List.mem_append, not_or] at hn
    exact hf' hn.2 i hi (hf hn.1 i hi h)

variable {I : NamespaceId → Prop}

theorem refresh_keeps (hi : r.scope.isAlive i = true) (hI : I i) :
    (refresh (World.scope i)).Keeps (contract I) r fun _ _ => True := by
  intro hl
  obtain ⟨hstate, -⟩ := refresh_spec i r
  have ht := trackStreak_state (r.looked i)
  have hscope : (refresh (World.scope i) r).state.scope = r.scope := by
    rw [hstate, ht.scope]
    rfl
  refine ⟨?_, ⟨?_, fun _ j hj _ => ?_⟩, fun _ _ => trivial⟩
  · show (refresh (World.scope i) r).state.scope.Linked
    rw [hscope]
    exact hl
  · rw [hscope]
    exact World.Follows.refl _ _
  · have hstored := Site.Fresh.store r.site (World.has_of_alive hi)
    rw [hscope, hstate, ← hj i hI]
    exact hstored.congr ht.memo ht.name

theorem resolve_keeps (hi : r.scope.isAlive i = true) (hI : I i) :
    (resolve (World.scope i)).Keeps (contract I) r fun _ _ => True := by
  intro hvalid
  cases he : r.site.policy.enabled with
  | false =>
      rw [resolve_of_disabled _ he]
      exact ⟨hvalid, ⟨World.Follows.refl _ _, fun _ _ _ h => h⟩, fun _ _ => trivial⟩
  | true =>
      cases hv : r.site.served? (r.scope.generation i) with
      | some v =>
          rw [resolve_of_served (World.scope i) he hv]
          exact ⟨hvalid, ⟨World.Follows.refl _ _, fun _ _ _ h => h.congr rfl rfl⟩, fun _ _ => trivial⟩
      | none =>
          rw [resolve_of_stale (World.scope i) he hv]
          exact refresh_keeps hi hI hvalid

/-- Handlers that are called may change the world, and what is fresh stays fresh. -/
theorem dispatch_keeps (r : Reading World) (i : NamespaceId) :
    (dispatch (World.scope i)).Keeps (contract I) r fun _ _ => True := by
  unfold dispatch
  refine Action.Keeps.read_bind fun _ => ?_
  refine (Action.Keeps.within (d := contract I) (World.dispatch_keeps r.scope i r.site.name)
    (fun hl => hl) ?_).imp fun _ _ _ _ => trivial
  exact fun w' notes hl hl' hstep => ⟨hl', hstep, fun hn j _ h => h.later hl (hstep.run.later hl hn)⟩

/-- **An evaluation keeps its site fresh.** -/
theorem evaluate_keeps (hi : r.scope.isAlive i = true) (hI : I i) :
    (evaluate (World.scope i)).Keeps (contract I) r fun _ _ => True := by
  unfold evaluate
  refine Action.Keeps.bind (resolve_keeps hi hI) fun found r' _ _ _ _ => ?_
  split
  · exact Action.Keeps.pure trivial
  · exact Action.Keeps.read_bind fun _ => (dispatch_keeps r' i).locating

theorem isDefined_keeps (hi : r.scope.isAlive i = true) (hI : I i) :
    (isDefined (World.scope i)).Keeps (contract I) r fun _ _ => True :=
  Action.Keeps.map (resolve_keeps hi hI)

theorem definition_keeps (hi : r.scope.isAlive i = true) (hI : I i) :
    (definition (World.scope i)).Keeps (contract I) r fun _ _ => True :=
  Action.Keeps.map (isDefined_keeps hi hI)

/-- A site without a memo is fresh everywhere. -/
theorem invalidate_keeps (r : Reading World) :
    (invalidate : Action (Reading World) Unit).Keeps (contract I) r fun _ _ => True := by
  intro hl
  refine ⟨hl, ⟨World.Follows.refl _ _, fun _ i _ _ => ?_⟩, fun _ _ => trivial⟩
  exact Site.Fresh.of_none rfl

end Reading
end ConstantResolution
