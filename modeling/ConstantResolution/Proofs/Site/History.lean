import ConstantResolution.Proofs.Site.Freshness
import ConstantResolution.Store.Basic

/-! # What a site remembers

A site that keeps memos remembers nothing but its last lookup, and this only until it is cleared.  Its
history is the row of the lookups that it made and of the times when it was cleared, by an invalidation or
by another name (`Reading.history`).  Whatever scopes the site was read in, and however these changed, the
end of that row tells whether the next resolution makes a lookup, and what it gives
(`resolve_by_history`). -/

namespace ConstantResolution

variable {σ α : Type}

/-! ### Lookups -/

/-- A lookup that a scope was asked for, with the generation of the scope before it and after it. -/
structure Asking where
  name : String
  before : UInt64
  found : Option Value
  after : UInt64
deriving DecidableEq

/-- A scope that does what another one does, and lists the lookups. -/
def Scope.watched (c : Scope σ) : Scope (σ × List Asking) where
  generation := fun s => c.generation s.1
  lookup := fun name s =>
    let (found, t) := c.lookup name s.1
    (found, t, s.2 ++ [⟨name, c.generation s.1, found, c.generation t⟩])
  missing := fun name => Action.within Prod.fst (fun t s => (t, s.2)) (c.missing name)

namespace Reading

variable {r : Reading σ}

/-- The lookups that are made by what is done with a site. -/
def asked (x : Action (Reading (σ × List Asking)) α) (r : Reading σ) : List Asking :=
  (x ⟨r.site, r.tally, r.scope, []⟩).state.scope.2

/-- The lookup of the name that a site has. -/
def asking (c : Scope σ) (r : Reading σ) : Asking where
  name := r.site.name
  before := c.generation r.scope
  found := (c.lookup r.site.name r.scope).1
  after := c.generation (c.lookup r.site.name r.scope).2

/-- What is served is served without a lookup. -/
theorem resolve_without_lookup (c : Scope σ) {v : Value} (he : r.site.policy.enabled = true)
    (hv : r.site.served? (c.generation r.scope) = some v) :
    asked (resolve c.watched) r = [] ∧ (resolve c r).result = .ok (some v) ∧
      (resolve c r).state.scope = r.scope := by
  have hwatched := resolve_of_served c.watched (r := ⟨r.site, r.tally, r.scope, []⟩) he hv
  have hresolve := resolve_of_served c he hv
  refine ⟨?_, ?_, ?_⟩
  · rw [asked, hwatched]
  · rw [hresolve]
  · rw [hresolve]

/-- What is not served is looked up once, under the name of the site. -/
theorem resolve_with_lookup (c : Scope σ) (he : r.site.policy.enabled = true)
    (hv : r.site.served? (c.generation r.scope) = none) :
    asked (resolve c.watched) r = [r.asking c] ∧
      (resolve c r).state.scope = (c.lookup r.site.name r.scope).2 ∧
      (.fault (.overflow .streak) ∉ (resolve c r).notes →
        (resolve c r).result = .ok (c.lookup r.site.name r.scope).1) := by
  have hwatched := resolve_of_stale c.watched (r := ⟨r.site, r.tally, r.scope, []⟩) he hv
  have hresolve := resolve_of_stale c he hv
  have hstate := (refresh_after c r).1
  refine ⟨?_, ?_, fun h => ?_⟩
  · rw [asked, hwatched, (refresh_after _ _).1, (trackStreak_state _).scope]
    rfl
  · rw [hresolve, hstate, (trackStreak_state _).scope]
    rfl
  · rw [hresolve] at h ⊢
    exact refresh_result_of_not_mem h

theorem isDefined_state (c : Scope σ) (r : Reading σ) : (isDefined c r).state = (resolve c r).state := by
  have happly := Action.bind_pure_apply (resolve c) Option.isSome r
  rw [isDefined, happly]

/-- Gives the site another name. -/
def rename (name : String) : Action (Reading σ) Unit := do
  match (← Action.read Reading.site).rename name with
  | .ok site => modifySite fun _ => site
  | .error c => Action.raise c

theorem rename_of_name {name : String} (hn : isConstantName name = true) :
    rename name r = ⟨{ r with site := { r.site with name, memo := none } }, [], .ok ()⟩ := by
  unfold rename
  simp only [Action.read_bind, Site.rename, if_pos hn]
  rfl

theorem rename_of_not_name {name : String} (hn : ¬ isConstantName name = true) :
    rename name r = ⟨r, [], .error (.raised ⟨.wrongName name, none⟩)⟩ := by
  unfold rename
  simp only [Action.read_bind, Site.rename, if_neg hn]
  rfl

end Reading

namespace Store

theorem setTally_self (s : Store) (t : TallyId) : s.setTally t (s.tally t) = s := by
  unfold setTally tally
  congr 1
  ext i hi hi'
  · exact Array.size_setIfInBounds
  · rw [Array.getElem_setIfInBounds hi']
    split
    · subst i
      rw [Array.getD_eq_getD_getElem?, Array.getElem?_eq_getElem hi', Option.getD_some]
    · rfl

theorem setSite_self {s : Store} {k : SiteId} {p : PlacedSite} (hp : s.site? k = some p) :
    s.setSite k p.site = s := by
  unfold setSite
  congr 1
  ext i hi hi'
  · exact Array.size_modify
  · rw [Array.getElem_modify]
    split
    · subst k
      have hget : s.sites[i] = p := Option.some.inj ((Array.getElem?_eq_getElem hi').symm.trans hp)
      rw [hget]
    · rfl

/-- A site in a store is renamed like any other. -/
theorem renameSite_eq (k : SiteId) (name : String) (s : Store) :
    renameSite k name s = atSite k (Reading.rename name) s := by
  unfold renameSite atSite Reading.rename
  cases hp : s.site? k with
  | none => simp [placed, hp, Action.bind_apply]
  | some p =>
      have hplaced : placed k s = ⟨s, [], .ok p⟩ := by simp [placed, hp]
      rw [Action.bind_of_quiet hplaced, Action.bind_of_quiet hplaced, Action.within_apply,
        Action.read_bind]
      simp only [reading]
      cases p.site.rename name with
      | ok site =>
          have htally : (s.setSite k site).setTally p.tally (s.tally p.tally) = s.setSite k site :=
            setTally_self (s.setSite k site) p.tally
          exact congrArg (fun t => (⟨t, [], .ok ()⟩ : Outcome Store Unit)) htally.symm
      | error c =>
          have hput : (s.setSite k p.site).setTally p.tally (s.tally p.tally) = s := by
            rw [setSite_self hp, setTally_self]
          exact congrArg (fun t => (⟨t, [], .error (.raised ⟨c, none⟩)⟩ : Outcome Store Unit)) hput.symm

end Store

/-! ### Histories -/

/-- What can happen at a site, or to the scopes that it is read in. -/
inductive Event (σ : Type) where
  | resolve (c : Scope σ)
  | isDefined (c : Scope σ)
  | invalidate
  | rename (name : String)
  /-- something else changes the scopes -/
  | change (f : σ → σ)

/-- What a site is marked by. -/
inductive Mark where
  | asked (a : Asking)
  | cleared

/-- What is remembered of a mark. -/
def Mark.memo : Mark → Option Memo
  | .asked a => a.found.map fun v => ⟨v, a.before⟩
  | .cleared => none

namespace Event

def perform : Event σ → Action (Reading σ) Unit
  | .resolve c => do let _ ← Reading.resolve c
  | .isDefined c => do let _ ← Reading.isDefined c
  | .invalidate => Reading.invalidate
  | .rename name => Reading.rename name
  | .change f => Action.modify fun r => { r with scope := f r.scope }

/-- The lookups of an event, and whether it clears the site.  A name that is refused does not. -/
def marks (r : Reading σ) : Event σ → List Mark
  | .resolve c => (r.asked (Reading.resolve c.watched)).map .asked
  | .isDefined c => (r.asked (Reading.isDefined c.watched)).map .asked
  | .invalidate => [.cleared]
  | .rename name => match (Reading.rename name r).result with
    | .ok () => [.cleared]
    | .error _ => []
  | .change _ => []

/-- The name that a site has after an event. -/
def naming (name : String) : Event σ → String
  | .rename other => if isConstantName other then other else name
  | _ => name

end Event

namespace Reading

/-- What is left after events, whatever becomes of each. -/
def after (r : Reading σ) (es : List (Event σ)) : Reading σ := es.foldl (fun r e => (e.perform r).state) r

/-- The marks that events leave, in their order. -/
def history (r : Reading σ) : List (Event σ) → List Mark
  | [] => []
  | e :: es => e.marks r ++ history (e.perform r).state es

/-! ### What one event leaves -/

/-- What an event leaves of a site: its policy, and a memo of the last mark, if there is one. -/
structure Marked (r : Reading σ) (name : String) (marks : List Mark) (r' : Reading σ) : Prop where
  policy : r'.site.policy = r.site.policy
  name : r'.site.name = name
  memo : r'.site.memo = (marks.getLast?.map Mark.memo).getD r.site.memo

variable {r : Reading σ}

theorem marked_resolve (c : Scope σ) (he : r.site.policy.enabled = true) :
    Marked r r.site.name ((r.asked (resolve c.watched)).map .asked) (resolve c r).state := by
  cases hv : r.site.served? (c.generation r.scope) with
  | some v =>
      rw [(resolve_without_lookup c he hv).1, resolve_of_served c he hv]
      exact ⟨rfl, rfl, rfl⟩
  | none =>
      have ht := trackStreak_state (r.lookedIn c)
      rw [(resolve_with_lookup c he hv).1, resolve_of_stale c he hv, (refresh_after c r).1]
      refine ⟨?_, ?_, ?_⟩
      · rw [ht.policy]
        exact Site.policy_store _ _ _
      · rw [ht.name]
        exact Site.name_store _ _ _
      · rw [ht.memo]
        exact Site.memo_store _ _ _

theorem marked_perform (e : Event σ) (he : r.site.policy.enabled = true) :
    Marked r (e.naming r.site.name) (e.marks r) (e.perform r).state := by
  cases e with
  | resolve c =>
      have happly := Action.bind_pure_apply (resolve c) (fun _ => ()) r
      rw [Event.perform, happly]
      exact marked_resolve c he
  | isDefined c =>
      have happly := Action.bind_pure_apply (isDefined c) (fun _ => ()) r
      rw [Event.perform, happly, Event.marks, asked, isDefined_state, isDefined_state]
      exact marked_resolve c he
  | invalidate => exact ⟨rfl, rfl, rfl⟩
  | rename name =>
      by_cases hn : isConstantName name = true
      · rw [Event.perform, Event.marks, Event.naming, rename_of_name hn, if_pos hn]
        exact ⟨rfl, rfl, rfl⟩
      · rw [Event.perform, Event.marks, Event.naming, rename_of_not_name hn, if_neg hn]
        exact ⟨rfl, rfl, rfl⟩
  | change f => exact ⟨rfl, rfl, rfl⟩

/-- **What a site remembers is its last mark**, and its name is the last one that it was given. -/
theorem marked_after (es : List (Event σ)) (he : r.site.policy.enabled = true) :
    Marked r (es.foldl Event.naming r.site.name) (r.history es) (r.after es) := by
  induction es generalizing r with
  | nil => exact ⟨rfl, rfl, rfl⟩
  | cons e es ih =>
      have hstep := marked_perform e he
      have hrest := ih (hstep.policy ▸ he)
      refine ⟨hrest.policy.trans hstep.policy, ?_, ?_⟩
      · rw [List.foldl_cons, ← hstep.name]
        exact hrest.name
      · have hmemo : (r.after (e :: es)).site.memo = _ := hrest.memo
        rw [hmemo, hstep.memo, history, List.getLast?_append]
        cases (history (e.perform r).state es).getLast? <;> rfl

/-! ### What is served -/

/-- The last mark is a lookup that found a value, and began at a generation. -/
def Recalls (marks : List Mark) (generation : UInt64) (v : Value) : Prop :=
  ∃ a, marks.getLast? = some (.asked a) ∧ a.found = some v ∧ a.before = generation

theorem memo_iff_recalls {marks : List Mark} {generation : UInt64} {v : Value} :
    (marks.getLast?.map Mark.memo).getD none = some ⟨v, generation⟩ ↔ Recalls marks generation v := by
  unfold Recalls
  cases marks.getLast? with
  | none => simp
  | some m =>
      cases m with
      | asked a => simp [Mark.memo]
      | cleared => simp [Mark.memo]

/-- What a site serves is what it recalls. -/
theorem Marked.served?_iff {r' : Reading σ} {name : String} {marks : List Mark} {g : UInt64} {v : Value}
    (h : Marked r name marks r') (hnone : r.site.memo = none) :
    r'.site.served? g = some v ↔ Recalls marks g v := by
  rw [← memo_iff_recalls, ← hnone, ← h.memo]
  refine ⟨Site.memo_of_served, fun hm => ?_⟩
  rw [Site.served?, hm]
  simp

/-- What was found before the last mark, or not by it, is not recalled. -/
theorem not_recalls_of_last {marks : List Mark} {m : Mark} {g : UInt64} (hm : marks.getLast? = some m)
    (h : ∀ a, m = .asked a → a.found = none ∨ a.before ≠ g) : ¬ ∃ v, Recalls marks g v := by
  rintro ⟨v, a, ha, hfound, hbefore⟩
  rcases h a (Option.some.inj (hm.symm.trans ha)) with hnone | hne
  · exact nomatch hnone.symm.trans hfound
  · exact hne hbefore

/-- **A site is read by its history.**  A resolution makes no lookup if and only if the site has made a
lookup since it was last cleared, the last of them found a value, and that lookup began at the generation
that the scope has now; this value is what it then gives.  Otherwise it makes one lookup, of the name that
the site has, and gives what that finds, unless the row of lookups runs over.  So what is not found is not
remembered, a cleared site is looked up again, and so is what was found while the scope moved on. -/
theorem resolve_by_history {name : String} {position : Position} {policy : Policy} {site : Site}
    (hsite : Site.new name position policy = .ok site) (he : policy.enabled = true) (tally : Tally)
    (scope : σ) (es : List (Event σ)) (c : Scope σ) :
    let start : Reading σ := ⟨site, tally, scope⟩
    let r := start.after es
    let marks := start.history es
    let current := es.foldl Event.naming name
    let now := c.generation r.scope
    let found := c.lookup current r.scope
    let o := resolve c r
    let lookups := r.asked (resolve c.watched)
    (lookups = [] ↔ ∃ v, Recalls marks now v) ∧
      (∀ v, Recalls marks now v → o.result = .ok (some v) ∧ o.state.scope = r.scope) ∧
      ((¬ ∃ v, Recalls marks now v) →
        lookups = [⟨current, now, found.1, c.generation found.2⟩] ∧ o.state.scope = found.2 ∧
          (.fault (.overflow .streak) ∉ o.notes → o.result = .ok found.1)) ∧
      (∀ a, marks.getLast? = some (.asked a) → a.found = none → lookups.length = 1) ∧
      (marks.getLast? = some .cleared → lookups.length = 1) ∧
      (∀ a, marks.getLast? = some (.asked a) → a.after ≠ a.before → now = a.after →
        lookups.length = 1) := by
  intro start r marks current now found o lookups
  obtain rfl : site = { name, position, policy } := by
    unfold Site.new at hsite
    split at hsite
    · exact (Except.ok.inj hsite).symm
    · exact nomatch hsite
  have hmarked : Marked start current marks r := marked_after es he
  have hr : r.site.policy.enabled = true := hmarked.policy ▸ he
  have hserved : ∀ v, r.site.served? now = some v ↔ Recalls marks now v := fun v => hmarked.served?_iff rfl
  have hrecalled : ∀ v, Recalls marks now v →
      lookups = [] ∧ o.result = .ok (some v) ∧ o.state.scope = r.scope :=
    fun v hv => resolve_without_lookup c hr ((hserved v).mpr hv)
  have hlooked : (¬ ∃ v, Recalls marks now v) →
      lookups = [⟨current, now, found.1, c.generation found.2⟩] ∧ o.state.scope = found.2 ∧
        (.fault (.overflow .streak) ∉ o.notes → o.result = .ok found.1) := by
    intro hnot
    have hnone : r.site.served? now = none := by
      rw [Option.eq_none_iff_forall_ne_some]
      exact fun v hv => hnot ⟨v, (hserved v).mp hv⟩
    have hlookup := resolve_with_lookup c hr hnone
    rwa [asking, hmarked.name] at hlookup
  have hforced : (¬ ∃ v, Recalls marks now v) → lookups.length = 1 := by
    intro hnot
    rw [(hlooked hnot).1]
    rfl
  refine ⟨⟨fun hnone => ?_, fun ⟨v, hv⟩ => (hrecalled v hv).1⟩, fun v hv => (hrecalled v hv).2, hlooked,
    fun a ha hnone => hforced (not_recalls_of_last ha ?_), fun ha => hforced (not_recalls_of_last ha nofun),
    fun a ha hmoved hnow => hforced (not_recalls_of_last ha ?_)⟩
  · by_contra hnot
    rw [(hlooked hnot).1] at hnone
    exact List.cons_ne_nil _ _ hnone
  · rintro _ ⟨⟩
    exact Or.inl hnone
  · rintro _ ⟨⟩
    exact Or.inr fun h => hmoved (hnow.symm.trans h.symm)

/-- A table of one constant. -/
def lone (v : Value) : Table := ({} : Table).insert "X" v

/-- A value is served that the table no longer has, while the generation stands still; and when the scope
moves on during each lookup, there is one lookup after another. -/
theorem resolve_by_history_stub :
    let site : Site := { name := "X", position := .unknown, policy := {} }
    let still : Reading Stub := ⟨site, {}, { table := lone (.int 1) }⟩
    let moving : Reading Stub := ⟨site, {}, { table := lone (.int 1), bumpOnLookup := 1 }⟩
    let es : List (Event Stub) :=
      [.resolve Stub.scope, .rename "x", .change fun s => { s with table := lone (.int 2) }]
    Site.new "X" .unknown {} = .ok site ∧ (resolve Stub.scope (still.after es)).result = .ok (some (.int 1)) ∧
      asked (resolve Stub.scope.watched) (moving.after es) = [⟨"X", 1, some (.int 2), 2⟩] := by
  intro site still moving es
  have hsite : Site.new "X" .unknown {} = .ok site := by decide +kernel
  obtain ⟨-, hstill, -⟩ := resolve_by_history hsite rfl {} still.scope es Stub.scope
  obtain ⟨-, -, hmoving, -⟩ := resolve_by_history hsite rfl {} moving.scope es Stub.scope
  have hlast : (moving.history es).getLast? = some (.asked ⟨"X", 0, some (.int 1), 1⟩) := rfl
  have hnot : ¬ ∃ v, Recalls (moving.history es) 1 v := by
    refine not_recalls_of_last hlast ?_
    rintro _ ⟨⟩
    exact Or.inr (by decide)
  exact ⟨hsite, (hstill (.int 1) ⟨_, rfl, rfl, rfl⟩).1, (hmoving hnot).1⟩

end Reading
end ConstantResolution
