import ConstantResolution.Proofs.Session.Coherence

/-! # Sites that are resolved in several namespaces

A memo knows the generation of the namespace that it was made in, and not which namespace that was.
So a site that is resolved in one namespace and then in another one gives there what a full lookup
gives, except when both namespaces stand at the same generation and the first of them gave something
else (`resolve_after_resolve`).  Equal generations of different namespaces do occur
(`resolve_across_classes`). -/

namespace ConstantResolution

theorem Site.served?_of_none {s : Site} (h : s.memo = none) (g : UInt64) : s.served? g = none := by
  rw [served?, h]
  rfl

theorem Site.served?_of_memo {s : Site} {g : UInt64} {found : Option Value}
    (h : s.memo = found.map fun v => ⟨v, g⟩) (g' : UInt64) :
    s.served? g' = if g = g' then found else none := by
  rw [served?, h]
  cases found with
  | none => simp
  | some v => by_cases hg : g = g' <;> simp [hg]

namespace Reading

variable {r r' : Reading World} {i j : NamespaceId}

theorem Resolved.served?_eq (h : Resolved i r r') (he : r.site.policy.enabled = true) :
    r'.site.served? (r'.scope.generation j) =
      if r.scope.generation i = r.scope.generation j then r.given i else none := by
  rw [Site.served?_of_memo (h.memo he), h.scope]

/-- At the same generation the memo is served, whichever namespace it was made in. -/
theorem Resolved.given_eq_given (h : Resolved i r r') (he : r.site.policy.enabled = true)
    (hg : r.scope.generation i = r.scope.generation j) (hv : (r.given i).isSome) :
    r'.given j = r.given i := by
  obtain ⟨v, hv⟩ := Option.isSome_iff_exists.mp hv
  have hserved := h.served?_eq (j := j) he
  rw [if_pos hg, hv] at hserved
  rw [hv]
  exact given_of_served (h.policy ▸ he) hserved

/-- Without a memo of the same generation there is a full lookup. -/
theorem Resolved.given_eq_lookup (h : Resolved i r r')
    (hne : ¬ (r.site.policy.enabled = true ∧ r.scope.generation i = r.scope.generation j ∧
      (r.given i).isSome)) : r'.given j = r.scope.lookup j r.site.name := by
  rw [← h.scope, ← h.name]
  cases he : r.site.policy.enabled with
  | false => exact given_of_disabled (h.policy ▸ he)
  | true =>
      apply given_of_stale
      rw [h.served?_eq he]
      split
      · rename_i hg
        rw [← Option.not_isSome_iff_eq_none]
        exact fun hv => hne ⟨he, hg, hv⟩
      · rfl

end Reading

namespace Session

variable {s : Session} {site : String} {context context' : ContextTerm} {k : SiteId} {p : PlacedSite}
  {i j : NamespaceId}

theorem site?_putReading (hp : s.store.site? k = some p) (r : Reading World) :
    (Store.putReading k p.tally r s.store).site? k = some { p with site := r.site } := by
  rw [Store.site?_modify (Store.sites_putReading k p.tally r s.store), if_pos rfl, hp]
  rfl

/-- **A site that is resolved in one namespace and then in another one** gives a value both times, and
the second time what a full lookup gives, unless the site keeps memos, found something the first
time, both namespaces stand at the same generation, and what was found is not what the other one
gives. -/
theorem resolve_after_resolve (hk : s.sites.get? site = some k) (hp : s.store.site? k = some p)
    (hplace : s.place? context = some (.ofNamespace i))
    (hplace' : s.place? context' = some (.ofNamespace j))
    (hs : p.site.streak ≠ Site.lastStreak ∧ p.site.streak + 1 ≠ Site.lastStreak) :
    let w := s.store.world
    let t := (perform (.resolve site context) s).state
    ∃ first second, (perform (.resolve site context) s).result = .ok (.value first) ∧
      (perform (.resolve site context') t).result = .ok (.value second) ∧
      (p.site.memo = none → first = w.lookup i p.site.name) ∧
      (second = w.lookup j p.site.name ↔
        ¬ (p.site.policy.enabled = true ∧ w.generation i = w.generation j ∧ first.isSome ∧
          first ≠ w.lookup j p.site.name)) := by
  intro w t
  obtain ⟨r', hr, hresult, hstate⟩ := perform_resolve_spec hk hp hplace hs.1
  have ht : t = { s with store := Store.putReading k p.tally r' s.store } := hstate
  have hk' : t.sites.get? site = some k := by
    rw [ht]
    exact hk
  have hp' : t.store.site? k = some { p with site := r'.site } := by
    rw [ht]
    exact site?_putReading hp r'
  have hnames : SameNames s t := by
    rw [ht]
    exact ⟨rfl, congrArg World.held hr.scope, fun _ => rfl⟩
  -- The second resolution starts from the same names, with the site as the first one left it.
  have hs' : r'.site.streak ≠ Site.lastStreak := by
    rcases hr.streak with h | h | h <;> rw [h]
    · decide
    · exact hs.1
    · exact hs.2
  obtain ⟨-, -, hresult', -⟩ :=
    perform_resolve_spec hk' hp' ((hnames.place?_eq context').trans hplace') hs'
  have hsecond : (t.store.reading { p with site := r'.site }).given j = r'.given j := by
    rw [ht]
    rfl
  rw [hsecond] at hresult'
  refine ⟨_, _, hresult, hresult', fun hmemo => ?_, ?_⟩
  · exact Reading.given_of_stale (Site.served?_of_none hmemo _)
  · by_cases hserved : p.site.policy.enabled = true ∧ w.generation i = w.generation j ∧
        ((s.store.reading p).given i).isSome
    · obtain ⟨he, hg, hv⟩ := hserved
      rw [hr.given_eq_given he hg hv]
      constructor
      · exact fun heq h => h.2.2.2 heq
      · exact fun h => not_not.mp fun hne => h ⟨he, hg, hv, hne⟩
    · rw [hr.given_eq_lookup hserved]
      exact iff_of_true rfl fun h => hserved ⟨h.1, h.2.1, h.2.2.1⟩

/-- Two classes at the same generation with different constants of one name, and a site for it. -/
def acrossClasses : List Command :=
  [.newClass "a" "A" "top" none, .newClass "b" "B" "top" none, .define "a" "X" (.value (.int 1)),
    .define "b" "X" (.value (.int 2)), .newSite "site" "X" .unknown "main"]

set_option maxRecDepth 10000 in
/-- The memo that was made in the first class is served in the second one. -/
theorem resolve_across_classes :
    let s := (start {}).after acrossClasses
    let t := (perform (.resolve "site" ⟨.heldNamespace "a", none⟩) s).state
    (perform (.resolve "site" ⟨.heldNamespace "b", none⟩) t).result = .ok (.value (some (.int 1))) ∧
      (perform (.lookup "b" "X") t).result = .ok (.value (some (.int 2))) := by
  decide +kernel

set_option maxRecDepth 10000 in
/-- After one more change of the second class there is a full lookup. -/
theorem resolve_after_resolve_reopened :
    let s := (start {}).after (acrossClasses ++ [.reopen "b"])
    let t := (perform (.resolve "site" ⟨.heldNamespace "a", none⟩) s).state
    s.place? ⟨.heldNamespace "a", none⟩ = some (.ofNamespace 2) ∧
      s.place? ⟨.heldNamespace "b", none⟩ = some (.ofNamespace 3) ∧
      s.store.world.generation 2 ≠ s.store.world.generation 3 ∧
      ∃ p, s.store.site? 0 = some p ∧
        (perform (.resolve "site" ⟨.heldNamespace "b", none⟩) t).result =
          .ok (.value (s.store.world.lookup 3 p.site.name)) := by
  intro s t
  have hk : s.sites.get? "site" = some 0 := by decide +kernel
  have hplace : s.place? ⟨.heldNamespace "a", none⟩ = some (.ofNamespace 2) := by decide +kernel
  have hplace' : s.place? ⟨.heldNamespace "b", none⟩ = some (.ofNamespace 3) := by decide +kernel
  have hg : s.store.world.generation 2 ≠ s.store.world.generation 3 := by decide +kernel
  have hs : ∀ p ∈ s.store.site? 0, p.site.streak ≠ Site.lastStreak ∧
      p.site.streak + 1 ≠ Site.lastStreak := by decide +kernel
  have hsome : (s.store.site? 0).isSome := by decide +kernel
  obtain ⟨p, hp⟩ := Option.isSome_iff_exists.mp hsome
  obtain ⟨first, second, -, hsecond, -, hiff⟩ := resolve_after_resolve hk hp hplace hplace' (hs p hp)
  refine ⟨hplace, hplace', hg, p, hp, ?_⟩
  rw [← hiff.mpr fun h => hg h.2.1]
  exact hsecond

end Session
end ConstantResolution
