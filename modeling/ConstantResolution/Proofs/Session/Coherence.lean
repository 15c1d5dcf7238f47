import ConstantResolution.Proofs.Session.Runs

/-! # Sites give what a full lookup gives

A site that is evaluated in one namespace only, in any run of commands in which no generation overflows,
gives at each evaluation what a full lookup gives at that time (`evaluation_coherent`). -/

namespace ConstantResolution

/-- The last of several repetitions starts where the others end. -/
theorem Action.repeated_succ {σ α : Type} (x : Action σ α) (n : Nat) (s : σ) :
    (repeated (n + 1) x s).result = (x (repeated n x s).state).result ∧
      (repeated (n + 1) x s).state = (x (repeated n x s).state).state := by
  induction n generalizing s with
  | zero => exact ⟨rfl, rfl⟩
  | succ n ih => exact ih (x s).state

namespace Session

variable {s : Session} {site : String} {context : ContextTerm} {k : SiteId} {i : NamespaceId}
  {p : PlacedSite}

/-! ### Evaluations in a namespace -/

theorem heldIfNamed_apply {name : Option String}
    (h : name.all (fun holder => (s.store.world.held.get? holder).isSome) = true) :
    ∃ o, heldIfNamed name s = ⟨s, [], .ok o⟩ := by
  cases name with
  | none => exact ⟨none, rfl⟩
  | some holder =>
      rw [Option.all_some, Option.isSome_iff_exists] at h
      obtain ⟨j, hj⟩ := h
      have happly : heldNamespace holder s = ⟨s, [], .ok j⟩ := by
        rw [heldNamespace_apply, hj]
      exact ⟨some j, Action.bind_of_quiet happly _⟩

/-- An evaluation works on the site and the world, and puts both back. -/
theorem atSite_apply {α : Type} (x : {σ : Type} → Scope σ → Action (Reading σ) α)
    (hk : s.sites.get? site = some k) (hplace : s.place? context = some (.ofNamespace i))
    (hp : s.store.site? k = some p) :
    atSite site context x s =
      ⟨{ s with store := Store.putReading k p.tally (x (World.scope i) (s.store.reading p)).state s.store },
        (x (World.scope i) (s.store.reading p)).notes, (x (World.scope i) (s.store.reading p)).result⟩ := by
  have hsite : heldSite site s = ⟨s, [], .ok k⟩ := by
    unfold heldSite held
    rw [hk]
  have hplaced : Store.placed k s.store = ⟨s.store, [], .ok p⟩ := by
    unfold Store.placed
    rw [hp]
  unfold place? at hplace
  split at hplace
  · rename_i hall
    obtain ⟨o, ho⟩ := heldIfNamed_apply hall
    unfold atSite
    rw [Action.bind_of_quiet hsite, Action.bind_of_quiet ho]
    cases hscope : context.scope with
    | heldNamespace holder =>
        rw [hscope] at hplace
        obtain ⟨j, hj, hij⟩ := Option.map_eq_some_iff.mp hplace
        obtain rfl := Place.ofNamespace.inj hij
        have happly : heldNamespace holder s = ⟨s, [], .ok j⟩ := by
          rw [heldNamespace_apply, hj]
        dsimp only
        rw [Action.bind_of_quiet happly]
        unfold onStore Store.atSite
        rw [Action.within_apply, Action.bind_of_quiet hplaced, Action.within_apply]
    | heldStub holder =>
        rw [hscope] at hplace
        obtain ⟨_, _, hij⟩ := Option.map_eq_some_iff.mp hplace
        exact nomatch hij
  · exact nomatch hplace

theorem perform_resolve (s : Session) (site : String) (context : ContextTerm) :
    perform (.resolve site context) s =
      ⟨(atSite site context Reading.resolve s).state, (atSite site context Reading.resolve s).notes,
        (atSite site context Reading.resolve s).result.map Answer.value⟩ :=
  Action.bind_pure_apply (atSite site context Reading.resolve) Answer.value s

/-- A resolution gives what the site gives, and leaves behind what `Reading.Resolved` says. -/
theorem perform_resolve_spec (hk : s.sites.get? site = some k) (hp : s.store.site? k = some p)
    (hplace : s.place? context = some (.ofNamespace i)) (hs : p.site.streak ≠ Site.lastStreak) :
    ∃ r', Reading.Resolved i (s.store.reading p) r' ∧
      (perform (.resolve site context) s).result = .ok (.value ((s.store.reading p).given i)) ∧
      (perform (.resolve site context) s).state =
        { s with store := Store.putReading k p.tally r' s.store } := by
  obtain ⟨r', notes, hresolve, hr⟩ := Reading.resolve_result (r := s.store.reading p) i hs
  rw [perform_resolve, atSite_apply Reading.resolve hk hplace hp, hresolve]
  exact ⟨r', hr, rfl, rfl⟩

theorem perform_evaluate (s : Session) (site : String) (context : ContextTerm) (n : Nat) :
    perform (.evaluate site context (n + 1)) s =
      ⟨(Action.repeated n (atSite site context Reading.evaluate) s).state,
        (Action.repeated n (atSite site context Reading.evaluate) s).notes,
        (Action.repeated n (atSite site context Reading.evaluate) s).result.map fun v =>
          Answer.value (some v)⟩ :=
  Action.bind_pure_apply (Action.repeated n (atSite site context Reading.evaluate))
    (fun v => Answer.value (some v)) s

/-! ### Coherence -/

/-- **Every evaluation of a site that is evaluated in one namespace only gives what a full lookup
gives**, after any run in which no generation overflows: it resolves to the value that is looked up, and
evaluates to that value, or as the handler of the namespace answers when there is none. -/
theorem evaluation_coherent (policy : Policy) (cs : List Command)
    (hn : (start policy).WithoutOverflow cs) (he : EvaluatedOnlyIn i k (start policy) cs)
    (hk : ((start policy).after cs).sites.get? site = some k)
    (hplace : ((start policy).after cs).place? context = some (.ofNamespace i))
    (hstreak : ∀ p ∈ ((start policy).after cs).store.site? k, p.site.streak ≠ Site.lastStreak) :
    let s := (start policy).after cs
    let w := s.store.world
    ∃ p, s.store.site? k = some p ∧
      (perform (.resolve site context) s).result = .ok (.value (w.lookup i p.site.name)) ∧
      let o := World.evaluateAfresh i p.site.name p.site.position w
      (perform (.evaluate site context 1) s).result = o.result.map (fun v => .value (some v)) ∧
        (perform (.evaluate site context 1) s).state.store.world = o.state ∧
        callsOf (perform (.evaluate site context 1) s).notes = callsOf o.notes := by
  intro s w
  have hs : s.Sound := sound_after (sound_start policy) cs
  obtain ⟨p, hp⟩ := hs.exists_site hk
  have hfresh := freshAt_after (sound_start policy) hn he (freshAt_start policy k i) site hk _ hp
  have hi : w.isAlive i = true := hs.isAlive_of_place hplace
  obtain ⟨r', -, hresolve, -⟩ := perform_resolve_spec hk hp hplace (hstreak _ hp)
  obtain ⟨hresult, hscope, hcalls⟩ := Reading.evaluate_result (r := s.store.reading p) hfresh hi
    (hstreak _ hp)
  have heval := atSite_apply Reading.evaluate hk hplace hp
  refine ⟨p, hp, ?_, ?_, ?_, ?_⟩
  · rw [hresolve, Reading.given_of_fresh hfresh hi]
    rfl
  · rw [perform_evaluate s site context 0, Action.repeated, heval, hresult]
    rfl
  · rw [perform_evaluate s site context 0, Action.repeated, heval]
    exact hscope
  · rw [perform_evaluate s site context 0, Action.repeated, heval]
    exact hcalls

/-- A constant is looked up at a site and then defined anew. -/
def redefining : List Command :=
  [.define "top" "X" (.value (.int 1)), .newSite "site" "X" .unknown "main",
    .resolve "site" ⟨.heldNamespace "top", none⟩, .define "top" "X" (.value (.int 2))]

set_option maxRecDepth 10000 in
/-- The site gives the new value, and its memo holds the old one. -/
theorem evaluation_coherent_redefining :
    let s := (start {}).after redefining
    (start {}).WithoutOverflow redefining ∧ EvaluatedOnlyIn 1 0 (start {}) redefining ∧
      s.sites.get? "site" = some 0 ∧
      s.place? ⟨.heldNamespace "top", none⟩ = some (.ofNamespace 1) ∧
      (∀ p ∈ s.store.site? 0, p.site.streak ≠ Site.lastStreak ∧ p.site.memo = some ⟨.int 1, 1⟩) ∧
      (perform (.resolve "site" ⟨.heldNamespace "top", none⟩) s).result =
        .ok (.value (some (.int 2))) := by
  intro s
  have hn : (start {}).WithoutOverflow redefining := by decide +kernel
  have he : EvaluatedOnlyIn 1 0 (start {}) redefining := by decide +kernel
  have hk : s.sites.get? "site" = some 0 := by decide +kernel
  have hplace : s.place? ⟨.heldNamespace "top", none⟩ = some (.ofNamespace 1) := by decide +kernel
  have hmemo : ∀ p ∈ s.store.site? 0,
      p.site.streak ≠ Site.lastStreak ∧ p.site.memo = some ⟨.int 1, 1⟩ := by decide +kernel
  have hvalue : ∀ p ∈ s.store.site? 0, s.store.world.lookup 1 p.site.name = some (.int 2) := by
    decide +kernel
  obtain ⟨p, hp, hresolve, -⟩ := evaluation_coherent {} redefining hn he hk hplace
    fun p hp => (hmemo p hp).1
  refine ⟨hn, he, hk, hplace, hmemo, ?_⟩
  rw [hresolve]
  exact congrArg (fun v => Except.ok (Answer.value v)) (hvalue p hp)

end Session
end ConstantResolution
