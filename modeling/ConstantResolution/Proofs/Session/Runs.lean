import ConstantResolution.Proofs.Session.Commands

/-! # Runs of a session

What one command keeps, a run of commands keeps.  So every session that commands lead to is sound
(`sound_after`), with faults on the way or without; and a run in which no generation overflows leads to a
later world (`later_after`) and keeps sites fresh that are evaluated in one namespace only
(`freshAt_after`). -/

namespace ConstantResolution.Session

variable {s : Session} {k : SiteId} {i : NamespaceId}

/-! ### Runs -/

/-- The session after commands. -/
def after (s : Session) (cs : List Command) : Session := cs.foldl (fun s c => (perform c s).state) s

theorem after_cons (s : Session) (c : Command) (cs : List Command) :
    s.after (c :: cs) = (perform c s).state.after cs := rfl

/-- No generation overflows in a run. -/
def WithoutOverflow (s : Session) (cs : List Command) : Prop :=
  ∀ o ∈ s.run cs, .fault (.overflow .generation) ∉ o.notes

instance (s : Session) (cs : List Command) : Decidable (s.WithoutOverflow cs) :=
  inferInstanceAs (Decidable (∀ o ∈ s.run cs, .fault (.overflow .generation) ∉ o.notes))

theorem withoutOverflow_cons {c : Command} {cs : List Command} :
    s.WithoutOverflow (c :: cs) ↔
      .fault (.overflow .generation) ∉ (perform c s).notes ∧ (perform c s).state.WithoutOverflow cs :=
  List.forall_mem_cons

/-- Whenever a run evaluates a site, it does so in one and the same namespace. -/
def EvaluatedOnlyIn (i : NamespaceId) (k : SiteId) : Session → List Command → Prop
  | _, [] => True
  | s, c :: cs => (∀ e ∈ s.evaluation? c, e.1 = k → e.2 = .ofNamespace i) ∧
      EvaluatedOnlyIn i k (perform c s).state cs

instance decidableEvaluatedOnlyIn (i : NamespaceId) (k : SiteId) :
    (s : Session) → (cs : List Command) → Decidable (EvaluatedOnlyIn i k s cs)
  | _, [] => isTrue trivial
  | s, c :: cs =>
    have := decidableEvaluatedOnlyIn i k (perform c s).state cs
    inferInstanceAs (Decidable ((∀ e ∈ s.evaluation? c, e.1 = k → e.2 = .ofNamespace i) ∧ _))

/-! ### What runs keep -/

theorem sound_empty : Sound {} where
  store := ⟨World.Linked.empty, fun _ => Nat.zero_le _⟩
  sites := nofun
  realms := nofun
  distinct := nofun

theorem sound_start (policy : Policy) : (start policy).Sound :=
  (startRealm_keeps (R := fun _ _ => False) mainRealm mainTop policy sound_empty).1

theorem sound_perform (h : s.Sound) (c : Command) : (perform c s).state.Sound :=
  (perform_keeps s c h).1

/-- **Every session that commands lead to is sound.** -/
theorem sound_after (h : s.Sound) (cs : List Command) : (s.after cs).Sound := by
  induction cs generalizing s with
  | nil => exact h
  | cons c cs ih => exact ih (sound_perform h c)

/-- Whatever commands do, the world goes through a run of steps. -/
theorem notedRun_after (h : s.Sound) (cs : List Command) :
    ∃ notes, World.NotedRun s.store.world notes (s.after cs).store.world := by
  induction cs generalizing s with
  | nil => exact ⟨[], World.NotedRun.refl _ []⟩
  | cons c cs ih =>
      obtain ⟨notes, hrun⟩ := ih (sound_perform h c)
      exact ⟨_, (perform_keeps s c h).2.1.run.trans hrun⟩

/-- The world of every session came from the empty one. -/
theorem notedRun_start_after (policy : Policy) (cs : List Command) :
    ∃ notes, World.NotedRun {} notes ((start policy).after cs).store.world := by
  have hkeeps := startRealm_keeps (R := fun _ _ => False) mainRealm mainTop policy sound_empty
  obtain ⟨notes, hrun⟩ := notedRun_after (sound_start policy) cs
  exact ⟨_, hkeeps.2.1.run.trans hrun⟩

/-- **A run without an overflow leads to a later world.** -/
theorem later_after (h : s.Sound) {cs : List Command} (hn : s.WithoutOverflow cs) :
    s.store.world.Later (s.after cs).store.world := by
  induction cs generalizing s with
  | nil => exact World.Later.refl _
  | cons c cs ih =>
      obtain ⟨hc, hcs⟩ := withoutOverflow_cons.mp hn
      have hrun := (perform_keeps s c h).2.1.run
      exact (hrun.later h.store.linked hc).trans (ih (sound_perform h c) hcs)

/-- **A site that a run evaluates in one namespace only stays fresh there.** -/
theorem freshAt_after (h : s.Sound) {cs : List Command} (hn : s.WithoutOverflow cs)
    (he : EvaluatedOnlyIn i k s cs) (hf : s.FreshAt k i) : (s.after cs).FreshAt k i := by
  induction cs generalizing s with
  | nil => exact hf
  | cons c cs ih =>
      obtain ⟨hc, hcs⟩ := withoutOverflow_cons.mp hn
      refine ih (sound_perform h c) hcs he.2 ((perform_keeps s c h).2.1.fresh hc (fun place hplace => ?_) hf)
      exact he.1 _ hplace rfl

theorem sites_start (policy : Policy) : (start policy).sites = {} := rfl

theorem freshAt_start (policy : Policy) (k : SiteId) (i : NamespaceId) : (start policy).FreshAt k i := by
  intro name hname
  rw [sites_start] at hname
  exact nomatch hname

end ConstantResolution.Session
