import ConstantResolution.Proofs.Session.Agreement

/-! # Policies are not seen

A run is seen by what its commands show and by the handlers that they call (`observed`).  When every site
is evaluated in one namespace, its home, a run is seen to be the same under all policies, and leads to the
same world (`policies_unobservable`): a memo is served only where a full lookup gives the same, and a
lookup that is left out changes nothing and calls no handler. -/

namespace ConstantResolution.Session

variable {s t : Session} {home : SiteId → NamespaceId} {c c' : Command} {cs cs' : List Command}

/-! ### Runs -/

/-- What is seen of a run: what each command shows, and the calls of handlers in their order. -/
def observed : Session → List Command → List (Except Failure Answer × List HandlerCall)
  | _, [] => []
  | s, c :: cs =>
    ((perform c s).result.map c.shown, callsOf (perform c s).notes) :: observed (perform c s).state cs

/-- Whenever a run evaluates a site, it does so at home. -/
def EvaluatedAtHome (home : SiteId → NamespaceId) : Session → List Command → Prop
  | _, [] => True
  | s, c :: cs => (∀ e ∈ s.evaluation? c, AtHome home e.1 e.2) ∧
      EvaluatedAtHome home (perform c s).state cs

instance (home : SiteId → NamespaceId) (k : SiteId) (place : Place) : Decidable (AtHome home k place) :=
  inferInstanceAs (Decidable (place = .ofNamespace (home k)))

instance decidableEvaluatedAtHome (home : SiteId → NamespaceId) :
    (s : Session) → (cs : List Command) → Decidable (EvaluatedAtHome home s cs)
  | _, [] => isTrue trivial
  | s, c :: cs =>
    have := decidableEvaluatedAtHome home (perform c s).state cs
    inferInstanceAs (Decidable ((∀ e ∈ s.evaluation? c, AtHome home e.1 e.2) ∧ _))

/-- No counter runs over in a run. -/
def Unbroken (s : Session) (cs : List Command) : Prop := ∀ o ∈ s.run cs, NoOverflow o.notes

instance (s : Session) (cs : List Command) : Decidable (s.Unbroken cs) :=
  inferInstanceAs (Decidable (∀ o ∈ s.run cs, NoOverflow o.notes))

theorem unbroken_cons :
    s.Unbroken (c :: cs) ↔ NoOverflow (perform c s).notes ∧ (perform c s).state.Unbroken cs :=
  List.forall_mem_cons

/-! ### Steps -/

/-- Sites that are alike are evaluated in the same places. -/
theorem Alike.evaluation?_eq (h : Alike s t) (hc : c.SameButPolicy c') :
    t.evaluation? c' = s.evaluation? c := by
  have hplace : ∀ context, t.place? context = s.place? context := by
    intro context
    unfold place?
    rw [h.world, h.stubs]
  have hself : t.evaluation? c = s.evaluation? c := by
    unfold evaluation?
    simp only [hplace, h.sites]
  cases hc with
  | refl => exact hself
  | newRealm => rfl
  | newFreeSite => rfl

theorem Ready.perform (hs : s.Ready home) (he : ∀ e ∈ s.evaluation? c, AtHome home e.1 e.2)
    (hn : NoOverflow (perform c s).notes) : (Session.perform c s).state.Ready home := by
  obtain ⟨hsound, hfollows, -⟩ := perform_keeps s c hs.sound
  exact hs.of_follows hsound (fun hplace => he _ hplace) hn hfollows

/-- **One command**: it is seen to do the same, and leads to sessions that are alike. -/
theorem Alike.perform (h : Alike s t) (hc : c.SameButPolicy c') (hs : s.Ready home) (ht : t.Ready home)
    (he : ∀ e ∈ s.evaluation? c, AtHome home e.1 e.2) (hn : NoOverflow (Session.perform c s).notes)
    (hn' : NoOverflow (Session.perform c' t).notes) :
    Alike (Session.perform c s).state (Session.perform c' t).state ∧
      (Session.perform c s).result.map c.shown = (Session.perform c' t).result.map c'.shown ∧
      callsOf (Session.perform c s).notes = callsOf (Session.perform c' t).notes := by
  have hshowing := showing_agrees hc h hs ht he
  unfold Action.Agrees showing at hshowing
  rw [Action.bind_pure_apply, Action.bind_pure_apply] at hshowing
  obtain ⟨hstate, hcalls, hresult, -⟩ := hshowing hn hn'
  exact ⟨hstate, hresult, hcalls⟩

/-- **What one command keeps alike, a run of commands keeps alike.** -/
theorem Alike.after (h : Alike s t) (hcs : List.Forall₂ Command.SameButPolicy cs cs') (hs : s.Ready home)
    (ht : t.Ready home) (he : EvaluatedAtHome home s cs) (hn : s.Unbroken cs) (hn' : t.Unbroken cs') :
    Alike (s.after cs) (t.after cs') ∧ s.observed cs = t.observed cs' := by
  induction hcs generalizing s t with
  | nil => exact ⟨h, rfl⟩
  | cons hc _ ih =>
      obtain ⟨hnc, hncs⟩ := unbroken_cons.mp hn
      obtain ⟨hnc', hncs'⟩ := unbroken_cons.mp hn'
      obtain ⟨hstep, hresult, hcalls⟩ := h.perform hc hs ht he.1 hnc hnc'
      have hs' := hs.perform he.1 hnc
      have ht' := ht.perform (by rw [h.evaluation?_eq hc]; exact he.1) hnc'
      obtain ⟨hafter, hobserved⟩ := ih hstep hs' ht' he.2 hncs hncs'
      refine ⟨hafter, ?_⟩
      rw [observed, observed, hresult, hcalls, hobserved]

theorem ready_start (policy : Policy) : (start policy).Ready home where
  sound := sound_start policy
  fresh := fun k => freshAt_start policy k (home k)

theorem alike_start (policy policy' : Policy) : Alike (start policy) (start policy') := by
  have hempty : Alike {} {} := ⟨⟨rfl, rfl, rfl, rfl⟩, rfl, rfl, rfl, rfl⟩
  exact (startRealm_agrees mainRealm mainTop policy policy' hempty nofun nofun).1

/-! ### Policies -/

/-- **The policy of a realm is not seen.**  A program in which each site is evaluated in one namespace, and
in which no counter runs over, gives under all policies the same answers to all commands, apart from what
they tell of counters, memos and the policies themselves, and calls the same handlers for the same names in
the same order.  It leads to the same world, with the same tables, generations and ancestors, and to
realms that registered the same namespaces and have the same number of sites. -/
theorem policies_unobservable (policy policy' : Policy)
    (hcs : List.Forall₂ Command.SameButPolicy cs cs') (he : EvaluatedAtHome home (start policy) cs)
    (hn : (start policy).Unbroken cs) (hn' : (start policy').Unbroken cs') :
    let s := (start policy).after cs
    let t := (start policy').after cs'
    (start policy).observed cs = (start policy').observed cs' ∧ s.store.world = t.store.world ∧
      ∀ r, (s.store.realm r).registered = (t.store.realm r).registered ∧
        s.store.siteCount r = t.store.siteCount r := by
  intro s t
  obtain ⟨halike, hobserved⟩ :=
    (alike_start policy policy').after hcs (ready_start policy) (ready_start policy') he hn hn'
  refine ⟨hobserved, halike.world, fun r => ⟨halike.store.registered r, ?_⟩⟩
  rw [Store.siteCount, Store.siteCount, halike.store.liveSites]

/-- A constant that a handler defines when it is missing, and that is defined anew between two reads, and
in the end the counters. -/
def counting (policy : Policy) : List Command :=
  [.setHandler "top" (some "missing") (.define (.value (.int 1))),
    .newFreeSite "site" "X" .unknown policy (.ofRealm "main"),
    .evaluate "site" ⟨.heldNamespace "top", none⟩ 3, .define "top" "X" (.value (.int 2)),
    .evaluate "site" ⟨.heldNamespace "top", none⟩ 2, .inspectTally (.ofRealm "main")]

set_option maxRecDepth 10000 in
/-- With memos and without them the same is seen, and different things are counted. -/
theorem policies_unobservable_counting :
    let s := (start {}).after (counting {})
    let t := (start .uncached).after (counting .uncached)
    EvaluatedAtHome (fun _ => 1) (start {}) (counting {}) ∧ (start {}).Unbroken (counting {}) ∧
      (start .uncached).Unbroken (counting .uncached) ∧
      (start {}).observed (counting {}) = (start .uncached).observed (counting .uncached) ∧
      s.store.world = t.store.world ∧ s.mainTally.hits = 2 ∧ t.mainTally.hits = 0 := by
  intro s t
  have he : EvaluatedAtHome (fun _ => 1) (start {}) (counting {}) := by decide +kernel
  have hn : (start {}).Unbroken (counting {}) := by decide +kernel
  have hn' : (start .uncached).Unbroken (counting .uncached) := by decide +kernel
  have hcs : List.Forall₂ Command.SameButPolicy (counting {}) (counting .uncached) :=
    .cons (.refl _) (.cons (.newFreeSite ..) (.cons (.refl _) (.cons (.refl _) (.cons (.refl _)
      (.cons (.refl _) .nil)))))
  obtain ⟨hobserved, hworld, -⟩ := policies_unobservable {} .uncached hcs he hn hn'
  exact ⟨he, hn, hn', hobserved, hworld, by decide +kernel, by decide +kernel⟩

end ConstantResolution.Session
