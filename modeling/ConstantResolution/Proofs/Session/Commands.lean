import ConstantResolution.Proofs.Session.Aside

/-! # Commands keep the contract of sessions

Each command evaluates at most one site, in at most one place (`evaluation?`).  **Every command, from
every sound session, leaves a sound session behind and evaluates no other site and in no other
place** (`perform_keeps`), whether it succeeds, fails or meets a fault. -/

namespace ConstantResolution.Session

/-- The site that a command evaluates, and where. -/
def evaluation? (s : Session) : Command → Option (SiteId × Place)
  | .evaluate site context _ | .resolve site context | .siteDefined site context
  | .definition site context =>
    (s.sites.get? site).bind fun k => (s.place? context).map fun place => (k, place)
  | _ => none

variable {s t : Session} {k : SiteId} {R : SiteId → Place → Prop}

/-! ### Evaluations -/

theorem SameNames.place?_eq (h : SameNames s t) (context : ContextTerm) :
    t.place? context = s.place? context := by
  unfold place?
  rw [h.held]
  cases context.scope with
  | heldNamespace holder => rfl
  | heldStub holder =>
      have hsome := h.stubs holder
      dsimp only
      cases hs : s.stubs.get? holder <;> cases ht : t.stubs.get? holder
      · rfl
      · rw [hs, ht] at hsome
        exact nomatch hsome
      · rw [hs, ht] at hsome
        exact nomatch hsome
      · rfl

section evaluations

variable {α : Type} {site : String} {context : ContextTerm}
  {x : {σ : Type} → Scope σ → Action (Reading σ) α}
  (hx : ∀ {r : Reading World} {i : NamespaceId} {I : NamespaceId → Prop}, r.scope.isAlive i = true →
    I i → (x (World.scope i)).Keeps (Reading.contract I) r fun _ _ => True)
  (hR : ∀ {k place}, s.sites.get? site = some k → s.place? context = some place → R k place)

/-- A site that is evaluated in a stub changes alone, with the stub. -/
theorem atStub_keeps {holder : String} {p : PlacedSite} {stub : Stub} {y : Action (Reading Stub) α}
    (hstub : s.stubs.get? holder = some stub) (hR : R k (.ofStub holder)) :
    (Action.within (fun s : Session => (⟨p.site, s.store.tally p.tally, stub⟩ : Reading Stub))
      (fun r s =>
        { s with
          store := (s.store.setSite k r.site).setTally p.tally r.tally
          stubs := s.stubs.insert holder r.scope }) y).Keeps (reading R) s fun _ _ => True := by
  refine (Action.Keeps.within_any fun r notes hs => ?_).imp fun _ _ _ _ => trivial
  have hsites : ((s.store.setSite k r.site).setTally p.tally r.tally).sites =
      s.store.sites.modify k fun p => { p with site := r.site } := rfl
  refine ⟨⟨⟨hs.store.linked, hs.store.counted⟩, fun h => ?_, hs.realms, hs.distinct⟩,
    ⟨World.NotedRun.refl _ _, fun _ k' i hk h name hname q hq => ?_⟩, ⟨rfl, rfl, fun holder' => ?_⟩⟩
  · show _ < ((s.store.setSite k r.site).setTally p.tally r.tally).sites.size
    rw [hsites, Array.size_modify]
    exact hs.sites h
  · rw [Store.site?_modify hsites] at hq
    split at hq
    · rename_i hkk
      subst hkk
      exact nomatch hk _ hR
    · exact h name hname q hq
  · rw [Dictionary.get?_insert]
    split
    · rename_i hh
      rw [hh, hstub]
      rfl
    · rfl

include hx hR

/-- **An evaluation in the place that its context stands for.** -/
theorem atSite_keeps : (atSite site context x).Keeps (reading R) s fun _ _ => True := by
  unfold atSite
  refine Action.Keeps.bind (held_keeps sites site) ?_
  rintro k _ _ - - ⟨rfl, hk⟩
  refine Action.Keeps.bind (heldIfNamed_keeps context.enteredFrom) ?_
  rintro o s _ - - ⟨rfl, -, hentered⟩
  cases hscope : context.scope with
  | heldNamespace holder =>
      refine Action.Keeps.bind (heldNamespace_keeps holder) ?_
      rintro i s _ hs - ⟨rfl, hi⟩
      have hplace := place?_of_heldNamespace hentered hscope hi
      refine (onStore_keeps (T := fun k' j => k' = k ∧ j = i) ?_
        (Store.atSite_keeps k fun p _ => hx (hs.isAlive_of_held hi) ⟨rfl, rfl⟩)).imp
        fun _ _ _ _ => trivial
      rintro _ _ ⟨rfl, rfl⟩
      exact Or.inr (hR hk hplace)
  | heldStub holder =>
      refine Action.Keeps.bind (held_keeps stubs holder) ?_
      rintro stub s _ - - ⟨rfl, hstub⟩
      have hplace := place?_of_heldStub hentered hscope hstub
      refine Action.Keeps.bind (placed_keeps k) ?_
      rintro p s _ - - rfl
      exact atStub_keeps hstub (hR hk hplace)

/-- Repeated evaluations are evaluations in the same place. -/
theorem repeated_atSite_keeps (n : Nat) :
    (Action.repeated n (atSite site context x)).Keeps (reading R) s fun _ _ => True := by
  refine Action.Keeps.repeated (fun t _ _ hstep => ?_) n
  obtain ⟨-, hnames⟩ := hstep
  refine atSite_keeps hx fun hk hplace => ?_
  rw [hnames.sites] at hk
  rw [hnames.place?_eq] at hplace
  exact hR hk hplace

end evaluations

/-! ### Commands -/

/-- **Every command keeps the contract of sessions.** -/
theorem perform_keeps (s : Session) (c : Command) :
    (perform c).Keeps (contract fun k place => s.evaluation? c = some (k, place)) s fun _ _ => True := by
  have heval : ∀ {site : String} {context : ContextTerm} {k : SiteId} {place : Place},
      s.sites.get? site = some k → s.place? context = some place →
      ((s.sites.get? site).bind fun k => (s.place? context).map fun place => (k, place)) = some (k, place) := by
    intro site context k place hk hplace
    rw [hk, hplace]
    rfl
  cases c with
  | openClass holder name parent superclass realm =>
      refine creating_keeps holder ?_
      refine Action.Keeps.bind (held_keeps realms realm) ?_
      rintro r s _ - - ⟨rfl, -⟩
      refine Action.Keeps.bind (heldNamespace_keeps parent) ?_
      rintro p s _ hs - ⟨rfl, hp⟩
      refine Action.Keeps.bind (heldIfNamed_keeps superclass) ?_
      rintro sup s _ - - ⟨rfl, hsup, -⟩
      refine keeps_of_reading ((onStore_keeps_of_none (Store.openClass_keeps r name
        (hs.isAlive_of_held hp) fun h => ?_)).imp fun _ _ _ h => h.1)
      obtain ⟨holder', hh⟩ := hsup _ h
      exact hs.isAlive_of_held hh
  | openModule holder name parent realm =>
      refine creating_keeps holder ?_
      refine Action.Keeps.bind (held_keeps realms realm) ?_
      rintro r s _ - - ⟨rfl, -⟩
      refine Action.Keeps.bind (heldNamespace_keeps parent) ?_
      rintro p s _ hs - ⟨rfl, hp⟩
      exact keeps_of_reading ((onStore_keeps_of_none (Store.openModule_keeps r name
        (hs.isAlive_of_held hp))).imp fun _ _ _ h => h.1)
  | newClass holder name parent superclass =>
      refine creating_keeps holder ?_
      refine Action.Keeps.bind (heldNamespace_keeps parent) ?_
      rintro p s _ hs - ⟨rfl, hp⟩
      refine Action.Keeps.bind (heldIfNamed_keeps superclass) ?_
      rintro sup s _ - - ⟨rfl, hsup, -⟩
      refine keeps_of_reading (onWorld_keeps (World.newClass_makes name (hs.isAlive_of_held hp) fun h => ?_).keeps)
      obtain ⟨holder', hh⟩ := hsup _ h
      exact hs.isAlive_of_held hh
  | newModule holder name parent =>
      refine creating_keeps holder ?_
      refine Action.Keeps.bind (heldNamespace_keeps parent) ?_
      rintro p s _ hs - ⟨rfl, hp⟩
      exact keeps_of_reading (onWorld_keeps (World.newModule_makes name (hs.isAlive_of_held hp)).keeps)
  | newTopLevel holder =>
      exact creating_keeps holder (keeps_of_reading (onWorld_keeps (World.newTopLevel_makes _).keeps))
  | dropNamespace holder =>
      exact Action.Keeps.map (dropNamespace_keeps holder)
  | define ns name value =>
      refine Action.Keeps.bind (heldNamespace_keeps ns) fun i t _ _ _ _ => ?_
      refine Action.Keeps.bind (valueOf_keeps value) fun v u _ _ _ _ => ?_
      exact Action.Keeps.map (keeps_of_reading (onWorld_keeps (World.define_keeps _ i name v)))
  | remove ns name =>
      refine Action.Keeps.bind (heldNamespace_keeps ns) fun i t _ _ _ _ => ?_
      exact Action.Keeps.map (keeps_of_reading (onWorld_keeps (World.remove_keeps _ i name)))
  | includeModule ns mixin =>
      refine Action.Keeps.bind (heldNamespace_keeps ns) ?_
      rintro i s _ hs - ⟨rfl, hi⟩
      refine Action.Keeps.bind (heldNamespace_keeps mixin) ?_
      rintro m s _ - - ⟨rfl, hm⟩
      exact Action.Keeps.map (keeps_of_reading (onWorld_keeps
        (World.includeModule_keeps (hs.isAlive_of_held hi) (hs.isAlive_of_held hm))))
  | reopen ns =>
      refine Action.Keeps.bind (heldNamespace_keeps ns) fun i t _ _ _ _ => ?_
      exact Action.Keeps.map (keeps_of_reading (onWorld_keeps (World.reopen_keeps _ i)))
  | dispatch ns name =>
      refine Action.Keeps.bind (heldNamespace_keeps ns) fun i t _ _ _ _ => ?_
      exact Action.Keeps.map (keeps_of_reading (onWorld_keeps (World.dispatch_keeps _ i name)))
  | setHandler ns label response =>
      refine Action.Keeps.bind (heldNamespace_keeps ns) fun i t _ _ _ _ => ?_
      exact Action.Keeps.map (keeps_of_reading (onWorld_keeps (World.setHandler_keeps _ i _)))
  | survey context name =>
      refine Action.Keeps.map ((overlooks_contract _).survey_keeps name fun i _ => ?_)
      have hsurvey := Scope.survey_keeps (fun w => World.dispatch_keeps w i name) s.store.world
      exact keeps_of_reading ((onWorld_keeps hsurvey).imp fun _ _ _ _ => trivial)
  | newSite holder name position realm =>
      refine Action.Keeps.bind (held_keeps realms realm) fun r t _ _ _ _ => ?_
      refine Action.Keeps.bind (keeps_of_reading (onStore_keeps_of_none
        (Store.makeSite_keeps r name position))) ?_
      rintro k u _ - - ⟨⟨-, hlt, hfresh⟩, -⟩
      exact Action.Keeps.map (bindSite_keeps holder hlt hfresh)
  | newFreeSite holder name position policy tally =>
      refine Action.Keeps.bind (heldTally_keeps tally) fun r t _ _ _ _ => ?_
      refine Action.Keeps.bind (keeps_of_reading (onStore_keeps_of_none
        (Store.newSite_keeps name position policy r))) ?_
      rintro k u _ - - ⟨⟨-, hlt, hfresh⟩, -⟩
      exact Action.Keeps.map (bindSite_keeps holder hlt hfresh)
  | dropSite holder =>
      exact Action.Keeps.map (dropSite_keeps holder)
  | evaluate site context times =>
      exact Action.Keeps.map (keeps_of_reading (repeated_atSite_keeps Reading.evaluate_keeps heval _))
  | resolve site context =>
      exact Action.Keeps.map (keeps_of_reading (atSite_keeps Reading.resolve_keeps heval))
  | siteDefined site context =>
      exact Action.Keeps.map (keeps_of_reading (atSite_keeps Reading.isDefined_keeps heval))
  | definition site context =>
      exact Action.Keeps.map (keeps_of_reading (atSite_keeps Reading.definition_keeps heval))
  | invalidate site =>
      refine Action.Keeps.bind (held_keeps sites site) fun k t _ _ _ _ => ?_
      exact Action.Keeps.map (keeps_of_reading (onStore_keeps_of_none (Store.invalidate_keeps k)))
  | rename site name =>
      refine Action.Keeps.bind (held_keeps sites site) fun k t _ _ _ _ => ?_
      exact Action.Keeps.map (keeps_of_reading (onStore_keeps_of_none (Store.renameSite_keeps k name)))
  | newRealm holder policy =>
      exact Action.Keeps.map (startRealm_keeps holder _ policy)
  | invalidateAll realm =>
      refine Action.Keeps.bind (held_keeps realms realm) fun r t _ _ _ _ => ?_
      exact Action.Keeps.map (keeps_of_reading (onStore_keeps_of_none (Store.invalidateAll_keeps r)))
  | newTally holder =>
      refine Action.Keeps.bind (keeps_of_reading (onStore_keeps_of_none Store.newTally_keeps)) ?_
      intro tally t _ _ _ _
      exact Action.Keeps.map ((overlooks_contract _).keeps ⟨rfl, rfl, rfl⟩)
  | record tally event times =>
      refine Action.Keeps.bind (heldTally_keeps tally) fun r t _ _ _ _ => ?_
      exact Action.Keeps.map (keeps_of_reading (onStore_keeps_of_none
        (Action.Keeps.times (fun _ _ _ _ _ => Store.record_keeps r event) times 0)))
  | work realm workload iterations =>
      refine Action.Keeps.bind (held_keeps realms realm) ?_
      rintro r s _ hs - ⟨rfl, hr⟩
      exact Action.Keeps.map (keeps_of_reading (onStore_keeps Or.inl
        (Workload.perform_keeps (hs.isAlive_top hr) (Nat.le_refl _) iterations workload)))
  | _ => exact (overlooks_contract _).perform_keeps rfl

end ConstantResolution.Session
