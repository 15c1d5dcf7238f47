import ConstantResolution.Proofs.Session.Actions

/-! # Commands beside the store

Many commands only look at what there is, or change no more than stubs and what was seen of counters
(`aside`).  A contract that overlooks such changes is kept by all of these commands at once
(`Overlooks.perform_keeps`), and by a survey as soon as asking a namespace keeps it
(`Overlooks.survey_keeps`). -/

namespace ConstantResolution

/-- To ask a namespace keeps every contract that its handlers keep. -/
theorem Scope.survey_keeps {c : Contract World} {i : NamespaceId} {name : String}
    (hmissing : ∀ w, (World.dispatch i name).Keeps c w fun _ _ => True) (w : World) :
    ((World.scope i).survey name).Keeps c w fun _ _ => True := by
  have hasking : ∀ {α : Type} (f : World → α × World), (∀ w, (f w).2 = w) → ∀ w,
      Action.Keeps c (Scope.survey.asking f) w fun _ t => t = w :=
    fun f hf w => Action.Keeps.of_state (hf w) fun _ _ => rfl
  unfold Scope.survey
  refine Action.Keeps.read_bind fun _ => ?_
  refine Action.Keeps.bind (hasking _ (fun _ => rfl) w) fun _ w₁ _ _ _ _ => ?_
  refine Action.Keeps.bind (hasking _ (fun _ => rfl) w₁) fun _ w₂ _ _ _ _ => ?_
  refine Action.Keeps.bind (hmissing w₂).outcome fun _ w₃ _ _ _ _ => ?_
  exact Action.Keeps.read_bind fun _ => Action.Keeps.pure trivial

namespace Session

variable {s t : Session} {c : Contract Session} {context : ContextTerm}

/-! ### Looking -/

/-- What is seen of a namespace. -/
theorem looking_keeps {α : Type} {f : NamespaceId → World → α} {g : α → Answer} (ns : String) :
    (do let i ← heldNamespace ns
        return g (← ofWorld (f i)) : Action Session Answer).Keeps c s fun _ _ => True := by
  refine Action.Keeps.bind (heldNamespace_keeps ns) fun i t _ _ _ _ => ?_
  exact Action.Keeps.read_bind fun _ => Action.Keeps.pure trivial

/-- What is seen of a site. -/
theorem placed_keeps (k : SiteId) : (onStore (Store.placed k)).Keeps c s fun _ t => t = s := by
  refine Action.Keeps.of_state ?_ fun _ _ => rfl
  show { s with store := (Store.placed k s.store).state } = s
  rw [Store.placed_state]

/-! ### What contracts overlook -/

/-- The store is the same, and so is what names hold of sites and realms. -/
structure Beside (s t : Session) : Prop where
  store : t.store = s.store
  sites : t.sites = s.sites
  realms : t.realms = s.realms

/-- A contract that overlooks stubs, the names of counters, and what was seen of counters. -/
def Overlooks (c : Contract Session) : Prop :=
  ∀ s notes t, Beside s t → c.valid s → c.valid t ∧ c.step s notes t

theorem overlooks_contract (R : SiteId → Place → Prop) : Overlooks (contract R) := by
  intro s notes t h hs
  refine ⟨⟨?_, ?_, ?_, ?_⟩, ⟨?_, fun _ k i _ hf name hname => ?_⟩⟩
  · rw [h.store]
    exact hs.store
  · rw [h.store, h.sites]
    exact hs.sites
  · rw [h.store, h.realms]
    exact hs.realms
  · rw [h.realms]
    exact hs.distinct
  · rw [h.store]
    exact World.NotedRun.refl _ _
  · rw [h.sites] at hname
    rw [h.store]
    exact hf name hname

namespace Overlooks

variable (hc : Overlooks c)

include hc

theorem keeps {α : Type} {x : Action Session α} (h : Beside s (x s).state) : x.Keeps c s fun _ _ => True := by
  intro hs
  obtain ⟨hv, hst⟩ := hc s (x s).notes (x s).state h hs
  exact ⟨hv, hst, fun _ _ => trivial⟩

theorem onStub_keeps {α : Type} (holder : String) (x : Action Stub α) :
    (onStub holder x).Keeps c s fun _ _ => True := by
  unfold onStub
  refine Action.Keeps.bind (held_keeps stubs holder) fun stub t _ _ _ _ => ?_
  exact hc.keeps ⟨rfl, rfl, rfl⟩

theorem setEntry_keeps (holder : String) (entry : Option (String × Option ValueTerm)) :
    (setEntry holder entry).Keeps c s fun _ _ => True := by
  unfold setEntry
  split
  · exact Action.Keeps.pure trivial
  · exact hc.onStub_keeps holder _
  · exact Action.Keeps.bind (valueOf_keeps _) fun _ _ _ _ _ _ => hc.onStub_keeps holder _

theorem inspectTally_keeps (tally : TallyId) : (inspectTally tally).Keeps c s fun _ _ => True := by
  unfold inspectTally
  refine Action.Keeps.get_bind fun _ => ?_
  dsimp only
  split
  · exact Action.Keeps.fault
  · exact Action.Keeps.map (hc.keeps ⟨rfl, rfl, rfl⟩)

/-- To ask the scope of a context keeps what asking the namespace keeps that the context stands for. -/
theorem survey_keeps (name : String)
    (hworld : ∀ i, s.place? context = some (.ofNamespace i) →
      (onWorld ((World.scope i).survey name)).Keeps c s fun _ _ => True) :
    (survey context name).Keeps c s fun _ _ => True := by
  unfold survey
  refine Action.Keeps.bind_still (heldIfNamed_keeps context.enteredFrom) fun _ hentered => ?_
  cases hscope : context.scope with
  | heldNamespace holder =>
      refine Action.Keeps.bind_still (heldNamespace_keeps holder) fun i hi => ?_
      exact hworld i (place?_of_heldNamespace hentered.2 hscope hi)
  | heldStub holder => exact hc.onStub_keeps holder _

end Overlooks

/-! ### Commands -/

/-- A command only looks, or changes no more than stubs and what was seen of counters. -/
def aside : Command → Bool
  | .lookup _ _ | .localConstant _ _ | .isDefined _ _ | .names _ | .ancestors _ | .inspect _ | .describe _ => true
  | .inspectSite _ | .describeSite _ | .policy _ | .counts _ | .namespaceById _ _ | .namespaceOf _ _ => true
  | .newStub _ _ | .setStub _ _ _ | .inspectStub _ | .inspectTally _ => true
  | _ => false

/-- **What is done aside keeps every contract that overlooks it.** -/
theorem Overlooks.perform_keeps (hc : Overlooks c) {command : Command} (h : aside command = true) :
    (perform command).Keeps c s fun _ _ => True := by
  cases command with
  | lookup ns name => exact looking_keeps ns
  | localConstant ns name => exact looking_keeps ns
  | isDefined ns name => exact looking_keeps ns
  | names ns => exact looking_keeps ns
  | ancestors ns => exact looking_keeps ns
  | inspect ns => exact looking_keeps ns
  | describe ns => exact looking_keeps ns
  | inspectSite site =>
      refine Action.Keeps.bind (held_keeps sites site) fun k t _ _ _ _ => ?_
      exact Action.Keeps.map (placed_keeps k)
  | describeSite site =>
      refine Action.Keeps.bind (held_keeps sites site) fun k t _ _ _ _ => ?_
      exact Action.Keeps.map (placed_keeps k)
  | policy realm =>
      refine Action.Keeps.bind (held_keeps realms realm) fun r t _ _ _ _ => ?_
      exact Action.Keeps.read_bind fun _ => Action.Keeps.pure trivial
  | counts realm =>
      refine Action.Keeps.bind (held_keeps realms realm) fun r t _ _ _ _ => ?_
      exact Action.Keeps.get_bind fun _ => Action.Keeps.pure trivial
  | namespaceById id realm =>
      refine Action.Keeps.bind (held_keeps realms realm) fun r t _ _ _ _ => ?_
      exact Action.Keeps.get_bind fun _ => Action.Keeps.pure trivial
  | namespaceOf value realm =>
      refine Action.Keeps.bind (held_keeps realms realm) fun r t _ _ _ _ => ?_
      refine Action.Keeps.bind (valueOf_keeps value) fun v u _ _ _ _ => ?_
      exact Action.Keeps.get_bind fun _ => Action.Keeps.pure trivial
  | newStub holder stub => exact Action.Keeps.map (hc.keeps ⟨rfl, rfl, rfl⟩)
  | setStub holder entry generation =>
      refine Action.Keeps.bind (hc.setEntry_keeps holder entry) fun _ _ _ _ _ _ => ?_
      exact Action.Keeps.map (hc.onStub_keeps holder _)
  | inspectStub holder => exact Action.Keeps.map (held_keeps stubs holder)
  | inspectTally tally =>
      refine Action.Keeps.bind (heldTally_keeps tally) fun t u _ _ _ _ => ?_
      exact Action.Keeps.map (hc.inspectTally_keeps t)
  | _ => exact nomatch h

end Session
end ConstantResolution
