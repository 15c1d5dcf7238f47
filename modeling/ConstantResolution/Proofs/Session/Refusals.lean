import ConstantResolution.Proofs.Refusal
import ConstantResolution.Proofs.Session.Runs

/-! # Refused commands

What can be refused is refused before anything changes: when a constant is not bound, a module not
included, a class or a module not created or not opened, a site not made or not renamed, then the session
is the same as before (`refused_unchanged`). -/

namespace ConstantResolution

/-- The commands that bind constants, include modules, create and open classes, open modules, and make
and rename sites. -/
inductive Command.Guarded : Command → Prop
  | define {ns name value} : Guarded (.define ns name value)
  | includeModule {ns mixin} : Guarded (.includeModule ns mixin)
  | newClass {holder name parent superclass} : Guarded (.newClass holder name parent superclass)
  | openClass {holder name parent superclass realm} :
      Guarded (.openClass holder name parent superclass realm)
  | openModule {holder name parent realm} : Guarded (.openModule holder name parent realm)
  | newSite {holder name position realm} : Guarded (.newSite holder name position realm)
  | newFreeSite {holder name position policy tally} :
      Guarded (.newFreeSite holder name position policy tally)
  | rename {site name} : Guarded (.rename site name)

namespace Session

variable {s : Session} {c : Command}

/-- A command is refused: it fails, and not because a counter ran over. -/
def Refuses (s : Session) (c : Command) : Prop :=
  ∃ e, (perform c s).result = .error e ∧ e.IsRefusal

instance (s : Session) (c : Command) : Decidable (s.Refuses c) :=
  match h : (perform c s).result with
  | .ok a => isFalse fun ⟨e, he, _⟩ => by
      rw [h] at he
      exact nomatch he
  | .error e => decidable_of_iff e.IsRefusal ⟨fun hr => ⟨e, h, hr⟩, fun ⟨d, hd, hr⟩ => by
      rw [h] at hd
      rwa [Except.error.inj hd]⟩

/-! ### Names that are asked for -/

theorem held_state {α : Type} (part : Session → Dictionary α) (holder : String) (s : Session) :
    (held part holder s).state = s := by
  unfold held
  split <;> rfl

theorem heldNamespace_state (holder : String) (s : Session) : (heldNamespace holder s).state = s := by
  rw [heldNamespace_apply]
  split <;> rfl

theorem heldIfNamed_state (name : Option String) (s : Session) : (heldIfNamed name s).state = s := by
  cases name with
  | none => rfl
  | some holder => exact Action.state_bind_of_quiet (heldNamespace_state holder s) fun _ => rfl

theorem valueOf_state (v : ValueTerm) (s : Session) : (valueOf v s).state = s := by
  cases v with
  | value v => rfl
  | heldNamespace holder =>
      unfold valueOf onWorld onStore Store.onWorld World.valueOf World.heldBy
      simp only [Action.within_apply, Action.bind_apply, Action.get_apply]
      cases s.store.world.held.get? holder <;> rfl

theorem heldTally_state (tally : TallyTerm) (s : Session) : (heldTally tally s).state = s := by
  cases tally with
  | ofRealm holder => exact Action.state_bind_of_quiet (held_state realms holder s) fun _ => rfl
  | heldTally holder => exact held_state tallies holder s

/-! ### Commands -/

theorem onStore_atomic {α : Type} {x : Action Store α} (hx : x.Atomic s.store) : (onStore x).Atomic s :=
  Action.Atomic.within hx rfl

theorem onWorld_atomic {α : Type} {x : Action World α} (hx : x.Atomic s.store.world) :
    (onWorld x).Atomic s := onStore_atomic (Store.onWorld_atomic hx)

theorem creating_atomic {x : Action Session NamespaceId} (holder : String) (hx : x.Atomic s) :
    (creating holder x).Atomic s := by
  refine hx.bind fun i => ?_
  exact Action.Accepts.bind (Action.Accepts.of_ok rfl) fun _ => Action.Accepts.pure

theorem dropSite_accepts (holder : String) : (dropSite holder).Accepts s := by
  refine Action.Accepts.bind (Action.Accepts.of_ok rfl) fun o => ?_
  cases o with
  | none => exact Action.Accepts.pure
  | some k =>
      refine Action.Accepts.bind Action.Accepts.modify fun _ => ?_
      exact Action.Accepts.bind (Action.Accepts.of_ok rfl) fun _ => Action.Accepts.pure

theorem bindSite_accepts (holder : String) (k : SiteId) : (bindSite holder k).Accepts s :=
  Action.Accepts.bind (dropSite_accepts holder) fun _ => Action.Accepts.modify

/-- A site is made, and then held under a name. -/
theorem making_atomic {x : Action Store SiteId} (holder : String) (hx : x.Atomic s.store) :
    (do bindSite holder (← onStore x)
        return .done : Action Session Answer).Atomic s := by
  refine (onStore_atomic hx).bind fun k => ?_
  exact Action.Accepts.bind (bindSite_accepts holder k) fun _ => Action.Accepts.pure

theorem perform_atomic (hc : c.Guarded) (s : Session) : (perform c).Atomic s := by
  cases hc with
  | define =>
      refine Action.Atomic.bind_quiet (heldNamespace_state _ s) fun i _ => ?_
      refine Action.Atomic.bind_quiet (valueOf_state _ s) fun v _ => ?_
      exact (onWorld_atomic (World.define_atomic i _ v)).map
  | includeModule =>
      refine Action.Atomic.bind_quiet (heldNamespace_state _ s) fun i _ => ?_
      refine Action.Atomic.bind_quiet (heldNamespace_state _ s) fun m _ => ?_
      exact (onWorld_atomic (World.includeModule_atomic i m)).map
  | newClass =>
      refine creating_atomic _ ?_
      refine Action.Atomic.bind_quiet (heldNamespace_state _ s) fun p _ => ?_
      refine Action.Atomic.bind_quiet (heldIfNamed_state _ s) fun sup _ => ?_
      exact onWorld_atomic (World.newClass_atomic _ p sup)
  | openClass =>
      refine creating_atomic _ ?_
      refine Action.Atomic.bind_quiet (held_state realms _ s) fun r _ => ?_
      refine Action.Atomic.bind_quiet (heldNamespace_state _ s) fun p _ => ?_
      refine Action.Atomic.bind_quiet (heldIfNamed_state _ s) fun sup _ => ?_
      exact onStore_atomic (Store.openClass_atomic r _ p sup)
  | openModule =>
      refine creating_atomic _ ?_
      refine Action.Atomic.bind_quiet (held_state realms _ s) fun r _ => ?_
      refine Action.Atomic.bind_quiet (heldNamespace_state _ s) fun p _ => ?_
      exact onStore_atomic (Store.openModule_atomic r _ p)
  | newSite =>
      refine Action.Atomic.bind_quiet (held_state realms _ s) fun r _ => ?_
      exact making_atomic _ (Store.makeSite_atomic r _ _)
  | newFreeSite =>
      refine Action.Atomic.bind_quiet (heldTally_state _ s) fun t _ => ?_
      exact making_atomic _ (Store.newSite_atomic _ _ _ t)
  | rename =>
      refine Action.Atomic.bind_quiet (held_state sites _ s) fun k _ => ?_
      exact (onStore_atomic (Store.renameSite_atomic k _)).map

/-- **What is refused changes nothing**: not a table, a generation, an ancestor or a dependent, not what a
realm registered or counted, not a site with its name and its memo, and not the number that the next
namespace will have. -/
theorem refused_unchanged (hc : c.Guarded) (h : s.Refuses c) : (perform c s).state = s := by
  obtain ⟨e, he, hr⟩ := h
  exact perform_atomic hc s e he hr

/-- A module, a class that its realm does not know, one that it knows, a constant and a site. -/
def furnished : List Command :=
  [.newModule "m" "M" "top", .newClass "a" "A" "top" none, .define "top" "A" (.heldNamespace "a"),
    .openClass "c" "C" "top" none "main", .define "top" "N" (.value (.int 1)),
    .newSite "site" "X" .unknown "main"]

/-- What is not constants, not classes, not modules, or would make a circle. -/
def misguided : List Command :=
  [.define "a" "x" (.value (.int 1)), .includeModule "m" "a", .includeModule "m" "m",
    .newClass "b" "B" "top" (some "m"), .openClass "b" "b" "top" none "main",
    .openClass "b" "N" "top" none "main", .openClass "b" "A" "top" none "main",
    .openClass "b" "C" "top" (some "a") "main", .openClass "b" "D" "top" (some "m") "main",
    .openModule "b" "C" "top" "main", .newSite "t" "x" .unknown "main",
    .newFreeSite "t" "x" .unknown {} (.ofRealm "main"), .rename "site" "x"]

set_option maxRecDepth 10000 in
/-- Everything that is wrong in these ways is refused, and changes nothing. -/
theorem refused_unchanged_misguided :
    let s := (start {}).after furnished
    ∀ c ∈ misguided, s.Refuses c ∧ (perform c s).state = s := by
  intro s c hc
  have hrefused : ∀ c ∈ misguided, s.Refuses c := by decide +kernel
  have hguarded : misguided.Forall Command.Guarded :=
    ⟨.define, .includeModule, .includeModule, .newClass, .openClass, .openClass, .openClass, .openClass,
      .openClass, .openModule, .newSite, .newFreeSite, .rename⟩
  exact ⟨hrefused c hc, refused_unchanged (List.forall_iff_forall_mem.mp hguarded c hc) (hrefused c hc)⟩

end Session
end ConstantResolution
