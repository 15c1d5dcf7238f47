import ConstantResolution.Proofs.Session.Coherence
import ConstantResolution.Proofs.Session.Tracing

/-! # The ledger of a session

Each command says which deeds it does (`Does`): how often it calls a site and where, which sites it
invalidates, and what it counts by hand.  Only a workload speaks of sites that nobody else knows.  **Every
command is a run of steps with these deeds** (`perform_does`), so that every run of commands has a ledger
(`exists_ledger`), in which each call stands with the lookups that it asked for. -/

namespace ConstantResolution.Session

open Store (Run Step)

variable {s t : Session} {i : NamespaceId} {k : SiteId} {site : String} {context : ContextTerm}
  {ds es : List Deed}

/-! ### Calls -/

/-- The site that an evaluation speaks of, and its place. -/
def evaluationAt? (s : Session) (site : String) (context : ContextTerm) : Option (SiteId × Place) :=
  (s.sites.get? site).bind fun k => (s.place? context).map fun place => (k, place)

/-- The namespace that a place is, if it is one. -/
def Place.namespace? : Place → Option NamespaceId
  | .ofNamespace i => some i
  | .ofStub _ => none

/-- A call of a site in a place. -/
def CallOf (k : SiteId) (place : Place) (d : Deed) : Prop :=
  ∃ c : Call, d = .call c ∧ c.site = k ∧ c.place = place.namespace?

/-- A number of calls of the site and in the place that are spoken of, or none when nothing is. -/
def Calls (e : Option (SiteId × Place)) (n : Nat) (ds : List Deed) : Prop :=
  match e with
  | none => ds = []
  | some (k, place) => ds.length = n ∧ ∀ d ∈ ds, CallOf k place d

theorem Calls.append {e : Option (SiteId × Place)} {n m : Nat} (h : Calls e n ds) (h' : Calls e m es) :
    Calls e (n + m) (ds ++ es) := by
  cases e with
  | none =>
      obtain rfl : ds = [] := h
      exact h'
  | some e =>
      refine ⟨?_, fun d hd => (List.mem_append.mp hd).elim (h.2 d) (h'.2 d)⟩
      rw [List.length_append, h.1, h'.1]

theorem Calls.length_le {e : Option (SiteId × Place)} {n : Nat} (h : Calls e n ds) : ds.length ≤ n := by
  cases e with
  | none =>
      obtain rfl : ds = [] := h
      exact Nat.zero_le n
  | some e => exact h.1.le

section calls

variable {α : Type} {x : {σ : Type} → Scope σ → Action (Reading σ) α}

theorem held_of_some {β : Type} {part : Session → Dictionary β} {holder : String} {b : β}
    (h : (part s).get? holder = some b) : held part holder s = ⟨s, [], .ok b⟩ := by
  unfold held
  rw [h]

theorem held_of_none {β : Type} {part : Session → Dictionary β} {holder : String}
    (h : (part s).get? holder = none) : held part holder s = ⟨s, [], .error (.unbound holder)⟩ := by
  unfold held
  rw [h]

theorem heldNamespace_of_none {holder : String} (h : s.store.world.held.get? holder = none) :
    heldNamespace holder s = ⟨s, [], .error (.unbound holder)⟩ := by
  rw [heldNamespace_apply, h]

/-- Where nothing is spoken of, nothing is done. -/
theorem atSite_of_none (h : s.evaluationAt? site context = none) :
    ∃ e, atSite site context x s = ⟨s, [], .error e⟩ := by
  unfold evaluationAt? at h
  unfold atSite
  cases hk : s.sites.get? site with
  | none => exact ⟨_, Action.bind_of_error (held_of_none hk) _⟩
  | some k =>
      have hsite : heldSite site s = ⟨s, [], .ok k⟩ := held_of_some hk
      rw [hk, Option.bind_some, Option.map_eq_none_iff, place?] at h
      rw [Action.bind_of_quiet hsite]
      split at h
      · rename_i hall
        obtain ⟨o, ho⟩ := heldIfNamed_apply hall
        rw [Action.bind_of_quiet ho]
        cases hscope : context.scope with
        | heldNamespace holder =>
            rw [hscope] at h
            exact ⟨_, Action.bind_of_error (heldNamespace_of_none (Option.map_eq_none_iff.mp h)) _⟩
        | heldStub holder =>
            rw [hscope] at h
            exact ⟨_, Action.bind_of_error (held_of_none (Option.map_eq_none_iff.mp h)) _⟩
      · rename_i hall
        cases hentered : context.enteredFrom with
        | none =>
            rw [hentered] at hall
            exact absurd rfl hall
        | some holder =>
            rw [hentered, Option.all_some, Option.not_isSome_iff_eq_none] at hall
            have hfail : heldIfNamed (some holder) s = ⟨s, [], .error (.unbound holder)⟩ :=
              Action.bind_of_error (heldNamespace_of_none hall) _
            exact ⟨_, Action.bind_of_error hfail _⟩

/-- An evaluation in a stub puts back the site and its counters, and the stub beside the store. -/
theorem atSite_apply_stub {holder : String} {p : PlacedSite} (hk : s.sites.get? site = some k)
    (hplace : s.place? context = some (.ofStub holder)) (hp : s.store.site? k = some p) :
    ∃ stub, let r := x Stub.scope ⟨p.site, s.store.tally p.tally, stub⟩
      (atSite site context x s).notes = r.notes ∧
        (atSite site context x s).state.store = s.store.settle k p.tally r.state := by
  have hsite : heldSite site s = ⟨s, [], .ok k⟩ := held_of_some hk
  have hplacing : Store.placed k s.store = ⟨s.store, [], .ok p⟩ := by
    unfold Store.placed
    rw [hp]
  have hplaced : onStore (Store.placed k) s = ⟨s, [], .ok p⟩ := by
    unfold onStore
    rw [Action.within_apply, hplacing]
  unfold place? at hplace
  split at hplace
  · rename_i hall
    obtain ⟨o, ho⟩ := heldIfNamed_apply hall
    unfold atSite
    rw [Action.bind_of_quiet hsite, Action.bind_of_quiet ho]
    cases hscope : context.scope with
    | heldNamespace holder =>
        rw [hscope] at hplace
        obtain ⟨_, _, hij⟩ := Option.map_eq_some_iff.mp hplace
        exact nomatch hij
    | heldStub holder' =>
        rw [hscope] at hplace
        obtain ⟨stub, hstub, -⟩ := Option.map_eq_some_iff.mp hplace
        have happly : heldStub holder' s = ⟨s, [], .ok stub⟩ := held_of_some hstub
        dsimp only
        rw [Action.bind_of_quiet happly, Action.bind_of_quiet hplaced, Action.within_apply]
        exact ⟨stub, rfl, rfl⟩
  · exact nomatch hplace

/-- **A call where a context stands is one deed.** -/
theorem atSite_run (hx : Reading.IsCall x) (hs : s.Sound) (site : String) (context : ContextTerm) :
    ∃ ds, s.store.Run (atSite site context x s).notes ds (atSite site context x s).state.store ∧
      Calls (s.evaluationAt? site context) 1 ds := by
  cases he : s.evaluationAt? site context with
  | none =>
      obtain ⟨e, happly⟩ := atSite_of_none (x := x) he
      rw [happly]
      exact ⟨[], Run.refl s.store, rfl⟩
  | some e =>
      obtain ⟨k, hk, hmap⟩ := Option.bind_eq_some_iff.mp he
      obtain ⟨place, hplace, rfl⟩ := Option.map_eq_some_iff.mp hmap
      obtain ⟨p, hp⟩ := hs.exists_site hk
      cases place with
      | ofNamespace i =>
          have hrun := Store.atSite_run hx hs.store.linked hp i
          rw [Store.atSite_of_some hp] at hrun
          rw [atSite_apply x hk hplace hp]
          refine ⟨_, hrun, rfl, fun d hd => ⟨_, List.mem_singleton.mp hd, rfl, rfl⟩⟩
      | ofStub holder =>
          obtain ⟨stub, hnotes, hstore⟩ := atSite_apply_stub (x := x) hk hplace hp
          rw [hnotes, hstore, hx.state]
          refine ⟨_, Run.single (Step.callElsewhere Stub.scope stub hp), rfl, fun d hd => ?_⟩
          exact ⟨_, List.mem_singleton.mp hd, rfl, rfl⟩

end calls

theorem SameNames.evaluationAt?_eq (h : SameNames s t) (site : String) (context : ContextTerm) :
    t.evaluationAt? site context = s.evaluationAt? site context := by
  unfold evaluationAt?
  rw [h.sites, h.place?_eq]

/-- **Repeated evaluations are as many calls.** -/
theorem repeated_run (n : Nat) (hs : s.Sound) (site : String) (context : ContextTerm) :
    ∃ ds, s.store.Run (Action.repeated n (atSite site context Reading.evaluate) s).notes ds
        (Action.repeated n (atSite site context Reading.evaluate) s).state.store ∧
      Calls (s.evaluationAt? site context) (n + 1) ds := by
  induction n generalizing s with
  | zero => exact atSite_run Reading.evaluate_isCall hs site context
  | succ n ih =>
      have hkeeps : (atSite site context Reading.evaluate).Keeps (reading fun _ _ => True) s fun _ _ => True :=
        atSite_keeps Reading.evaluate_keeps fun _ _ => trivial
      obtain ⟨hs', ⟨-, hnames⟩, -⟩ := hkeeps hs
      obtain ⟨ds, hrun, hcalls⟩ := atSite_run Reading.evaluate_isCall hs site context
      obtain ⟨es, hrun', hcalls'⟩ := ih hs'
      rw [hnames.evaluationAt?_eq] at hcalls'
      refine ⟨ds ++ es, hrun.trans hrun', ?_⟩
      rw [Nat.add_comm (n + 1)]
      exact hcalls.append hcalls'

/-! ### What commands do -/

/-- The counters that a term stands for. -/
def tallyOf? (s : Session) : TallyTerm → Option TallyId
  | .ofRealm holder => (s.realms.get? holder).map fun r => (s.store.realm r).tally
  | .heldTally holder => s.tallies.get? holder

theorem heldTally_of_some {tally : TallyTerm} {t : TallyId} (h : s.tallyOf? tally = some t) :
    heldTally tally s = ⟨s, [], .ok t⟩ := by
  cases tally with
  | ofRealm holder =>
      obtain ⟨r, hr, rfl⟩ := Option.map_eq_some_iff.mp h
      exact Action.bind_of_quiet (held_of_some hr) _
  | heldTally holder => exact held_of_some h

theorem heldTally_of_none {tally : TallyTerm} (h : s.tallyOf? tally = none) :
    ∃ e, heldTally tally s = ⟨s, [], .error e⟩ := by
  cases tally with
  | ofRealm holder => exact ⟨_, Action.bind_of_error (held_of_none (Option.map_eq_none_iff.mp h)) _⟩
  | heldTally holder => exact ⟨_, held_of_none h⟩

/-- **What a command does with sites and counters.**  An evaluation calls its site as often as it says, and a
realm invalidates its live sites and gives their number.  A workload speaks of new sites only. -/
def Does (s : Session) : Command → List Deed → Prop
  | .evaluate site context times, ds => Calls (s.evaluationAt? site context) (times - 1 + 1) ds
  | .resolve site context, ds => Calls (s.evaluationAt? site context) 1 ds
  | .siteDefined site context, ds => Calls (s.evaluationAt? site context) 1 ds
  | .definition site context, ds => Calls (s.evaluationAt? site context) 1 ds
  | .invalidate site, ds => ds = (((s.sites.get? site).bind fun k =>
      (s.store.site? k).map fun p => Deed.invalidation k p.tally).toList)
  | .invalidateAll realm, ds =>
    match s.realms.get? realm with
    | none => ds = []
    | some r => ds = (s.store.liveSites r).map (fun k => .invalidation k (s.store.realm r).tally) ∧
        (perform (.invalidateAll realm) s).result = .ok (.number ds.length)
  | .rename site name, ds =>
    ds = (((s.sites.get? site).filter fun _ => isConstantName name).map Deed.renaming).toList
  | .record tally event times, ds =>
    ds = ((s.tallyOf? tally).map fun t => List.replicate times (Deed.record t event)).getD []
  | .work _ _ _, ds => ∀ d ∈ ds, Workload.DoneFrom s.store.sites.size d
  | _, ds => ds = []

/-- A command does nothing with sites and counters. -/
def quiet : Command → Bool
  | .evaluate _ _ _ | .resolve _ _ | .siteDefined _ _ | .definition _ _ => false
  | .invalidate _ | .invalidateAll _ | .rename _ _ | .record _ _ _ | .work _ _ _ => false
  | _ => true

section commands

variable {c : Command}

theorem run_map {α : Type} {x : Action Session α} {g : α → Answer}
    (h : s.store.Run (x s).notes ds (x s).state.store) :
    s.store.Run ((x >>= fun a => pure (g a)) s).notes ds ((x >>= fun a => pure (g a)) s).state.store := by
  rw [Action.bind_pure_apply]
  exact h

/-- A command that speaks of something is a run if it is one where that is held. -/
theorem exists_run_of_held {β : Type} {part : Session → Dictionary β} {holder : String}
    {f : β → Action Session Answer} {q : List Deed → Prop} (hnone : (part s).get? holder = none → q [])
    (hsome : ∀ b, (part s).get? holder = some b →
      ∃ ds, s.store.Run (f b s).notes ds (f b s).state.store ∧ q ds) :
    ∃ ds, s.store.Run ((held part holder >>= f) s).notes ds ((held part holder >>= f) s).state.store ∧
      q ds := by
  cases hb : (part s).get? holder with
  | none =>
      rw [Action.bind_of_error (held_of_none hb)]
      exact ⟨[], Run.refl s.store, hnone hb⟩
  | some b =>
      rw [Action.bind_of_quiet (held_of_some hb)]
      exact hsome b hb

theorem quiet_traced (hq : quiet c = true) :
    (perform c).Keeps (tracing fun _ => False) s fun _ _ => True := by
  cases c with
  | openClass holder name parent superclass realm =>
      apply creating_traced holder
      refine Action.Keeps.bind (held_keeps realms realm) ?_
      rintro r s _ hs - ⟨rfl, hr⟩
      refine Action.Keeps.bind (heldNamespace_keeps parent) ?_
      rintro p s _ hs - ⟨rfl, hp⟩
      refine Action.Keeps.bind (heldIfNamed_keeps superclass) ?_
      rintro sup s _ - - ⟨rfl, hsup, -⟩
      refine (onStore_traced (Store.openClass_traced r name (hs.realms hr).1
        (hs.isAlive_of_held hp) fun h => ?_)).imp fun _ _ _ h => h.1
      obtain ⟨holder', hh⟩ := hsup _ h
      exact hs.isAlive_of_held hh
  | openModule holder name parent realm =>
      apply creating_traced holder
      refine Action.Keeps.bind (held_keeps realms realm) ?_
      rintro r s _ hs - ⟨rfl, hr⟩
      refine Action.Keeps.bind (heldNamespace_keeps parent) ?_
      rintro p s _ hs - ⟨rfl, hp⟩
      exact (onStore_traced (Store.openModule_traced r name (hs.realms hr).1
        (hs.isAlive_of_held hp))).imp fun _ _ _ h => h.1
  | newClass holder name parent superclass =>
      show (creating holder _).Keeps _ s _
      rw [creating_bind]
      refine Action.Keeps.bind (heldNamespace_keeps parent) ?_
      rintro p s _ hs - ⟨rfl, hp⟩
      rw [creating_bind]
      refine Action.Keeps.bind (heldIfNamed_keeps superclass) ?_
      rintro sup s _ - - ⟨rfl, hsup, -⟩
      have hsuper : ∀ {i}, sup = some i → s.store.world.isAlive i = true := by
        intro i h
        obtain ⟨holder', hh⟩ := hsup _ h
        exact hs.isAlive_of_held hh
      exact named_traced holder (World.newClass_makes name (hs.isAlive_of_held hp) hsuper)
  | newModule holder name parent =>
      show (creating holder _).Keeps _ s _
      rw [creating_bind]
      refine Action.Keeps.bind (heldNamespace_keeps parent) ?_
      rintro p s _ hs - ⟨rfl, hp⟩
      exact named_traced holder (World.newModule_makes name (hs.isAlive_of_held hp))
  | newTopLevel holder => exact named_traced holder (World.newTopLevel_makes _)
  | dropNamespace holder =>
      exact Action.Keeps.map (dropNamespace_traced holder)
  | define ns name value =>
      refine Action.Keeps.bind (heldNamespace_keeps ns) fun i t _ _ _ _ => ?_
      refine Action.Keeps.bind (valueOf_keeps value) fun v u _ _ _ _ => ?_
      exact Action.Keeps.map (onWorld_traced (World.define_calm _ i name v))
  | remove ns name =>
      refine Action.Keeps.bind (heldNamespace_keeps ns) fun i t _ _ _ _ => ?_
      exact Action.Keeps.map (onWorld_traced (World.remove_calm _ i name))
  | includeModule ns mixin =>
      refine Action.Keeps.bind (heldNamespace_keeps ns) ?_
      rintro i s _ hs - ⟨rfl, hi⟩
      refine Action.Keeps.bind (heldNamespace_keeps mixin) ?_
      rintro m s _ - - ⟨rfl, hm⟩
      exact Action.Keeps.map (onWorld_traced
        (World.includeModule_calm (hs.isAlive_of_held hi) (hs.isAlive_of_held hm)))
  | reopen ns =>
      refine Action.Keeps.bind (heldNamespace_keeps ns) fun i t _ _ _ _ => ?_
      exact Action.Keeps.map (onWorld_traced (World.reopen_calm _ i))
  | dispatch ns name =>
      refine Action.Keeps.bind (heldNamespace_keeps ns) fun i t _ _ _ _ => ?_
      exact Action.Keeps.map (onWorld_traced (World.dispatch_calm _ i name))
  | setHandler ns label response =>
      refine Action.Keeps.bind (heldNamespace_keeps ns) fun i t _ _ _ _ => ?_
      exact Action.Keeps.map (onWorld_traced (World.setHandler_calm _ i _))
  | survey context name =>
      exact Action.Keeps.map (survey_traced context name)
  | newSite holder name position realm =>
      refine Action.Keeps.bind (held_keeps realms realm) fun r t _ _ _ _ => ?_
      refine Action.Keeps.bind (onStore_traced (Store.makeSite_traced r name position)) ?_
      rintro k u _ - - ⟨⟨-, hlt, hfresh⟩, -⟩
      exact Action.Keeps.map (bindSite_traced holder hlt hfresh)
  | newFreeSite holder name position policy tally =>
      refine Action.Keeps.bind (heldTally_keeps tally) fun r t _ _ _ _ => ?_
      refine Action.Keeps.bind (onStore_traced (Store.newSite_traced name position policy r)) ?_
      rintro k u _ - - ⟨⟨-, hlt, hfresh⟩, -⟩
      exact Action.Keeps.map (bindSite_traced holder hlt hfresh)
  | dropSite holder => exact Action.Keeps.map (dropSite_traced holder)
  | newRealm holder policy =>
      exact Action.Keeps.map (startRealm_traced holder _ policy)
  | newTally holder =>
      refine Action.Keeps.bind (onStore_traced Store.newTally_traced) ?_
      intro tally t _ _ _ _
      exact Action.Keeps.map (overlooks_tracing.keeps ⟨rfl, rfl, rfl⟩)
  | _ => first | exact overlooks_tracing.perform_keeps rfl | exact nomatch hq

/-- **A quiet command is a run without deeds.** -/
theorem quiet_run (hs : s.Sound) (hq : quiet c = true) :
    s.store.Run (perform c s).notes [] (perform c s).state.store := by
  obtain ⟨-, ⟨ds, hrun, hds⟩, -⟩ := quiet_traced hq hs
  rwa [List.eq_nil_iff_forall_not_mem.mpr hds] at hrun

/-- **What every command does is a run of steps.** -/
theorem perform_does (hs : s.Sound) (hl : s.store.Listed) (c : Command) :
    ∃ ds, s.store.Run (perform c s).notes ds (perform c s).state.store ∧ s.Does c ds := by
  cases c with
  | evaluate site context times =>
      obtain ⟨ds, hrun, hcalls⟩ := repeated_run (times - 1) hs site context
      exact ⟨ds, run_map hrun, hcalls⟩
  | resolve site context =>
      obtain ⟨ds, hrun, hcalls⟩ := atSite_run Reading.resolve_isCall hs site context
      exact ⟨ds, run_map hrun, hcalls⟩
  | siteDefined site context =>
      obtain ⟨ds, hrun, hcalls⟩ := atSite_run Reading.isDefined_isCall hs site context
      exact ⟨ds, run_map hrun, hcalls⟩
  | definition site context =>
      obtain ⟨ds, hrun, hcalls⟩ := atSite_run Reading.definition_isCall hs site context
      exact ⟨ds, run_map hrun, hcalls⟩
  | invalidate site =>
      refine exists_run_of_held (fun hnone => ?_) fun k hk => ?_
      · rw [Does, hnone]
        rfl
      · obtain ⟨p, hp⟩ := hs.exists_site hk
        refine ⟨[.invalidation k p.tally], run_map (x := onStore _) (Store.invalidate_run hp), ?_⟩
        rw [Does, hk, Option.bind_some, hp]
        rfl
  | rename site name =>
      refine exists_run_of_held (fun hnone => ?_) fun k hk => ?_
      · rw [Does, hnone]
        rfl
      · obtain ⟨p, hp⟩ := hs.exists_site hk
        refine ⟨_, run_map (x := onStore _) (Store.renameSite_run hp name), ?_⟩
        rw [Does, hk, Option.filter_some]
        split <;> rfl
  | invalidateAll realm =>
      refine exists_run_of_held (fun hnone => ?_) fun r hr => ?_
      · rw [Does, hnone]
      · obtain ⟨hrun, hok⟩ := Store.invalidateAll_run hl r
        refine ⟨_, run_map (x := onStore _) hrun, ?_⟩
        have hresult : (perform (.invalidateAll realm) s).result =
            ((Store.invalidateAll r s.store).result).map Answer.number := by
          show ((held realms realm >>= _) s).result = _
          rw [Action.bind_of_quiet (held_of_some hr), Action.bind_pure_apply]
          rfl
        rw [Does, hr]
        refine ⟨rfl, ?_⟩
        rw [hresult, hok, List.length_map]
        rfl
  | record tally event times =>
      show ∃ ds, s.store.Run ((heldTally tally >>= _) s).notes ds ((heldTally tally >>= _) s).state.store ∧ _
      cases ht : s.tallyOf? tally with
      | none =>
          obtain ⟨e, hheld⟩ := heldTally_of_none ht
          rw [Action.bind_of_error hheld]
          refine ⟨[], Run.refl s.store, ?_⟩
          rw [Does, ht]
          rfl
      | some t =>
          rw [Action.bind_of_quiet (heldTally_of_some ht)]
          refine ⟨_, run_map (x := onStore _) (Store.record_run t event times 0 s.store), ?_⟩
          rw [Does, ht]
          rfl
  | work realm workload iterations =>
      refine exists_run_of_held (fun hnone => ?_) fun r hr => ?_
      · exact fun _ h => nomatch h
      · obtain ⟨-, ⟨-, ds, hrun, hds⟩, -⟩ := Workload.perform_traced (hs.realms hr).1 (hs.isAlive_top hr)
          (Nat.le_refl _) iterations workload hs.store
        exact ⟨ds, run_map (x := onStore _) hrun, hds⟩
  | _ => exact ⟨[], quiet_run hs rfl, rfl⟩

end commands

/-! ### Runs of commands -/

/-- Commands with the deeds that they do, one after another. -/
inductive Ledger : Session → List Command → List Deed → Prop
  | nil (s : Session) : Ledger s [] []
  | cons {s : Session} {c : Command} {cs : List Command} {ds es : List Deed} :
      s.store.Run (perform c s).notes ds (perform c s).state.store → s.Does c ds →
      Ledger (perform c s).state cs es → Ledger s (c :: cs) (ds ++ es)

/-- The ledger of one command. -/
theorem Ledger.does {c : Command} (h : s.Ledger [c] ds) : s.Does c ds := by
  cases h with
  | cons _ hdoes hrest =>
      cases hrest with
      | nil =>
          rw [List.append_nil]
          exact hdoes

theorem listed_perform (hs : s.Sound) (hl : s.store.Listed) (c : Command) :
    (perform c s).state.store.Listed := by
  obtain ⟨ds, hrun, -⟩ := perform_does hs hl c
  exact hrun.listed hl

/-- **Every run of commands has a ledger.** -/
theorem exists_ledger (hs : s.Sound) (hl : s.store.Listed) (cs : List Command) : ∃ ds, s.Ledger cs ds := by
  induction cs generalizing s with
  | nil => exact ⟨[], Ledger.nil s⟩
  | cons c cs ih =>
      obtain ⟨ds, hrun, hdoes⟩ := perform_does hs hl c
      obtain ⟨es, hes⟩ := ih (sound_perform hs c) (listed_perform hs hl c)
      exact ⟨ds ++ es, Ledger.cons hrun hdoes hes⟩

theorem listed_after (hs : s.Sound) (hl : s.store.Listed) (cs : List Command) : (s.after cs).store.Listed := by
  induction cs generalizing s with
  | nil => exact hl
  | cons c cs ih => exact ih (sound_perform hs c) (listed_perform hs hl c)

/-- The notes of a run of commands. -/
def notesOf (s : Session) (cs : List Command) : List Note := (s.run cs).flatMap Outcome.notes

theorem withoutOverflow_iff {cs : List Command} :
    s.WithoutOverflow cs ↔ .fault (.overflow .generation) ∉ s.notesOf cs := by
  simp [WithoutOverflow, notesOf]

/-- A ledger is one of the run of the store. -/
theorem Ledger.run {cs : List Command} (h : s.Ledger cs ds) :
    s.store.Run (s.notesOf cs) ds (s.after cs).store := by
  induction h with
  | nil s => exact Run.refl s.store
  | cons hrun _ _ ih => exact hrun.trans ih

/-- A session starts by a run of the empty store. -/
theorem run_start (policy : Policy) :
    ({} : Store).Run (startRealm mainRealm mainTop policy {}).notes [] (start policy).store := by
  obtain ⟨-, ⟨ds, hrun, hds⟩, -⟩ := startRealm_traced (A := fun _ => False) mainRealm mainTop policy sound_empty
  rwa [List.eq_nil_iff_forall_not_mem.mpr hds] at hrun

theorem listed_start (policy : Policy) : (start policy).store.Listed := (run_start policy).listed nofun

end ConstantResolution.Session
