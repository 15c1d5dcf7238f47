import ConstantResolution.Proofs.Session.Runs

/-! # Actions of a session are runs

What a session does to its store is a run of steps, whether it names, drops, opens or evaluates
(`tracing`).  A call in the place that a context stands for is one deed (`atSite_run`), and repeated calls
are as many (`repeated_run`). -/

namespace ConstantResolution.Session

open Store (Run Step)

variable {s t : Session} {i : NamespaceId} {k : SiteId} {r : RealmId} {holder site : String}
  {context : ContextTerm} {A : Deed → Prop}

/-- The contract of actions that are runs with deeds of a certain kind. -/
def tracing (A : Deed → Prop) : Contract Session where
  valid := Sound
  step := fun s notes t => ∃ ds, s.store.Run notes ds t.store ∧ ∀ d ∈ ds, A d
  refl := fun s notes => ⟨[], Run.quiet s.store notes, nofun⟩
  trans := by
    rintro s t u notes notes' ⟨ds, hr, hA⟩ ⟨es, hr', hA'⟩
    exact ⟨ds ++ es, hr.trans hr', fun d hd => (List.mem_append.mp hd).elim (hA d) (hA' d)⟩

/-- The contract that allows evaluations everywhere, of which only soundness is used here. -/
abbrev anywhere : Contract Session := contract fun _ _ => True

/-- An action that leaves a sound session behind, and is a run without deeds. -/
theorem traced {α : Type} {x : Action Session α} {q : α → Session → Prop} (hx : x.Keeps anywhere s q)
    (hrun : s.Sound → s.store.Run (x s).notes [] (x s).state.store) : x.Keeps (tracing A) s q := by
  intro hs
  obtain ⟨hv, -, hr⟩ := hx hs
  exact ⟨hv, ⟨[], hrun hs, nofun⟩, hr⟩

/-! ### Actions on parts -/

theorem onStore_traced {α : Type} {x : Action Store α} {q : α → Store → Prop}
    (hx : x.Keeps (Store.tracing A) s.store q) :
    (onStore x).Keeps (tracing A) s fun a t => q a t.store ∧ t.realms = s.realms := by
  have hcontract : x.Keeps (Store.contract fun _ _ => True) s.store q :=
    hx.weaken (fun _ => Iff.rfl) fun _ _ _ h => h.1
  intro hs
  obtain ⟨hv, -, hr⟩ := onStore_keeps (R := fun _ _ => True) (fun _ => Or.inr trivial) hcontract hs
  exact ⟨hv, (hx hs.store).2.1.2, hr⟩

theorem onWorld_traced {α : Type} {x : Action World α} {q : α → World → Prop}
    (hx : x.Keeps World.calm s.store.world q) :
    (onWorld x).Keeps (tracing A) s fun a t => q a t.store.world :=
  (onStore_traced (Store.onWorld_traced hx)).imp fun _ _ _ h => h.1.1

theorem overlooks_tracing : Overlooks (tracing A) := fun s notes t h hs =>
  ⟨(overlooks_contract (fun _ _ => True) s notes t h hs).1, [], h.store ▸ Run.quiet s.store notes, nofun⟩

theorem survey_traced (context : ContextTerm) (name : String) :
    (survey context name).Keeps (tracing A) s fun _ _ => True := by
  refine overlooks_tracing.survey_keeps name fun i _ => ?_
  have hsurvey := Scope.survey_keeps (fun w => World.dispatch_calm w i name) s.store.world
  exact (onWorld_traced hsurvey).imp fun _ _ _ _ => trivial

/-! ### Names -/

theorem bindNamespace_traced (holder : String) (hi : s.store.world.isAlive i = true) :
    (bindNamespace holder i).Keeps (tracing A) s fun _ _ => True :=
  traced (bindNamespace_keeps holder hi) fun _ => Run.single (Step.hold holder hi)

theorem dropNamespace_traced (holder : String) :
    (dropNamespace holder).Keeps (tracing A) s fun _ _ => True :=
  traced (dropNamespace_keeps holder) fun _ => Run.single (Step.letGo holder)

theorem creating_bind {α : Type} (holder : String) (x : Action Session α)
    (f : α → Action Session NamespaceId) :
    creating holder (x >>= f) = x >>= fun a => creating holder (f a) := Action.bind_assoc x f _

/-- A namespace that is opened, and then held by a name. -/
theorem creating_traced (holder : String) {x : Action Session NamespaceId}
    (hx : x.Keeps (tracing A) s fun i t => t.store.world.isAlive i = true) :
    (creating holder x).Keeps (tracing A) s fun _ _ => True := by
  unfold creating
  refine Action.Keeps.bind hx fun i t _ _ _ hi => ?_
  exact Action.Keeps.map (bindNamespace_traced holder hi)

/-- **A namespace that is created is held by a name at once.** -/
theorem named_traced (holder : String) {x : Action World NamespaceId} (hx : s.store.world.Makes x) :
    (creating holder (onWorld x)).Keeps (tracing A) s fun _ _ => True := by
  refine traced (creating_keeps holder (keeps_of_reading (onWorld_keeps hx.keeps))) fun _ => ?_
  unfold creating
  rcases hx with ⟨e, hx⟩ | ⟨n, hn, hx⟩
  · have hrefused : onWorld x s = ⟨s, [], .error e⟩ := by
      unfold onWorld onStore Store.onWorld
      rw [Action.within_apply, Action.within_apply, hx]
    rw [Action.bind_of_error hrefused]
    exact Run.refl s.store
  · have hmade : onWorld x s = ⟨{ s with store := { s.store with world := s.store.world.create n } }, [],
        .ok (s.store.world.size + 1)⟩ := by
      unfold onWorld onStore Store.onWorld
      rw [Action.within_apply, Action.within_apply, hx]
    rw [Action.bind_of_quiet hmade]
    exact Run.single (Step.named holder hn)

theorem dropSite_traced (holder : String) :
    (dropSite holder).Keeps (tracing A) s fun _ t => t.store.sites.size = s.store.sites.size ∧
      ∀ {k i}, s.store.FreshAt k i → t.store.FreshAt k i := by
  refine traced (dropSite_keeps holder) fun _ => ?_
  unfold dropSite
  rw [Action.read_bind]
  cases s.sites.get? holder with
  | none => exact Run.refl s.store
  | some k => exact Run.single (Step.dropSite k)

theorem bindSite_traced (holder : String) (hk : k < s.store.sites.size) (hf : ∀ i, s.store.FreshAt k i) :
    (bindSite holder k).Keeps (tracing A) s fun _ _ => True := by
  refine traced (bindSite_keeps holder hk hf) fun hs => ?_
  obtain ⟨-, ⟨ds, hrun, hds⟩, -⟩ := dropSite_traced (A := fun _ => False) holder hs
  obtain rfl : ds = [] := List.eq_nil_iff_forall_not_mem.mpr hds
  unfold bindSite
  rcases hdrop : dropSite holder s with ⟨t, notes, e | b⟩ <;> rw [hdrop] at hrun
  · rw [Action.bind_of_error hdrop]
    exact hrun
  · rw [Action.bind_of_ok hdrop]
    exact (List.append_nil notes).symm ▸ hrun

theorem bindRealm_traced (holder : String) (hr : r < s.store.realms.size)
    (htop : (s.store.realm r).top ∈ (s.store.realm r).registered)
    (hnew : ∀ name, s.realms.get? name ≠ some r) :
    (bindRealm holder r).Keeps (tracing A) s fun _ t =>
      (t.store.realm r).top = (s.store.realm r).top ∧
        (t.store.realm r).top ∈ (t.store.realm r).registered := by
  refine traced (bindRealm_keeps holder hr htop hnew) fun _ => ?_
  rw [bindRealm_eq]
  show s.store.Run [] [] (s.withoutRealm holder)
  unfold withoutRealm
  cases s.realms.get? holder with
  | none => exact Run.refl s.store
  | some o => exact Run.single (Step.dropRealm o)

theorem startRealm_traced (holder topHolder : String) (policy : Policy) :
    (startRealm holder topHolder policy).Keeps (tracing A) s fun _ _ => True := by
  unfold startRealm
  refine Action.Keeps.of_valid fun hs => ?_
  refine Action.Keeps.bind (onStore_traced (Store.newRealm_traced policy)) ?_
  rintro r t _ ht - ⟨⟨rfl, hlt, hmem⟩, hrealms⟩
  refine Action.Keeps.read_bind fun _ => ?_
  refine Action.Keeps.bind (bindRealm_traced holder hlt hmem fun name hname => ?_) ?_
  · rw [hrealms] at hname
    exact Nat.lt_irrefl _ (hs.realms hname).1
  · rintro _ u _ hu - ⟨htop, hmem'⟩
    have halive : u.store.world.isAlive (t.store.realm s.store.realms.size).top = true := by
      rw [← htop]
      exact hu.store.isAlive_of_mem hmem'
    exact Action.Keeps.bind (bindNamespace_traced topHolder halive) fun _ _ _ _ _ _ =>
      Action.Keeps.pure trivial

end ConstantResolution.Session
