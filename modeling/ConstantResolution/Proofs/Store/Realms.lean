import ConstantResolution.Proofs.Store.Actions
import ConstantResolution.Proofs.World.Calm

/-! # Actions of a realm

What a realm offers keeps the contract of stores: it makes sites and invalidates them, and it opens
classes and modules, which are alive afterwards (`openClass_keeps`, `openModule_keeps`).  A new realm
holds its top level (`newRealm_keeps`).  A realm that is given up lets go of what it registered, and
what realms and names still hold stays counted (`dropRealm_spec`). -/

namespace ConstantResolution.Store

variable {s t : Store} {i p : NamespaceId} {r : RealmId} {R : SiteId → NamespaceId → Prop}

/-! ### Making a realm -/

theorem registrations_push {m : Realm} (hm : m.registered = []) :
    ({ s with realms := s.realms.push m } : Store).registrations = s.registrations := by
  funext i
  simp [registrations, hm]

/-- A realm that holds nothing yet. -/
theorem pushRealm_keeps {m : Realm} (hm : m.registered = []) :
    (Action.modify fun s : Store => { s with realms := s.realms.push m }).Keeps (contract R) s
      fun _ t => t = { s with realms := s.realms.push m } := by
  refine keeps_of_world_eq rfl (fun i => ?_) (Nat.le_refl _) (by simp) (fun {r'} hr => ?_) fun h => h
  · rw [registrations_push hm]
  · have hget : ({ s with realms := s.realms.push m } : Store).realm r' = s.realm r' := by
      rw [realm, realm, Array.getD_eq_getD_getElem?, Array.getD_eq_getD_getElem?, Array.getElem?_push,
        if_neg (Nat.ne_of_lt hr)]
    rw [hget]
    exact ⟨rfl, List.Subset.refl _⟩

/-- **A new realm holds its top level.** -/
theorem newRealm_keeps (policy : Policy) :
    (newRealm policy).Keeps (contract R) s fun r t =>
      r = s.realms.size ∧ r < t.realms.size ∧ (t.realm r).top ∈ (t.realm r).registered := by
  unfold newRealm
  refine Action.Keeps.read_bind fun _ => ?_
  refine Action.Keeps.bind (onWorld_keeps (World.newTopLevel_makes s.world).keeps) ?_
  rintro top t _ - - ⟨htop, hrealms⟩
  refine Action.Keeps.bind newTally_keeps ?_
  rintro tally t' _ - hstep hrealms'
  have hsize : t'.realms.size = s.realms.size := by rw [hrealms', hrealms]
  refine Action.Keeps.bind (pushRealm_keeps rfl) ?_
  rintro _ t'' _ - hstep' rfl
  refine Action.Keeps.bind (register_keeps s.realms.size (hstep'.alive (hstep.alive htop))) ?_
  rintro _ u _ - hstep'' ⟨-, hu, hmem⟩
  have hlt : s.realms.size < (t'.realms.push { policy, top, tally }).size := by simp [hsize]
  have hrealm : ({ t' with realms := t'.realms.push { policy, top, tally } } : Store).realm s.realms.size =
      { policy, top, tally } := by
    rw [realm, Array.getD_eq_getD_getElem?, Array.getElem?_push, if_pos hsize.symm, Option.getD_some]
  refine Action.Keeps.pure ⟨rfl, by rw [hu]; exact hlt, ?_⟩
  rw [(hstep''.realm hlt).1, hrealm]
  exact hmem hlt

/-! ### Opening classes and modules -/

/-- What is met under a name can be opened again only if it is registered. -/
theorem isRegistered_of_opening {name : String} {kind : Kind} (h : s.opening r name p kind = .existing i) :
    s.isRegistered r i = true := by
  unfold opening at h
  split at h
  · exact nomatch h
  · split at h
    · rename_i v _ j hj
      obtain rfl : j = i := by simpa using h
      exact (Option.filter_eq_some_iff.mp (Option.filter_eq_some_iff.mp hj).1).2
    · exact nomatch h

/-- What can be opened again is registered, and so it lives. -/
theorem isAlive_of_opening (hs : s.Sound) {name : String} {kind : Kind}
    (h : s.opening r name p kind = .existing i) : s.world.isAlive i = true :=
  hs.isAlive_of_mem (List.contains_iff_mem.mp (isRegistered_of_opening h))

/-- A namespace that was established is registered. -/
theorem install_apply (r : RealmId) (name : String) (p : NamespaceId) (x : Action World NamespaceId) (s : Store) :
    install r name p x s = match World.establish p name x s.world with
      | ⟨w, notes, .error e⟩ => ⟨{ s with world := w }, notes, .error e⟩
      | ⟨w, notes, .ok i⟩ =>
        ⟨{ s with world := w.retain i, realms := s.realms.modify r (holding i) }, notes, .ok i⟩ := by
  have hworld : ∀ {o}, World.establish p name x s.world = o →
      onWorld (World.establish p name x) s = ⟨{ s with world := o.state }, o.notes, o.result⟩ := by
    rintro o rfl
    rfl
  unfold install
  rcases ho : World.establish p name x s.world with ⟨w, notes, e | i⟩
  · rw [Action.bind_of_error (hworld ho)]
  · rw [Action.bind_of_ok (hworld ho)]
    show (⟨_, notes ++ [], .ok i⟩ : Outcome Store NamespaceId) = _
    rw [List.append_nil]
    rfl

theorem install_keeps {x : Action World NamespaceId} (hx : s.world.Makes x) (name : String) :
    (install r name p x).Keeps (contract R) s fun i t => t.world.isAlive i = true := by
  unfold install
  refine Action.Keeps.bind (onWorld_keeps (World.establish_keeps hx p name)) ?_
  rintro i t _ - - ⟨hi, -⟩
  refine Action.Keeps.bind (register_keeps r hi) ?_
  rintro _ u _ - - ⟨halive, -⟩
  exact Action.Keeps.pure halive

theorem reopened_keeps (hi : s.world.isAlive i = true) :
    (reopened i).Keeps (contract R) s fun j t => t.world.isAlive j = true := by
  unfold reopened
  refine Action.Keeps.bind (onWorld_keeps (World.reopen_keeps s.world i)) ?_
  rintro _ t _ - hstep -
  exact Action.Keeps.pure (hstep.alive hi)

/-- **A class that was opened lives.** -/
theorem openClass_keeps (r : RealmId) (name : String) {sup : Option NamespaceId}
    (hp : s.world.isAlive p = true) (hsup : ∀ {i}, sup = some i → s.world.isAlive i = true) :
    (openClass r name p sup).Keeps (contract R) s fun i t => t.world.isAlive i = true := by
  unfold openClass
  split
  · refine Action.Keeps.get_bind fun hs => ?_
    split
    · exact install_keeps (World.newClass_makes name hp hsup) name
    · rename_i i hopen
      split
      · exact Action.Keeps.raise
      · exact reopened_keeps (isAlive_of_opening hs hopen)
    · exact Action.Keeps.raise
  · exact Action.Keeps.raise

theorem openModule_keeps (r : RealmId) (name : String) (hp : s.world.isAlive p = true) :
    (openModule r name p).Keeps (contract R) s fun i t => t.world.isAlive i = true := by
  unfold openModule
  split
  · refine Action.Keeps.get_bind fun hs => ?_
    split
    · exact install_keeps (World.newModule_makes name hp) name
    · rename_i i hopen
      exact reopened_keeps (isAlive_of_opening hs hopen)
    · exact Action.Keeps.raise
  · exact Action.Keeps.raise

/-! ### Sites of a realm -/

theorem pruneSites_keeps (r : RealmId) :
    (pruneSites r).Keeps (contract R) s fun _ t => t.sites = s.sites ∧ t.world = s.world := by
  unfold pruneSites
  refine Action.Keeps.read_bind fun _ => ?_
  refine (modifyRealm_keeps (f := fun m => { m with sites := s.liveSites r }) r (fun _ => rfl)
    fun _ => rfl).imp ?_
  rintro _ t - rfl
  exact ⟨rfl, rfl⟩

/-- **A new site is fresh everywhere.** -/
theorem makeSite_keeps (r : RealmId) (name : String) (position : Position) :
    (makeSite r name position).Keeps (contract R) s
      fun k t => k = s.sites.size ∧ k < t.sites.size ∧ ∀ i, t.FreshAt k i := by
  unfold makeSite
  refine Action.Keeps.read_bind fun _ => ?_
  refine Action.Keeps.bind (newSite_keeps name position _ _) ?_
  rintro k t _ - - ⟨hk, hlt, hfresh⟩
  refine Action.Keeps.bind (pruneSites_keeps r) ?_
  rintro _ u _ - - ⟨hsites, hworld⟩
  refine Action.Keeps.bind (modifyRealm_keeps r (fun _ => rfl) fun _ => rfl) ?_
  rintro _ v _ - - rfl
  refine Action.Keeps.pure ⟨hk, by rw [hsites]; exact hlt, fun i q hq => ?_⟩
  rw [site?, hsites] at hq
  rw [hworld]
  exact hfresh i q hq

theorem invalidateEach_keeps (ks : List SiteId) : (invalidateEach ks).Keeps (contract R) s fun _ _ => True := by
  induction ks generalizing s with
  | nil => exact Action.Keeps.pure trivial
  | cons k ks ih => exact Action.Keeps.bind (invalidate_keeps k) fun _ _ _ _ _ _ => ih

theorem invalidateAll_keeps (r : RealmId) : (invalidateAll r).Keeps (contract R) s fun _ _ => True := by
  unfold invalidateAll
  refine Action.Keeps.bind (pruneSites_keeps r) fun _ t _ _ _ _ => ?_
  refine Action.Keeps.read_bind fun _ => ?_
  refine Action.Keeps.bind (invalidateEach_keeps _) fun _ u _ _ _ _ => ?_
  refine Action.Keeps.bind (Action.Keeps.note (q := fun _ _ => True) trivial) fun _ _ _ _ _ _ => ?_
  exact Action.Keeps.pure trivial

/-! ### Giving a realm up -/

/-- To give up holds one after another is a run without faults, and what else is held stays counted. -/
theorem release_spec (is : List NamespaceId) (w : World) :
    w.NotedRun [] (is.foldl World.release w) ∧ (is.foldl World.release w).held = w.held ∧
      ∀ c, w.Counted (fun j => c j + is.count j) → (is.foldl World.release w).Counted c := by
  induction is generalizing w with
  | nil => exact ⟨World.NotedRun.refl w [], rfl, fun c h => h⟩
  | cons i is ih =>
      obtain ⟨hrun, hheld, hcounted⟩ := ih (w.release i)
      refine ⟨(World.notedRun_release w i).trans hrun, hheld.trans (World.held_release w i), fun c h => ?_⟩
      refine hcounted c (World.Counted.release fun j => ?_)
      have := h j
      simp only [List.count_cons, beq_iff_eq] at this
      rw [World.oneMore]
      omega

theorem registrations_dropRealm (s : Store) (r : RealmId) (j : NamespaceId) :
    (dropRealm r s).state.registrations j + (s.realm r).registered.count j = s.registrations j := by
  have hrealms : (dropRealm r s).state.realms = s.realms.modify r fun m => { m with registered := [] } := rfl
  by_cases hr : r < s.realms.size
  · exact registrations_modify hrealms hr j
  · rw [registrations_modify_of_le hrealms (Nat.le_of_not_lt hr), realm_of_size_le (Nat.le_of_not_lt hr)]
    rfl

/-- What a realm that is given up leaves behind. -/
theorem dropRealm_spec (hs : s.Sound) (r : RealmId) :
    (dropRealm r s).state.Sound ∧ s.world.NotedRun [] (dropRealm r s).state.world ∧
      (dropRealm r s).state.sites = s.sites ∧ (dropRealm r s).state.realms.size = s.realms.size ∧
      ∀ {r'}, r' < s.realms.size → r' ≠ r → (dropRealm r s).state.realm r' = s.realm r' := by
  obtain ⟨hrun, -, hcounted⟩ := release_spec (s.realm r).registered s.world
  have hrealms : (dropRealm r s).state.realms = s.realms.modify r fun m => { m with registered := [] } := rfl
  have hworld : (dropRealm r s).state.world = (s.realm r).registered.foldl World.release s.world := rfl
  refine ⟨⟨?_, ?_⟩, hrun, rfl, by rw [hrealms, Array.size_modify], fun {r'} hr hne => ?_⟩
  · exact hs.linked.notedRun hrun
  · refine hcounted _ ?_
    rw [funext (registrations_dropRealm s r)]
    exact hs.counted
  · rw [realm_modify hrealms hr, if_neg (Ne.symm hne)]

end ConstantResolution.Store
