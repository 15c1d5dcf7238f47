import Mathlib.Algebra.GroupWithZero.Nat
import ConstantResolution.Store.Realm
import ConstantResolution.Proofs.Site.Freshness
import ConstantResolution.Proofs.World.Holding

/-! # Actions on a store

A store is sound when the links of its world are and when what names and realms hold is counted; so
what a realm registered lives (`Sound.isAlive_of_mem`).  The contract of stores says what an action
leaves behind in which sites are read only where a relation `R` allows it: the world goes on by
steps whose faults are noted, what lives stays alive, realms keep their top level and what they
registered, and a site that is read in one namespace only stays fresh there.

Every action that a realm offers keeps the contract, apart from giving the realm up. -/

namespace ConstantResolution.Store

variable {s t u : Store} {i : NamespaceId} {k : SiteId} {r : RealmId} {R : SiteId → NamespaceId → Prop}

/-! ### What realms hold -/

/-- How often realms hold a namespace. -/
def registrations (s : Store) (i : NamespaceId) : Nat :=
  (s.realms.toList.map fun m => m.registered.count i).sum

/-- The change of one element of a list changes one summand. -/
theorem sum_map_modify {α : Type} {f : α → α} (g : α → Nat) {l : List α} {r : Nat} {a : α}
    (h : l[r]? = some a) : ((l.modify r f).map g).sum + g a = (l.map g).sum + g (f a) := by
  induction l generalizing r with
  | nil => exact nomatch h
  | cons b l ih =>
      cases r with
      | zero =>
          obtain rfl : b = a := by simpa using h
          rw [List.modify_zero_cons, List.map_cons, List.map_cons, List.sum_cons, List.sum_cons]
          omega
      | succ r =>
          have := ih (r := r) (by simpa using h)
          rw [List.modify_succ_cons, List.map_cons, List.map_cons, List.sum_cons, List.sum_cons]
          omega

theorem get?_realms (h : r < s.realms.size) : s.realms.toList[r]? = some (s.realm r) := by
  rw [Array.getElem?_toList, Array.getElem?_eq_getElem h, realm, Array.getD_eq_getD_getElem?,
    Array.getElem?_eq_getElem h, Option.getD_some]

theorem realm_of_size_le (h : s.realms.size ≤ r) : s.realm r = {} := by
  rw [realm, Array.getD_eq_getD_getElem?, Array.getElem?_eq_none h, Option.getD_none]

/-- How a change of a realm is counted. -/
theorem registrations_modify {f : Realm → Realm} (h : t.realms = s.realms.modify r f)
    (hr : r < s.realms.size) (i : NamespaceId) :
    t.registrations i + (s.realm r).registered.count i =
      s.registrations i + (f (s.realm r)).registered.count i := by
  rw [registrations, h, Array.toList_modify, registrations]
  exact sum_map_modify (fun m => m.registered.count i) (get?_realms hr)

theorem registrations_modify_of_le {f : Realm → Realm} (h : t.realms = s.realms.modify r f)
    (hr : s.realms.size ≤ r) (i : NamespaceId) : t.registrations i = s.registrations i := by
  rw [registrations, h, Array.toList_modify, List.modify_eq_self (by simpa using hr), registrations]

/-- What realms hold does not depend on the rest of them. -/
theorem registrations_eq_of_registered {f : Realm → Realm} (h : t.realms = s.realms.modify r f)
    (hf : ∀ m, (f m).registered = m.registered) : t.registrations = s.registrations := by
  funext i
  by_cases hr : r < s.realms.size
  · have := registrations_modify h hr i
    rw [hf] at this
    omega
  · exact registrations_modify_of_le h (Nat.le_of_not_lt hr) i

theorem count_registered_le (s : Store) (r : RealmId) (i : NamespaceId) :
    (s.realm r).registered.count i ≤ s.registrations i := by
  by_cases hr : r < s.realms.size
  · have := registrations_modify (s := s) (t := { s with realms := s.realms.modify r fun _ => {} })
      (f := fun _ => {}) rfl hr i
    simp only [List.count_nil] at this
    omega
  · rw [realm_of_size_le (Nat.le_of_not_lt hr)]
    exact Nat.zero_le _

/-- How a realm is seen after a change of one. -/
theorem realm_modify {f : Realm → Realm} (h : t.realms = s.realms.modify r f) {r' : RealmId}
    (hr : r' < s.realms.size) : t.realm r' = if r = r' then f (s.realm r') else s.realm r' := by
  have hget : s.realms[r']? = some s.realms[r'] := Array.getElem?_eq_getElem hr
  rw [realm, h, realm, Array.getD_eq_getD_getElem?, Array.getD_eq_getD_getElem?, Array.getElem?_modify,
    hget]
  split <;> rfl

/-! ### The contract -/

/-- The links of the world are sound, and what names and realms hold is counted. -/
structure Sound (s : Store) : Prop where
  linked : s.world.Linked
  counted : s.world.Counted s.registrations

/-- What a realm registered lives. -/
theorem Sound.isAlive_of_mem (h : s.Sound) (hi : i ∈ (s.realm r).registered) :
    s.world.isAlive i = true := by
  have hpos := List.count_pos_iff.mpr hi
  have hle := count_registered_le s r i
  exact h.counted.isAlive_of_pos h.linked (by omega)

/-- The memo of a site is out of date or right in a namespace. -/
def FreshAt (s : Store) (k : SiteId) (i : NamespaceId) : Prop :=
  ∀ p, s.site? k = some p → p.site.Fresh s.world i

/-- What an action on a store leaves behind that reads sites where `R` allows it. -/
structure Follows (R : SiteId → NamespaceId → Prop) (s : Store) (notes : List Note) (t : Store) :
    Prop where
  run : s.world.NotedRun notes t.world
  held : t.world.held = s.world.held
  alive : ∀ {i}, s.world.isAlive i = true → t.world.isAlive i = true
  sites : s.sites.size ≤ t.sites.size
  realms : s.realms.size ≤ t.realms.size
  realm : ∀ {r}, r < s.realms.size →
    (t.realm r).top = (s.realm r).top ∧ (s.realm r).registered ⊆ (t.realm r).registered
  fresh : .fault (.overflow .generation) ∉ notes → ∀ {k i}, (∀ j, R k j → j = i) → s.FreshAt k i →
    t.FreshAt k i

theorem Follows.refl (s : Store) (notes : List Note) : Follows R s notes s where
  run := World.NotedRun.refl s.world notes
  held := rfl
  alive := fun h => h
  sites := Nat.le_refl _
  realms := Nat.le_refl _
  realm := fun _ => ⟨rfl, List.Subset.refl _⟩
  fresh := fun _ _ _ _ h => h

theorem Follows.trans {notes notes' : List Note} (h : Follows R s notes t) (h' : Follows R t notes' u) :
    Follows R s (notes ++ notes') u where
  run := h.run.trans h'.run
  held := h'.held.trans h.held
  alive := fun ha => h'.alive (h.alive ha)
  sites := h.sites.trans h'.sites
  realms := h.realms.trans h'.realms
  realm := by
    intro r hr
    obtain ⟨htop, hreg⟩ := h.realm hr
    obtain ⟨htop', hreg'⟩ := h'.realm (hr.trans_le h.realms)
    exact ⟨htop'.trans htop, List.Subset.trans hreg hreg'⟩
  fresh := by
    intro hn k i hR hf
    rw [List.mem_append, not_or] at hn
    exact h'.fresh hn.2 hR (h.fresh hn.1 hR hf)

/-- The contract of actions that read sites where `R` allows it. -/
def contract (R : SiteId → NamespaceId → Prop) : Contract Store where
  valid := Sound
  step := Follows R
  refl := Follows.refl
  trans := Follows.trans

/-! ### Actions on parts -/

/-- A change that leaves the world alone, and what realms hold. -/
theorem keeps_of_world_eq {f : Store → Store} (hw : (f s).world = s.world)
    (hreg : ∀ i, (f s).registrations i = s.registrations i) (hsites : s.sites.size ≤ (f s).sites.size)
    (hrealms : s.realms.size ≤ (f s).realms.size)
    (hrealm : ∀ {r}, r < s.realms.size →
      ((f s).realm r).top = (s.realm r).top ∧ (s.realm r).registered ⊆ ((f s).realm r).registered)
    (hfresh : ∀ {k i}, s.FreshAt k i → (f s).FreshAt k i) :
    (Action.modify f).Keeps (contract R) s fun _ t => t = f s := by
  refine Action.Keeps.modify fun hs => ⟨⟨?_, ?_⟩, ?_, rfl⟩
  · rw [hw]
    exact hs.linked
  · rw [hw, funext hreg]
    exact hs.counted
  · refine ⟨?_, congrArg World.held hw, fun ha => ?_, hsites, hrealms, hrealm, fun _ _ _ _ h => hfresh h⟩
    · rw [hw]
      exact World.NotedRun.refl _ _
    · rwa [hw]

/-- Actions on a world leave alone who holds what. -/
theorem counted_follows {w w' : World} {notes : List Note} {c : NamespaceId → Nat} (hc : w.Counted c)
    (h : w.Follows notes w') : w'.Counted c := by
  intro j
  rw [h.held, h.holders]
  exact hc j

/-- An action on the world. -/
theorem onWorld_keeps {α : Type} {x : Action World α} {q : α → World → Prop}
    (hx : x.Keeps World.contract s.world q) :
    (onWorld x).Keeps (contract R) s fun a t => q a t.world ∧ t.realms = s.realms := by
  refine (Action.Keeps.within (d := contract R) hx (fun hs => hs.linked) ?_).imp ?_
  · intro w' notes hs hl hstep
    refine ⟨⟨hl, counted_follows hs.counted hstep⟩, ⟨hstep.run, hstep.held, hstep.alive, Nat.le_refl _,
      Nat.le_refl _, fun _ => ⟨rfl, List.Subset.refl _⟩, ?_⟩⟩
    exact fun hn k i _ h p hp => (h p hp).later hs.linked (hstep.run.later hs.linked hn)
  · rintro a t - ⟨w', rfl, hq⟩
    exact ⟨hq, rfl⟩

theorem site?_modify {f : PlacedSite → PlacedSite} (h : t.sites = s.sites.modify k f) (k' : SiteId) :
    t.site? k' = if k = k' then (s.site? k').map f else s.site? k' := by
  rw [site?, h, Array.getElem?_modify, site?]

/-- A change of one site that keeps its memo and its name, or drops the memo. -/
theorem modifySite_keeps {f : PlacedSite → PlacedSite} (k : SiteId)
    (hf : ∀ p, (f p).site.memo = none ∨ (f p).site.memo = p.site.memo ∧ (f p).site.name = p.site.name) :
    (Action.modify fun s => { s with sites := s.sites.modify k f }).Keeps (contract R) s
      fun _ t => t = { s with sites := s.sites.modify k f } := by
  refine keeps_of_world_eq rfl (fun _ => rfl) ?_ (Nat.le_refl _) (fun _ => ⟨rfl, List.Subset.refl _⟩) ?_
  · exact (Array.size_modify ..).ge
  · intro k' i h p hp
    rw [site?_modify (s := s) (k := k) (f := f) rfl] at hp
    split at hp
    · obtain ⟨p', hp', rfl⟩ := Option.map_eq_some_iff.mp hp
      rcases hf p' with hnone | ⟨hm, hn⟩
      · exact Site.Fresh.of_none hnone
      · exact (h p' hp').congr hm hn
    · exact h p hp

/-- A change of one realm that leaves alone what it holds. -/
theorem modifyRealm_keeps {f : Realm → Realm} (r : RealmId) (htop : ∀ m, (f m).top = m.top)
    (hreg : ∀ m, (f m).registered = m.registered) :
    (modifyRealm r f).Keeps (contract R) s fun _ t => t = { s with realms := s.realms.modify r f } := by
  have hsame : ({ s with realms := s.realms.modify r f } : Store).registrations = s.registrations :=
    registrations_eq_of_registered rfl hreg
  refine keeps_of_world_eq rfl (fun i => congrFun hsame i) (Nat.le_refl _) (Array.size_modify ..).ge ?_
    fun h => h
  intro r' hr
  rw [realm_modify (s := s) (r := r) (f := f) rfl hr]
  split
  · rw [hreg]
    exact ⟨htop _, List.Subset.refl _⟩
  · exact ⟨rfl, List.Subset.refl _⟩

/-! ### Counters and sites -/

theorem newTally_keeps : newTally.Keeps (contract R) s fun _ t => t.realms = s.realms := by
  intro hs
  obtain ⟨hv, hstep, -⟩ := keeps_of_world_eq (R := R) (s := s)
    (f := fun s => { s with tallies := s.tallies.push {} }) rfl (fun _ => rfl) (Nat.le_refl _)
    (Nat.le_refl _) (fun _ => ⟨rfl, List.Subset.refl _⟩) (fun h => h) hs
  exact ⟨hv, hstep, fun _ _ => rfl⟩

theorem record_keeps (t : TallyId) (event : Count) :
    (record t event).Keeps (contract R) s fun _ _ => True :=
  (keeps_of_world_eq rfl (fun _ => rfl) (Nat.le_refl _) (Nat.le_refl _)
    (fun _ => ⟨rfl, List.Subset.refl _⟩) fun h => h).imp fun _ _ _ _ => trivial

/-- A new site has no memo, and is fresh everywhere. -/
theorem newSite_keeps (name : String) (position : Position) (policy : Policy) (t : TallyId) :
    (newSite name position policy t).Keeps (contract R) s
      fun k s' => k = s.sites.size ∧ k < s'.sites.size ∧ ∀ i, s'.FreshAt k i := by
  intro hs
  unfold newSite
  cases hnew : Site.new name position policy with
  | error f => exact ⟨hs, Follows.refl s _, fun _ h => nomatch h⟩
  | ok site =>
      have hmemo : site.memo = none := by
        unfold Site.new at hnew
        split at hnew
        · rw [← Except.ok.inj hnew]
        · exact nomatch hnew
      have hget : ∀ k', ({ s with sites := s.sites.push ⟨site, t, true⟩ } : Store).site? k' =
          if k' = s.sites.size then some ⟨site, t, true⟩ else s.site? k' := fun k' => Array.getElem?_push
      obtain ⟨hv, hstep, -⟩ := keeps_of_world_eq (R := R) (s := s)
        (f := fun s => { s with sites := s.sites.push ⟨site, t, true⟩ }) rfl (fun _ => rfl)
        (by simp) (Nat.le_refl _) (fun _ => ⟨rfl, List.Subset.refl _⟩) (by
          intro k' i h p hp
          rw [hget] at hp
          split at hp
          · rw [← Option.some.inj hp]
            exact Site.Fresh.of_none hmemo
          · exact h p hp) hs
      refine ⟨hv, hstep, fun k hk => ?_⟩
      obtain rfl : s.sites.size = k := Except.ok.inj hk
      refine ⟨rfl, by simp, fun i p hp => ?_⟩
      have := (hget s.sites.size).symm.trans hp
      rw [if_pos rfl] at this
      rw [← Option.some.inj this]
      exact Site.Fresh.of_none hmemo

theorem dropSite_keeps (k : SiteId) :
    (dropSite k).Keeps (contract R) s fun _ t => t.realms = s.realms ∧ t.sites.size = s.sites.size ∧
      ∀ {k' i}, s.FreshAt k' i → t.FreshAt k' i := by
  intro hs
  obtain ⟨hv, hstep, -⟩ := modifySite_keeps (R := R) (f := fun p => { p with held := false }) k
    (fun _ => Or.inr ⟨rfl, rfl⟩) hs
  -- No overflow is noted, whatever `R` allows.
  have hall := (modifySite_keeps (R := fun _ _ => False) (f := fun p => { p with held := false }) k
    (fun _ => Or.inr ⟨rfl, rfl⟩) hs).2.1
  exact ⟨hv, hstep, fun _ _ => ⟨rfl, Array.size_modify .., hall.fresh List.not_mem_nil nofun⟩⟩

theorem placed_state (k : SiteId) (s : Store) : (placed k s).state = s := by
  unfold placed
  split <;> rfl

/-- What leaves the scope of a site alone leaves the world alone. -/
theorem world_atSite {α : Type} {x : Action (Reading World) α} (k : SiteId)
    (hx : ∀ r, (x r).state.scope = r.scope) (s : Store) : (atSite k x s).state.world = s.world := by
  have hs := placed_state k s
  unfold atSite
  rcases hp : placed k s with ⟨t, notes, e | p⟩ <;> rw [hp] at hs <;> subst hs
  · rw [Action.bind_of_error hp]
  · rw [Action.bind_of_ok hp, Action.within_apply]
    exact hx (t.reading p)

theorem placed_keeps (k : SiteId) :
    (placed k).Keeps (contract R) s fun p t => t = s ∧ s.site? k = some p := by
  intro hs
  unfold placed
  split
  · rename_i p hp
    refine ⟨hs, Follows.refl s _, fun p' h => ⟨rfl, ?_⟩⟩
    rw [hp, Except.ok.inj h]
  · exact ⟨hs, Follows.refl s _, fun _ h => nomatch h⟩

/-- A site with another name has no memo. -/
theorem renameSite_keeps (k : SiteId) (name : String) :
    (renameSite k name).Keeps (contract R) s fun _ _ => True := by
  unfold renameSite
  refine Action.Keeps.bind (placed_keeps k) ?_
  rintro p _ notes - - ⟨rfl, -⟩
  split
  · rename_i site hsite
    have hmemo : site.memo = none := by
      unfold Site.rename at hsite
      split at hsite
      · rw [← Except.ok.inj hsite]
      · exact nomatch hsite
    exact (modifySite_keeps k fun _ => Or.inl hmemo).imp fun _ _ _ _ => trivial
  · exact Action.Keeps.raise

theorem sites_putReading (k : SiteId) (t : TallyId) (r : Reading World) (s : Store) :
    (putReading k t r s).sites = s.sites.modify k fun p => { p with site := r.site } := rfl

/-- **What is done with a site where `R` allows it.** -/
theorem atSite_keeps {α : Type} {x : Action (Reading World) α} (k : SiteId)
    (hx : ∀ p, s.site? k = some p → x.Keeps (Reading.contract (R k)) (s.reading p) fun _ _ => True) :
    (atSite k x).Keeps (contract R) s fun _ _ => True := by
  unfold atSite
  refine Action.Keeps.bind (placed_keeps k) ?_
  rintro p t notes - - ⟨ht, hp⟩
  subst ht
  refine (Action.Keeps.within (d := contract R) (hx p hp) (fun hs => hs.linked) ?_).imp
    fun _ _ _ _ => trivial
  intro r' notes' hs hl hstep
  obtain ⟨hfollows, hfresh⟩ := hstep
  have hsites := sites_putReading k p.tally r' t
  refine ⟨⟨hl, counted_follows hs.counted hfollows⟩, ⟨hfollows.run, hfollows.held, hfollows.alive, ?_,
    Nat.le_refl _, fun _ => ⟨rfl, List.Subset.refl _⟩, ?_⟩⟩
  · rw [hsites, Array.size_modify]
  · intro hn k' i hR h p' hp'
    rw [site?_modify hsites] at hp'
    split at hp'
    · rename_i hk
      subst hk
      rw [hp] at hp'
      rw [← Option.some.inj hp']
      exact hfresh hn i hR (h p hp)
    · exact (h p' hp').later hs.linked (hfollows.run.later hs.linked hn)

theorem invalidate_keeps (k : SiteId) : (invalidate k).Keeps (contract R) s fun _ _ => True :=
  atSite_keeps k fun p _ => Reading.invalidate_keeps (s.reading p)

theorem evaluate_keeps (hi : s.world.isAlive i = true) (hR : R k i) :
    (evaluate k i).Keeps (contract R) s fun _ _ => True :=
  atSite_keeps k fun _ _ => Reading.evaluate_keeps hi hR

/-! ### Taking hold of namespaces -/

/-- A realm with one more namespace. -/
def holding (i : NamespaceId) (m : Realm) : Realm := { m with registered := m.registered ++ [i] }

theorem realms_register (r : RealmId) (i : NamespaceId) (s : Store) :
    (register r i s).state.realms = s.realms.modify r (holding i) := rfl

/-- A realm that takes hold of a namespace holds it once more. -/
theorem registrations_holding (h : t.realms = s.realms.modify r (holding i)) (hr : r < s.realms.size) :
    t.registrations = World.oneMore s.registrations i := by
  funext j
  have hsum := registrations_modify h hr j
  rw [holding, List.count_append, List.count_singleton] at hsum
  simp only [beq_iff_eq] at hsum
  rw [World.oneMore]
  omega

/-- One holder more is counted, whether the realm is there or not. -/
theorem counted_register (hs : s.Sound) (r : RealmId) (hi : s.world.isAlive i = true) :
    (register r i s).state.world.Counted (register r i s).state.registrations := by
  intro j
  have hworld := hs.counted.retain (World.has_of_alive hi) j
  by_cases hr : r < s.realms.size
  · rw [registrations_holding (realms_register r i s) hr]
    exact hworld
  · rw [registrations_modify_of_le (realms_register r i s) (Nat.le_of_not_lt hr)]
    rw [World.oneMore] at hworld
    exact le_trans (Nat.add_le_add_left (Nat.le_add_right _ _) _) hworld

/-- A realm takes hold of a live namespace. -/
theorem register_keeps (r : RealmId) (hi : s.world.isAlive i = true) :
    (register r i).Keeps (contract R) s fun _ t => t.world.isAlive i = true ∧
      t.realms.size = s.realms.size ∧ (r < s.realms.size → i ∈ (t.realm r).registered) := by
  intro hs
  have hrealms := realms_register r i s
  have halive : ∀ j, (register r i s).state.world.isAlive j = s.world.isAlive j :=
    World.proj_retain Namespace.alive fun _ _ => rfl
  have hlater : s.world.Later (register r i s).state.world :=
    World.Later.step hs.linked (World.Step.retain hi)
  refine ⟨⟨hs.linked.retain hi, counted_register hs r hi⟩, ⟨World.NotedRun.quiet (World.Step.retain hi),
    World.held_update s.world i _, fun ha => ?_, Nat.le_refl _, ?_, fun {r'} hr => ?_, ?_⟩,
    fun _ _ => ⟨?_, ?_, fun hr => ?_⟩⟩
  · rwa [halive]
  · rw [hrealms, Array.size_modify]
  · rw [realm_modify hrealms hr]
    split
    · exact ⟨rfl, List.subset_append_left _ _⟩
    · exact ⟨rfl, List.Subset.refl _⟩
  · exact fun _ k j _ h p hp => (h p hp).later hs.linked hlater
  · rwa [halive]
  · rw [hrealms, Array.size_modify]
  · rw [realm_modify hrealms hr, if_pos rfl]
    exact List.mem_append_right _ (List.mem_singleton_self i)

end ConstantResolution.Store
