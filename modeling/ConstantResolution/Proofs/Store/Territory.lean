import ConstantResolution.Proofs.Store.Steps
import ConstantResolution.Proofs.World.Isolation

/-! # Territories of realms

The territory of a realm is all that is linked to what it registered, over any number of links in either direction
(`territory`).  No link leads into it or out of it (`Sound.walled`).  Realms are apart when their territories are
disjoint (`Apart`), and what is in no other realm's territory is a realm's own (`Owns`).

A realm is untouched when neither its record and its counters change, nor its sites, nor any namespace in its
territory (`Untouched`). -/

namespace ConstantResolution.Store

variable {s t u : Store} {i j : NamespaceId} {r : RealmId}

/-! ### Territories -/

/-- **What is linked to what a realm registered**, one way or the other. -/
def territory (s : Store) (r : RealmId) : List NamespaceId :=
  visitAll s.world.neighbours s.world.size [] (s.realm r).registered

theorem closed_neighbours (hl : s.world.Linked) : Closed s.world.neighbours (Finset.Icc 1 s.world.size) :=
  fun _ _ _ hk => Finset.mem_Icc.mpr (World.has_of_alive (hl.mem_neighbours.mp hk).2.1)

theorem Sound.mem_territory (hs : s.Sound) :
    i ∈ s.territory r ↔ ∃ j ∈ (s.realm r).registered, Reaches s.world.neighbours j i := by
  have hcard : (Finset.Icc 1 s.world.size).card ≤ s.world.size := by
    rw [Nat.card_Icc]
    omega
  refine mem_visitAll_iff (closed_neighbours hs.linked) (fun j hj => ?_) hcard i
  exact Finset.mem_Icc.mpr (World.has_of_alive (hs.isAlive_of_mem hj))

theorem Sound.mem_territory_of_mem (hs : s.Sound) (hi : i ∈ (s.realm r).registered) : i ∈ s.territory r :=
  hs.mem_territory.mpr ⟨i, hi, Reaches.refl _ i⟩

theorem Sound.isAlive_of_territory (hs : s.Sound) (hi : i ∈ s.territory r) : s.world.isAlive i = true := by
  obtain ⟨j, hj, hji⟩ := hs.mem_territory.mp hi
  cases hji with
  | refl => exact hs.isAlive_of_mem hj
  | tail _ hki => exact (hs.linked.mem_neighbours.mp hki).2.1

/-- **A territory is walled off.** -/
theorem Sound.walled (hs : s.Sound) (hu : s.world.Upheld) (r : RealmId) :
    World.Walled (· ∈ s.territory r) s.world where
  linked := hs.linked
  has := fun hi => World.has_of_alive (hs.isAlive_of_territory hi)
  closed := by
    intro i j hi hij
    have hj := hs.linked.alive hi hij
    rw [hs.mem_territory, hs.mem_territory]
    constructor
    · rintro ⟨k, hk, hki⟩
      exact ⟨k, hk, hki.tail (hs.linked.mem_neighbours.mpr ⟨hi, hj, Or.inl hij⟩)⟩
    · rintro ⟨k, hk, hkj⟩
      exact ⟨k, hk, hkj.tail (hs.linked.mem_neighbours.mpr ⟨hj, hi, Or.inr hij⟩)⟩
  upheld := fun {i} _ hi => hu i hi List.not_mem_nil

/-- A wall has a territory on the side of what is registered. -/
theorem Sound.exists_registered {O : NamespaceId → Prop} (hs : s.Sound) (hw : World.Walled O s.world)
    (hi : i ∈ s.territory r) : ∃ j ∈ (s.realm r).registered, O j ↔ O i := by
  obtain ⟨j, hj, hji⟩ := hs.mem_territory.mp hi
  exact ⟨j, hj, hw.reaches hji⟩

/-- **A territory that is spared stays the same one**, when the realm registers nothing more. -/
theorem territory_eq (hs : s.Sound) (hw : World.Walled (· ∈ s.territory r) s.world)
    (hw' : World.Walled (· ∈ s.territory r) t.world)
    (hspares : World.Spares (· ∈ s.territory r) s.world t.world)
    (hreg : (t.realm r).registered = (s.realm r).registered) : t.territory r = s.territory r := by
  have hclosed : Closed s.world.neighbours (s.territory r).toFinset := by
    intro i hi j hj
    rw [List.mem_toFinset] at hi ⊢
    exact (hw.reaches (Relation.ReflTransGen.single hj)).mp hi
  have hbound : ∀ {w : World}, World.Walled (· ∈ s.territory r) w → (s.territory r).toFinset.card ≤ w.size := by
    intro w h
    have hsub : (s.territory r).toFinset ⊆ Finset.Icc 1 w.size :=
      fun i hi => Finset.mem_Icc.mpr (h.has (List.mem_toFinset.mp hi))
    have hcard := Finset.card_le_card hsub
    rw [Nat.card_Icc] at hcard
    omega
  rw [territory, hreg]
  refine visitAll_congr hclosed (fun i hi => ?_) (fun i hi => ?_) (hbound hw) (hbound hw')
  · exact hw.neighbours_eq hw' hspares (List.mem_toFinset.mp hi)
  · exact List.mem_toFinset.mpr (hs.mem_territory_of_mem hi)

/-! ### What is a realm's own -/

/-- A namespace is in no other realm's territory. -/
def Owns (s : Store) (r : RealmId) (i : NamespaceId) : Prop :=
  ∀ r' < s.realms.size, r' ≠ r → i ∉ s.territory r'

/-- Counters are no other realm's. -/
def OwnsTally (s : Store) (r : RealmId) (τ : TallyId) : Prop :=
  ∀ r' < s.realms.size, r' ≠ r → τ ≠ (s.realm r').tally

/-- A site reports to no other realm's counters. -/
def OwnsSite (s : Store) (r : RealmId) (k : SiteId) : Prop := ∀ p ∈ s.site? k, s.OwnsTally r p.tally

/-- What handlers do that are asked for a name in a namespace: they let only namespaces answer, and bind names only
in namespaces, that are a realm's own. -/
def HandlersWithin (s : Store) (r : RealmId) (i : NamespaceId) : Prop :=
  ∀ j ∈ s.world.answerers i, s.Owns r j ∧ ∀ t ∈ s.world.binds j, s.Owns r t

instance (s : Store) (r : RealmId) (i : NamespaceId) : Decidable (s.Owns r i) := by
  unfold Owns
  infer_instance

instance (s : Store) (r : RealmId) (τ : TallyId) : Decidable (s.OwnsTally r τ) := by
  unfold OwnsTally
  infer_instance

instance (s : Store) (r : RealmId) (k : SiteId) : Decidable (s.OwnsSite r k) := by
  unfold OwnsSite
  infer_instance

instance (s : Store) (r : RealmId) (i : NamespaceId) : Decidable (s.HandlersWithin r i) := by
  unfold HandlersWithin
  infer_instance

/-- **No namespace is in two territories.** -/
def Apart (s : Store) : Prop := ∀ r < s.realms.size, ∀ i ∈ s.territory r, s.Owns r i

instance (s : Store) : Decidable s.Apart := by
  unfold Apart
  infer_instance

/-! ### Realms that nothing touches -/

/-- **All that belongs to a realm is as before**: its policy, its top level, its register and its row of sites; its
counters; its sites, with the number of those that are held; and each namespace in its territory, with the number
of its dependents. -/
structure Untouched (r : RealmId) (s t : Store) : Prop where
  realm : t.realm r = s.realm r
  tally : t.tally (t.realm r).tally = s.tally (s.realm r).tally
  sites : ∀ {k}, s.ReportsTo k (s.realm r).tally → t.site? k = s.site? k
  siteCount : t.siteCount r = s.siteCount r
  territory : t.territory r = s.territory r
  namespaces : ∀ i ∈ s.territory r, t.world.get? i = s.world.get? i
  dependents : ∀ i ∈ s.territory r, t.world.dependentCount i = s.world.dependentCount i

theorem Untouched.refl (r : RealmId) (s : Store) : Untouched r s s :=
  ⟨rfl, rfl, fun _ => rfl, rfl, rfl, fun _ _ => rfl, fun _ _ => rfl⟩

theorem Untouched.trans (h : Untouched r s t) (h' : Untouched r t u) : Untouched r s u where
  realm := h'.realm.trans h.realm
  tally := h'.tally.trans h.tally
  sites := by
    intro k hk
    have hget := h.sites hk
    refine (h'.sites ?_).trans hget
    rwa [ReportsTo, h.realm, hget]
  siteCount := h'.siteCount.trans h.siteCount
  territory := h'.territory.trans h.territory
  namespaces := fun i hi => (h'.namespaces i (h.territory.symm ▸ hi)).trans (h.namespaces i hi)
  dependents := fun i hi => (h'.dependents i (h.territory.symm ▸ hi)).trans (h.dependents i hi)

/-! ### Counters of realms -/

/-- Each realm has counters of its own. -/
structure Numbered (s : Store) : Prop where
  bound : ∀ r < s.realms.size, (s.realm r).tally < s.tallies.size
  distinct : ∀ r < s.realms.size, ∀ r' < s.realms.size, (s.realm r).tally = (s.realm r').tally → r = r'

theorem Numbered.of_tallies (h : s.Numbered) (hsize : t.realms.size = s.realms.size)
    (htally : ∀ r, (t.realm r).tally = (s.realm r).tally) (htallies : s.tallies.size ≤ t.tallies.size) :
    t.Numbered where
  bound := fun r hr => by
    rw [htally]
    exact (h.bound r (hsize ▸ hr)).trans_le htallies
  distinct := fun r hr r' hr' heq => by
    rw [htally, htally] at heq
    exact h.distinct r (hsize ▸ hr) r' (hsize ▸ hr') heq

theorem Numbered.newRealm (h : s.Numbered) (policy : Policy) : (Store.newRealm policy s).state.Numbered := by
  have hsize : (Store.newRealm policy s).state.tallies.size = s.tallies.size + 1 := Array.size_push _
  constructor
  · intro r hr
    rw [realm_newRealm, hsize]
    split
    · exact Nat.lt_succ_self _
    · rename_i hne
      exact Nat.lt_succ_of_lt (h.bound r (lt_of_newRealm hr hne))
  · intro r hr r' hr' heq
    rw [realm_newRealm, realm_newRealm] at heq
    split at heq <;> split at heq
    · rename_i hsame hsame'
      rw [hsame, hsame']
    · rename_i hne
      exact absurd heq (Nat.ne_of_gt (h.bound r' (lt_of_newRealm hr' hne)))
    · rename_i hne _
      exact absurd heq (Nat.ne_of_lt (h.bound r (lt_of_newRealm hr hne)))
    · rename_i hne hne'
      exact h.distinct r (lt_of_newRealm hr hne) r' (lt_of_newRealm hr' hne') heq

/-- **Each realm has counters of its own all the time.** -/
theorem Step.numbered {notes : List Note} {ds : List Deed} (h : Step s notes ds t) (hs : s.Numbered) :
    t.Numbered := by
  have hmodified : ∀ (f : Realm → Realm) {r' : RealmId}, t.realms = s.realms.modify r' f → t.tallies = s.tallies →
      (∀ m, (f m).tally = m.tally) → t.Numbered := by
    intro f r' hrealms htallies hf
    refine hs.of_tallies (by rw [hrealms, Array.size_modify]) (fun r => ?_) (by rw [htallies])
    rcases realm_modify_or hrealms r with heq | ⟨-, heq⟩
    · rw [heq]
    · rw [heq, hf]
  have hset : ∀ {τ : TallyId} {v : Tally}, t.realms = s.realms → t.tallies = s.tallies.setIfInBounds τ v →
      t.Numbered := by
    intro τ v hrealms htallies
    refine hs.of_tallies (by rw [hrealms]) (fun r => by rw [realm, hrealms, realm]) ?_
    rw [htallies, Array.size_setIfInBounds]
  cases h with
  | opened _ _ _ => exact hmodified (holding _) rfl rfl fun _ => rfl
  | newRealm policy => exact hs.newRealm policy
  | dropRealm r => exact hmodified (fun m => { m with registered := [] }) rfl rfl fun _ => rfl
  | list r f _ => exact hmodified (fun m => { m with sites := f m.sites }) rfl rfl fun _ => rfl
  | newTally => exact hs.of_tallies rfl (fun _ => rfl) (by rw [Array.size_push]; exact Nat.le_succ _)
  | callIn i hp => exact hset rfl rfl
  | callElsewhere c x hp => exact hset rfl rfl
  | invalidate hp => exact hset rfl rfl
  | record τ event => exact hset rfl rfl
  | _ => exact hs.of_tallies rfl (fun _ => rfl) (Nat.le_refl _)

theorem Run.numbered {notes : List Note} {ds : List Deed} (h : Run s notes ds t) (hs : s.Numbered) :
    t.Numbered := by
  induction h with
  | refl s => exact hs
  | step hstep _ ih => exact ih (hstep.numbered hs)

end ConstantResolution.Store
