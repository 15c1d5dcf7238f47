import ConstantResolution.Proofs.Store.Steps
import ConstantResolution.Proofs.World.Liveness

/-! # What is reached from outside

Names and realms hold namespaces from outside of the world, and what is linked from these is reached.  A store
is tidy when what lives is held, and when nothing but names and realms holds from outside (`Tidy`); every run
keeps it so (`Run.tidy`).

In a tidy store what lives is what is reached from outside or from a circle (`Tidy.isAlive_iff`).  So no
namespace is counted as a dependent, or advanced with another one, that is out of reach, if and only if the
circles themselves are reached (`Tidy.liveDependents_reached_iff`, `Tidy.affected_reached_iff`). -/

namespace ConstantResolution.Store

variable {s t : Store} {notes : List Note} {ds : List Deed} {i j m : NamespaceId}

/-! ### Reach -/

/-- A name or a realm holds a namespace. -/
def HeldOutside (s : Store) (i : NamespaceId) : Prop :=
  (∃ holder, s.world.held.get? holder = some i) ∨ ∃ r, i ∈ (s.realm r).registered

/-- A namespace is reached along links from one that a name or a realm holds. -/
def Reached (s : Store) (j : NamespaceId) : Prop := ∃ i, s.HeldOutside i ∧ Reaches s.world.links i j

theorem Reached.along (h : s.Reached i) (hr : Reaches s.world.links i j) : s.Reached j := by
  obtain ⟨k, hk, hki⟩ := h
  exact ⟨k, hk, hki.trans hr⟩

theorem Sound.isAlive_of_reached (hs : s.Sound) (h : s.Reached j) : s.world.isAlive j = true := by
  obtain ⟨i, ⟨holder, hh⟩ | ⟨r, hr⟩, hij⟩ := h
  · exact hs.linked.isAlive_of_reaches (hs.counted.isAlive_of_get? hs.linked hh) hij
  · exact hs.linked.isAlive_of_reaches (hs.isAlive_of_mem hr) hij

/-- What is counted among realms is registered in one. -/
theorem exists_realm_of_pos (h : 0 < s.registrations i) : ∃ r, i ∈ (s.realm r).registered := by
  by_contra hnone
  rw [not_exists] at hnone
  have hzero : s.registrations i = 0 := by
    refine List.sum_eq_zero fun n hn => ?_
    obtain ⟨m, hm, rfl⟩ := List.mem_map.mp hn
    obtain ⟨r, hr, rfl⟩ := List.mem_iff_getElem.mp hm
    have hrealm : s.realms.toList[r] = s.realm r :=
      Option.some.inj ((List.getElem?_eq_getElem hr).symm.trans (get?_realms (by simpa using hr)))
    rw [hrealm]
    exact List.count_eq_zero_of_not_mem (hnone r)
  omega

/-- What links do not leave, with all that names and realms hold, has all that is reached. -/
theorem Reached.mem_of_closed {is : List NamespaceId} (h : s.Reached j)
    (hnames : ∀ e ∈ s.world.held.entries, e.2 ∈ is) (hrealms : ∀ m ∈ s.realms, ∀ i ∈ m.registered, i ∈ is)
    (hlinks : ∀ i ∈ is, ∀ k ∈ s.world.links i, k ∈ is) : j ∈ is := by
  obtain ⟨i, hi, hij⟩ := h
  induction hij with
  | refl =>
      rcases hi with ⟨holder, hh⟩ | ⟨r, hr⟩
      · obtain ⟨e, he, heq⟩ := List.countP_pos_iff.mp (World.nameCount_pos hh)
        rw [← beq_iff_eq.mp heq]
        exact hnames e he
      · by_cases hlt : r < s.realms.size
        · exact hrealms _ (Array.mem_toList_iff.mp (List.mem_of_getElem? (get?_realms hlt))) i hr
        · rw [realm_of_size_le (Nat.le_of_not_lt hlt)] at hr
          exact nomatch hr
  | tail _ hkl ih => exact hlinks _ ih _ hkl

/-! ### Tidy stores -/

/-- What lives is held, and from outside it is held by names and realms only. -/
structure Tidy (s : Store) : Prop where
  upheld : s.world.Upheld
  accounted : s.world.Accounted s.registrations

theorem Tidy.empty : Tidy {} where
  upheld := by
    intro j hj _
    rw [World.isAlive, World.node_empty] at hj
    exact absurd hj Bool.false_ne_true
  accounted := ⟨List.nodup_nil, fun j => by rw [World.node_empty]; exact Nat.zero_le _⟩

theorem Tidy.newRealm (h : s.Tidy) (policy : Policy) : (Store.newRealm policy s).state.Tidy := by
  have hn := World.creatable_topLevel s.world
  have hhas := World.has_of_alive (isAlive_created hn)
  have hpushed : (s.realms.push { policy, top := s.world.size + 1, tally := s.tallies.size }).size =
      s.realms.size + 1 := Array.size_push _
  have hreg : (Store.newRealm policy s).state.registrations =
      World.oneMore s.registrations (s.world.size + 1) := by
    rw [registrations_holding (s := { s with realms := s.realms.push _ }) rfl (hpushed ▸ Nat.lt_succ_self _),
      registrations_push rfl]
  refine ⟨(h.upheld.create _).retain hhas, ?_⟩
  rw [hreg]
  exact (h.accounted.create hn).retain hhas

theorem Tidy.dropRealm (h : s.Tidy) (r : RealmId) : (Store.dropRealm r s).state.Tidy := by
  refine ⟨h.upheld.releaseAll (s.realm r).registered, ?_⟩
  have hsum := h.accounted
  rw [← funext (registrations_dropRealm s r)] at hsum
  exact hsum.releaseAll

/-- **A step leaves a store tidy.** -/
theorem Step.tidy (h : Step s notes ds t) (hs : s.Tidy) : t.Tidy := by
  cases h with
  | world h => exact ⟨hs.upheld.calm h, hs.accounted.follows h.toFollows⟩
  | named holder hn =>
      have hhas := World.has_of_alive (isAlive_created hn)
      exact ⟨(hs.upheld.create _).hold holder hhas, (hs.accounted.create hn).hold holder hhas⟩
  | @opened _ n w r hr hn h =>
      have hhas := World.has_of_alive (h.alive (isAlive_created hn))
      refine ⟨((hs.upheld.create n).calm h).retain hhas, ?_⟩
      rw [registrations_holding (s := s) rfl hr]
      exact ((hs.accounted.create hn).follows h.toFollows).retain hhas
  | lost hn h hfree =>
      exact ⟨hs.upheld.lost hn h hfree, hs.accounted.follows (World.Follows.lost hn h hfree)⟩
  | hold holder hi =>
      have hhas := World.has_of_alive hi
      exact ⟨(hs.upheld.but _).hold holder hhas, hs.accounted.hold holder hhas⟩
  | letGo holder => exact ⟨hs.upheld.letGo holder, hs.accounted.letGo holder⟩
  | newRealm policy => exact hs.newRealm policy
  | dropRealm r => exact hs.dropRealm r
  | list r f _ =>
      refine ⟨hs.upheld, ?_⟩
      rw [registrations_eq_of_registered (s := s) (f := fun m => { m with sites := f m.sites }) rfl fun _ => rfl]
      exact hs.accounted
  | _ => exact ⟨hs.upheld, hs.accounted⟩

/-- **A run leaves a store tidy.** -/
theorem Run.tidy (h : Run s notes ds t) (hs : s.Tidy) : t.Tidy := by
  induction h with
  | refl s => exact hs
  | step h _ ih => exact ih (h.tidy hs)

/-! ### What lives in a tidy store -/

section tidy

variable (h : s.Tidy) (hs : s.Sound) (ho : s.world.Ordered) (ha : Acyclic s.world.uplinks)

include h hs ho ha

/-- **What lives is what is reached, from outside or from a circle.** -/
theorem Tidy.isAlive_iff : s.world.isAlive j = true ↔ s.Reached j ∨ s.world.Encircled j := by
  constructor
  · intro hj
    refine (h.upheld.origin hs.linked ho ha hj).imp ?_ id
    rintro ⟨i, hi, hij⟩
    exact ⟨i, (h.accounted.exists_get?_or hi).imp id exists_realm_of_pos, hij⟩
  · rintro (hr | hc)
    · exact hs.isAlive_of_reached hr
    · exact hs.linked.isAlive_of_encircled hc

/-- Where circles are reached, all that lives is reached. -/
theorem Tidy.reached_of_circles (hc : ∀ i m, s.world.Circle i m → s.Reached i)
    (hj : s.world.isAlive j = true) : s.Reached j := by
  rcases (h.isAlive_iff hs ho ha).mp hj with hr | ⟨i, m, him, hmj⟩
  · exact hr
  · have hm : m ∈ s.world.links i := Namespace.mem_links.mpr (Or.inr (Or.inr him.includes))
    exact (hc i m him).along (hmj.head hm)

/-- **No dependent is counted that is out of reach, if and only if circles are reached.** -/
theorem Tidy.liveDependents_reached_iff :
    (∀ i, ∀ j ∈ s.world.liveDependents i, s.Reached j) ↔ ∀ i m, s.world.Circle i m → s.Reached i := by
  constructor
  · intro hall i m him
    have hm : m ∈ s.world.links i := Namespace.mem_links.mpr (Or.inr (Or.inr him.includes))
    exact hall m i (hs.linked.mem_liveDependents.mpr ⟨hm, him.alive⟩)
  · intro hc i j hj
    exact h.reached_of_circles hs ho ha hc (hs.linked.mem_liveDependents.mp hj).2

/-- **No namespace is advanced that is out of reach, if and only if circles are reached.** -/
theorem Tidy.affected_reached_iff :
    (∀ i, s.world.isAlive i = true → ∀ j ∈ s.world.affected i, s.Reached j) ↔
      ∀ i m, s.world.Circle i m → s.Reached i := by
  constructor
  · intro hall i m him
    exact hall i him.alive i ((hs.linked.mem_affected_iff him.alive).mpr ⟨him.alive, Reaches.refl _ i⟩)
  · intro hc i hi j hj
    exact h.reached_of_circles hs ho ha hc ((hs.linked.mem_affected_iff hi).mp hj).1

end tidy

end ConstantResolution.Store
