import ConstantResolution.Proofs.Site.Agreement
import ConstantResolution.Store.Realm

/-! # Stores under different policies

Two stores are alike when they differ in policies, memos and counters only.  What a realm offers agrees in
stores that are alike, whatever the policies of its sites are; and so does what is done with a site, when
it agrees on the site alone (`atSite_agrees`). -/

namespace ConstantResolution

/-- A placed site without what depends on its policy. -/
def PlacedSite.erased (p : PlacedSite) : PlacedSite := { p with site := p.site.erased }

/-- A realm without its policy. -/
def Realm.erased (m : Realm) : Realm := { m with policy := {} }

/-- Of two elements that show the same, none or both are there. -/
theorem map_eq_map_cases {α β : Type} {e : α → β} {o o' : Option α} (h : o.map e = o'.map e) :
    (o = none ∧ o' = none) ∨ ∃ a b, o = some a ∧ o' = some b ∧ e a = e b := by
  cases o with
  | none => exact Or.inl ⟨rfl, Option.map_eq_none_iff.mp h.symm⟩
  | some a =>
      obtain ⟨b, hb, hab⟩ := Option.map_eq_some_iff.mp h.symm
      exact Or.inr ⟨a, b, rfl, hb, hab.symm⟩

/-- Changes of one element that agree on what a function shows. -/
theorem map_modify_congr {α β : Type} {e : α → β} {f g : α → α} {xs ys : Array α} (k : Nat)
    (h : xs.map e = ys.map e) (hfg : ∀ a b, e a = e b → e (f a) = e (g b)) :
    (xs.modify k f).map e = (ys.modify k g).map e := by
  refine Array.ext_getElem? fun j => ?_
  have hj : (xs.map e)[j]? = (ys.map e)[j]? := by rw [h]
  rw [Array.getElem?_map, Array.getElem?_map] at hj
  rw [Array.getElem?_map, Array.getElem?_map, Array.getElem?_modify, Array.getElem?_modify]
  split
  · obtain ⟨hx, hy⟩ | ⟨a, b, hx, hy, hab⟩ := map_eq_map_cases hj
    · rw [hx, hy]
      rfl
    · rw [hx, hy]
      exact congrArg some (hfg a b hab)
  · exact hj

namespace Store

/-- Two stores that differ in policies, memos and counters only. -/
structure Alike (s t : Store) : Prop where
  world : s.world = t.world
  tallies : s.tallies.size = t.tallies.size
  sites : s.sites.map PlacedSite.erased = t.sites.map PlacedSite.erased
  realms : s.realms.map Realm.erased = t.realms.map Realm.erased

variable {s t : Store} {r : RealmId} {k : SiteId}

namespace Alike

/-! ### What is alike -/

theorem site? (h : Alike s t) (k : SiteId) :
    (s.site? k).map PlacedSite.erased = (t.site? k).map PlacedSite.erased := by
  rw [Store.site?, Store.site?, ← Array.getElem?_map, ← Array.getElem?_map, h.sites]

theorem size_sites (h : Alike s t) : s.sites.size = t.sites.size := by
  have hsize := congrArg Array.size h.sites
  rwa [Array.size_map, Array.size_map] at hsize

theorem size_realms (h : Alike s t) : s.realms.size = t.realms.size := by
  have hsize := congrArg Array.size h.realms
  rwa [Array.size_map, Array.size_map] at hsize

theorem realm (h : Alike s t) (r : RealmId) : (s.realm r).erased = (t.realm r).erased := by
  have hr : (s.realms.map Realm.erased)[r]? = (t.realms.map Realm.erased)[r]? := by rw [h.realms]
  rw [Array.getElem?_map, Array.getElem?_map] at hr
  rw [Store.realm, Store.realm, Array.getD_eq_getD_getElem?, Array.getD_eq_getD_getElem?]
  obtain ⟨hs, ht⟩ | ⟨m, m', hs, ht, hmm⟩ := map_eq_map_cases hr
  · rw [hs, ht]
  · rw [hs, ht]
    exact hmm

theorem top (h : Alike s t) (r : RealmId) : (s.realm r).top = (t.realm r).top :=
  (congrArg Realm.top (h.realm r) :)

theorem registered (h : Alike s t) (r : RealmId) : (s.realm r).registered = (t.realm r).registered :=
  (congrArg Realm.registered (h.realm r) :)

theorem tally (h : Alike s t) (r : RealmId) : (s.realm r).tally = (t.realm r).tally :=
  (congrArg Realm.tally (h.realm r) :)

theorem realmSites (h : Alike s t) (r : RealmId) : (s.realm r).sites = (t.realm r).sites :=
  (congrArg Realm.sites (h.realm r) :)

theorem isHeld (h : Alike s t) (k : SiteId) : s.isHeld k = t.isHeld k := by
  rw [Store.isHeld, Store.isHeld]
  obtain ⟨hs, ht⟩ | ⟨p, p', hs, ht, hpp⟩ := map_eq_map_cases (h.site? k)
  · rw [hs, ht]
  · rw [hs, ht]
    exact (congrArg PlacedSite.held hpp :)

/-- A site is found in both stores, or in none of them. -/
theorem placed_cases (h : Alike s t) (k : SiteId) :
    (∃ e, placed k s = ⟨s, [], .error e⟩ ∧ placed k t = ⟨t, [], .error e⟩) ∨
      ∃ p p', (s.site? k = some p ∧ placed k s = ⟨s, [], .ok p⟩) ∧
        (t.site? k = some p' ∧ placed k t = ⟨t, [], .ok p'⟩) ∧ p.erased = p'.erased := by
  rw [placed, placed]
  obtain ⟨hs, ht⟩ | ⟨p, p', hs, ht, hpp⟩ := map_eq_map_cases (h.site? k)
  · rw [hs, ht]
    exact Or.inl ⟨_, rfl, rfl⟩
  · rw [hs, ht]
    exact Or.inr ⟨p, p', ⟨rfl, rfl⟩, ⟨rfl, rfl⟩, hpp⟩

theorem liveSites (h : Alike s t) (r : RealmId) : s.liveSites r = t.liveSites r := by
  rw [Store.liveSites, Store.liveSites, h.realmSites, funext h.isHeld]

theorem namespaceOf? (h : Alike s t) (r : RealmId) (v : Value) : s.namespaceOf? r v = t.namespaceOf? r v := by
  have hregistered : s.isRegistered r = t.isRegistered r := by
    funext i
    rw [isRegistered, isRegistered, h.registered]
  rw [Store.namespaceOf?, Store.namespaceOf?, hregistered]

theorem opening (h : Alike s t) (r : RealmId) (name : String) (p : NamespaceId) (kind : Kind) :
    s.opening r name p kind = t.opening r name p kind := by
  rw [Store.opening, Store.opening, h.world, funext (h.namespaceOf? r)]

/-! ### What keeps stores alike -/

theorem setWorld (h : Alike s t) (w : World) : Alike { s with world := w } { t with world := w } :=
  ⟨rfl, h.tallies, h.sites, h.realms⟩

theorem setTally (h : Alike s t) (i : TallyId) (v v' : Tally) : Alike (s.setTally i v) (t.setTally i v') where
  world := h.world
  tallies := by
    rw [Store.setTally, Store.setTally, Array.size_setIfInBounds, Array.size_setIfInBounds, h.tallies]
  sites := h.sites
  realms := h.realms

theorem modifySite (h : Alike s t) (k : SiteId) {f g : PlacedSite → PlacedSite}
    (hfg : ∀ p p', p.erased = p'.erased → (f p).erased = (g p').erased) :
    Alike { s with sites := s.sites.modify k f } { t with sites := t.sites.modify k g } :=
  ⟨h.world, h.tallies, map_modify_congr k h.sites hfg, h.realms⟩

/-- What is put back after it was done with a site. -/
theorem putReading (h : Alike s t) (k : SiteId) (i : TallyId) {r r' : Reading World}
    (hr : r.Alike r') : Alike (Store.putReading k i r s) (Store.putReading k i r' t) := by
  have hsite : Alike (s.setSite k r.site) (t.setSite k r'.site) := by
    have herased : ∀ (site : Site) (p : PlacedSite),
        ({ p with site } : PlacedSite).erased = { p.erased with site := site.erased } := fun _ _ => rfl
    refine h.modifySite k fun p p' hp => ?_
    rw [herased r.site p, herased r'.site p', hp, hr.site]
  have hput := (hsite.setTally i r.tally r'.tally).setWorld r.scope
  unfold Store.putReading
  rwa [← hr.scope]

end Alike

/-! ### Parts -/

theorem onWorld_agrees {α : Type} (h : Alike s t) (x : Action World α) :
    (onWorld x).Agrees Alike (onWorld x) s t fun _ _ _ => True :=
  Action.Agrees.within h.world h.setWorld

/-- A change of a realm that does not depend on its policy. -/
theorem modifyRealm_agrees (h : Alike s t) (r : RealmId) {f : Realm → Realm}
    (hf : ∀ m, (f m).erased = f m.erased) :
    (modifyRealm r f).Agrees Alike (modifyRealm r f) s t fun _ _ _ => True := by
  refine Action.Agrees.modify ⟨h.world, h.tallies, h.sites, map_modify_congr r h.realms ?_⟩ trivial
  intro m m' hm
  rw [hf, hf, hm]

theorem newTally_agrees (h : Alike s t) : newTally.Agrees Alike newTally s t fun _ _ _ => True := by
  intro _ _
  refine ⟨⟨h.world, ?_, h.sites, h.realms⟩, rfl, congrArg Except.ok h.tallies, fun _ _ => trivial⟩
  simp only [newTally, Array.size_push, h.tallies]

theorem record_agrees (h : Alike s t) (i : TallyId) (event : Count) :
    (record i event).Agrees Alike (record i event) s t fun _ _ _ => True :=
  Action.Agrees.modify (h.setTally i _ _) trivial

/-! ### Sites -/

/-- **A site may be made with any policy.** -/
theorem newSite_agrees (h : Alike s t) (name : String) (position : Position) (policy policy' : Policy)
    (i : TallyId) :
    (newSite name position policy i).Agrees Alike (newSite name position policy' i) s t
      fun _ _ _ => True := by
  unfold Action.Agrees newSite Site.new
  intro _ _
  by_cases hn : isConstantName name = true
  · rw [if_pos hn, if_pos hn]
    refine ⟨⟨h.world, h.tallies, ?_, h.realms⟩, rfl, congrArg Except.ok h.size_sites, fun _ _ => trivial⟩
    simp only [Array.map_push, h.sites]
    rfl
  · rw [if_neg hn, if_neg hn]
    exact ⟨h, rfl, rfl, fun _ _ => trivial⟩

theorem dropSite_agrees (h : Alike s t) (k : SiteId) :
    (dropSite k).Agrees Alike (dropSite k) s t fun _ _ _ => True := by
  have herased : ∀ p : PlacedSite,
      ({ p with held := false } : PlacedSite).erased = { p.erased with held := false } := fun _ => rfl
  refine Action.Agrees.modify (h.modifySite k fun p p' hp => ?_) trivial
  rw [herased, herased, hp]

/-- **What is done with a site agrees when it agrees on the site alone.** -/
theorem atSite_agrees {α : Type} {x : Action (Reading World) α} (h : Alike s t) (k : SiteId)
    (hx : ∀ p p', s.site? k = some p → t.site? k = some p' → (s.reading p).Alike (t.reading p') →
      x.Agrees Reading.Alike x (s.reading p) (t.reading p') fun _ _ _ => True) :
    (atSite k x).Agrees Alike (atSite k x) s t fun _ _ _ => True := by
  unfold atSite
  obtain ⟨e, hs, ht⟩ | ⟨p, p', ⟨hp, hs⟩, ⟨hp', ht⟩, hpp⟩ := h.placed_cases k
  · exact Action.Agrees.bind_of_fails hs ht h
  · have htally : p.tally = p'.tally := (congrArg PlacedSite.tally hpp :)
    have hread : (s.reading p).Alike (t.reading p') := ⟨(congrArg PlacedSite.site hpp :), h.world⟩
    refine Action.Agrees.bind_of_gives hs ht ?_
    rw [← htally]
    exact Action.Agrees.within_of (hx p p' hp hp' hread) fun u v huv => h.putReading k p.tally huv

theorem invalidate_agrees (h : Alike s t) (k : SiteId) :
    (invalidate k).Agrees Alike (invalidate k) s t fun _ _ _ => True :=
  atSite_agrees h k fun _ _ _ _ hread => Reading.invalidate_agrees hread

theorem renameSite_agrees (h : Alike s t) (k : SiteId) (name : String) :
    (renameSite k name).Agrees Alike (renameSite k name) s t fun _ _ _ => True :=
  Action.Agrees.congr (renameSite_eq k name s) (renameSite_eq k name t)
    (atSite_agrees h k fun _ _ _ _ hread => Reading.rename_agrees hread name)

/-! ### Realms -/

theorem register_agrees (h : Alike s t) (r : RealmId) (i : NamespaceId) :
    (register r i).Agrees Alike (register r i) s t fun _ _ _ => True := by
  unfold register
  refine Action.Agrees.bind (Action.Agrees.modify (q := fun _ _ _ => True) ?_ trivial) ?_
  · rw [h.world]
    exact h.setWorld _
  · exact fun _ _ _ h' _ => modifyRealm_agrees h' r fun _ => rfl

/-- **A realm may be made with any policy.** -/
theorem newRealm_agrees (h : Alike s t) (policy policy' : Policy) :
    (newRealm policy).Agrees Alike (newRealm policy') s t fun _ _ _ => True := by
  unfold newRealm
  refine Action.Agrees.read_bind ?_
  rw [h.size_realms]
  refine Action.Agrees.bind (onWorld_agrees h _) fun top s₁ t₁ h₁ _ => ?_
  refine Action.Agrees.bind (newTally_agrees h₁) fun tally s₂ t₂ h₂ _ => ?_
  refine Action.Agrees.bind (Action.Agrees.modify (q := fun _ _ _ => True) ?_ trivial) ?_
  · refine ⟨h₂.world, h₂.tallies, h₂.sites, ?_⟩
    simp only [Array.map_push, h₂.realms]
    rfl
  · intro _ s₃ t₃ h₃ _
    exact Action.Agrees.map (register_agrees h₃ _ top)

theorem dropRealm_agrees (h : Alike s t) (r : RealmId) :
    (dropRealm r).Agrees Alike (dropRealm r) s t fun _ _ _ => True := by
  unfold dropRealm
  refine Action.Agrees.read_bind ?_
  rw [h.registered]
  refine Action.Agrees.bind (Action.Agrees.modify (q := fun _ _ _ => True) ?_ trivial) ?_
  · rw [h.world]
    exact h.setWorld _
  · exact fun _ _ _ h' _ => modifyRealm_agrees h' r fun _ => rfl

theorem install_agrees (h : Alike s t) (r : RealmId) (name : String) (p : NamespaceId)
    (x : Action World NamespaceId) :
    (install r name p x).Agrees Alike (install r name p x) s t fun _ _ _ => True := by
  unfold install
  refine Action.Agrees.bind (onWorld_agrees h _) fun i s' t' h' _ => ?_
  exact Action.Agrees.map (register_agrees h' r i)

theorem openClass_agrees (h : Alike s t) (r : RealmId) (name : String) (p : NamespaceId)
    (sup : Option NamespaceId) :
    (openClass r name p sup).Agrees Alike (openClass r name p sup) s t fun _ _ _ => True := by
  unfold openClass
  split
  · refine Action.Agrees.get_bind ?_
    rw [h.opening, h.world]
    split
    · exact install_agrees h r name p _
    · split
      · exact Action.Agrees.raise h
      · exact Action.Agrees.map (onWorld_agrees h _)
    · exact Action.Agrees.raise h
  · exact Action.Agrees.raise h

theorem openModule_agrees (h : Alike s t) (r : RealmId) (name : String) (p : NamespaceId) :
    (openModule r name p).Agrees Alike (openModule r name p) s t fun _ _ _ => True := by
  unfold openModule
  split
  · refine Action.Agrees.get_bind ?_
    rw [h.opening]
    split
    · exact install_agrees h r name p _
    · exact Action.Agrees.map (onWorld_agrees h _)
    · exact Action.Agrees.raise h
  · exact Action.Agrees.raise h

/-! ### Sites of a realm -/

theorem pruneSites_agrees (h : Alike s t) (r : RealmId) :
    (pruneSites r).Agrees Alike (pruneSites r) s t fun _ _ _ => True := by
  unfold pruneSites
  refine Action.Agrees.read_bind ?_
  rw [h.liveSites]
  exact modifyRealm_agrees h r fun _ => rfl

theorem makeSite_agrees (h : Alike s t) (r : RealmId) (name : String) (position : Position) :
    (makeSite r name position).Agrees Alike (makeSite r name position) s t fun _ _ _ => True := by
  unfold makeSite
  refine Action.Agrees.read_bind ?_
  rw [h.tally]
  refine Action.Agrees.bind (newSite_agrees h name position _ _ _) fun k s₁ t₁ h₁ _ => ?_
  refine Action.Agrees.bind (pruneSites_agrees h₁ r) fun _ s₂ t₂ h₂ _ => ?_
  exact Action.Agrees.map (modifyRealm_agrees h₂ r fun _ => rfl)

theorem invalidateEach_agrees (h : Alike s t) (ks : List SiteId) :
    (invalidateEach ks).Agrees Alike (invalidateEach ks) s t fun _ _ _ => True := by
  induction ks generalizing s t with
  | nil => exact Action.Agrees.pure h trivial
  | cons k ks ih => exact Action.Agrees.bind (invalidate_agrees h k) fun _ _ _ h' _ => ih h'

theorem invalidateAll_agrees (h : Alike s t) (r : RealmId) :
    (invalidateAll r).Agrees Alike (invalidateAll r) s t fun _ _ _ => True := by
  unfold invalidateAll
  refine Action.Agrees.bind (pruneSites_agrees h r) fun _ s₁ t₁ h₁ _ => ?_
  refine Action.Agrees.read_bind ?_
  rw [h₁.liveSites]
  refine Action.Agrees.bind (invalidateEach_agrees h₁ _) fun _ s₂ t₂ h₂ _ => ?_
  exact Action.Agrees.map (Action.Agrees.note (q := fun _ _ _ => True) h₂ rfl trivial)

end Store
end ConstantResolution
