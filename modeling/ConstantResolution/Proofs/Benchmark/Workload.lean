import ConstantResolution.Benchmark.Workload
import ConstantResolution.Proofs.Store.Tracing

/-! # What workloads keep

A workload opens classes and modules in its realm, and reads a site that it makes itself.  So it keeps
every contract of stores that these programs keep (`Serves.perform`).  Two of them matter: sites that
were there before stay fresh wherever they were (`perform_keeps`), and nothing is done with them
(`perform_traced`). -/

namespace ConstantResolution.Workload

open Store

/-- A contract of stores that is kept where classes and modules are opened in realms that are ready. -/
structure Builds (c : Contract Store) (ready : Store → RealmId → Prop) : Prop where
  alive : ∀ {s notes t i}, c.step s notes t → s.world.isAlive i = true → t.world.isAlive i = true
  still : ∀ {s notes t r}, c.step s notes t → ready s r → ready t r
  onWorld : ∀ {α : Type} {x : Action World α} {s : Store}, (x.Keeps World.calm s.world fun _ _ => True) →
    (Store.onWorld x).Keeps c s fun _ _ => True
  openClass : ∀ {s r p} name {sup : Option NamespaceId}, ready s r → s.world.isAlive p = true →
    (∀ {i}, sup = some i → s.world.isAlive i = true) →
    (Store.openClass r name p sup).Keeps c s fun i t => t.world.isAlive i = true
  openModule : ∀ {s r p} name, ready s r → s.world.isAlive p = true →
    (Store.openModule r name p).Keeps c s fun i t => t.world.isAlive i = true

/-- A contract of stores that is moreover kept by what is done with sites from a number on, and by making a site for
one use. -/
structure Serves (c : Contract Store) (ready : Store → RealmId → Prop) (base : SiteId) : Prop
    extends Builds c ready where
  sites : ∀ {s notes t}, c.step s notes t → s.sites.size ≤ t.sites.size
  withSite : ∀ {α : Type} {s : Store} (r : RealmId) (name : String) {use : SiteId → Action Store α},
    base ≤ s.sites.size →
    (∀ k t, base ≤ k → (∀ {i}, s.world.isAlive i = true → t.world.isAlive i = true) →
      (use k).Keeps c t fun _ _ => True) →
    (Workload.withSite r name use).Keeps c s fun _ _ => True
  evaluate : ∀ {s k i}, base ≤ k → s.world.isAlive i = true →
    (Store.evaluate k i).Keeps c s fun _ _ => True
  invalidate : ∀ {s : Store} {k}, base ≤ k → (Store.invalidate k).Keeps c s fun _ _ => True

variable {c : Contract Store} {ready : Store → RealmId → Prop} {s t : Store} {r : RealmId}
  {i : NamespaceId} {base k : SiteId} {R : SiteId → NamespaceId → Prop}

/-! ### Parts of workloads -/

theorem Builds.mixIn (h : Builds c ready) {top inner : NamespaceId} (n : Nat) (hr : ready s r)
    (htop : s.world.isAlive top = true) (hinner : s.world.isAlive inner = true) :
    (mixIn r top inner n).Keeps c s fun _ _ => True := by
  unfold Workload.mixIn
  refine Action.Keeps.bind (h.openModule _ hr htop) fun m t _ _ hstep hm => ?_
  exact h.onWorld (World.includeModule_calm (h.alive hstep hinner) hm)

/-- The scope with a long path lives. -/
theorem Builds.deepScope (h : Builds c ready) (hr : ready s r)
    (htop : s.world.isAlive (s.realm r).top = true) :
    (deepScope r).Keeps c s fun i t => t.world.isAlive i = true := by
  unfold Workload.deepScope
  refine Action.Keeps.read_bind fun _ => ?_
  refine Action.Keeps.bind (h.openClass _ hr htop nofun) fun b t _ _ h₁ hbase => ?_
  have hr₁ := h.still h₁ hr
  have htop₁ := h.alive h₁ htop
  refine Action.Keeps.bind (h.openModule _ hr₁ htop₁) fun outer t₂ _ _ h₂ houter => ?_
  have hr₂ := h.still h₂ hr₁
  refine Action.Keeps.bind (h.openModule _ hr₂ houter) fun middle t₃ _ _ h₃ hmiddle => ?_
  have hr₃ := h.still h₃ hr₂
  refine Action.Keeps.bind (h.openClass _ hr₃ hmiddle ?_) fun inner t₄ _ _ h₄ hinner => ?_
  · intro i hi
    obtain rfl := Option.some.inj hi
    exact h.alive h₃ (h.alive h₂ hbase)
  have htop₄ := h.alive h₄ (h.alive h₃ (h.alive h₂ htop₁))
  have hr₄ := h.still h₄ hr₃
  refine Action.Keeps.bind (Action.Keeps.times (fun n t₅ _ _ h₅ => ?_) mixins 0) fun _ t₆ _ _ h₆ _ => ?_
  · exact h.mixIn n (h.still h₅ hr₄) (h.alive h₅ htop₄) (h.alive h₅ hinner)
  · refine Action.Keeps.bind (h.onWorld (World.define_calm t₆.world _ _ _)) fun _ t₇ _ _ h₇ _ => ?_
    exact Action.Keeps.pure (h.alive h₇ (h.alive h₆ hinner))

theorem expect_keeps (expected actual : Value) :
    (expect expected actual).Keeps c s fun _ _ => True := by
  unfold expect
  split
  · exact Action.Keeps.pure trivial
  · exact Action.Keeps.raise

namespace Serves

variable (h : Serves c ready base)

include h

theorem readOnce (expected : Value) (hi : s.world.isAlive i = true) (hk : base ≤ k) :
    (readOnce k i expected).Keeps c s fun _ _ => True :=
  Action.Keeps.bind (h.evaluate hk hi) fun v _ _ _ _ _ => expect_keeps expected v

theorem evaluateOnce (hi : s.world.isAlive i = true) (hk : base ≤ k) :
    (evaluateOnce k i).Keeps c s fun _ _ => True :=
  Action.Keeps.map (h.evaluate hk hi)

theorem readMany (expected : Value) (n : Nat) (hi : s.world.isAlive i = true) (hk : base ≤ k) :
    (readMany k i expected n).Keeps c s fun _ _ => True :=
  Action.Keeps.times (fun _ _ _ _ hstep => h.readOnce expected (h.alive hstep hi) hk) n 0

end Serves

/-- **A site that is made for one use** is one of those that may be read. -/
theorem withSite_keeps {α : Type} {name : String} {use : SiteId → Action Store α}
    (hmake : (makeSite r name .unknown).Keeps c s fun k _ => k = s.sites.size)
    (hdrop : ∀ k t, (dropSite k).Keeps c t fun _ _ => True) (hbase : base ≤ s.sites.size)
    (huse : ∀ k t notes, base ≤ k → c.step s notes t → (use k).Keeps c t fun _ _ => True) :
    (withSite r name use).Keeps c s fun _ _ => True := by
  unfold Workload.withSite
  refine Action.Keeps.bind hmake fun k t notes _ hstep hk => ?_
  refine Action.Keeps.bind (huse k t notes ?_ hstep).outcome fun result u _ _ _ _ => ?_
  · rw [hk]
    exact hbase
  · refine Action.Keeps.bind (hdrop k u) fun _ v _ _ _ _ => ?_
    exact Action.Keeps.ofResult fun _ _ => trivial

/-- Threads that keep the contract wherever they start keep it together. -/
theorem join_keeps {xs : List (Action Store Unit)}
    (hx : ∀ x ∈ xs, ∀ t notes, c.step s notes t → x.Keeps c t fun _ _ => True) :
    (join xs).Keeps c s fun _ _ => True := by
  induction xs generalizing s with
  | nil => exact Action.Keeps.pure trivial
  | cons x xs ih =>
      unfold join
      refine Action.Keeps.bind (hx x List.mem_cons_self s [] (c.refl s [])).outcome ?_
      intro first t notes _ hstep _
      refine Action.Keeps.bind (Action.Keeps.outcome (ih ?_)) fun rest u _ _ _ _ => ?_
      · exact fun y hy u notes' hstep' => hx y (List.mem_cons_of_mem x hy) u _ (c.trans hstep hstep')
      · refine Action.Keeps.bind (Action.Keeps.ofResult (q := fun _ _ => True) fun _ _ => trivial) ?_
        exact fun _ _ _ _ _ _ => Action.Keeps.ofResult fun _ _ => trivial

/-! ### The workloads -/

namespace Serves

variable (h : Serves c ready base) (hr : ready s r) (htop : s.world.isAlive (s.realm r).top = true)
  (hbase : base ≤ s.sites.size) (n : UInt64)

include h hr htop hbase

theorem readRepeatedly : (readRepeatedly r n).Keeps c s fun _ _ => True := by
  unfold Workload.readRepeatedly
  refine Action.Keeps.bind (h.deepScope hr htop) fun i t _ _ hstep hi => ?_
  refine h.withSite r target (hbase.trans (h.sites hstep)) fun k u hk halive => ?_
  exact h.readMany targetValue n.toNat (halive hi) hk

theorem readForced : (readForced r n).Keeps c s fun _ _ => True := by
  unfold Workload.readForced
  refine Action.Keeps.bind (h.deepScope hr htop) fun i t _ _ hstep hi => ?_
  refine h.withSite r target (hbase.trans (h.sites hstep)) fun k u hk halive => ?_
  refine Action.Keeps.times (fun _ v _ _ hstep' => ?_) n.toNat 0
  exact Action.Keeps.bind (h.invalidate hk) fun _ _ _ _ hstep'' _ =>
    h.readOnce targetValue (h.alive hstep'' (h.alive hstep' (halive hi))) hk

theorem readShared : (readShared r n).Keeps c s fun _ _ => True := by
  unfold Workload.readShared
  refine Action.Keeps.bind (h.deepScope hr htop) fun i t _ _ hstep hi => ?_
  refine h.withSite r target (hbase.trans (h.sites hstep)) fun k u hk halive => ?_
  refine join_keeps fun x hx v _ hstep' => ?_
  rw [List.eq_of_mem_replicate hx]
  exact h.readMany targetValue _ (h.alive hstep' (halive hi)) hk

omit hr in
theorem readRefused : (readRefused r n).Keeps c s fun _ _ => True := by
  unfold Workload.readRefused
  refine Action.Keeps.read_bind fun _ => ?_
  refine h.withSite r missingName hbase fun k u hk halive => ?_
  exact Action.Keeps.times (fun _ v _ _ hstep => h.evaluateOnce (h.alive hstep (halive htop)) hk) n.toNat 0

omit hr in
theorem readAnswered : (readAnswered r n).Keeps c s fun _ _ => True := by
  unfold Workload.readAnswered
  refine Action.Keeps.read_bind fun _ => ?_
  refine Action.Keeps.bind (h.onWorld (World.setHandler_calm s.world _ _)) fun _ t _ _ hstep _ => ?_
  refine h.withSite r absentName (hbase.trans (h.sites hstep)) fun k u hk halive => ?_
  exact h.readMany _ n.toNat (halive (h.alive hstep htop)) hk

theorem readRedefined : (readRedefined r n).Keeps c s fun _ _ => True := by
  unfold Workload.readRedefined
  refine Action.Keeps.bind (h.deepScope hr htop) fun i t _ _ hstep hi => ?_
  refine Action.Keeps.read_bind fun _ => ?_
  refine h.withSite r target (hbase.trans (h.sites hstep)) fun k u hk halive => ?_
  refine Action.Keeps.times (fun j v _ _ hstep' => ?_) _ 0
  refine Action.Keeps.bind (h.onWorld (World.define_calm v.world _ _ _)) fun _ _ _ _ hstep'' _ => ?_
  exact h.readOnce _ (h.alive hstep'' (h.alive hstep' (halive hi))) hk

/-- **A workload keeps what its parts keep.** -/
theorem perform (wl : Workload) : (wl.perform r n).Keeps c s fun _ _ => True := by
  cases wl with
  | repeatedReads => exact h.readRepeatedly hr htop hbase n
  | redefinedReads => exact h.readRedefined hr htop hbase n
  | forcedReads => exact h.readForced hr htop hbase n
  | answeredReads => exact h.readAnswered htop hbase n
  | sharedReads => exact h.readShared hr htop hbase n
  | refusedReads => exact h.readRefused htop hbase n
  | idle => exact Action.Keeps.pure trivial

end Serves

/-! ### Sites that were there stay fresh -/

/-- Sites from a number on are read. -/
def From (base k : SiteId) (_ : NamespaceId) : Prop := base ≤ k

theorem builds_contract (R : SiteId → NamespaceId → Prop) : Builds (contract R) fun _ _ => True where
  alive := fun hstep ha => hstep.alive ha
  still := fun _ _ => trivial
  onWorld := fun hx =>
    (onWorld_keeps (hx.weaken (fun _ => Iff.rfl) fun _ _ _ h => h.toFollows)).imp fun _ _ _ _ => trivial
  openClass := fun name _ _ hp hsup => openClass_keeps _ name hp hsup
  openModule := fun name _ hp => openModule_keeps _ name hp

theorem serves_contract (base : SiteId) : Serves (contract (From base)) (fun _ _ => True) base where
  toBuilds := builds_contract (From base)
  sites := fun hstep => hstep.sites
  withSite := fun r name _ hbase huse => withSite_keeps ((makeSite_keeps r name .unknown).imp fun _ _ _ h => h.1)
    (fun k _ => (dropSite_keeps k).imp fun _ _ _ _ => trivial) hbase fun k t _ hk hstep =>
      huse k t hk fun ha => hstep.alive ha
  evaluate := fun hk hi => evaluate_keeps hi hk
  invalidate := fun {_ k} _ => invalidate_keeps k

theorem deepScope_keeps (r : RealmId) (htop : s.world.isAlive (s.realm r).top = true) :
    (deepScope r).Keeps (contract R) s fun i t => t.world.isAlive i = true :=
  (builds_contract R).deepScope trivial htop

/-- **A workload reads no sites but those that it makes**, and otherwise does what realms do. -/
theorem perform_keeps (htop : s.world.isAlive (s.realm r).top = true) (hbase : base ≤ s.sites.size)
    (n : UInt64) (wl : Workload) : (wl.perform r n).Keeps (contract (From base)) s fun _ _ => True :=
  (serves_contract base).perform trivial htop hbase n wl

/-! ### Nothing is done with them -/

/-- A deed that is done with a site from a number on. -/
def DoneFrom (base : SiteId) : Deed → Prop
  | .call c => base ≤ c.site
  | .invalidation k _ => base ≤ k
  | .renaming k => base ≤ k
  | .record _ _ => False

theorem serves_tracing (base : SiteId) :
    Serves (tracing (DoneFrom base)) (fun s r => r < s.realms.size) base where
  alive := fun hstep ha => hstep.1.alive ha
  still := fun hstep hr => hr.trans_le hstep.1.realms
  onWorld := fun hx => (onWorld_traced hx).imp fun _ _ _ _ => trivial
  openClass := fun name _ hr hp hsup => openClass_traced _ name hr hp hsup
  openModule := fun name hr hp => openModule_traced _ name hr hp
  sites := fun hstep => hstep.1.sites
  withSite := fun r name _ hbase huse => withSite_keeps ((makeSite_traced r name .unknown).imp fun _ _ _ h => h.1)
    (fun k _ => (dropSite_traced k).imp fun _ _ _ _ => trivial) hbase fun k t _ hk hstep =>
      huse k t hk fun ha => hstep.1.alive ha
  evaluate := fun hk hi => evaluate_traced hi fun _ hc => hk.trans_eq hc.symm
  invalidate := fun {_ k} hk => invalidate_traced k fun _ => hk

/-- **A workload is a run whose deeds are done with sites that it makes.** -/
theorem perform_traced (hr : r < s.realms.size) (htop : s.world.isAlive (s.realm r).top = true)
    (hbase : base ≤ s.sites.size) (n : UInt64) (wl : Workload) :
    (wl.perform r n).Keeps (tracing (DoneFrom base)) s fun _ _ => True :=
  (serves_tracing base).perform hr htop hbase n wl

end ConstantResolution.Workload
