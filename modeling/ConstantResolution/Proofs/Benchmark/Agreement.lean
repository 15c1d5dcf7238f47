import ConstantResolution.Proofs.Benchmark.Workload
import ConstantResolution.Proofs.Store.Agreement

/-! # Workloads under different policies

A workload makes the site that it reads, so that the site is fresh from the start, and reads it in one
namespace.  It follows that a workload does the same in stores that are alike (`perform_agrees`). -/

namespace ConstantResolution.Workload

open Store

variable {s t : Store} {r : RealmId} {i : NamespaceId} {k : SiteId}

/-! ### Sites that are ready to be read -/

/-- A site may be read in a namespace. -/
structure Ready (k : SiteId) (i : NamespaceId) (s : Store) : Prop where
  sound : s.Sound
  alive : s.world.isAlive i = true
  fresh : s.FreshAt k i

/-- Reads of one site in one namespace. -/
def Only (k : SiteId) (i : NamespaceId) (k' : SiteId) (j : NamespaceId) : Prop := k' = k ∧ j = i

theorem Ready.of_leads (h : Ready k i s) (hl : (contract (Only k i)).Leads s t) : Ready k i t := by
  obtain ⟨hv, notes, hn, hstep⟩ := hl
  exact ⟨hv, hstep.alive h.alive, hstep.fresh (hn.not_mem .generation) (fun _ hj => hj.2) h.fresh⟩

/-- Stores that are alike, in both of which a site may be read. -/
structure ReadyAlike (k : SiteId) (i : NamespaceId) (s t : Store) : Prop where
  alike : Alike s t
  left : Ready k i s
  right : Ready k i t

/-- What reads one site keeps it ready. -/
theorem agrees_of_keeps {α : Type} {x : Action Store α} (hR : ReadyAlike k i s t)
    (h : x.Agrees Alike x s t fun _ _ _ => True)
    (hx : ∀ u, Ready k i u → x.Keeps (contract (Only k i)) u fun _ _ => True) :
    x.Agrees (ReadyAlike k i) x s t fun _ _ _ => True := by
  refine (h.and (I := Ready k i) ?_ ?_).imp (fun h => ⟨h.1, h.2.1, h.2.2⟩) fun _ _ _ _ h => h
  · exact fun hn => hR.left.of_leads ((hx s hR.left).leads hR.left.sound hn)
  · exact fun hn => hR.right.of_leads ((hx t hR.right).leads hR.right.sound hn)

/-! ### Parts of workloads -/

theorem evaluate_agrees (h : ReadyAlike k i s t) :
    (evaluate k i).Agrees (ReadyAlike k i) (evaluate k i) s t fun _ _ _ => True := by
  refine agrees_of_keeps h (atSite_agrees h.alike k fun p p' hp hp' hread => ?_) fun u hu => ?_
  · exact Reading.evaluate_agrees hread h.left.alive (h.left.fresh p hp) (h.right.fresh p' hp')
  · exact evaluate_keeps hu.alive ⟨rfl, rfl⟩

theorem expect_agrees (h : ReadyAlike k i s t) (expected actual : Value) :
    (expect expected actual).Agrees (ReadyAlike k i) (expect expected actual) s t fun _ _ _ => True := by
  unfold expect
  split
  · exact Action.Agrees.pure h trivial
  · exact Action.Agrees.raise h

theorem readOnce_agrees (h : ReadyAlike k i s t) (expected : Value) :
    (readOnce k i expected).Agrees (ReadyAlike k i) (readOnce k i expected) s t fun _ _ _ => True :=
  Action.Agrees.bind (evaluate_agrees h) fun v _ _ h' _ => expect_agrees h' expected v

theorem evaluateOnce_agrees (h : ReadyAlike k i s t) :
    (evaluateOnce k i).Agrees (ReadyAlike k i) (evaluateOnce k i) s t fun _ _ _ => True :=
  Action.Agrees.map (evaluate_agrees h)

theorem readMany_agrees (h : ReadyAlike k i s t) (expected : Value) (n : Nat) :
    (readMany k i expected n).Agrees (ReadyAlike k i) (readMany k i expected n) s t fun _ _ _ => True :=
  Action.Agrees.times (fun _ _ _ h' => readOnce_agrees h' expected) h n 0

theorem invalidateAndRead_agrees (h : ReadyAlike k i s t) :
    (invalidateAndRead i k).Agrees (ReadyAlike k i) (invalidateAndRead i k) s t fun _ _ _ => True := by
  refine Action.Agrees.bind (agrees_of_keeps h (invalidate_agrees h.alike k) fun u _ => ?_) ?_
  · exact invalidate_keeps k
  · exact fun _ _ _ h' _ => readOnce_agrees h' targetValue

theorem redefineAndRead_agrees (h : ReadyAlike k i s t) (top : NamespaceId) (n : Nat) :
    (redefineAndRead top i k n).Agrees (ReadyAlike k i) (redefineAndRead top i k n) s t
      fun _ _ _ => True := by
  refine Action.Agrees.bind (agrees_of_keeps h (onWorld_agrees h.alike _) fun u _ => ?_) ?_
  · exact (onWorld_keeps (World.define_keeps u.world top _ _)).imp fun _ _ _ _ => trivial
  · exact fun _ _ _ h' _ => readOnce_agrees h' _

theorem join_agrees {R : Store → Store → Prop} {xs : List (Action Store Unit)} (h : R s t)
    (hx : ∀ x ∈ xs, ∀ s t, R s t → x.Agrees R x s t fun _ _ _ => True) :
    (join xs).Agrees R (join xs) s t fun _ _ _ => True := by
  induction xs generalizing s t with
  | nil => exact Action.Agrees.pure h trivial
  | cons x xs ih =>
      unfold join
      refine Action.Agrees.bind (hx x List.mem_cons_self s t h).outcome fun first s₁ t₁ h₁ _ => ?_
      have hrest := ih h₁ fun y hy => hx y (List.mem_cons_of_mem x hy)
      refine Action.Agrees.bind hrest.outcome fun rest s₂ t₂ h₂ _ => ?_
      refine Action.Agrees.bind (Action.Agrees.ofResult (q := fun _ _ _ => True) h₂ fun _ _ => trivial) ?_
      exact fun _ _ _ h₃ _ => Action.Agrees.ofResult h₃ fun _ _ => trivial

theorem mixIn_agrees (h : Alike s t) (r : RealmId) (top inner : NamespaceId) (n : Nat) :
    (mixIn r top inner n).Agrees Alike (mixIn r top inner n) s t fun _ _ _ => True :=
  Action.Agrees.bind (openModule_agrees h r _ top) fun _ _ _ h' _ => onWorld_agrees h' _

theorem deepScope_agrees (h : Alike s t) (r : RealmId) :
    (deepScope r).Agrees Alike (deepScope r) s t fun _ _ _ => True := by
  unfold deepScope
  refine Action.Agrees.read_bind ?_
  rw [h.top]
  refine Action.Agrees.bind (openClass_agrees h r _ _ _) fun base s₁ t₁ h₁ _ => ?_
  refine Action.Agrees.bind (openModule_agrees h₁ r _ _) fun outer s₂ t₂ h₂ _ => ?_
  refine Action.Agrees.bind (openModule_agrees h₂ r _ _) fun middle s₃ t₃ h₃ _ => ?_
  refine Action.Agrees.bind (openClass_agrees h₃ r _ _ _) fun inner s₄ t₄ h₄ _ => ?_
  refine Action.Agrees.bind (Action.Agrees.times ?_ h₄ mixins 0) fun _ s₅ t₅ h₅ _ => ?_
  · exact fun n s t h' => mixIn_agrees h' r _ inner n
  · exact Action.Agrees.map (onWorld_agrees h₅ _)

/-- **A site that is made for one use** is ready for it. -/
theorem withSite_agrees {α : Type} (h : Alike s t) (hs : s.Sound) (ht : t.Sound)
    (hi : s.world.isAlive i = true) (r : RealmId) (name : String) {use : SiteId → Action Store α}
    (huse : ∀ k s' t', ReadyAlike k i s' t' →
      (use k).Agrees (ReadyAlike k i) (use k) s' t' fun _ _ _ => True) :
    (withSite r name use).Agrees Alike (withSite r name use) s t fun _ _ _ => True := by
  unfold withSite
  have hmake := (makeSite_agrees h r name .unknown).keeps (c := contract fun _ _ => False)
    (makeSite_keeps r name .unknown) (makeSite_keeps r name .unknown) hs ht
  refine Action.Agrees.bind hmake ?_
  rintro k s' t' h' ⟨-, ⟨⟨hs', notes, -, hstep⟩, -, -, hfresh⟩, ⟨⟨ht', notes', -, hstep'⟩, -, -, hfresh'⟩⟩
  have hready : ReadyAlike k i s' t' :=
    ⟨h', ⟨hs', hstep.alive hi, hfresh i⟩, ⟨ht', hstep'.alive (h.world ▸ hi), hfresh' i⟩⟩
  have hused := (huse k s' t' hready).outcome.imp (S := Alike) (p := fun _ _ _ => True)
    (fun h => h.alike) fun _ _ _ _ h => h
  refine Action.Agrees.bind hused fun result s₁ t₁ h₁ _ => ?_
  refine Action.Agrees.bind (dropSite_agrees h₁ k) fun _ s₂ t₂ h₂ _ => ?_
  exact Action.Agrees.ofResult h₂ fun _ _ => trivial

/-! ### The workloads -/

section workloads

variable (h : Alike s t) (hs : s.Sound) (ht : t.Sound) (htop : s.world.isAlive (s.realm r).top = true)
  (n : UInt64)

include h hs ht htop

/-- A deep scope, and a site that is used in it. -/
theorem deepScope_bind_agrees {f : NamespaceId → Action Store Unit}
    (hf : ∀ i s' t', Alike s' t' → s'.Sound → t'.Sound → s'.world.isAlive i = true →
      (f i).Agrees Alike (f i) s' t' fun _ _ _ => True) :
    (deepScope r >>= f).Agrees Alike (deepScope r >>= f) s t fun _ _ _ => True := by
  have htop' : t.world.isAlive (t.realm r).top = true := by
    rw [← h.world, ← h.top]
    exact htop
  have hdeep := (deepScope_agrees h r).keeps (c := contract fun _ _ => False)
    (deepScope_keeps r htop) (deepScope_keeps r htop') hs ht
  refine Action.Agrees.bind hdeep ?_
  rintro i s' t' h' ⟨-, ⟨⟨hs', -⟩, hi⟩, ⟨⟨ht', -⟩, -⟩⟩
  exact hf i s' t' h' hs' ht' hi

theorem readRepeatedly_agrees :
    (readRepeatedly r n).Agrees Alike (readRepeatedly r n) s t fun _ _ _ => True := by
  refine deepScope_bind_agrees h hs ht htop fun i s' t' h' hs' ht' hi => ?_
  exact withSite_agrees h' hs' ht' hi r target fun k _ _ hR => readMany_agrees hR targetValue n.toNat

theorem readRedefined_agrees :
    (readRedefined r n).Agrees Alike (readRedefined r n) s t fun _ _ _ => True := by
  refine deepScope_bind_agrees h hs ht htop fun i s' t' h' hs' ht' hi => ?_
  refine Action.Agrees.read_bind ?_
  rw [h'.top]
  refine withSite_agrees h' hs' ht' hi r target fun k _ _ hR => ?_
  exact Action.Agrees.times (fun m _ _ hR' => redefineAndRead_agrees hR' _ m) hR _ 0

theorem readForced_agrees : (readForced r n).Agrees Alike (readForced r n) s t fun _ _ _ => True := by
  refine deepScope_bind_agrees h hs ht htop fun i s' t' h' hs' ht' hi => ?_
  refine withSite_agrees h' hs' ht' hi r target fun k _ _ hR => ?_
  exact Action.Agrees.times (fun _ _ _ hR' => invalidateAndRead_agrees hR') hR _ 0

theorem readShared_agrees : (readShared r n).Agrees Alike (readShared r n) s t fun _ _ _ => True := by
  refine deepScope_bind_agrees h hs ht htop fun i s' t' h' hs' ht' hi => ?_
  refine withSite_agrees h' hs' ht' hi r target fun k _ _ hR => join_agrees hR fun x hx _ _ hR' => ?_
  rw [List.eq_of_mem_replicate hx]
  exact readMany_agrees hR' targetValue _

theorem readAnswered_agrees :
    (readAnswered r n).Agrees Alike (readAnswered r n) s t fun _ _ _ => True := by
  unfold readAnswered
  refine Action.Agrees.read_bind ?_
  rw [h.top]
  have hset := (onWorld_agrees h (Action.modify fun w => w.setHandler (t.realm r).top ⟨none, .symbol⟩)).keeps
    (c := contract fun _ _ => False) (onWorld_keeps (World.setHandler_keeps s.world _ _))
    (onWorld_keeps (World.setHandler_keeps t.world _ _)) hs ht
  refine Action.Agrees.bind hset ?_
  rintro _ s' t' h' ⟨-, ⟨⟨hs', notes, -, hstep⟩, -⟩, ⟨⟨ht', -⟩, -⟩⟩
  refine withSite_agrees h' hs' ht' (hstep.alive (h.top r ▸ htop)) r absentName fun k _ _ hR => ?_
  exact readMany_agrees hR _ n.toNat

theorem readRefused_agrees :
    (readRefused r n).Agrees Alike (readRefused r n) s t fun _ _ _ => True := by
  unfold readRefused
  refine Action.Agrees.read_bind ?_
  rw [h.top]
  refine withSite_agrees h hs ht (h.top r ▸ htop) r missingName fun k _ _ hR => ?_
  exact Action.Agrees.times (fun _ _ _ hR' => evaluateOnce_agrees hR') hR _ 0

/-- **A workload does the same under all policies.** -/
theorem perform_agrees (wl : Workload) :
    (wl.perform r n).Agrees Alike (wl.perform r n) s t fun _ _ _ => True := by
  cases wl with
  | repeatedReads => exact readRepeatedly_agrees h hs ht htop n
  | redefinedReads => exact readRedefined_agrees h hs ht htop n
  | forcedReads => exact readForced_agrees h hs ht htop n
  | answeredReads => exact readAnswered_agrees h hs ht htop n
  | sharedReads => exact readShared_agrees h hs ht htop n
  | refusedReads => exact readRefused_agrees h hs ht htop n
  | idle => exact Action.Agrees.pure h trivial

end workloads

end ConstantResolution.Workload
