import ConstantResolution.Proofs.Benchmark.Counters

/-! # Evaluations that a benchmark performs

Every evaluation is a hit or a miss, so that hits and misses together are the evaluations that were performed.  The
benchmarks that read their site in one row perform as many as they are told to.  The one that shares its site among
threads gives each of them the same whole number of reads, and leaves the rest out (`Suite.micro_evaluations`).

All threads read one site in one scope, so that it makes no difference which of them a read belongs to: together
they are one row of reads (`Hot`). -/

namespace ConstantResolution

/-- How many evaluations were counted. -/
def Tally.evaluations (t : Tally) : Nat := t.hits.toNat + t.misses.toNat

namespace Workload

open Store

/-- How many evaluations a workload performs that is told to perform `n`. -/
def performed (wl : Workload) (n : Nat) : Nat := if wl = .sharedReads then threads * (n / threads) else n

/-! ### Threads -/

/-- Threads that each go on for `n` rounds, one thread after another. -/
theorem succeeds_join {l : List (Action Store Unit)} {n : Nat} (P : Nat → Store → Prop)
    (hstep : ∀ x ∈ l, ∀ j s, P j s → x.Succeeds s fun _ t => P (j + n) t) {j : Nat} {s : Store} (h : P j s) :
    (join l).Succeeds s fun _ t => P (j + l.length * n) t := by
  induction l generalizing j s with
  | nil => exact Action.Succeeds.pure (by simpa using h)
  | cons x l ih =>
      have hrest : ∀ t, P (j + n) t → (join l).Succeeds t fun _ u => P (j + (x :: l).length * n) u := by
        intro t ht
        have hn : j + n + l.length * n = j + (x :: l).length * n := by
          rw [List.length_cons, Nat.succ_mul]
          omega
        rw [← hn]
        exact ih (fun y hy => hstep y (List.mem_cons_of_mem x hy)) ht
      obtain ⟨t, notes, _, hx, ht⟩ := hstep x List.mem_cons_self j s h
      obtain ⟨u, notes', _, hl, hu⟩ := hrest t ht
      -- both are awaited, and neither of them failed
      have hfirst : Action.outcome x s = ⟨t, notes, .ok (.ok ())⟩ := by rw [Action.outcome_apply, hx]
      have hothers : Action.outcome (join l) t = ⟨u, notes', .ok (.ok ())⟩ := by rw [Action.outcome_apply, hl]
      unfold join
      refine Action.Succeeds.bind_of_eq hfirst (Action.Succeeds.bind_of_eq hothers ?_)
      exact ⟨u, [], (), rfl, hu⟩

/-- Threads that read a constant that does not change, the same number of times each. -/
theorem Hot.shared {m : Realm} {r : Reading World} {i : NamespaceId} {w : World} {j : Nat}
    (hw : w.lookup i target = some targetValue) (h : Hot i w j r) (k n : Nat) :
    (join (List.replicate k (readMany 0 i targetValue n))).Succeeds (stage m r)
      fun _ s => ∃ r', s = stage m r' ∧ Hot i w (j + k * n) r' := by
  have hjoin := succeeds_join (l := List.replicate k (readMany 0 i targetValue n)) (n := n)
    (fun j s => ∃ r, s = stage m r ∧ Hot i w j r) ?_ ⟨r, rfl, h⟩
  · rwa [List.length_replicate] at hjoin
  · rintro x hx j _ ⟨r, rfl, hr⟩
    obtain rfl := List.eq_of_mem_replicate hx
    exact hr.row hw

/-- Shared reads count what as many reads in a row do: each thread has the same whole number of them. -/
theorem counts_sharedReads {c : UInt64} : Counts .sharedReads {} c (hotTally (threads * (c.toNat / threads))) := by
  refine succeeds_deepScope (by decide) (succeeds_withSite isConstantName_target rfl rfl ?_)
  refine ((hot_zero (rowed_zero target false false deep) rfl rfl).shared lookup_deep threads _).imp ?_
  rintro _ _ ⟨r, rfl, hr⟩
  exact ⟨r, rfl, by rw [hr.tally, Nat.zero_add]⟩

/-! ### Evaluations -/

theorem performed_le (wl : Workload) (n : Nat) : wl.performed n ≤ n := by
  unfold performed
  split
  · exact Nat.mul_div_le n threads
  · exact Nat.le_refl n

theorem performed_eq_iff {wl : Workload} {n : Nat} :
    wl.performed n = n ↔ wl = .sharedReads → threads ∣ n := by
  unfold performed
  split
  · rename_i h
    exact ⟨fun heq _ => Dvd.intro _ heq, fun hdvd => Nat.mul_div_cancel' (hdvd h)⟩
  · rename_i h
    exact ⟨fun _ hshared => absurd hshared h, fun _ => rfl⟩

theorem evaluations_hotTally {n : Nat} (hn : n < UInt64.size) : (hotTally n).evaluations = n := by
  have hhits : (UInt64.ofNat (n - 1)).toNat = n - 1 := UInt64.toNat_ofNat_of_lt' (by omega)
  have hmisses : (UInt64.ofNat (min n 1)).toNat = min n 1 := UInt64.toNat_ofNat_of_lt' (by omega)
  show (UInt64.ofNat (n - 1)).toNat + (UInt64.ofNat (min n 1)).toNat = n
  rw [hhits, hmisses]
  omega

theorem evaluations_misses {n : Nat} {t : Tally} (hn : n < UInt64.size) (hhits : t.hits = 0)
    (hmisses : t.misses = .ofNat n) : t.evaluations = n := by
  unfold Tally.evaluations
  rw [hhits, hmisses, UInt64.toNat_ofNat_of_lt' hn]
  exact Nat.zero_add n

end Workload

namespace Suite

open Workload

/-- Each of the benchmarks counts a number of evaluations that depends on its workload alone. -/
theorem exists_counts {c : UInt64} (hc : c.toNat < UInt32.size) :
    ∀ b ∈ micro.benchmarks, ∃ t, Counts b.workload b.policy c t ∧ t.evaluations = b.workload.performed c.toNat := by
  have hsize : c.toNat < UInt64.size := c.toNat_lt
  have hshared : threads * (c.toNat / threads) < UInt64.size := (performed_le .sharedReads _).trans_lt hsize
  simp only [micro, List.forall_mem_cons, List.not_mem_nil, false_imp_iff, implies_true, and_true]
  refine ⟨?hot, ?uncached, ?redefined, ?forced, ?answered, ?shared⟩
  case hot => exact ⟨_, counts_repeatedReads, evaluations_hotTally hsize⟩
  case uncached => exact ⟨_, counts_repeatedReads_uncached, evaluations_misses hsize rfl rfl⟩
  case redefined => exact ⟨_, counts_redefinedReads hc, evaluations_misses hsize rfl rfl⟩
  case forced => exact ⟨_, counts_forcedReads hc, evaluations_misses hsize rfl rfl⟩
  case answered => exact ⟨_, counts_answeredReads hc, evaluations_misses hsize rfl rfl⟩
  case shared => exact ⟨_, counts_sharedReads, evaluations_hotTally hshared⟩

/-- **How many evaluations a benchmark performs.**  Every benchmark succeeds, for every number of evaluations that a
row can count.  It performs that number, unless it shares its site among threads that cannot share the number evenly:
then it performs the largest number below that they can. -/
theorem micro_evaluations {n : UInt64} (hn : n.toNat < 2 ^ 32) {b : Benchmark} (hb : b ∈ micro.benchmarks) :
    ({ b with iterations := n } : Benchmark).trial.success = true ∧
      ({ b with iterations := n } : Benchmark).trial.tally.evaluations = b.workload.performed n.toNat ∧
      (({ b with iterations := n } : Benchmark).trial.tally.evaluations = n.toNat ↔
        b.workload = .sharedReads → threads ∣ n.toNat) := by
  obtain ⟨t, hcounts, ht⟩ := exists_counts hn b hb
  have htrial : ({ b with iterations := n } : Benchmark).trial = ⟨t, none⟩ := trial_eq hcounts
  rw [htrial]
  refine ⟨rfl, ht, ?_⟩
  show t.evaluations = n.toNat ↔ _
  rw [ht]
  exact performed_eq_iff

/-- Seven reads from four threads are four. -/
theorem micro_evaluations_seven : (micro.benchmarks.getLast?.map fun b =>
    ({ b with iterations := 7 } : Benchmark).trial.tally.evaluations) = some 4 := by
  have hlast : micro.benchmarks.getLast? =
      some ⟨"contended_hot_hit", "Hot reads of one site from four threads", iterations, {}, .sharedReads⟩ := rfl
  rw [hlast]
  exact congrArg some (micro_evaluations (n := 7) (by decide) (List.mem_of_getLast? hlast)).2.1

/-- One read from four threads is none. -/
theorem shared_read_not_performed : ¬ ∀ b ∈ micro.benchmarks, ∀ n : UInt64, n.toNat < 2 ^ 32 →
    ({ b with iterations := n } : Benchmark).trial.success = true ∧
      ({ b with iterations := n } : Benchmark).trial.tally.evaluations = n.toNat := by
  intro h
  have hmem : (⟨"contended_hot_hit", "Hot reads of one site from four threads", iterations, {}, .sharedReads⟩ :
      Benchmark) ∈ micro.benchmarks := by decide +kernel
  have hnone : (Benchmark.trial ⟨"contended_hot_hit", "Hot reads of one site from four threads", 1, {},
      .sharedReads⟩).tally.evaluations = 0 := by decide +kernel
  have hone := (h _ hmem 1 (by decide)).2
  rw [hnone] at hone
  exact absurd hone (by decide)

end Suite
end ConstantResolution
