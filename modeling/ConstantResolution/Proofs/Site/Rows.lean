import ConstantResolution.Proofs.Site.Calls
import ConstantResolution.Proofs.Success

/-! # Evaluations in a row

A site with memos that has made some lookups in a row since its last hit, or since it was made, counts them and
was reported exactly if they are as many as its threshold (`Site.InRow`).  An evaluation that no memo serves makes
the row longer by one: it counts a miss and a lookup, a name that was not found, and the site once, when the row
becomes as long as the threshold (`Reading.evaluate_missed`).  An evaluation that is served counts a hit
(`Reading.evaluate_served`), and a site without memos counts a miss and a lookup each time
(`Reading.evaluate_disabled`). -/

namespace ConstantResolution

/-- All evaluations so far, `n` of them, were lookups. -/
structure Site.InRow (s : Site) (n : Nat) : Prop where
  enabled : s.policy.enabled = true
  threshold : s.policy.threshold ≠ 0
  streak : s.streak = .ofNat n
  reported : s.reported = decide (s.policy.threshold.toNat ≤ n)

theorem Site.InRow.congr {s s' : Site} {n : Nat} (h : s.InRow n) (hpolicy : s'.policy = s.policy)
    (hstreak : s'.streak = s.streak) (hreported : s'.reported = s.reported) : s'.InRow n where
  enabled := by rw [hpolicy, h.enabled]
  threshold := by rw [hpolicy]; exact h.threshold
  streak := by rw [hstreak, h.streak]
  reported := by rw [hpolicy, hreported, h.reported]

theorem Site.InRow.streak_ne_last {s : Site} {n : Nat} (h : s.InRow n) (hn : n + 1 < UInt32.size) :
    s.streak ≠ Site.lastStreak := by
  rw [h.streak]
  intro heq
  have hnat := congrArg UInt32.toNat heq
  have hlast : Site.lastStreak.toNat = UInt32.size - 1 := rfl
  rw [UInt32.toNat_ofNat_of_lt' (by omega), hlast] at hnat
  omega

/-- What a lookup counts, by what it found and whether it makes the row as long as the threshold. -/
def missEvents (found reported : Bool) : List Count :=
  [.miss, .lookup] ++ (if found then [] else [.notFound]) ++ if reported then [.thrashing] else []

namespace Reading

variable {σ : Type} {n : Nat}

/-- One lookup more is counted. -/
theorem inRow_trackStreak {r : Reading σ} (h : r.site.InRow n) (hn : n + 1 < UInt32.size) :
    (trackStreak r).state.site.InRow (n + 1) := by
  have hstreak : r.site.streak + 1 = .ofNat (n + 1) := by rw [h.streak, UInt32.ofNat_add]; rfl
  have hlength : (r.site.streak + 1).toNat = n + 1 := by
    rw [hstreak, UInt32.toNat_ofNat_of_lt' hn]
  unfold trackStreak
  rw [Action.read_bind, if_neg h.threshold, modifySite, Action.modify_bind,
    if_neg (h.streak_ne_last hn), Action.read_bind]
  split
  · rename_i hthrashing
    rw [Site.isThrashing, Bool.and_eq_true, decide_eq_true_eq] at hthrashing
    have hle : r.site.policy.threshold.toNat ≤ n + 1 := hlength ▸ UInt32.le_iff_toNat_le.mp hthrashing.1
    exact ⟨h.enabled, h.threshold, hstreak, (decide_eq_true hle).symm⟩
  · rename_i hthrashing
    refine ⟨h.enabled, h.threshold, hstreak, h.reported.trans ?_⟩
    -- not reported now: the row is too short, or the site was reported before
    rw [Site.isThrashing, Bool.and_eq_true, decide_eq_true_eq, UInt32.le_iff_toNat_le] at hthrashing
    have hbefore : r.site.reported = _ := h.reported
    simp only [Site.countLookup, hlength, hbefore] at hthrashing ⊢
    rw [decide_eq_decide]
    simp only [Bool.not_eq_true', decide_eq_false_iff_not, not_and, not_not] at hthrashing
    exact ⟨fun hle => Nat.le_succ_of_le hle, hthrashing⟩

variable {r : Reading World} {i : NamespaceId}

/-- What an evaluation leaves behind that made a row longer by one. -/
structure Missed (i : NamespaceId) (n : Nat) (r r' : Reading World) : Prop extends Resolved i r r' where
  inRow : r'.site.InRow (n + 1)
  tally : r'.tally = r.tally.recordAll (missEvents (r.scope.lookup i r.site.name).isSome
    (n + 1 = r.site.policy.threshold.toNat))

/-- **A resolution that no memo serves makes the row longer by one.** -/
theorem resolve_missed (h : r.site.InRow n) (hn : n + 1 < UInt32.size)
    (hv : r.site.served? (r.scope.generation i) = none) :
    ∃ r' notes, resolve (World.scope i) r = ⟨r', notes, .ok (r.scope.lookup i r.site.name)⟩ ∧ Missed i n r r' := by
  obtain ⟨r', notes, hr, hresolved⟩ := resolve_result (r := r) i (h.streak_ne_last hn)
  rw [given_of_stale hv] at hr
  have hlooked : (r.lookedIn (World.scope i)).site.InRow n := by
    refine h.congr (Site.policy_store _ _ _) ?_ (reported_store _ _ _)
    exact streak_looked i r
  have hstate : (resolve (World.scope i) r).state = (trackStreak (r.lookedIn (World.scope i))).state := by
    rw [resolve_of_stale (World.scope i) h.enabled hv]
    exact (refresh_after (World.scope i) r).1
  have hrow : r'.site.InRow (n + 1) := by
    have := inRow_trackStreak hlooked hn
    rwa [← hstate, hr] at this
  refine ⟨r', notes, hr, hresolved, hrow, ?_⟩
  have htally := tally_resolve (k := 0) (t := 0) (o := some i) (World.scope i) r
  have hreported : (r.call 0 0 (some i) (World.scope i)).reported =
      decide (n + 1 = r.site.policy.threshold.toNat) := by
    have hthreshold : 0 < r.site.policy.threshold.toNat := by
      rw [Nat.pos_iff_ne_zero]
      exact fun hzero => h.threshold (UInt32.toNat_inj.mp hzero)
    show ((resolve (World.scope i) r).state.site.reported && !r.site.reported) = _
    rw [hr, hrow.reported, h.reported, hresolved.policy, Bool.eq_iff_iff]
    simp only [Bool.and_eq_true, Bool.not_eq_true', decide_eq_true_eq, decide_eq_false_iff_not]
    omega
  have hmissed : ((r.call 0 0 (some i) (World.scope i)).memos && (r.call 0 0 (some i) (World.scope i)).missed) =
      !(r.scope.lookup i r.site.name).isSome := by
    have hmemos : (r.call 0 0 (some i) (World.scope i)).memos = true := h.enabled
    rw [hmemos, Bool.true_and, Call.missed, lookups_of_stale (World.scope i) h.enabled hv]
    simp [asking, World.scope]
  rw [hr] at htally
  rw [htally, Call.counts, lookups_of_stale (World.scope i) h.enabled hv, if_neg (List.cons_ne_nil _ _), hmissed,
    hreported, missEvents]
  cases (r.scope.lookup i r.site.name).isSome <;> rfl

/-- **An evaluation that no memo serves makes the row longer by one**, and gives what is found, or what a handler
answers that leaves the world alone. -/
theorem evaluate_missed (h : r.site.InRow n) (hn : n + 1 < UInt32.size)
    (hv : r.site.served? (r.scope.generation i) = none) {answers : List Note} {v : Value}
    (hanswer : World.evaluateAfresh i r.site.name r.site.position r.scope = ⟨r.scope, answers, .ok v⟩) :
    (evaluate (World.scope i)).Succeeds r fun a r' => a = v ∧ Missed i n r r' := by
  obtain ⟨r', notes, hr, hmissed⟩ := resolve_missed h hn hv
  unfold evaluate
  refine Action.Succeeds.bind_of_eq hr ?_
  unfold World.evaluateAfresh at hanswer
  rw [Action.get_bind] at hanswer
  cases hfound : r.scope.lookup i r.site.name with
  | some u =>
      rw [hfound] at hanswer
      simp only [Action.pure_apply, Outcome.mk.injEq, Except.ok.injEq] at hanswer
      exact Action.Succeeds.pure ⟨hanswer.2.2, hmissed⟩
  | none =>
      rw [hfound] at hanswer
      have hsame : ({ r' with scope := r.scope } : Reading World) = r' := by rw [← hmissed.scope]
      refine Action.Succeeds.read_bind ⟨r', answers, v, ?_, rfl, hmissed⟩
      rw [locating_dispatch, Action.within_apply, hmissed.name, hmissed.position, hmissed.scope]
      simp only [hanswer, hsame]

/-- **An evaluation that is served counts a hit**, ends the row, and changes nothing else. -/
theorem evaluate_served {v : Value} (he : r.site.policy.enabled = true)
    (hv : r.site.served? (r.scope.generation i) = some v) :
    evaluate (World.scope i) r =
      ⟨{ r with site := r.site.endStreak, tally := r.tally.recordAll [.hit] }, [], .ok v⟩ := by
  unfold evaluate
  rw [Action.bind_of_ok (resolve_of_served (World.scope i) he hv)]
  rfl

/-- **An evaluation without memos counts a miss and a lookup**, and changes nothing else. -/
theorem evaluate_disabled {v : Value} (he : r.site.policy.enabled = false)
    (hv : r.scope.lookup i r.site.name = some v) :
    evaluate (World.scope i) r = ⟨{ r with tally := r.tally.recordAll [.miss, .lookup] }, [], .ok v⟩ := by
  have hr : resolve (World.scope i) r =
      ⟨{ r with tally := r.tally.recordAll [.miss, .lookup] }, [], .ok (some v)⟩ := by
    rw [resolve_of_disabled (World.scope i) he, ← hv]
    rfl
  unfold evaluate
  rw [Action.bind_of_ok hr]
  rfl

end Reading
end ConstantResolution
