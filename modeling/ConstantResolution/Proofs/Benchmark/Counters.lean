import ConstantResolution.Benchmark.Suite
import ConstantResolution.Proofs.Site.Rows
import ConstantResolution.Proofs.World.Definition

/-! # Counters of the benchmarks in closed form

The benchmarks that evaluate one site in a row succeed, and what they count is a function of the number of
evaluations (`Suite.micro_trials`).

A workload builds its scope and makes one site there; what it does from then on is done with a reading
(`Workload.stage`).  Each round of its loop is an evaluation of one kind: served, without memos, or missed.  So the
counters after a number of rounds are the invariant of the loop. -/

namespace ConstantResolution

namespace Workload

open Store

/-! ### The stage -/

/-- A store with one realm and one site, which is read. -/
def stage (m : Realm) (r : Reading World) : Store where
  world := r.scope
  tallies := #[r.tally]
  sites := #[⟨r.site, 0, true⟩]
  realms := #[m]

variable {m : Realm} {r : Reading World} {α : Type}

theorem atSite_stage (x : Action (Reading World) α) :
    atSite 0 x (stage m r) = ⟨stage m (x r).state, (x r).notes, (x r).result⟩ := rfl

/-- What is done with the site is done with the reading. -/
theorem succeeds_atSite {x : Action (Reading World) α} {q : α → Reading World → Prop} (h : x.Succeeds r q) :
    (atSite 0 x).Succeeds (stage m r) fun a s => ∃ r', s = stage m r' ∧ q a r' := by
  obtain ⟨r', notes, a, hx, ha⟩ := h
  refine ⟨stage m r', notes, a, ?_, r', rfl, ha⟩
  rw [atSite_stage, hx]

theorem succeeds_onWorld {x : Action World α} {q : α → World → Prop} (h : x.Succeeds r.scope q) :
    (onWorld x).Succeeds (stage m r) fun a s => ∃ w, s = stage m { r with scope := w } ∧ q a w := by
  obtain ⟨w, notes, a, hx, ha⟩ := h
  refine ⟨stage m { r with scope := w }, notes, a, ?_, w, rfl, ha⟩
  have hworld : (stage m r).world = r.scope := rfl
  rw [onWorld, Action.within_apply, hworld, hx]
  rfl

/-- A read of an expected value. -/
theorem succeeds_readOnce {i : NamespaceId} {v : Value} {q : Reading World → Prop} (hv : v.same v = true)
    (h : (Reading.evaluate (World.scope i)).Succeeds r fun a r' => a = v ∧ q r') :
    (readOnce 0 i v).Succeeds (stage m r) fun _ s => ∃ r', s = stage m r' ∧ q r' := by
  unfold readOnce
  refine Action.Succeeds.bind (succeeds_atSite h) ?_
  rintro _ _ ⟨r', rfl, rfl, hq⟩
  unfold expect
  rw [if_pos hv]
  exact Action.Succeeds.pure ⟨r', rfl, hq⟩

/-- The first site of a realm is put on the stage. -/
theorem makeSite_stage {w : World} {name : String} (hname : isConstantName name = true) (hm : m.tally = 0)
    (hsites : m.sites = []) : makeSite 0 name .unknown ⟨w, #[{}], #[], #[m]⟩ =
      ⟨stage { m with sites := [0] } ⟨{ name, position := .unknown, policy := m.policy }, {}, w⟩, [], .ok 0⟩ := by
  obtain ⟨policy, top, tally, registered, sites⟩ := m
  obtain rfl : tally = 0 := hm
  obtain rfl : sites = [] := hsites
  have hnew : newSite name .unknown policy 0 ⟨w, #[{}], #[], #[⟨policy, top, 0, registered, []⟩]⟩ =
      ⟨⟨w, #[{}], #[⟨{ name, position := .unknown, policy }, 0, true⟩], #[⟨policy, top, 0, registered, []⟩]⟩, [],
        .ok 0⟩ := by
    unfold newSite Site.new
    rw [if_pos hname]
    rfl
  unfold makeSite
  rw [Action.read_bind]
  exact (Action.bind_of_quiet hnew _).trans rfl

/-- **A workload at one site**: what its rounds keep says what is counted at its end. -/
theorem succeeds_withSite {w : World} {name : String} (hname : isConstantName name = true) (hm : m.tally = 0)
    (hsites : m.sites = []) {use : SiteId → Action Store Unit} {t : Tally}
    (huse : (use 0).Succeeds (stage { m with sites := [0] } ⟨{ name, position := .unknown, policy := m.policy }, {}, w⟩)
      fun _ s => ∃ r, s = stage { m with sites := [0] } r ∧ r.tally = t) :
    (withSite 0 name use).Succeeds ⟨w, #[{}], #[], #[m]⟩ fun _ s => s.tally (s.realm 0).tally = t := by
  unfold withSite
  refine Action.Succeeds.bind_of_eq (makeSite_stage hname hm hsites) ?_
  refine Action.Succeeds.outcome_bind huse ?_
  rintro _ _ ⟨r, rfl, rfl⟩
  refine ⟨_, _, (), rfl, ?_⟩
  show tally (stage { m with sites := [0] } r) m.tally = r.tally
  rw [hm]
  rfl

/-! ### The scope with a long path -/

/-- The world with the scope that a workload builds. -/
@[irreducible] def deep : World := (deepScope 0 (newRealm {} {}).state).state.world

/-- The class at the end of the long path. -/
def innermost : NamespaceId := 5

/-- The realm that has the scope. -/
def deepRealm (p : Policy) : Realm := { policy := p, top := 1, registered := (List.range 21).map (· + 1) }

/-- The scope is built in an empty store, whatever the policy. -/
theorem deepScope_spec : ∀ p ∈ [({} : Policy), .uncached],
    (deepScope 0 (newRealm p {}).state).result = .ok innermost ∧
      (deepScope 0 (newRealm p {}).state).state = ⟨deep, #[{}], #[], #[deepRealm p]⟩ := by
  decide +kernel

/-! ### Rounds that miss -/

/-- The counters after a row of lookups, each of them forced or not, each of a name that is missing or not. -/
def rowTally (forced missing : Bool) (n : Nat) : Tally where
  invalidations := if forced then .ofNat n else 0
  misses := .ofNat n
  lookups := .ofNat n
  notFound := if missing then .ofNat n else 0
  thrashingSites := if 64 ≤ n then 1 else 0

/-- What a round counts before it looks the name up. -/
def forcedEvents (forced : Bool) : List Count := if forced then [.invalidation] else []

theorem rowTally_succ (forced missing : Bool) (n : Nat) :
    ((rowTally forced missing n).recordAll (forcedEvents forced)).recordAll (missEvents (!missing) (n + 1 = 64)) =
      rowTally forced missing (n + 1) := by
  have hreport : (if 64 ≤ n then (1 : UInt64) else 0) + (if n + 1 = 64 then 1 else 0) =
      if 64 ≤ n + 1 then 1 else 0 := by
    rcases Nat.lt_trichotomy (n + 1) 64 with h | h | h
    · rw [if_neg (by omega), if_neg (by omega), if_neg (by omega)]
      rfl
    · rw [if_neg (by omega), if_pos h, if_pos (by omega)]
      rfl
    · rw [if_pos (by omega), if_neg (by omega), if_pos (by omega)]
      rfl
  have hnext : UInt64.ofNat (n + 1) = .ofNat n + 1 := UInt64.ofNat_add n 1
  unfold rowTally
  rw [← hreport, hnext]
  by_cases h : n + 1 = 64
  · rw [if_pos h, decide_eq_true h]
    cases forced <;> cases missing <;> rfl
  · rw [if_neg h, decide_eq_false h, UInt64.add_zero]
    cases forced <;> cases missing <;> rfl

/-- A site that has missed in each of its rounds, with its counters. -/
structure Rowed (name : String) (forced missing : Bool) (n : Nat) (r : Reading World) : Prop where
  name : r.site.name = name
  policy : r.site.policy = {}
  inRow : r.site.InRow n
  tally : r.tally = rowTally forced missing n

theorem rowed_zero (name : String) (forced missing : Bool) (w : World) :
    Rowed name forced missing 0 ⟨{ name, position := .unknown, policy := {} }, {}, w⟩ where
  name := rfl
  policy := rfl
  inRow := ⟨rfl, (by decide : ({} : Policy).threshold ≠ 0), rfl, rfl⟩
  tally := by cases forced <;> cases missing <;> rfl

variable {name : String} {forced missing : Bool} {n : Nat} {i : NamespaceId} {r' : Reading World}

/-- One round more that misses. -/
theorem Rowed.missed {r₀ : Reading World} (h : Rowed name forced missing n r) (hm : Reading.Missed i n r₀ r')
    (hname : r₀.site.name = r.site.name) (hpolicy : r₀.site.policy = r.site.policy)
    (htally : r₀.tally = r.tally.recordAll (forcedEvents forced))
    (hfound : (r₀.scope.lookup i name).isSome = !missing) : Rowed name forced missing (n + 1) r' where
  name := by rw [hm.name, hname, h.name]
  policy := by rw [hm.policy, hpolicy, h.policy]
  inRow := hm.inRow
  tally := by
    rw [hm.tally, htally, hname, h.name, hfound, hpolicy, h.policy, h.tally]
    exact rowTally_succ forced missing n

/-! ### Redefinitions -/

/-- A constant that is bound at `t` alone on the path of `i`, where few changes were made. -/
structure Redefinable (w : World) (t i : NamespaceId) : Prop where
  path : t ∈ w.path i
  affected : i ∈ w.affected t
  has : w.Has i ∧ w.Has t
  other : ∀ k ∈ w.path i, k ≠ t → w.local? k target = none
  generation : ∀ k ∈ w.affected t, (w.generation k).toNat ≤ 100

/-- What redefinitions of the constant keep of a world, after `j` of them. -/
structure Redefined (w : World) (t i : NamespaceId) (j : Nat) (v : World) : Prop where
  frame : World.SameFrame w v
  other : ∀ k ∈ w.path i, k ≠ t → v.local? k target = none
  generation : ∀ k ∈ w.affected t, (v.generation k).toNat ≤ 100 + j

section redefinitions

variable {w v : World} {t : NamespaceId} {j : Nat}

theorem Redefinable.redefined (hw : Redefinable w t i) : Redefined w t i 0 w :=
  ⟨.refl w, hw.other, hw.generation⟩

/-- **One redefinition more** is what the constant resolves to, and advances the class that it is read from. -/
theorem Redefined.define (hv : Redefined w t i j v) (hw : Redefinable w t i) (hj : 100 + j < 0xFFFFFFFFFFFFFFFF)
    {u : Value} : (World.define t target u).Succeeds v fun _ v' => Redefined w t i (j + 1) v' ∧
      v'.lookup i target = some u ∧ v.generation i ≠ v'.generation i := by
  have hname : isConstantName target = true := by decide +kernel
  have hlast : ∀ k ∈ w.affected t, v.generation k ≠ World.lastGeneration := by
    intro k hk heq
    have hle := hv.generation k hk
    rw [heq] at hle
    have : World.lastGeneration.toNat = 0xFFFFFFFFFFFFFFFF := rfl
    omega
  have haffected := hv.frame.affected_eq t
  have hhas := (hv.frame.has_iff t).mpr hw.has.2
  refine (World.define_of_ne_last hname (by rwa [haffected])).imp ?_
  rintro _ v' ⟨-, hstate, hgeneration⟩
  rw [haffected] at hgeneration
  have hframe : World.SameFrame w v' := by
    rw [hstate]
    exact hv.frame.trans (World.define_sameFrame hname)
  have hlocal : ∀ k, v'.local? k target = if t = k ∧ target = target then some u else v.local? k target := by
    intro k
    rw [hstate]
    exact World.local?_define hname hhas k target
  have hother : ∀ k ∈ w.path i, k ≠ t → v'.local? k target = none := by
    intro k hk hne
    rw [hlocal, if_neg fun h => hne h.1.symm]
    exact hv.other k hk hne
  refine ⟨⟨hframe, hother, fun k hk => ?_⟩, ?_, ?_⟩
  · have hle := hv.generation k hk
    rw [hgeneration]
    split
    · rw [World.toNat_succ_of_ne_last (hlast k hk)]
      omega
    · omega
  · have hpath := hframe.path_eq i
    rw [World.lookup_eq_local? (t := t) (by rw [hpath]; exact hw.path) (by rw [hpath]; exact hother), hlocal,
      if_pos ⟨rfl, rfl⟩]
  · rw [hgeneration, if_pos ⟨hw.affected, (hv.frame.has_iff i).mpr hw.has.1⟩]
    intro heq
    have hnat := congrArg UInt64.toNat heq
    rw [World.toNat_succ_of_ne_last (hlast i hw.affected)] at hnat
    omega

end redefinitions

theorem deep_spec : deep.lookup innermost target = some targetValue ∧ 1 ∈ deep.path innermost ∧
    innermost ∈ deep.affected 1 ∧ innermost ≤ deep.size ∧
    (∀ k ∈ deep.path innermost, k ≠ 1 → deep.local? k target = none) ∧
    ∀ k ∈ deep.affected 1, (deep.generation k).toNat ≤ 100 := by
  decide +kernel

/-- In the scope that is built the constant is bound at the top level alone. -/
theorem redefinable_deep : Redefinable deep 1 innermost where
  path := deep_spec.2.1
  affected := deep_spec.2.2.1
  has := by
    have hle : (5 : Nat) ≤ deep.size := deep_spec.2.2.2.1
    unfold World.Has innermost
    omega
  other := deep_spec.2.2.2.2.1
  generation := deep_spec.2.2.2.2.2

theorem lookup_deep : deep.lookup innermost target = some targetValue := deep_spec.1

/-! ### The loops -/

/-- A loop on the stage: what each round preserves tells the counters in the end. -/
theorem succeeds_times {body : Nat → Action Store Unit} {t : Tally} (P : Nat → Reading World → Prop)
    (hstep : ∀ j r, j < n → P j r → (body j).Succeeds (stage m r) fun _ s => ∃ r', s = stage m r' ∧ P (j + 1) r')
    (h : P 0 r) (ht : ∀ r, P n r → r.tally = t) :
    (Action.times n 0 body).Succeeds (stage m r) fun _ s => ∃ r', s = stage m r' ∧ r'.tally = t := by
  have hrun : (Action.times n 0 body).Succeeds (stage m r) fun _ s => ∃ r', s = stage m r' ∧ P (0 + n) r' := by
    refine Action.Succeeds.times (fun j s => ∃ r, s = stage m r ∧ P j r) ?_ ⟨r, rfl, h⟩
    rintro j _ hj ⟨r, rfl, hr⟩
    exact hstep j r (by omega) hr
  rw [Nat.zero_add] at hrun
  refine hrun.imp ?_
  rintro _ _ ⟨r', rfl, hr⟩
  exact ⟨r', rfl, ht r' hr⟩

/-- What is found is given without a memo. -/
theorem evaluateAfresh_of_some {w : World} {v : Value} (h : w.lookup i name = some v) (p : Position) :
    World.evaluateAfresh i name p w = ⟨w, [], .ok v⟩ := by
  unfold World.evaluateAfresh
  rw [Action.get_bind, h]
  rfl

section rows

variable (hn : n < UInt32.size)

include hn

/-- Forced reads. -/
theorem succeeds_forced {w : World} (hw : w.lookup i target = some targetValue)
    (h : Rowed target true false 0 r) (hscope : r.scope = w) :
    (Action.times n 0 fun _ => invalidateAndRead i 0).Succeeds (stage m r)
      fun _ s => ∃ r', s = stage m r' ∧ r'.tally = rowTally true false n := by
  refine succeeds_times (fun j r => Rowed target true false j r ∧ r.scope = w) ?_ ⟨h, hscope⟩ fun _ h => h.1.tally
  rintro j ⟨site, tally, v⟩ hj ⟨hr, hv⟩
  obtain rfl : w = v := hv.symm
  have hforgotten : invalidate 0 (stage m ⟨site, tally, w⟩) =
      ⟨stage m ⟨site.forget, tally.recordAll [.invalidation], w⟩, [.invalidated site.name], .ok ()⟩ := rfl
  have hlookup : w.lookup i site.name = some targetValue := hr.name.symm ▸ hw
  unfold invalidateAndRead
  refine Action.Succeeds.bind_of_eq hforgotten (succeeds_readOnce rfl ?_)
  have hrow : site.forget.InRow j := hr.inRow.congr rfl rfl rfl
  refine (Reading.evaluate_missed (r := ⟨site.forget, tally.recordAll [.invalidation], w⟩) hrow (by omega) rfl
    (evaluateAfresh_of_some hlookup site.position)).imp ?_
  rintro _ r' ⟨hv, hm⟩
  exact ⟨hv, hr.missed hm rfl rfl rfl (by rw [hw]; rfl), hm.scope⟩

/-- Reads of a name that a handler answers. -/
theorem succeeds_answered {w : World} {p : Position} (hw : w.lookup i name = none)
    (hanswer : World.evaluateAfresh i name p w = ⟨w, [], .ok (.sym name)⟩)
    (h : Rowed name false true 0 r) (hmemo : r.site.memo = none) (hp : r.site.position = p) (hscope : r.scope = w) :
    (readMany 0 i (.sym name) n).Succeeds (stage m r)
      fun _ s => ∃ r', s = stage m r' ∧ r'.tally = rowTally false true n := by
  refine succeeds_times (fun j r => Rowed name false true j r ∧ r.site.memo = none ∧ r.site.position = p ∧
    r.scope = w) ?_ ⟨h, hmemo, hp, hscope⟩ fun _ h => h.1.tally
  rintro j r hj ⟨hr, hmemo, rfl, rfl⟩
  have hserved : r.site.served? (r.scope.generation i) = none := by rw [Site.served?, hmemo]; rfl
  have hlookup : r.scope.lookup i r.site.name = none := by rw [hr.name, hw]
  rw [← hr.name] at hanswer
  refine succeeds_readOnce (beq_self_eq_true _) ?_
  refine (Reading.evaluate_missed hr.inRow (by omega) hserved hanswer).imp ?_
  rintro _ r' ⟨hv, hm⟩
  refine ⟨hv.trans (by rw [hr.name]), ?_, ?_, hm.position, hm.scope⟩
  · exact hr.missed hm rfl rfl rfl (by rw [hw]; rfl)
  · rw [hm.memo hr.inRow.enabled, Reading.given_of_stale hserved, hlookup]
    rfl

/-- Reads after a redefinition. -/
theorem succeeds_redefined {w : World} {t : NamespaceId} (hw : Redefinable w t i)
    (h : Rowed target false false 0 r) (hmemo : r.site.memo = none) (hscope : r.scope = w) :
    (Action.times n 0 (redefineAndRead t i 0)).Succeeds (stage m r)
      fun _ s => ∃ r', s = stage m r' ∧ r'.tally = rowTally false false n := by
  refine succeeds_times (fun j r => Rowed target false false j r ∧ Redefined w t i j r.scope ∧
    ∀ memo, r.site.memo = some memo → memo.generation = r.scope.generation i) ?_ ⟨h, hscope ▸ hw.redefined, ?_⟩
    fun _ h => h.1.tally
  · rintro j r hj ⟨hr, hv, hcurrent⟩
    unfold redefineAndRead
    refine Action.Succeeds.bind (succeeds_onWorld (hv.define hw (by unfold UInt32.size at hn; omega))) ?_
    rintro _ _ ⟨v, rfl, hredefined, hlookup, hadvanced⟩
    have hserved : r.site.served? (v.generation i) = none := by
      cases hmemo : r.site.memo with
      | none => rw [Site.served?, hmemo]; rfl
      | some memo =>
          have hold : ¬ (memo.generation == v.generation i) = true := by
            rw [beq_iff_eq, hcurrent memo hmemo]
            exact hadvanced
          rw [Site.served?, hmemo, Option.filter_some, if_neg hold]
          rfl
    rw [← hr.name] at hlookup
    refine succeeds_readOnce (beq_self_eq_true _) ?_
    refine (Reading.evaluate_missed (r := { r with scope := v }) hr.inRow (by omega) hserved
      (evaluateAfresh_of_some hlookup r.site.position)).imp ?_
    rintro _ r' ⟨hv, hm⟩
    refine ⟨hv, ?_, ?_, fun memo hmemo => ?_⟩
    · exact hr.missed hm rfl rfl rfl (by rw [← hr.name, hlookup]; rfl)
    · rw [hm.scope]
      exact hredefined
    · rw [hm.memo hr.inRow.enabled, Option.map_eq_some_iff] at hmemo
      obtain ⟨_, -, rfl⟩ := hmemo
      rw [hm.scope]
  · intro memo hsome
    rw [hmemo] at hsome
    exact absurd hsome (Option.some_ne_none memo).symm

end rows

/-- Reads that the memo serves but for the first. -/
def hotTally (n : Nat) : Tally where
  hits := .ofNat (n - 1)
  misses := .ofNat (min n 1)
  lookups := .ofNat (min n 1)

theorem hotTally_succ {n : Nat} (h : 0 < n) : (hotTally n).recordAll [.hit] = hotTally (n + 1) := by
  obtain ⟨k, rfl⟩ : ∃ k, n = k + 1 := ⟨n - 1, by omega⟩
  have hmin : min (k + 1) 1 = 1 ∧ min (k + 1 + 1) 1 = 1 := by omega
  unfold hotTally
  rw [hmin.1, hmin.2, Nat.add_sub_cancel, Nat.add_sub_cancel, UInt64.ofNat_add]
  rfl

/-- A site that has been read `j` times for a constant that does not change.  From the first round on its memo is
right, and there is no row any more. -/
structure Hot (i : NamespaceId) (w : World) (j : Nat) (r : Reading World) : Prop where
  tally : r.tally = hotTally j
  enabled : r.site.policy.enabled = true
  scope : r.scope = w
  unread : j = 0 → Rowed target false false 0 r ∧ r.site.memo = none
  read : 0 < j → r.site.memo = some ⟨targetValue, w.generation i⟩

/-- A site with memos that was not read yet. -/
theorem hot_zero {w : World} (h : Rowed target false false 0 r) (hmemo : r.site.memo = none) (hscope : r.scope = w) :
    Hot i w 0 r where
  tally := h.tally
  enabled := h.inRow.enabled
  scope := hscope
  unread := fun _ => ⟨h, hmemo⟩
  read := fun hpos => absurd hpos (Nat.lt_irrefl 0)

/-- One read more of a constant that does not change. -/
theorem Hot.next {w : World} {j : Nat} (hw : w.lookup i target = some targetValue) (h : Hot i w j r) :
    (readOnce 0 i targetValue).Succeeds (stage m r) fun _ s => ∃ r', s = stage m r' ∧ Hot i w (j + 1) r' := by
  obtain ⟨htally, henabled, rfl, hfirst, hlater⟩ := h
  rcases Nat.eq_zero_or_pos j with rfl | hpos
  · obtain ⟨hr, hmemo⟩ := hfirst rfl
    have hserved : r.site.served? (r.scope.generation i) = none := by rw [Site.served?, hmemo]; rfl
    have hlookup : r.scope.lookup i r.site.name = some targetValue := by rw [hr.name, hw]
    refine succeeds_readOnce rfl ?_
    refine (Reading.evaluate_missed hr.inRow (by decide) hserved
      (evaluateAfresh_of_some hlookup r.site.position)).imp ?_
    rintro _ r' ⟨hv, hm⟩
    refine ⟨hv, ?_, ?_, hm.scope, fun hone => absurd hone (Nat.succ_ne_zero 0), fun _ => ?_⟩
    · rw [hm.tally, hlookup, htally, hr.policy]
      rfl
    · rw [hm.policy, henabled]
    · rw [hm.memo henabled, Reading.given_of_stale hserved, hlookup]
      rfl
  · have hserved : r.site.served? (r.scope.generation i) = some targetValue := by
      rw [Site.served?, hlater hpos, Option.filter_some, if_pos (beq_self_eq_true _)]
      rfl
    refine succeeds_readOnce rfl ⟨_, _, _, Reading.evaluate_served henabled hserved, rfl, ?_, henabled, rfl, ?_, ?_⟩
    · rw [htally]
      exact hotTally_succ hpos
    · exact fun hzero => absurd hzero (Nat.succ_ne_zero j)
    · exact fun _ => hlater hpos

/-- A row of reads more of a constant that does not change. -/
theorem Hot.row {w : World} {j : Nat} (hw : w.lookup i target = some targetValue) (h : Hot i w j r) :
    (readMany 0 i targetValue n).Succeeds (stage m r) fun _ s => ∃ r', s = stage m r' ∧ Hot i w (j + n) r' := by
  have hrun : (readMany 0 i targetValue n).Succeeds (stage m r)
      fun _ s => ∃ r', s = stage m r' ∧ Hot i w (j + (0 + n)) r' := by
    refine Action.Succeeds.times (fun k s => ∃ r, s = stage m r ∧ Hot i w (j + k) r) ?_ ⟨r, rfl, h⟩
    rintro k _ - ⟨r, rfl, hr⟩
    exact hr.next hw
  rwa [Nat.zero_add] at hrun

/-- Reads of a constant that does not change. -/
theorem succeeds_hot {w : World} (hw : w.lookup i target = some targetValue) (h : Rowed target false false 0 r)
    (hmemo : r.site.memo = none) (hscope : r.scope = w) :
    (readMany 0 i targetValue n).Succeeds (stage m r)
      fun _ s => ∃ r', s = stage m r' ∧ r'.tally = hotTally n := by
  refine ((hot_zero h hmemo hscope).row hw).imp ?_
  rintro _ _ ⟨r', rfl, hr⟩
  exact ⟨r', rfl, by rw [hr.tally, Nat.zero_add]⟩

/-- Reads without memos. -/
theorem succeeds_uncached {w : World} (hw : w.lookup i target = some targetValue) (hname : r.site.name = target)
    (hpolicy : r.site.policy.enabled = false) (htally : r.tally = {}) (hscope : r.scope = w) :
    (readMany 0 i targetValue n).Succeeds (stage m r)
      fun _ s => ∃ r', s = stage m r' ∧ r'.tally = { misses := .ofNat n, lookups := .ofNat n } := by
  refine succeeds_times (fun j r => r.tally = { misses := .ofNat j, lookups := .ofNat j } ∧ r.site.name = target ∧
    r.site.policy.enabled = false ∧ r.scope = w) ?_ ⟨htally, hname, hpolicy, hscope⟩ fun _ h => h.1
  rintro j r hj ⟨htally, hname, hpolicy, rfl⟩
  rw [← hname] at hw
  refine succeeds_readOnce rfl ⟨_, _, _, Reading.evaluate_disabled hpolicy hw, rfl, ?_, hname, hpolicy, rfl⟩
  rw [htally]
  show ({ misses := .ofNat j + 1, lookups := .ofNat j + 1 } : Tally) = _
  rw [UInt64.ofNat_add]
  rfl

/-! ### The workloads -/

theorem isConstantName_target : isConstantName target = true := by decide +kernel

/-- What is done in the deep scope. -/
theorem succeeds_deepScope {p : Policy} (hp : p ∈ [({} : Policy), .uncached]) {f : NamespaceId → Action Store Unit}
    {q : Unit → Store → Prop} (hf : (f innermost).Succeeds ⟨deep, #[{}], #[], #[deepRealm p]⟩ q) :
    (deepScope 0 >>= f).Succeeds (newRealm p {}).state q := by
  obtain ⟨hresult, hstate⟩ := deepScope_spec p hp
  have hscope : (deepScope 0).Succeeds (newRealm p {}).state
      fun i s => i = innermost ∧ s = ⟨deep, #[{}], #[], #[deepRealm p]⟩ := .of_result hresult ⟨rfl, hstate⟩
  refine Action.Succeeds.bind hscope ?_
  rintro _ _ ⟨rfl, rfl⟩
  exact hf

/-- The world with the handler that answers. -/
@[irreducible] def answering : World := (newRealm {} {}).state.world.setHandler 1 ⟨none, .symbol⟩

theorem answering_spec : isConstantName absentName = true ∧ answering.lookup 1 absentName = none ∧
    World.evaluateAfresh 1 absentName .unknown answering = ⟨answering, [], .ok (.sym absentName)⟩ ∧
    onWorld (Action.modify fun w => w.setHandler 1 ⟨none, .symbol⟩) (newRealm {} {}).state =
      ⟨⟨answering, #[{}], #[], #[{ top := 1, registered := [1] }]⟩, [], .ok ()⟩ := by
  decide +kernel

/-- A workload that ends well in a new realm, with the counters that it leaves behind. -/
def Counts (wl : Workload) (p : Policy) (n : UInt64) (t : Tally) : Prop :=
  (wl.perform 0 n).Succeeds (newRealm p {}).state fun _ s => s.tally (s.realm 0).tally = t

section workloads

variable {c : UInt64}

theorem counts_repeatedReads : Counts .repeatedReads {} c (hotTally c.toNat) := by
  refine succeeds_deepScope (by decide) (succeeds_withSite isConstantName_target rfl rfl ?_)
  exact succeeds_hot lookup_deep (rowed_zero target false false deep) rfl rfl

theorem counts_repeatedReads_uncached :
    Counts .repeatedReads .uncached c { misses := .ofNat c.toNat, lookups := .ofNat c.toNat } := by
  refine succeeds_deepScope (by decide) (succeeds_withSite isConstantName_target rfl rfl ?_)
  exact succeeds_uncached lookup_deep rfl rfl rfl rfl

variable (hc : c.toNat < UInt32.size)

include hc

theorem counts_redefinedReads : Counts .redefinedReads {} c (rowTally false false c.toNat) := by
  have hsigned : signedCount c = c.toNat := if_pos (hc.trans (by decide))
  refine succeeds_deepScope (by decide) (Action.Succeeds.read_bind ?_)
  refine succeeds_withSite isConstantName_target rfl rfl ?_
  rw [hsigned]
  exact succeeds_redefined hc redefinable_deep (rowed_zero target false false deep) rfl rfl

theorem counts_forcedReads : Counts .forcedReads {} c (rowTally true false c.toNat) := by
  refine succeeds_deepScope (by decide) (succeeds_withSite isConstantName_target rfl rfl ?_)
  exact succeeds_forced hc lookup_deep (rowed_zero target true false deep) rfl

theorem counts_answeredReads : Counts .answeredReads {} c (rowTally false true c.toNat) := by
  obtain ⟨hname, hlookup, hanswer, hhandler⟩ := answering_spec
  refine Action.Succeeds.read_bind (Action.Succeeds.bind_of_eq hhandler (succeeds_withSite hname rfl rfl ?_))
  exact succeeds_answered hc hlookup hanswer (rowed_zero absentName false true answering) rfl rfl rfl

end workloads

/-! ### Closed forms -/

theorem hotTally_toNat (n : UInt64) :
    hotTally n.toNat = { hits := n - min n 1, misses := min n 1, lookups := min n 1 } := by
  have hle : n ≤ 1 ↔ n.toNat ≤ 1 := UInt64.le_iff_toNat_le
  have hmin : min n 1 = .ofNat (min n.toNat 1) := by
    show (if n ≤ 1 then n else 1) = _
    split
    · rename_i h
      rw [Nat.min_eq_left (hle.mp h), UInt64.ofNat_toNat]
    · rename_i h
      have hge : 1 ≤ n.toNat := Nat.le_of_not_le fun hc => h (hle.mpr hc)
      rw [Nat.min_eq_right hge]
      rfl
  have hhits : n - .ofNat (min n.toNat 1) = .ofNat (n.toNat - 1) := by
    rcases Nat.eq_zero_or_pos n.toNat with hzero | hpos
    · obtain rfl : n = 0 := UInt64.toNat_inj.mp hzero
      rfl
    · rw [Nat.min_eq_right hpos, UInt64.ofNat_sub hpos, UInt64.ofNat_toNat]
  rw [hmin, hhits, hotTally]

theorem rowTally_toNat (forced missing : Bool) (n : UInt64) : rowTally forced missing n.toNat =
    { invalidations := if forced then n else 0, misses := n, lookups := n, notFound := if missing then n else 0
      thrashingSites := if 64 ≤ n then 1 else 0 } := by
  unfold rowTally
  rw [UInt64.ofNat_toNat]
  simp only [UInt64.le_iff_toNat_le]
  rfl

end Workload

namespace Suite

open Workload

/-- What a run without a failure reports. -/
theorem trial_eq {b : Benchmark} {t : Tally} (h : Counts b.workload b.policy b.iterations t) : b.trial = ⟨t, none⟩ := by
  obtain ⟨s, notes, _, hperform, ht⟩ := h
  have hnew : Store.newRealm b.policy {} = ⟨(Store.newRealm b.policy {}).state, [], .ok 0⟩ := rfl
  have hprogram : b.program {} = ⟨s, notes, .ok ()⟩ := by
    unfold Benchmark.program
    rw [Action.bind_of_quiet hnew]
    exact hperform
  unfold Benchmark.trial
  rw [hprogram]
  dsimp only
  rw [ht]

/-- **The counters of the benchmarks that read one site in a row**, for every number of evaluations that a row can
count.  All of them succeed. -/
theorem micro_trials {n : UInt64} (hn : n.toNat < 2 ^ 32) :
    (micro.benchmarks.filter (·.workload ≠ .sharedReads)).map
        (fun b => (b.name, ({ b with iterations := n } : Benchmark).trial)) =
      [("hot_hit", ⟨{ hits := n - min n 1, misses := min n 1, lookups := min n 1 }, none⟩),
        ("uncached_lookup", ⟨{ misses := n, lookups := n }, none⟩),
        ("redefine_each_read", ⟨{ misses := n, lookups := n, thrashingSites := if 64 ≤ n then 1 else 0 }, none⟩),
        ("forced_miss",
          ⟨{ invalidations := n, misses := n, lookups := n, thrashingSites := if 64 ≤ n then 1 else 0 }, none⟩),
        ("missing_name_fallback",
          ⟨{ misses := n, lookups := n, notFound := n, thrashingSites := if 64 ≤ n then 1 else 0 }, none⟩)] := by
  have hhot : ∀ name description, Benchmark.trial ⟨name, description, n, {}, .repeatedReads⟩ =
      ⟨hotTally n.toNat, none⟩ := fun _ _ => trial_eq counts_repeatedReads
  have huncached : ∀ name description, Benchmark.trial ⟨name, description, n, .uncached, .repeatedReads⟩ =
      ⟨{ misses := .ofNat n.toNat, lookups := .ofNat n.toNat }, none⟩ := fun _ _ => trial_eq counts_repeatedReads_uncached
  have hredefined : ∀ name description, Benchmark.trial ⟨name, description, n, {}, .redefinedReads⟩ =
      ⟨rowTally false false n.toNat, none⟩ := fun _ _ => trial_eq (counts_redefinedReads hn)
  have hforced : ∀ name description, Benchmark.trial ⟨name, description, n, {}, .forcedReads⟩ =
      ⟨rowTally true false n.toNat, none⟩ := fun _ _ => trial_eq (counts_forcedReads hn)
  have hanswered : ∀ name description, Benchmark.trial ⟨name, description, n, {}, .answeredReads⟩ =
      ⟨rowTally false true n.toNat, none⟩ := fun _ _ => trial_eq (counts_answeredReads hn)
  simp [micro, hhot, huncached, hredefined, hforced, hanswered, hotTally_toNat, rowTally_toNat]

/-- A row of a hundred. -/
theorem micro_trials_hundred : ((micro.benchmarks.filter (·.workload ≠ .sharedReads)).map
    (fun b => (b.name, ({ b with iterations := 100 } : Benchmark).trial)))[3]? =
      some ("forced_miss", ⟨{ invalidations := 100, misses := 100, lookups := 100, thrashingSites := 1 }, none⟩) := by
  rw [micro_trials (n := 100) (by decide)]
  rfl

end Suite
end ConstantResolution
