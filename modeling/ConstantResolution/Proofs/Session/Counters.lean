import ConstantResolution.Proofs.Session.Ledger
import ConstantResolution.Proofs.Store.Counters

/-! # The counters of a realm

Counters that were new at some time hold what happened since then, and the difference of two looks at them
holds what happened in between (`counters_ledger`). -/

namespace ConstantResolution.Session

variable {s : Session} {τ : TallyId} {ds : List Deed} {c : Command} {cs : List Command}

/-! ### New counters -/

/-- Counters that have counted nothing yet. -/
structure NewCounters (s : Session) (τ : TallyId) : Prop where
  lt : τ < s.store.tallies.size
  zero : s.store.tally τ = {}

theorem NewCounters.counter (h : s.NewCounters τ) (e : Count) : ((s.store.tally τ).counter e).toNat = 0 := by
  rw [h.zero, Tally.counter_empty]
  rfl

/-! ### Invalidations -/

/-- How many sites that report to certain counters a command invalidates: one site by itself, or as many as a
realm says. -/
def invalidated (s : Session) (τ : TallyId) : Command → Nat
  | .invalidate site =>
    if ((s.sites.get? site).bind s.store.site?).any fun p => p.tally == τ then 1 else 0
  | .invalidateAll realm =>
    if (s.realms.get? realm).any fun r => (s.store.realm r).tally == τ then
      match (perform (.invalidateAll realm) s).result with
      | .ok (.number n) => n
      | _ => 0
    else 0
  | _ => 0

/-- How many sites a run of commands invalidates. -/
def invalidatedIn (τ : TallyId) : Session → List Command → Nat
  | _, [] => 0
  | s, c :: cs => s.invalidated τ c + invalidatedIn τ (perform c s).state cs

/-- Whether a command is a workload, which invalidates sites of its own. -/
def isWork : Command → Bool
  | .work _ _ _ => true
  | _ => false

theorem Calls.countP_invalidatesTo {e : Option (SiteId × Place)} {n : Nat} (h : Calls e n ds) :
    ds.countP (Deed.invalidatesTo τ) = 0 := by
  cases e with
  | none =>
      obtain rfl : ds = [] := h
      rfl
  | some e =>
      refine List.countP_eq_zero.mpr fun d hd => ?_
      obtain ⟨c, rfl, -⟩ := h.2 d hd
      exact Bool.false_ne_true

/-- A command invalidates as many sites as it says. -/
theorem Does.countP_invalidatesTo (h : s.Does c ds) (hc : isWork c = false) :
    ds.countP (Deed.invalidatesTo τ) = s.invalidated τ c := by
  have hnil : ds = [] → ds.countP (Deed.invalidatesTo τ) = 0 := by
    rintro rfl
    rfl
  cases c with
  | evaluate site context times => exact Calls.countP_invalidatesTo h
  | resolve site context => exact Calls.countP_invalidatesTo h
  | siteDefined site context => exact Calls.countP_invalidatesTo h
  | definition site context => exact Calls.countP_invalidatesTo h
  | invalidate site =>
      rw [show ds = _ from h, invalidated]
      cases s.sites.get? site with
      | none => rfl
      | some k =>
          rw [Option.bind_some, Option.bind_some]
          cases s.store.site? k with
          | none => rfl
          | some p => exact List.countP_singleton
  | invalidateAll realm =>
      rw [Does] at h
      rw [invalidated]
      cases hr : s.realms.get? realm with
      | none =>
          rw [hr] at h
          exact hnil h
      | some r =>
          rw [hr] at h
          obtain ⟨rfl, hresult⟩ := h
          rw [hresult, Option.any_some, List.countP_map, List.length_map]
          by_cases hτ : (s.store.realm r).tally = τ
          · rw [if_pos (beq_iff_eq.mpr hτ)]
            exact List.countP_eq_length.mpr fun k _ => beq_iff_eq.mpr hτ
          · rw [if_neg (mt beq_iff_eq.mp hτ)]
            exact List.countP_eq_zero.mpr fun k _ => mt beq_iff_eq.mp hτ
  | rename site name =>
      rw [show ds = _ from h]
      cases (s.sites.get? site).filter fun _ => isConstantName name <;> rfl
  | record tally event times =>
      rw [show ds = _ from h]
      cases s.tallyOf? tally with
      | none => rfl
      | some t =>
          refine List.countP_eq_zero.mpr fun d hd => ?_
          rw [List.eq_of_mem_replicate hd]
          exact Bool.false_ne_true
  | work realm workload iterations => exact Bool.noConfusion hc
  | _ => exact hnil h

theorem Ledger.countP_invalidatesTo (h : s.Ledger cs ds) (hcs : ∀ c ∈ cs, isWork c = false) :
    ds.countP (Deed.invalidatesTo τ) = invalidatedIn τ s cs := by
  induction h with
  | nil s => rfl
  | cons _ hdoes _ ih =>
      rw [List.countP_append, hdoes.countP_invalidatesTo (hcs _ List.mem_cons_self),
        ih fun c hc => hcs c (List.mem_cons_of_mem _ hc)]
      rfl

/-! ### The ledger -/

/-- **Counters are a ledger.**  From any session that commands lead to and that has new counters, and in any
run of commands in which no event happens 2⁶⁴ times, hits and misses together are the calls of the sites that
report to these counters, misses and lookups are the calls that asked their scope, and invalidations are those
that were done (`Balanced`): one for each site that was invalidated by itself, and as many as realms said when
they invalidated theirs.  The difference of two looks at the counters says how often each event happened in
between, except that it leaves out the walks of sites without memos that found nothing. -/
theorem counters_ledger (policy : Policy) (before cs cs' : List Command) :
    let s := (start policy).after before
    s.NewCounters τ →
      (∃ ds es, s.Ledger cs ds ∧ (s.after cs).Ledger cs' es) ∧
      ∀ ds es, s.Ledger cs ds → (s.after cs).Ledger cs' es →
        (∀ e, (ds ++ es).countP (Deed.shows τ e) < 2 ^ 64) →
          let a := (s.after cs).store.tally τ
          let b := ((s.after cs).after cs').store.tally τ
          Balanced τ ds a ∧ Balanced τ (ds ++ es) b ∧
            ((∀ c ∈ cs, isWork c = false) → ds.countP (Deed.invalidatesTo τ) = invalidatedIn τ s cs) ∧
            ∀ e, ((b.since a).counter e).toNat + (if e = .notFound then es.countP (Deed.unseen τ) else 0) =
              es.countP (Deed.shows τ e) := by
  intro s hτ
  have hs : s.Sound := sound_after (sound_start policy) before
  have hl : s.store.Listed := listed_after (sound_start policy) (listed_start policy) before
  obtain ⟨ds₀, hds₀⟩ := exists_ledger hs hl cs
  obtain ⟨es₀, hes₀⟩ := exists_ledger (sound_after hs cs) (listed_after hs hl cs) cs'
  refine ⟨⟨ds₀, es₀, hds₀, hes₀⟩, ?_⟩
  intro ds es hds hes hlt a b
  have hle : ∀ e, (ds ++ es).countP (Deed.tells τ e) < 2 ^ 64 := by
    intro e
    have hadd := countP_tells_add τ (ds ++ es) e
    have := hlt e
    omega
  have hsum : ∀ e, ds.countP (Deed.tells τ e) + es.countP (Deed.tells τ e) < 2 ^ 64 := by
    intro e
    rw [← List.countP_append]
    exact hle e
  have hfirst : ∀ e, (a.counter e).toNat = ds.countP (Deed.tells τ e) := by
    intro e
    have := hsum e
    have hzero := hτ.counter e
    rw [hds.run.toNat_counter hτ.lt (by omega), hzero, Nat.zero_add]
  have hsize : τ < (s.after cs).store.tallies.size := (hds.run.counter hτ.lt .hit).1
  have hfits : ∀ e, (a.counter e).toNat + es.countP (Deed.tells τ e) < 2 ^ 64 := by
    intro e
    rw [hfirst]
    exact hsum e
  refine ⟨balanced_of_tells τ ds hfirst, balanced_of_tells τ (ds ++ es) fun e => ?_,
    hds.countP_invalidatesTo, fun e => ?_⟩
  · have hsecond := hes.run.toNat_counter hsize (hfits e)
    rw [List.countP_append, ← hfirst]
    exact hsecond
  · rw [hes.run.toNat_counter_since hsize (hfits e), countP_tells_add]

/-- A site in the main realm. -/
def siting : List Command := [.newSite "site" "X" .unknown "main"]

/-- The site is asked in the top level, where its name is not bound. -/
def asking : List Command := [.resolve "site" ⟨.heldNamespace "top", none⟩]

set_option maxRecDepth 10000 in
/-- The counters of the main realm, before its site is asked and afterwards. -/
theorem counters_ledger_asking :
    (start {}).NewCounters 0 ∧ ∃ ds es, (start {}).Ledger siting ds ∧
      ((start {}).after siting).Ledger asking es ∧ (∀ e, (ds ++ es).countP (Deed.shows 0 e) < 2 ^ 64) ∧
        Balanced 0 (ds ++ es) ((((start {}).after siting).after asking).store.tally 0) := by
  have hnew : (start {}).NewCounters 0 := ⟨by decide +kernel, by decide +kernel⟩
  obtain ⟨⟨ds, es, hds, hes⟩, hledger⟩ := counters_ledger {} [] siting asking hnew
  have hmade : ds = [] := hds.does
  have hasked : Calls (((start {}).after siting).evaluationAt? "site" ⟨.heldNamespace "top", none⟩) 1 es :=
    hes.does
  have hone := hasked.length_le
  have hfew : ∀ e, (ds ++ es).countP (Deed.shows 0 e) < 2 ^ 64 := by
    intro e
    have hle := List.countP_le_length (p := Deed.shows 0 e) (l := es)
    rw [hmade, List.nil_append]
    omega
  exact ⟨hnew, ds, es, hds, hes, hfew, (hledger ds es hds hes hfew).2.1⟩

set_option maxRecDepth 10000 in
/-- A site without memos looks its name up and finds nothing.  The lookup is counted, and that nothing was
found is not. -/
theorem since_of_disabled :
    (perform (.resolve "site" ⟨.heldNamespace "top", none⟩) ((start .uncached).after siting)).result =
        .ok (.value none) ∧
      ((((start .uncached).after siting).after asking).store.tally 0).since
        (((start .uncached).after siting).store.tally 0) = { misses := 1, lookups := 1 } := by
  decide +kernel

end ConstantResolution.Session
