import ConstantResolution.Proofs.Session.Ledger
import ConstantResolution.Proofs.Store.Lookups

/-! # How often a site looks its name up

A site that keeps memos and is evaluated in one namespace only looks its name up once, and after that only
when something has happened since its last lookup: the generation of the namespace has moved on, or the site
was invalidated, or renamed, or that lookup found nothing.  Each of these pays for one lookup
(`lookups_amortised`). -/

namespace ConstantResolution.Session

variable {s : Session} {k : SiteId} {i : NamespaceId} {ds : List Deed} {c : Command} {cs : List Command}

/-! ### Where the calls of a ledger are made -/

theorem Calls.callsIn {e : Option (SiteId × Place)} {n : Nat} (h : Calls e n ds)
    (he : ∀ e' ∈ e, e'.1 = k → e'.2 = .ofNamespace i) : ∀ d ∈ ds, d.CallsIn i k := by
  intro d hd
  cases e with
  | none =>
      rw [show ds = [] from h] at hd
      exact nomatch hd
  | some e =>
      obtain ⟨c, rfl, hk, hplace⟩ := h.2 d hd
      intro hc
      have hin := he e rfl (hk.symm.trans hc)
      rw [hplace, hin]
      rfl

/-- A command calls a site where its evaluation says, and a workload calls no site that was there before. -/
theorem Does.callsIn (h : s.Does c ds) (hk : k < s.store.sites.size)
    (he : ∀ e ∈ s.evaluation? c, e.1 = k → e.2 = .ofNamespace i) : ∀ d ∈ ds, d.CallsIn i k := by
  have hnil : ds = [] → ∀ d ∈ ds, d.CallsIn i k := by
    rintro rfl d hd
    exact nomatch hd
  intro d hd
  cases c with
  | evaluate site context times => exact Calls.callsIn h he d hd
  | resolve site context => exact Calls.callsIn h he d hd
  | siteDefined site context => exact Calls.callsIn h he d hd
  | definition site context => exact Calls.callsIn h he d hd
  | invalidate site =>
      rw [show ds = _ from h, Option.mem_toList, Option.bind_eq_some_iff] at hd
      obtain ⟨k', -, hd⟩ := hd
      obtain ⟨p, -, rfl⟩ := Option.map_eq_some_iff.mp hd
      trivial
  | invalidateAll realm =>
      rw [Does] at h
      split at h
      · exact hnil h d hd
      · rw [h.1, List.mem_map] at hd
        obtain ⟨k', -, rfl⟩ := hd
        trivial
  | rename site name =>
      rw [show ds = _ from h, Option.mem_toList] at hd
      obtain ⟨k', -, rfl⟩ := Option.map_eq_some_iff.mp hd
      trivial
  | record tally event times =>
      rw [Does] at h
      cases ht : s.tallyOf? tally with
      | none =>
          rw [ht] at h
          exact hnil h d hd
      | some t =>
          have hrep : ds = List.replicate times (.record t event) := by
            rw [ht] at h
            exact h
          rw [hrep] at hd
          rw [List.eq_of_mem_replicate hd]
          trivial
  | work realm workload iterations =>
      have hfrom : Workload.DoneFrom s.store.sites.size d := h d hd
      cases d with
      | call c =>
          intro hc
          exact absurd (hc ▸ hfrom : s.store.sites.size ≤ k) (Nat.not_le_of_lt hk)
      | _ => trivial
  | _ => exact hnil h d hd

/-- A site is called where a run of commands evaluates it. -/
theorem Ledger.callsIn {p : PlacedSite} (h : s.Ledger cs ds) (hp : s.store.site? k = some p)
    (he : EvaluatedOnlyIn i k s cs) : ∀ d ∈ ds, d.CallsIn i k := by
  induction h generalizing p with
  | nil s => exact fun d hd => absurd hd List.not_mem_nil
  | cons hrun hdoes _ ih =>
      intro d hd
      have hk := (Array.getElem?_eq_some_iff.mp hp).1
      obtain ⟨p', hp', -⟩ := hrun.exists_site hp
      exact (List.mem_append.mp hd).elim (hdoes.callsIn hk he.1 d) (ih hp' he.2 d)

/-! ### The cost -/

/-- **Lookups are paid for.**  From any session that commands lead to, and in any run, a site that keeps memos and
is evaluated in one namespace only makes at most one full lookup, and one more for each time that the generation
of the namespace advanced, that the site was invalidated or renamed, or that a call of it found nothing.  So it
makes at most one lookup when nothing of that happens, however often it is called.  How often the generation
advanced is how much it has grown, unless a generation ran over on the way: for each time that one did, the bound
leaves room for all the values that a generation has. -/
theorem lookups_amortised (policy : Policy) (before cs : List Command) {p : PlacedSite} :
    let s := (start policy).after before
    let w := s.store.world
    let w' := (s.after cs).store.world
    s.store.site? k = some p → p.site.policy.enabled = true → EvaluatedOnlyIn i k s cs →
      (∃ ds, s.Ledger cs ds) ∧ ∀ ds, s.Ledger cs ds →
        lookupsOf k ds ≤ 1 + ((w'.generation i).toNat + 2 ^ 64 * overflows (s.notesOf cs) -
              (w.generation i).toNat) +
            ds.countP (Deed.invalidates k) + ds.countP (Deed.renames k) + ds.countP (Deed.misses k) ∧
        (s.WithoutOverflow cs →
          lookupsOf k ds ≤ 1 + ((w'.generation i).toNat - (w.generation i).toNat) +
              ds.countP (Deed.invalidates k) + ds.countP (Deed.renames k) + ds.countP (Deed.misses k) ∧
          (w'.generation i = w.generation i →
            (∀ d ∈ ds, ¬ d.invalidates k ∧ ¬ d.renames k ∧ ¬ d.misses k) → lookupsOf k ds ≤ 1)) := by
  intro s w w' hp he hin
  have hs : s.Sound := sound_after (sound_start policy) before
  have hl : s.store.Listed := listed_after (sound_start policy) (listed_start policy) before
  refine ⟨exists_ledger hs hl cs, fun ds hds => ?_⟩
  have hpaid : lookupsOf k ds + (s.after cs).store.due k i + (w.generation i).toNat ≤
      s.store.due k i + ((w'.generation i).toNat + 2 ^ 64 * overflows (s.notesOf cs)) + paymentsOf k ds :=
    hds.run.paid hs.store.linked hp he (hds.callsIn hp hin)
  have hdue := s.store.due_le_one k i
  have hle : lookupsOf k ds ≤ 1 + ((w'.generation i).toNat + 2 ^ 64 * overflows (s.notesOf cs) -
      (w.generation i).toNat) + paymentsOf k ds := by
    omega
  refine ⟨?_, fun hn => ?_⟩
  · rw [paymentsOf] at hle
    omega
  rw [overflows_eq_zero_iff.mpr (withoutOverflow_iff.mp hn)] at hle
  refine ⟨?_, fun hsame hnone => ?_⟩
  · rw [paymentsOf] at hle
    omega
  · have hno : paymentsOf k ds = 0 := by
      have hinv := List.countP_eq_zero.mpr fun d hd => (hnone d hd).1
      have hren := List.countP_eq_zero.mpr fun d hd => (hnone d hd).2.1
      have hmiss := List.countP_eq_zero.mpr fun d hd => (hnone d hd).2.2
      rw [paymentsOf, hinv, hren, hmiss]
    rw [hno, hsame] at hle
    omega

/-- A site that reads a constant of the top level. -/
def placing : List Command := [.define "top" "X" (.value (.int 1)), .newSite "site" "X" .unknown "main"]

/-- The site is read three times, the constant is bound anew, and the site is read twice more. -/
def rereading : List Command :=
  [.evaluate "site" ⟨.heldNamespace "top", none⟩ 3, .define "top" "X" (.value (.int 2)),
    .evaluate "site" ⟨.heldNamespace "top", none⟩ 2]

set_option maxRecDepth 10000 in
/-- Five evaluations with one binding in between cost two lookups at most. -/
theorem lookups_amortised_rereading :
    (∃ p, ((start {}).after placing).store.site? 0 = some p ∧ p.site.policy.enabled = true) ∧
      ((start {}).after placing).WithoutOverflow rereading ∧
      EvaluatedOnlyIn 1 0 ((start {}).after placing) rereading ∧
      ∃ ds, ((start {}).after placing).Ledger rereading ds ∧
        lookupsOf 0 ds ≤ 1 + 1 + ds.countP (Deed.invalidates 0) + ds.countP (Deed.renames 0) +
          ds.countP (Deed.misses 0) := by
  have hp : ((start {}).after placing).store.site? 0 =
      some ⟨{ name := "X", position := .unknown, policy := {} }, 0, true⟩ := by decide +kernel
  have hn : ((start {}).after placing).WithoutOverflow rereading := by decide +kernel
  have hin : EvaluatedOnlyIn 1 0 ((start {}).after placing) rereading := by decide +kernel
  have hgen : ((((start {}).after placing).after rereading).store.world.generation 1).toNat -
      (((start {}).after placing).store.world.generation 1).toNat = 1 := by decide +kernel
  obtain ⟨⟨ds, hds⟩, hle⟩ := lookups_amortised {} placing rereading hp rfl hin
  have hcost := ((hle ds hds).2 hn).1
  rw [hgen] at hcost
  exact ⟨⟨_, hp, rfl⟩, hn, hin, ds, hds, hcost⟩

end ConstantResolution.Session
