import ConstantResolution.Proofs.Session.Crossing
import ConstantResolution.Proofs.Site.Dispatch
import ConstantResolution.Proofs.Site.Rows

/-! # A row that runs over

A name that is missing in a namespace, with a handler that answers for it and changes nothing, makes one lookup
after another: no evaluation of a site for it is a hit (`Unserved.evaluate`).  So a session comes to the end of the
counter, and the evaluation after that fails, although the handler would answer it (`evaluate_overflow`). -/

namespace ConstantResolution.Session

variable {s : Session} {site : String} {context : ContextTerm} {k : SiteId} {i : NamespaceId} {n : Nat}

/-- All evaluations of a site so far, `n` of them, were lookups, and in the place of a context so will be the next
one: nothing is found there, and a handler answers. -/
structure Unserved (site : String) (context : ContextTerm) (k : SiteId) (i : NamespaceId) (n : Nat) (s : Session) :
    Prop where
  held : s.sites.get? site = some k
  place : s.place? context = some (.ofNamespace i)
  placed : ∃ p, s.store.site? k = some p ∧ p.site.InRow n ∧ p.site.memo = none ∧
    s.store.world.lookup i p.site.name = none ∧
    ∃ answers v, World.evaluateAfresh i p.site.name p.site.position s.store.world =
      ⟨s.store.world, answers, .ok v⟩

namespace Unserved

/-- One evaluation more. -/
theorem evaluate (h : Unserved site context k i n s) (hn : n + 1 < UInt32.size) :
    Unserved site context k i (n + 1) (atSite site context Reading.evaluate s).state := by
  obtain ⟨hheld, hplace, p, hp, hrow, hmemo, hlookup, answers, v, hanswer⟩ := h
  have hunserved : (s.store.reading p).site.served? (s.store.world.generation i) = none := by
    show p.site.served? _ = none
    rw [Site.served?, hmemo]
    rfl
  obtain ⟨r', notes, a, hevaluate, -, hmissed⟩ :=
    Reading.evaluate_missed (r := s.store.reading p) (i := i) hrow hn hunserved hanswer
  have hworld : r'.scope = s.store.world := hmissed.scope
  have hname : r'.site.name = p.site.name := hmissed.name
  have hposition : r'.site.position = p.site.position := hmissed.position
  have hmemo' : r'.site.memo = none := by
    rw [hmissed.memo hrow.enabled, Reading.given_of_stale hunserved]
    exact congrArg (Option.map _) hlookup
  rw [atSite_apply Reading.evaluate hheld hplace hp, hevaluate]
  have hnames : SameNames s { s with store := Store.putReading k p.tally r' s.store } :=
    ⟨rfl, congrArg World.held hworld, fun _ => rfl⟩
  refine ⟨hheld, (hnames.place?_eq context).trans hplace, _, site?_putReading hp r', hmissed.inRow, hmemo', ?_⟩
  show r'.scope.lookup i r'.site.name = none ∧ ∃ answers v,
    World.evaluateAfresh i r'.site.name r'.site.position r'.scope = ⟨r'.scope, answers, .ok v⟩
  rw [hworld, hname, hposition]
  exact ⟨hlookup, answers, v, hanswer⟩

/-- Evaluations in a row, as many as the counter has room for. -/
theorem repeated (h : Unserved site context k i 0 s) (hn : n + 1 < UInt32.size) :
    Unserved site context k i (n + 1) (Action.repeated n (atSite site context Reading.evaluate) s).state := by
  induction n with
  | zero => exact h.evaluate hn
  | succ n ih =>
      rw [(Action.repeated_succ _ n s).2]
      exact (ih (by omega)).evaluate hn

/-- When the row is as long as the counter can say, the next evaluation fails. -/
theorem fails (h : Unserved site context k i n s) (hn : n + 1 = 2 ^ 32) :
    (atSite site context Reading.evaluate s).result = .error (.fault (.overflow .streak)) := by
  obtain ⟨hheld, hplace, p, hp, hrow, hmemo, -, -⟩ := h
  obtain rfl : n = 2 ^ 32 - 1 := by omega
  have hlast : p.site.streak = Site.lastStreak := hrow.streak
  have hnone : p.site.remembered? (s.store.world.generation i) = none := by
    rw [Site.remembered?, Site.served?, hmemo]
    exact ite_self none
  have hfull : ¬ p.site.HasRoom := fun hroom => hroom ⟨hrow.enabled, hrow.threshold⟩ hlast
  rw [atSite_apply Reading.evaluate hheld hplace hp]
  exact (Reading.evaluate_of_full (r := s.store.reading p) hnone hfull).1

/-- **A command that evaluates the site as often as the counter can say, and once more, fails.** -/
theorem overflows (h : Unserved site context k i 0 s) (hn : n + 2 = 2 ^ 32) :
    (perform (.evaluate site context (n + 2)) s).result = .error (.fault (.overflow .streak)) := by
  have hsize : UInt32.size = 2 ^ 32 := rfl
  have hrow := h.repeated (n := n) (by omega)
  have hlast := (Action.repeated_succ (atSite site context Reading.evaluate) n s).1
  rw [perform_evaluate, hlast, hrow.fails hn]
  rfl

end Unserved

/-- The top level answers for all names that are missing, and there is a site for one of them. -/
def unanswered : List Command := [.setHandler "top" none .describe, .newSite "site" "X" .unknown "main"]

set_option maxRecDepth 10000 in
/-- **A name that its handler answers for fails at last.**  A site of a session with memos and the usual threshold is
evaluated in the top level 2³² times, and each time the handler would give the same text. -/
theorem evaluate_overflow :
    let s := (start {}).after unanswered
    let context : ContextTerm := ⟨.heldNamespace "top", none⟩
    (World.evaluateAfresh 1 "X" .unknown s.store.world).result = .ok (.str "Object#X") ∧
      (perform (.evaluate "site" context (2 ^ 32)) s).result = .error (.fault (.overflow .streak)) := by
  intro s context
  have hanswer : World.evaluateAfresh 1 "X" .unknown s.store.world = ⟨s.store.world, [], .ok (.str "Object#X")⟩ := by
    decide +kernel
  have hsite : s.store.site? 0 = some ⟨⟨"X", .unknown, {}, none, neverStamped, 0, false⟩, 0, true⟩ := by
    decide +kernel
  have hstart : Unserved "site" context 0 1 0 s := by
    refine ⟨by decide +kernel, by decide +kernel, _, hsite, ⟨rfl, by decide, rfl, by decide⟩, rfl, ?_, _, _, hanswer⟩
    decide +kernel
  have hcount : 2 ^ 32 = 2 ^ 32 - 2 + 2 := rfl
  refine ⟨by rw [hanswer], ?_⟩
  rw [hcount]
  exact hstart.overflows rfl

end ConstantResolution.Session
