import ConstantResolution.Proofs.Session.Coherence
import ConstantResolution.Proofs.Site.Dispatch
import ConstantResolution.Proofs.World.Dispatch

/-! # Missing names in sessions

In every world of a session a missing name is handed to the handler of the nearest namespace on the chain of
superclasses that has one, together with the scope that it is missing in.  A handler that is installed in a session
changes the dispatch of the namespaces that defer to where it is installed, and nothing else of the session
(`perform_setHandler`).  Since what is not found is not remembered, a site whose name is missing does not have to be
invalidated: its next evaluation is a dispatch in the world with the new handler (`MissingEvaluated.dispatched`,
`dispatch_by_superclasses`). -/

namespace ConstantResolution.Session

variable {s : Session} {ns site : String} {label : Option String} {response : Response} {context : ContextTerm}
  {k : SiteId} {i N : NamespaceId} {p : PlacedSite}

/-- The session with a handler. -/
def install (s : Session) (N : NamespaceId) (h : Handler) : Session :=
  { s with store := { s.store with world := s.store.world.setHandler N h } }

/-- To install a handler always succeeds. -/
theorem perform_setHandler (hN : s.store.world.held.get? ns = some N) :
    perform (.setHandler ns label response) s = ⟨s.install N ⟨label, response⟩, [], .ok .done⟩ := by
  have hheld : heldNamespace ns s = ⟨s, [], .ok N⟩ := by rw [heldNamespace_apply, hN]
  exact Action.bind_of_quiet hheld _

/-- Names hold what they held before. -/
theorem place?_install (s : Session) (N : NamespaceId) (h : Handler) (context : ContextTerm) :
    (s.install N h).place? context = s.place? context := by
  have hheld : (s.install N h).store.world.held = s.store.world.held := World.held_setHandler s.store.world N h
  unfold place?
  rw [hheld]
  rfl

/-- **What an evaluation comes to**, in a world, of a site whose name is missing there.  A memo of the same generation
is served, if the site has one.  If it has none, the evaluation is a dispatch in that world, unless there is no room
in the row of the site: then it fails, and nothing is dispatched. -/
structure MissingEvaluated (w : World) (i : NamespaceId) (site : Site) (e : Outcome Session Answer) : Prop where
  remembered : ∀ v, site.remembered? (w.generation i) = some v →
    e.result = .ok (.value (some v)) ∧ e.state.store.world = w ∧ callsOf e.notes = []
  dispatched : site.remembered? (w.generation i) = none → site.HasRoom →
    let d := Action.locating site.position (World.dispatch i site.name) w
    e.result = d.result.map (fun v => .value (some v)) ∧ e.state.store.world = d.state ∧
      callsOf e.notes = callsOf d.notes
  full : site.remembered? (w.generation i) = none → ¬ site.HasRoom →
    e.result = .error (.fault (.overflow .streak)) ∧ e.state.store.world = w ∧ callsOf e.notes = []

/-- One evaluation is that of the site in the namespace of the context. -/
theorem perform_evaluate_once (hk : s.sites.get? site = some k) (hplace : s.place? context = some (.ofNamespace i))
    (hp : s.store.site? k = some p) :
    let o := Reading.evaluate (World.scope i) (s.store.reading p)
    (perform (.evaluate site context 1) s).result = o.result.map (fun v => .value (some v)) ∧
      (perform (.evaluate site context 1) s).state.store.world = o.state.scope ∧
      (perform (.evaluate site context 1) s).notes = o.notes := by
  rw [perform_evaluate s site context 0, Action.repeated, atSite_apply Reading.evaluate hk hplace hp]
  exact ⟨rfl, rfl, rfl⟩

theorem missingEvaluated (hk : s.sites.get? site = some k) (hplace : s.place? context = some (.ofNamespace i))
    (hp : s.store.site? k = some p) (hmissing : s.store.world.lookup i p.site.name = none) :
    MissingEvaluated s.store.world i p.site (perform (.evaluate site context 1) s) := by
  obtain ⟨hresult, hstate, hnotes⟩ := perform_evaluate_once hk hplace hp
  constructor
  · intro v hv
    rw [hresult, hstate, hnotes]
    obtain ⟨hvalue, hscope, hcalls⟩ := Reading.evaluate_of_remembered (r := s.store.reading p) hv
    exact ⟨by rw [hvalue]; rfl, hscope, hcalls⟩
  · intro hnone hroom
    rw [hresult, hstate, hnotes]
    obtain ⟨hvalue, hscope, hcalls⟩ := Reading.evaluate_of_missing (r := s.store.reading p) hnone hroom hmissing
    exact ⟨by rw [hvalue]; rfl, hscope, hcalls⟩
  · intro hnone hfull
    rw [hresult, hstate, hnotes]
    obtain ⟨hvalue, hscope, hcalls⟩ := Reading.evaluate_of_full (r := s.store.reading p) hnone hfull
    exact ⟨by rw [hvalue]; rfl, hscope, hcalls⟩

/-- **Missing names are handed to the nearest handler on the chain of superclasses.**  In every world of a session,
every namespace has exactly one nearest handler on its chain of superclasses, or none, and a dispatch there calls it
with that namespace and the name, or refuses the name.  A handler that is installed on `N` becomes the nearest one of
the namespaces that defer to `N`, and those only; no generation and no lookup changes, and nothing else in the session.
The next evaluation of a site whose name is missing is a dispatch in the world with the new handler, without an
invalidation, unless the site still has a memo of that generation or the row of its lookups is full
(`MissingEvaluated`).  A site that was evaluated in that namespace only has no such memo, since a generation that did
not run over has not come back. -/
theorem dispatch_by_superclasses (policy : Policy) (cs : List Command) :
    let s := (start policy).after cs
    let w := s.store.world
    (∀ i name, ∃ o, w.Nearest i o ∧ (∀ o', w.Nearest i o' → o' = o) ∧ w.DispatchedBy o i name) ∧
      ∀ ns N label response, w.held.get? ns = some N →
        let h : Handler := ⟨label, response⟩
        let w' := w.setHandler N h
        perform (.setHandler ns label response) s = ⟨s.install N h, [], .ok .done⟩ ∧
          (s.install N h).store.world = w' ∧ w.Installed N h w' ∧
          ∀ site context k i p, s.sites.get? site = some k → s.place? context = some (.ofNamespace i) →
            s.store.site? k = some p → w.lookup i p.site.name = none →
            MissingEvaluated w' i p.site (perform (.evaluate site context 1) (s.install N h)) ∧
              (w.DefersTo i N → w'.DispatchedBy (some h) i p.site.name) ∧
              ((start policy).WithoutOverflow cs → EvaluatedOnlyIn i k (start policy) cs →
                p.site.remembered? (w'.generation i) = none) := by
  intro s w
  have hs : s.Sound := sound_after (sound_start policy) cs
  have ho : w.Ordered := by
    obtain ⟨notes, hrun⟩ := notedRun_start_after policy cs
    exact World.Ordered.notedRun World.Ordered.empty World.Linked.empty hrun
  refine ⟨fun i name => ⟨w.handler? i, ho.nearest_handler? i, fun o' ho' => (ho.nearest_iff.mp ho').symm,
    w.dispatchedBy_handler? i name⟩, ?_⟩
  intro ns N label response hN h w'
  have hhas : w.Has N := World.has_of_alive (hs.isAlive_of_held hN)
  have hinstalled : w.Installed N h w' := ho.installed hhas h
  refine ⟨perform_setHandler hN, rfl, hinstalled, ?_⟩
  intro site context k i p hk hplace hp hmissing
  refine ⟨?_, fun hd => ?_, fun hn he => ?_⟩
  · exact missingEvaluated (s := s.install N h) hk ((place?_install s N h context).trans hplace) hp
      ((hinstalled.lookup i p.site.name).trans hmissing)
  · have hnearest : w'.handler? i = some h := (ho.setHandler N h).nearest_iff.mp (hinstalled.nearest i hd)
    exact hnearest ▸ w'.dispatchedBy_handler? i p.site.name
  · have hfresh : s.FreshAt k i := freshAt_after (sound_start policy) hn he (freshAt_start policy k i)
    rw [hinstalled.generation]
    exact (hfresh site hk p hp).remembered?_eq_none (hs.isAlive_of_place hplace) hmissing

/-- A class inherits from one and includes a module, and stands in a module.  The modules have handlers, and a name
that is missing in the class has been refused. -/
def inheriting : List Command :=
  [.newModule "o" "O" "top", .newClass "a" "A" "top" none, .newClass "b" "B" "o" (some "a"), .newModule "m" "M" "top",
    .includeModule "b" "m", .setHandler "m" (some "mixin") .describe, .setHandler "o" (some "outer") .describe,
    .newSite "site" "X" .unknown "main", .evaluate "site" ⟨.heldNamespace "b", none⟩ 1]

set_option maxRecDepth 10000 in
/-- A handler that is then installed on the superclass answers at once, and is called with the class. -/
theorem dispatch_by_superclasses_inheriting :
    let context : ContextTerm := ⟨.heldNamespace "b", none⟩
    ((start {}).after inheriting).store.world.handler? 4 = none ∧
      ((start {}).after inheriting).store.world.DefersTo 4 3 ∧
      (perform (.evaluate "site" context 1) (((start {}).after inheriting).install 3 ⟨some "base", .symbol⟩)).result =
        .ok (.value (some (.sym "X"))) ∧
      callsOf (perform (.evaluate "site" context 1)
          (((start {}).after inheriting).install 3 ⟨some "base", .symbol⟩)).notes = [⟨"base", "O::B", "X"⟩] := by
  intro context
  have hn : (start {}).WithoutOverflow inheriting := by decide +kernel
  have he : EvaluatedOnlyIn 4 0 (start {}) inheriting := by decide +kernel
  have hN : ((start {}).after inheriting).store.world.held.get? "a" = some 3 := by decide +kernel
  have hk : ((start {}).after inheriting).sites.get? "site" = some 0 := by decide +kernel
  have hplace : ((start {}).after inheriting).place? context = some (.ofNamespace 4) := by decide +kernel
  have hsite : ((start {}).after inheriting).store.site? 0 =
      some ⟨⟨"X", .unknown, {}, none, neverStamped, 1, false⟩, 0, true⟩ := by decide +kernel
  have hmissing : ((start {}).after inheriting).store.world.lookup 4 "X" = none := by decide +kernel
  have hroom : (⟨"X", .unknown, {}, none, neverStamped, 1, false⟩ : Site).HasRoom := fun _ => by decide
  have hfound : ((start {}).after inheriting).store.world.handler? 4 = none := by decide +kernel
  have hleaves : ((start {}).after inheriting).store.world.LeavesTo 4 3 := by
    constructor <;> decide +kernel
  have hname : (((start {}).after inheriting).store.world.setHandler 3 ⟨some "base", .symbol⟩).qualifiedName 4 =
      "O::B" := by decide +kernel
  obtain ⟨-, hinstall⟩ := dispatch_by_superclasses {} inheriting
  obtain ⟨-, -, -, hnext⟩ := hinstall "a" 3 (some "base") .symbol hN
  obtain ⟨hevaluated, hby, hnone⟩ := hnext "site" context 0 4 _ hk hplace hsite hmissing
  obtain ⟨hresult, -, hcalls⟩ := hevaluated.dispatched (hnone hn he) hroom
  have hdefers : ((start {}).after inheriting).store.world.DefersTo 4 3 := .single hleaves
  have hdispatch : World.dispatch 4 "X"
      (((start {}).after inheriting).store.world.setHandler 3 ⟨some "base", .symbol⟩) =
      ⟨((start {}).after inheriting).store.world.setHandler 3 ⟨some "base", .symbol⟩,
        [.called ⟨"base", "O::B", "X"⟩], .ok (.sym "X")⟩ := by
    rw [(hby hdefers).invoked, World.invoke_some, hname]
    rfl
  refine ⟨hfound, hdefers, ?_, ?_⟩
  · rw [hresult, Action.locating_apply, hdispatch]
    rfl
  · rw [hcalls, Action.locating_apply, hdispatch]
    rfl

end ConstantResolution.Session
