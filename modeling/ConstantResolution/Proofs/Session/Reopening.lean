import ConstantResolution.Proofs.Session.Runs
import ConstantResolution.Proofs.Store.Reopening

/-! # Opening is idempotent up to generations

In every session, to open a class or a module once more in the same words gives what was given before, and changes
nothing but generations (`opening_idempotent`).  It makes no difference how many callers do so, or in which order
they take their turns, and callers who are the first to open a name are no exception: one of them creates the
namespace, and the others open it again. -/

namespace ConstantResolution.Session

/-- **An opening that succeeds can be repeated, and only generations tell how often.**  In every session, let a body
be opened in a realm with success, and then by any number of callers in the same words, one after another.  All of
them are given the same namespace, if and only if the generations that advance have room for that; then these
advance by the number of callers, which are those of the namespace and of every live one that depends on it, and no
others do.  Whatever they are given, the callers create no namespace and change no constant, register, link or
count of dependents.  If the name was free before the first opening, then one namespace was created: it was bound,
it alone was registered, its generation is the number of openings, and that of the scope it is written in has
advanced once. -/
theorem opening_idempotent (policy : Policy) (cs : List Command) {realm : String} {r : RealmId}
    (hr : ((start policy).after cs).realms.get? realm = some r) {b : Store.Body}
    (hb : b.Alive ((start policy).after cs).store.world) {i : NamespaceId}
    (hi : (Store.openBody r b ((start policy).after cs).store).result = .ok i) {κ : Type} (callers : List κ) :
    let s := ((start policy).after cs).store
    let t := (Store.openBody r b s).state
    let u := Store.openedBy r b callers t
    let served := Store.answersTo r b callers t = callers.map fun c => (c, .ok i)
    (served ↔ ∀ j, t.world.DependsOn j i → (t.world.generation j).toNat + callers.length < 2 ^ 64) ∧
      (served → t.world.Aged i callers.length u.world) ∧
      (Store.Ageless t u ∧ ∀ j, u.world.dependentCount j = t.world.dependentCount j) ∧
      (s.world.local? b.parent b.name = none →
        i = s.world.size + 1 ∧ u.world.size = s.world.size + 1 ∧
          u.world.local? b.parent b.name = some (.ns i) ∧
          (u.realm r).registered = (s.realm r).registered ++ [i] ∧
          (served → (u.world.generation i).toNat = callers.length + 1 ∧
            (u.world.generation b.parent).toNat = (s.world.generation b.parent).toNat + 1)) := by
  intro s t u served
  have hs : ((start policy).after cs).Sound := sound_after (sound_start policy) cs
  obtain ⟨hsound, -, hlives⟩ := Store.openBody_keeps (R := fun _ _ => True) r hb hs.store
  have hl : t.world.Linked := hsound.linked
  have halive : t.world.isAlive i = true := hlives i hi
  obtain ⟨hreopens, hfound⟩ := Store.reopens_after hs.store.linked (hs.realms hr).1 hb hi
  have hageless : Store.Ageless t u := hreopens.openedBy_ageless callers
  obtain ⟨hserved, haged⟩ := hreopens.answersTo_iff hl halive callers
  refine ⟨hserved, haged, ⟨hageless, hageless.world.dependentCount_eq⟩, fun hfree => ?_⟩
  have hnew := hfound hfree
  refine ⟨hnew.number, ?_, ?_, ?_, fun h => ⟨?_, ?_⟩⟩
  · rw [hageless.world.size, hnew.founded.size]
  · rw [hageless.world.local?_eq, hreopens.bound]
  · rw [hageless.realm_eq, hnew.registered]
  · have hself : t.world.DependsOn i i := ⟨halive, Reaches.refl _ _⟩
    have hfirst := hnew.founded.first
    rw [← hnew.number] at hfirst
    rw [(haged h).advanced hself, hfirst, Nat.add_comm]
  · have hapart := hnew.founded.apart
    rw [← hnew.number] at hapart
    rw [(haged h).kept hapart, hnew.founded.parent]

/-- A module is included in a class, and is bound there under another name. -/
def aliasing : List Command :=
  [.openModule "m" "M" "top" "main", .openClass "c" "C" "top" none "main", .includeModule "c" "m",
    .define "c" "Alias" (.heldNamespace "m")]

set_option maxRecDepth 10000 in
/-- The class depends on what is opened in it: two callers more advance the class twice more.  And a class that is new
in the module is created once by three callers, and advances the module once. -/
theorem opening_idempotent_aliasing :
    let s := ((start {}).after aliasing).store
    let again : Store.Body := .moduleBody "Alias" 3
    let anew : Store.Body := .classBody "New" 2 (some 3)
    let t := (Store.openBody 0 again s).state
    let t' := (Store.openBody 0 anew s).state
    ((start {}).after aliasing).realms.get? "main" = some 0 ∧ again.Alive s.world ∧ anew.Alive s.world ∧
      (Store.openBody 0 again s).result = .ok 2 ∧ (Store.openBody 0 anew s).result = .ok 4 ∧
      Store.answersTo 0 again ["first", "second"] t = [("first", .ok 2), ("second", .ok 2)] ∧
      ((Store.openedBy 0 again ["first", "second"] t).world.generation 3).toNat = (s.world.generation 3).toNat + 3 ∧
      ((Store.openedBy 0 anew ["first", "second"] t').world.generation 4).toNat = 3 ∧
      ((Store.openedBy 0 anew ["first", "second"] t').world.generation 2).toNat =
        (s.world.generation 2).toNat + 1 := by
  intro s again anew t t'
  have hr : ((start {}).after aliasing).realms.get? "main" = some 0 := by decide +kernel
  have hagain : again.Alive s.world := ⟨by decide +kernel, nofun⟩
  have hanew : anew.Alive s.world := by
    refine ⟨by decide +kernel, ?_⟩
    rintro i ⟨⟩
    decide +kernel
  have hfound : (Store.openBody 0 again s).result = .ok 2 := by decide +kernel
  have hmade : (Store.openBody 0 anew s).result = .ok 4 := by decide +kernel
  obtain ⟨hserved, haged, -, -⟩ := opening_idempotent {} aliasing hr hagain hfound ["first", "second"]
  obtain ⟨hserved', -, -, hfresh⟩ := opening_idempotent {} aliasing hr hanew hmade ["first", "second"]
  have hanswers := hserved.mpr (by
    intro j hj
    have hle := (World.has_of_alive hj.1).2
    clear hj
    revert j
    decide +kernel)
  have hanswers' := hserved'.mpr (by
    intro j hj
    have hle := (World.has_of_alive hj.1).2
    clear hj
    revert j
    decide +kernel)
  have hdepends : t.world.DependsOn 3 2 := by
    refine ⟨by decide +kernel, (Reaches.refl _ 3).tail ?_⟩
    decide +kernel
  have hopened : (t.world.generation 3).toNat = (s.world.generation 3).toNat + 1 := by decide +kernel
  obtain ⟨-, -, -, -, hgenerations⟩ := hfresh (by decide +kernel)
  obtain ⟨hcount, hparent⟩ := hgenerations hanswers'
  refine ⟨hr, hagain, hanew, hfound, hmade, hanswers, ?_, hcount, hparent⟩
  rw [(haged hanswers).advanced hdepends, hopened]
  rfl

end ConstantResolution.Session
