import ConstantResolution.Proofs.Session.Ancestry
import ConstantResolution.Proofs.World.AncestorOrder

/-! # The order of ancestors in a session

In the worlds of sessions, the ancestors of a namespace are what is left of its full expansion when each
namespace stays where it comes first (`ancestors_linear`).  So a module that several others include stands
behind the one that is met first, and before the others: there it shadows the modules that include it
(`mixin_before_module`).  Which modules that befalls is said exactly (`mixin_after_iff`). -/

namespace ConstantResolution.Session

theorem linked_after (policy : Policy) (cs : List Command) : ((start policy).after cs).store.world.Linked :=
  (sound_after (sound_start policy) cs).store.linked

/-- **Ancestors are a full expansion without its repetitions.**  In every world of a session there is one full
expansion: the included modules of a namespace, last one first, each followed by its own expansion, and then
the superclass followed by its own.  The ancestors are the first occurrences of it.  None is listed twice,
no namespace is its own ancestor, and what is listed is what superclasses and included modules lead to. -/
theorem ancestors_linear (policy : Policy) (cs : List Command) :
    let w := ((start policy).after cs).store.world
    IsExpansion w.uplinks w.expansion ∧ (∀ e, IsExpansion w.uplinks e → e = w.expansion) ∧
      ∀ i, w.ancestors i = (w.expansion i).eraseDups ∧ (w.ancestors i).Nodup ∧ i ∉ w.ancestors i ∧
        ∀ j, j ∈ w.ancestors i ↔ Relation.TransGen (fun k l => l ∈ w.uplinks k) i j := by
  intro w
  have hl : w.Linked := linked_after policy cs
  have ha : Acyclic w.uplinks := acyclic_after (sound_start policy) (acyclic_start policy) cs
  refine ⟨hl.isExpansion ha, fun _ => hl.eq_expansion ha, fun i => ?_⟩
  exact ⟨hl.ancestors_eq ha i, hl.nodup_ancestors ha i, hl.not_mem_ancestors_self ha i,
    fun j => hl.mem_ancestors_iff⟩

/-- **When a module comes before what it includes.**  An ancestor of an ancestor is listed too.  It comes after
that one if and only if one passes that one on the way that always takes the first direct ancestor through
which one gets there.  Then it does not shadow a constant of that one, except as a scope around the place. -/
theorem mixin_after_iff (policy : Policy) (cs : List Command) {i m x : NamespaceId}
    (hm : m ∈ ((start policy).after cs).store.world.ancestors i)
    (hx : x ∈ ((start policy).after cs).store.world.ancestors m) :
    let w := ((start policy).after cs).store.world
    let passed := Relation.TransGen (fun j k => w.toward x j = some k) i m
    x ∈ w.ancestors i ∧ ((w.ancestors i).idxOf m < (w.ancestors i).idxOf x ↔ passed) ∧
      ∀ name, w.lookup i name = ((w.provider? i name).bind fun j => w.local? j name) ∧
        ((w.local? m name).isSome → passed → w.provider? i name = some x → x ∈ w.lexicalScopes i) := by
  intro w passed
  have hl : w.Linked := linked_after policy cs
  have ha : Acyclic w.uplinks := acyclic_after (sound_start policy) (acyclic_start policy) cs
  have horder : (w.ancestors i).idxOf m < (w.ancestors i).idxOf x ↔ passed := hl.idxOf_ancestors_lt_iff ha hx
  refine ⟨?_, horder, fun name => ⟨w.lookup_eq_provider i name, fun hname hpassed hprovider => ?_⟩⟩
  · exact hl.mem_ancestors_iff.mpr ((hl.mem_ancestors_iff.mp hm).trans (hl.mem_ancestors_iff.mp hx))
  · apply (hl.provider_of_ancestor ha hm hx hname hprovider).resolve_right
    exact not_not.mpr (horder.mpr hpassed)

/-- Two modules that include a third one, and a class that includes both of them. -/
def sharing : List Command :=
  [.newModule "x" "X" "top", .newModule "a" "A" "top", .newModule "b" "B" "top", .newClass "s" "S" "top" none,
    .includeModule "a" "x", .includeModule "b" "x", .includeModule "s" "a", .includeModule "s" "b",
    .define "x" "K" (.value (.int 1)), .define "a" "K" (.value (.int 2))]

set_option maxRecDepth 10000 in
/-- The module that was included last is passed on the way to the shared one. -/
theorem mixin_after_last :
    let w := ((start {}).after sharing).store.world
    4 ∈ w.ancestors 5 ∧ 2 ∈ w.ancestors 4 ∧ (w.ancestors 5).idxOf 4 < (w.ancestors 5).idxOf 2 ∧
      Relation.TransGen (fun j k => w.toward 2 j = some k) 5 4 := by
  intro w
  have hm : 4 ∈ w.ancestors 5 := by decide +kernel
  have hx : 2 ∈ w.ancestors 4 := by decide +kernel
  have hlt : (w.ancestors 5).idxOf 4 < (w.ancestors 5).idxOf 2 := by decide +kernel
  obtain ⟨-, hiff, -⟩ := mixin_after_iff {} sharing hm hx
  exact ⟨hm, hx, hlt, hiff.mp hlt⟩

set_option maxRecDepth 10000 in
/-- The module that was included first comes after the one that it includes, and is shadowed by it. -/
theorem mixin_before_module :
    let w := ((start {}).after sharing).store.world
    3 ∈ w.ancestors 5 ∧ 2 ∈ w.ancestors 3 ∧ w.ancestors 5 = [4, 2, 3] ∧
      ¬ (w.ancestors 5).idxOf 3 < (w.ancestors 5).idxOf 2 ∧
      w.local? 3 "K" = some (.int 2) ∧ w.provider? 5 "K" = some 2 ∧ w.lookup 5 "K" = some (.int 1) := by
  decide +kernel

end ConstantResolution.Session
