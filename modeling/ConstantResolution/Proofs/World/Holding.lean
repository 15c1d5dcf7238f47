import ConstantResolution.Proofs.World.Generations

/-! # Holding namespaces and letting go of them

What lets go of a namespace lets all those die that nothing holds any more.  Each of these is a step
that meets no fault (`notedRun_release`, `notedRun_hold`, `notedRun_letGo`).

A namespace counts how often it is held.  `Counted` says that the count is not below the number of
names that hold it together with what else holds it, so that what is held lives
(`Counted.isAlive_of_get?`); names keep this when they take hold of namespaces and when they let go
of them (`Counted.hold`, `Counted.letGo`). -/

namespace ConstantResolution.World

variable {w : World} {i j : NamespaceId} {r : NamespaceId → Nat}

/-! ### Deaths -/

/-- To let die what nothing holds is a run without faults, which touches neither names nor holders. -/
theorem collect_spec (bound : Nat) (w : World) :
    NotedRun w [] (collect bound w) ∧ (collect bound w).held = w.held ∧
      ∀ j, ((collect bound w).node j).holders = (w.node j).holders := by
  induction bound generalizing w with
  | zero => exact ⟨NotedRun.refl w [], rfl, fun _ => rfl⟩
  | succ bound ih =>
      unfold collect
      split
      · exact ⟨NotedRun.refl w [], rfl, fun _ => rfl⟩
      · rename_i i hi
        obtain ⟨hrun, hheld, hholders⟩ := ih (w.bury i)
        have hfree := List.find?_some hi
        rw [Bool.and_eq_true, Bool.not_eq_true'] at hfree
        refine ⟨(NotedRun.quiet (n := []) (Step.bury hfree.1 hfree.2)).trans hrun, ?_, fun j => ?_⟩
        · rw [hheld, bury, held_update]
        · rw [hholders, proj_bury Namespace.holders fun _ => rfl]

theorem notedRun_release (w : World) (i : NamespaceId) : NotedRun w [] (w.release i) :=
  (NotedRun.quiet (n := []) (Step.loosen i)).trans (collect_spec _ (w.loosen i)).1

theorem held_release (w : World) (i : NamespaceId) : (w.release i).held = w.held :=
  (collect_spec _ (w.loosen i)).2.1.trans (held_update w i _)

theorem holders_release (w : World) (i j : NamespaceId) :
    ((w.release i).node j).holders = (w.node j).holders - if i = j then 1 else 0 :=
  ((collect_spec _ (w.loosen i)).2.2 j).trans (holders_loosen w i j)

theorem holders_retain (hi : w.Has i) (j : NamespaceId) :
    ((w.retain i).node j).holders = (w.node j).holders + if i = j then 1 else 0 := by
  unfold retain
  by_cases hij : i = j
  · subst hij
    rw [node_update _ hi, if_pos rfl]
  · rw [node_update_of_ne _ hij, if_neg hij, Nat.add_zero]

/-! ### Names -/

/-- The world with a name that holds a namespace, before it gives up what it held before. -/
def take (w : World) (holder : String) (i : NamespaceId) : World :=
  { w with held := w.held.insert holder i }.retain i

theorem held_take (w : World) (holder : String) (i : NamespaceId) :
    (w.take holder i).held = w.held.insert holder i := held_update _ i _

theorem holders_take (holder : String) (hi : w.Has i) (j : NamespaceId) :
    ((w.take holder i).node j).holders = (w.node j).holders + if i = j then 1 else 0 :=
  holders_retain (w := { w with held := w.held.insert holder i }) hi j

theorem hold_eq (w : World) (holder : String) (i : NamespaceId) :
    w.hold holder i = (w.held.get? holder).elim (w.take holder i) (w.take holder i).release := rfl

theorem notedRun_take (holder : String) (hi : w.isAlive i = true) : NotedRun w [] (w.take holder i) := by
  have hrename := NotedRun.quiet (n := []) (Step.rename (w := w) (w.held.insert holder i))
  exact hrename.trans (NotedRun.quiet (Step.retain hi))

theorem notedRun_hold (holder : String) (hi : w.isAlive i = true) : NotedRun w [] (w.hold holder i) := by
  rw [hold_eq]
  cases w.held.get? holder with
  | none => exact notedRun_take holder hi
  | some o => exact (notedRun_take holder hi).trans (notedRun_release _ o)

theorem notedRun_letGo (w : World) (holder : String) : NotedRun w [] (w.letGo holder) := by
  unfold letGo
  split
  · exact NotedRun.refl w []
  · rename_i i _
    exact (NotedRun.quiet (n := []) (Step.rename (w.held.erase holder))).trans (notedRun_release _ i)

/-! ### Counting -/

/-- How many names hold a namespace. -/
def nameCount (d : Dictionary NamespaceId) (i : NamespaceId) : Nat := d.entries.countP fun e => e.2 == i

/-- One hold of `i` more. -/
def oneMore (r : NamespaceId → Nat) (i j : NamespaceId) : Nat := r j + if i = j then 1 else 0

/-- A namespace is held as often as names and others say; `r` counts the others. -/
def Counted (w : World) (r : NamespaceId → Nat) : Prop :=
  ∀ j, nameCount w.held j + r j ≤ (w.node j).holders

theorem nameCount_insert (d : Dictionary NamespaceId) (holder : String) (i j : NamespaceId) :
    nameCount (d.insert holder i) j = nameCount (d.erase holder) j + if i = j then 1 else 0 := by
  rw [nameCount, Dictionary.insert, List.countP_cons, nameCount]
  simp only [beq_iff_eq]

theorem countP_filter_lt {es : List (String × NamespaceId)} {holder : String} {i : NamespaceId}
    (h : es.lookup holder = some i) :
    (es.filter fun e => e.1 != holder).countP (fun e => e.2 == i) + 1 ≤ es.countP fun e => e.2 == i := by
  induction es with
  | nil => exact nomatch h
  | cons e es ih =>
      obtain ⟨k, v⟩ := e
      by_cases hk : k = holder
      · subst hk
        obtain rfl : v = i := by simpa using h
        have hle := (List.filter_sublist (p := fun e => e.1 != k) (l := es)).countP_le
          (p := fun e => e.2 == v)
        simpa using hle
      · rw [Dictionary.lookup_cons_ne (Ne.symm hk)] at h
        have := ih h
        rw [List.filter_cons_of_pos (by simpa using hk), List.countP_cons, List.countP_cons]
        omega

/-- A name that lets go is one less to hold what it held. -/
theorem nameCount_erase {d : Dictionary NamespaceId} {holder : String} {o : NamespaceId}
    (h : d.get? holder = some o) (j : NamespaceId) :
    nameCount (d.erase holder) j + (if o = j then 1 else 0) ≤ nameCount d j := by
  split
  · rename_i hj
    subst hj
    exact countP_filter_lt h
  · exact (List.filter_sublist (l := d.entries)).countP_le

theorem nameCount_erase_le (d : Dictionary NamespaceId) (holder : String) (j : NamespaceId) :
    nameCount (d.erase holder) j ≤ nameCount d j := (List.filter_sublist (l := d.entries)).countP_le

theorem nameCount_pos {d : Dictionary NamespaceId} {holder : String} (h : d.get? holder = some i) :
    0 < nameCount d i := by
  have := nameCount_erase h i
  rw [if_pos rfl] at this
  omega

namespace Counted

theorem isAlive_of_pos (hc : w.Counted r) (hl : w.Linked) (h : 0 < nameCount w.held i + r i) :
    w.isAlive i = true := hl.holders (h.trans_le (hc i))

/-- **What a name holds lives.** -/
theorem isAlive_of_get? (hc : w.Counted r) (hl : w.Linked) {holder : String}
    (h : w.held.get? holder = some i) : w.isAlive i = true :=
  hc.isAlive_of_pos hl (Nat.add_pos_left (nameCount_pos h) _)

/-- What gives up one hold may do so when it is counted. -/
theorem release (hc : w.Counted (oneMore r i)) : (w.release i).Counted r := by
  intro j
  have := hc j
  rw [oneMore] at this
  rw [held_release, holders_release]
  omega

theorem retain (hc : w.Counted r) (hi : w.Has i) : (w.retain i).Counted (oneMore r i) := by
  intro j
  have := hc j
  have hheld : (w.retain i).held = w.held := held_update w i _
  rw [hheld, holders_retain hi, oneMore]
  omega

theorem hold (hc : w.Counted r) (holder : String) (hi : w.Has i) : (w.hold holder i).Counted r := by
  rw [hold_eq]
  cases hold : w.held.get? holder with
  | none =>
      intro j
      have hj := hc j
      have hle := nameCount_erase_le w.held holder j
      rw [Option.elim_none, held_take, holders_take holder hi, nameCount_insert]
      omega
  | some o =>
      rw [Option.elim_some]
      apply Counted.release
      intro j
      have hj := hc j
      have hle := nameCount_erase hold j
      rw [held_take, holders_take holder hi, nameCount_insert, oneMore]
      omega

theorem letGo (hc : w.Counted r) (holder : String) : (w.letGo holder).Counted r := by
  unfold World.letGo
  split
  · exact hc
  · rename_i o ho
    apply Counted.release
    intro j
    have hj := hc j
    have hle := nameCount_erase ho j
    show nameCount (w.held.erase holder) j + oneMore r o j ≤ (w.node j).holders
    rw [oneMore]
    omega

end Counted

end ConstantResolution.World
