import Mathlib.Data.Finset.Max
import Mathlib.Order.Interval.Finset.Nat
import ConstantResolution.Proofs.World.Acyclicity
import ConstantResolution.Proofs.World.Calm
import ConstantResolution.Proofs.World.Holding

/-! # What lives is held

Whatever lets go of a namespace lets all those die that nothing holds any more, so between two commands what
lives is held (`Upheld`).  A namespace has no more holders than there are names and others that hold it
(`Accounted`); so one that has holders is still held from outside.

Being held is not yet being reached from outside, for namespaces can hold each other in a circle.  Parents and
superclasses are older than what is linked to them (`Ordered`), so a circle passes a namespace that includes a
newer module (`Circle`).  What lives is reached from a namespace with holders or from such a circle
(`Upheld.origin`). -/

namespace ConstantResolution

/-! ### Where links come from -/

section ways

variable {next : Nat → List Nat} {x y : Nat}

/-- A way leads to a smaller number, or one of its links does not. -/
theorem exists_rise (h : Relation.TransGen (fun k l => l ∈ next k) x y) :
    y < x ∨ ∃ i, ∃ m ∈ next i, i ≤ m ∧ Reaches next x i ∧ Reaches next m y := by
  induction h with
  | @single y hxy =>
      rcases Nat.lt_or_ge y x with hlt | hge
      · exact Or.inl hlt
      · exact Or.inr ⟨x, y, hxy, hge, Reaches.refl next x, Reaches.refl next y⟩
  | @tail y z hxy hyz ih =>
      rcases Nat.lt_or_ge z y with hlt | hge
      · refine ih.imp (fun h => hlt.trans h) ?_
        rintro ⟨i, m, hm, him, hxi, hmy⟩
        exact ⟨i, m, hm, him, hxi, hmy.tail hyz⟩
      · exact Or.inr ⟨y, z, hyz, hge, hxy.to_reflTransGen, Reaches.refl next z⟩

open Classical in
/-- The nodes of a bounded set from which a node is reached. -/
noncomputable def behind (next : Nat → List Nat) (P : Nat → Prop) (bound j : Nat) : Finset Nat :=
  (Finset.range (bound + 1)).filter fun k => P k ∧ Reaches next k j

theorem mem_behind {P : Nat → Prop} {bound j k : Nat} (hbound : ∀ k, P k → k ≤ bound) :
    k ∈ behind next P bound j ↔ P k ∧ Reaches next k j := by
  simp only [behind, Finset.mem_filter, Finset.mem_range, and_iff_right_iff_imp]
  exact fun h => Nat.lt_succ_of_le (hbound k h.1)

theorem behind_subset {P : Nat → Prop} {bound : Nat} (hbound : ∀ k, P k → k ≤ bound)
    (h : Reaches next x y) : behind next P bound x ⊆ behind next P bound y := by
  intro k hk
  rw [mem_behind hbound] at hk ⊢
  exact ⟨hk.1, hk.2.trans h⟩

/-- If each node of a bounded set is a source or has a link to it from within the set, then each of them is
reached from a source or from a circle. -/
theorem exists_source_or_circle {P Q : Nat → Prop} {bound j : Nat} (hbound : ∀ k, P k → k ≤ bound)
    (hback : ∀ k, P k → Q k ∨ ∃ l, P l ∧ k ∈ next l) (hj : P j) :
    ∃ i, P i ∧ Reaches next i j ∧ (Q i ∨ Relation.TransGen (fun k l => l ∈ next k) i i) := by
  have hself : ∀ k, P k → k ∈ behind next P bound k :=
    fun k hk => (mem_behind hbound).mpr ⟨hk, Reaches.refl next k⟩
  -- Of the nodes behind `j` we take one that has fewest behind it.
  obtain ⟨m, hm, hmin⟩ :=
    (behind next P bound j).exists_min_image (fun k => (behind next P bound k).card) ⟨j, hself j hj⟩
  obtain ⟨hPm, hmj⟩ := (mem_behind hbound).mp hm
  rcases hback m hPm with hsource | ⟨l, hPl, hml⟩
  · exact ⟨m, hPm, hmj, Or.inl hsource⟩
  · have hlj : Reaches next l j := hmj.head hml
    have hsub : behind next P bound l ⊆ behind next P bound m :=
      behind_subset hbound ((Reaches.refl next m).head hml)
    -- What leads to it has no fewer behind it, so it has the same ones, and is among them.
    have heq := Finset.eq_of_subset_of_card_le hsub (hmin l ((mem_behind hbound).mpr ⟨hPl, hlj⟩))
    have hmem : m ∈ behind next P bound l := by
      rw [heq]
      exact hself m hPm
    exact ⟨l, hPl, hlj, Or.inr (transGen_iff.mpr ⟨m, hml, ((mem_behind hbound).mp hmem).2⟩)⟩

end ways

namespace World

variable {w w' : World} {i j m : NamespaceId} {is : List NamespaceId} {notes : List Note}
  {r : NamespaceId → Nat}

/-! ### What lives is held -/

/-- What lives is held, apart from some namespaces that nothing may hold yet. -/
def UpheldBut (w : World) (is : List NamespaceId) : Prop :=
  ∀ j, w.isAlive j = true → j ∉ is → w.isHeld j = true

/-- What lives is held. -/
abbrev Upheld (w : World) : Prop := w.UpheldBut []

theorem Upheld.but (h : w.Upheld) (is : List NamespaceId) : w.UpheldBut is :=
  fun j hj _ => h j hj List.not_mem_nil

theorem UpheldBut.calm (h : w.UpheldBut is) (hc : Calm w notes w') : w'.UpheldBut is := by
  intro j hj hjs
  refine isHeld_mono (hc.holders j).ge (fun k hk hjk => ⟨hc.alive hk, hc.links hjk⟩) (h j ?_ hjs)
  rwa [← hc.isAlive_eq]

/-- Nothing holds a new namespace yet. -/
theorem UpheldBut.create (h : w.UpheldBut is) (n : Namespace) : (w.create n).UpheldBut ((w.size + 1) :: is) := by
  intro j hj hjs
  rw [List.mem_cons, not_or] at hjs
  rw [isAlive_create, if_neg hjs.1] at hj
  refine isHeld_mono (w := w) ?_ (fun k hk hjk => ?_) (h j hj hjs.2)
  · rw [proj_create Namespace.holders (fun _ _ => rfl), if_neg hjs.1]
  · rw [isAlive_create, links_create, if_neg (ne_of_alive hk), if_neg (ne_of_alive hk)]
    exact ⟨hk, hjk⟩

/-- A new namespace that dies at once was held by nothing, and held nothing that is not held without it. -/
theorem Upheld.lost (h : w.Upheld) {n : Namespace} (hn : w.Creatable n) (hc : (w.create n).Calm notes w')
    (hfree : w'.isHeld (w.size + 1) = false) : (w'.bury (w.size + 1)).Upheld := by
  have hfollows := Follows.lost hn hc hfree
  intro j hj _
  rw [isAlive_bury] at hj
  have hold : w.isAlive j = true := by
    have hcreated := hc.dead hj.1
    rwa [isAlive_create, if_neg (Ne.symm hj.2)] at hcreated
  refine isHeld_mono (hfollows.holders j).ge (fun k hk hjk => ⟨hfollows.alive hk, ?_⟩) (h j hold List.not_mem_nil)
  have hlinks : (w'.bury (w.size + 1)).links k = w'.links k := proj_bury Namespace.links (fun _ => rfl) k
  rw [hlinks]
  apply hc.links
  rwa [links_create, if_neg (ne_of_alive hk)]

theorem UpheldBut.retain (h : w.UpheldBut (i :: is)) (hi : w.Has i) : (w.retain i).UpheldBut is := by
  intro j hj hjs
  have halive : ∀ k, (w.retain i).isAlive k = w.isAlive k := proj_retain Namespace.alive fun _ _ => rfl
  have hlinks : ∀ k, (w.retain i).links k = w.links k := proj_retain Namespace.links fun _ _ => rfl
  by_cases hij : i = j
  · rw [isHeld_iff, holders_retain hi, if_pos hij]
    exact Or.inl (Nat.succ_pos _)
  · rw [halive] at hj
    refine isHeld_mono ?_ (fun k hk hjk => ?_) (h j hj ?_)
    · rw [holders_retain hi]
      exact Nat.le_add_right _ _
    · rw [halive, hlinks]
      exact ⟨hk, hjk⟩
    · rw [List.mem_cons, not_or]
      exact ⟨Ne.symm hij, hjs⟩

/-! ### Deaths end when all that lives is held -/

/-- The live namespaces. -/
def living (w : World) : Finset NamespaceId := (Finset.Icc 1 w.size).filter fun j => w.isAlive j = true

theorem mem_living : j ∈ w.living ↔ w.isAlive j = true := by
  rw [living, Finset.mem_filter, Finset.mem_Icc, and_iff_right_iff_imp]
  exact has_of_alive

theorem card_living_le (w : World) : w.living.card ≤ w.size := by
  have hcard := (Finset.Icc 1 w.size).card_filter_le fun j => w.isAlive j = true
  rw [Nat.card_Icc] at hcard
  exact hcard

theorem living_bury (w : World) (i : NamespaceId) : (w.bury i).living = w.living.erase i := by
  ext j
  rw [Finset.mem_erase, mem_living, mem_living, isAlive_bury, ne_comm, and_comm]

theorem upheld_of_unheld?_eq_none (h : w.unheld? = none) : w.Upheld := by
  intro j hj _
  have hids : j ∈ w.ids := by
    have hhas := has_of_alive hj
    cases j with
    | zero => exact absurd hhas.1 (Nat.lt_irrefl 0)
    | succ j => exact List.mem_map.mpr ⟨j, List.mem_range.mpr hhas.2, rfl⟩
  have hnone := List.find?_eq_none.mp h j hids
  simpa [hj] using hnone

/-- **Each death leaves one less to die**, and in the end what lives is held. -/
theorem upheld_collect {bound : Nat} (h : w.living.card ≤ bound) : (collect bound w).Upheld := by
  induction bound generalizing w with
  | zero =>
      have hempty : w.living = ∅ := Finset.card_eq_zero.mp (Nat.le_zero.mp h)
      intro j hj _
      have hmem : j ∈ w.living := mem_living.mpr hj
      rw [hempty] at hmem
      exact absurd hmem (Finset.notMem_empty j)
  | succ bound ih =>
      unfold collect
      split
      · rename_i hnone
        exact upheld_of_unheld?_eq_none hnone
      · rename_i i hi
        have hfree := List.find?_some hi
        rw [Bool.and_eq_true] at hfree
        apply ih
        rw [living_bury, Finset.card_erase_of_mem (mem_living.mpr hfree.1)]
        omega

/-- **What lives is held when a hold was given up.** -/
theorem upheld_release (w : World) (i : NamespaceId) : (w.release i).Upheld := by
  have hcard := card_living_le (w.loosen i)
  exact upheld_collect hcard

theorem Upheld.releaseAll (h : w.Upheld) (is : List NamespaceId) : (is.foldl World.release w).Upheld := by
  induction is generalizing w with
  | nil => exact h
  | cons i is ih => exact ih (upheld_release w i)

theorem UpheldBut.hold (h : w.UpheldBut [i]) (holder : String) (hi : w.Has i) : (w.hold holder i).Upheld := by
  have htake : (w.take holder i).Upheld :=
    UpheldBut.retain (w := { w with held := w.held.insert holder i }) h hi
  rw [hold_eq]
  cases w.held.get? holder with
  | none => exact htake
  | some o => exact upheld_release _ o

theorem Upheld.letGo (h : w.Upheld) (holder : String) : (w.letGo holder).Upheld := by
  unfold World.letGo
  split
  · exact h
  · exact upheld_release _ _

/-! ### Holders are names and others -/

/-- Each name is bound once, and there are no more holders than names and others say; `r` counts the
others. -/
structure Accounted (w : World) (r : NamespaceId → Nat) : Prop where
  names : (w.held.entries.map Prod.fst).Nodup
  holders : ∀ j, (w.node j).holders ≤ nameCount w.held j + r j

theorem nodup_erase {d : Dictionary NamespaceId} (h : (d.entries.map Prod.fst).Nodup) (holder : String) :
    ((d.erase holder).entries.map Prod.fst).Nodup :=
  h.sublist ((List.filter_sublist (l := d.entries)).map Prod.fst)

theorem nodup_insert {d : Dictionary NamespaceId} (h : (d.entries.map Prod.fst).Nodup) (holder : String)
    (i : NamespaceId) : ((d.insert holder i).entries.map Prod.fst).Nodup := by
  rw [Dictionary.insert, List.map_cons, List.nodup_cons]
  refine ⟨fun hmem => ?_, nodup_erase h holder⟩
  obtain ⟨e, he, heq⟩ := List.mem_map.mp hmem
  have hne := (List.mem_filter.mp he).2
  rw [heq] at hne
  simp at hne

theorem countP_le_filter {es : List (String × NamespaceId)} (h : (es.map Prod.fst).Nodup) (holder : String)
    (j : NamespaceId) :
    es.countP (fun e => e.2 == j) ≤ (es.filter fun e => e.1 != holder).countP (fun e => e.2 == j) +
      if es.lookup holder = some j then 1 else 0 := by
  induction es with
  | nil => exact Nat.zero_le _
  | cons e es ih =>
      obtain ⟨k, v⟩ := e
      obtain ⟨hk, hes⟩ := List.nodup_cons.mp h
      by_cases hkh : k = holder
      · subst hkh
        -- The name stands nowhere else, so nothing else is taken out.
        have hrest : es.filter (fun e => e.1 != k) = es := by
          refine List.filter_eq_self.mpr fun e he => ?_
          rw [bne_iff_ne]
          intro heq
          exact hk (List.mem_map.mpr ⟨e, he, heq⟩)
        rw [List.filter_cons_of_neg (by simp), hrest, List.countP_cons, List.lookup_cons_self]
        simp only [Option.some.injEq, beq_iff_eq]
        omega
      · have := ih hes
        rw [List.filter_cons_of_pos (by simpa using hkh), List.countP_cons, List.countP_cons,
          Dictionary.lookup_cons_ne (Ne.symm hkh)]
        omega

/-- A name that lets go lets go of one hold only. -/
theorem nameCount_le_erase {d : Dictionary NamespaceId} (h : (d.entries.map Prod.fst).Nodup)
    (holder : String) (j : NamespaceId) :
    nameCount d j ≤ nameCount (d.erase holder) j + if d.get? holder = some j then 1 else 0 :=
  countP_le_filter h holder j

theorem lookup_of_mem {es : List (String × NamespaceId)} (h : (es.map Prod.fst).Nodup) {holder : String}
    (he : (holder, i) ∈ es) : es.lookup holder = some i := by
  induction es with
  | nil => exact nomatch he
  | cons e es ih =>
      obtain ⟨k, v⟩ := e
      obtain ⟨hk, hes⟩ := List.nodup_cons.mp h
      rcases List.mem_cons.mp he with heq | hmem
      · rw [← heq, List.lookup_cons_self]
      · have hne : holder ≠ k := by
          rintro rfl
          exact hk (List.mem_map.mpr ⟨_, hmem, rfl⟩)
        rw [Dictionary.lookup_cons_ne hne, ih hes hmem]

/-- What is counted among names has a name. -/
theorem exists_get?_of_nameCount_pos {d : Dictionary NamespaceId} (h : (d.entries.map Prod.fst).Nodup)
    (hpos : 0 < nameCount d i) : ∃ holder, d.get? holder = some i := by
  obtain ⟨⟨holder, i'⟩, he, hi⟩ := List.countP_pos_iff.mp hpos
  obtain rfl : i' = i := beq_iff_eq.mp hi
  exact ⟨holder, lookup_of_mem h he⟩

namespace Accounted

/-- What has holders is held by a name or by others. -/
theorem exists_get?_or (h : w.Accounted r) (hi : 0 < (w.node i).holders) :
    (∃ holder, w.held.get? holder = some i) ∨ 0 < r i := by
  have hle := h.holders i
  rcases Nat.eq_zero_or_pos (r i) with hzero | hpos
  · exact Or.inl (exists_get?_of_nameCount_pos h.names (by omega))
  · exact Or.inr hpos

theorem follows (h : w.Accounted r) (hf : w.Follows notes w') : w'.Accounted r where
  names := by
    rw [hf.held]
    exact h.names
  holders := fun j => by
    rw [hf.held, hf.holders]
    exact h.holders j

theorem create (h : w.Accounted r) {n : Namespace} (hn : w.Creatable n) : (w.create n).Accounted r where
  names := by
    rw [held_create]
    exact h.names
  holders := fun j => by
    rw [held_create, proj_create Namespace.holders (fun _ _ => rfl)]
    split
    · rw [hn.fresh]
      exact Nat.zero_le _
    · exact h.holders j

theorem retain (h : w.Accounted r) (hi : w.Has i) : (w.retain i).Accounted (oneMore r i) where
  names := by
    rw [World.retain, held_update]
    exact h.names
  holders := fun j => by
    have hj := h.holders j
    rw [holders_retain hi, World.retain, held_update, oneMore]
    omega

theorem release (h : w.Accounted (oneMore r i)) : (w.release i).Accounted r where
  names := by
    rw [held_release]
    exact h.names
  holders := fun j => by
    have hj := h.holders j
    rw [oneMore] at hj
    rw [holders_release, held_release]
    omega

theorem releaseAll {is : List NamespaceId} (h : w.Accounted fun j => r j + is.count j) :
    (is.foldl World.release w).Accounted r := by
  induction is generalizing w with
  | nil => exact h
  | cons i is ih =>
      refine ih (release ⟨h.names, fun j => ?_⟩)
      have hj := h.holders j
      simp only [List.count_cons, beq_iff_eq] at hj
      rw [oneMore]
      omega

theorem hold (h : w.Accounted r) (holder : String) (hi : w.Has i) : (w.hold holder i).Accounted r := by
  have hnames : ((w.take holder i).held.entries.map Prod.fst).Nodup := by
    rw [held_take]
    exact nodup_insert h.names holder i
  rw [hold_eq]
  cases hold : w.held.get? holder with
  | none =>
      refine ⟨hnames, fun j => ?_⟩
      have hj := h.holders j
      have hle := nameCount_le_erase h.names holder j
      rw [hold, if_neg nofun] at hle
      rw [Option.elim_none, held_take, holders_take holder hi, nameCount_insert]
      omega
  | some o =>
      refine release ⟨hnames, fun j => ?_⟩
      have hj := h.holders j
      have hle := nameCount_le_erase h.names holder j
      rw [hold] at hle
      simp only [Option.some.injEq] at hle
      rw [held_take, holders_take holder hi, nameCount_insert, oneMore]
      omega

theorem letGo (h : w.Accounted r) (holder : String) : (w.letGo holder).Accounted r := by
  unfold World.letGo
  split
  · exact h
  · rename_i o ho
    refine release ⟨nodup_erase h.names holder, fun j => ?_⟩
    have hj := h.holders j
    have hle := nameCount_le_erase h.names holder j
    rw [ho] at hle
    simp only [Option.some.injEq] at hle
    show (w.node j).holders ≤ nameCount (w.held.erase holder) j + oneMore r o j
    rw [oneMore]
    omega

end Accounted

/-! ### Age -/

/-- Parents and superclasses are older than what is linked to them. -/
def Ordered (w : World) : Prop :=
  ∀ j k, (w.node j).parent = some k ∨ (w.node j).superclass = some k → k < j

/-- What is fixed when a namespace is created. -/
def Namespace.origin (n : Namespace) : Option NamespaceId × Option NamespaceId := (n.parent, n.superclass)

theorem Ordered.congr (h : w.Ordered)
    (ho : ∀ j, Namespace.origin (w'.node j) = Namespace.origin (w.node j)) : w'.Ordered := by
  intro j k hk
  have hparent : (w'.node j).parent = (w.node j).parent := congrArg Prod.fst (ho j)
  have hsuper : (w'.node j).superclass = (w.node j).superclass := congrArg Prod.snd (ho j)
  rw [hparent, hsuper] at hk
  exact h j k hk

theorem Ordered.create (h : w.Ordered) {n : Namespace} (hn : w.Creatable n) : (w.create n).Ordered := by
  intro j k hk
  rw [proj_create Namespace.parent (fun _ _ => rfl), proj_create Namespace.superclass (fun _ _ => rfl)] at hk
  by_cases hj : j = w.size + 1
  · rw [if_pos hj, if_pos hj] at hk
    have hhas : w.Has k := has_of_alive (hk.elim hn.parent hn.superclass)
    rw [hj]
    exact Nat.lt_succ_of_le hhas.2
  · rw [if_neg hj, if_neg hj] at hk
    exact h j k hk

theorem Ordered.change (h : w.Ordered) (hc : w.Change i w') : w'.Ordered := by
  cases hc with
  | bind name v _ => exact h.congr (proj_bind Namespace.origin (fun _ _ => rfl) name v)
  | unbind name _ => exact h.congr (proj_unbind Namespace.origin (fun _ _ => rfl) name)
  | link m _ _ _ _ _ _ => exact h.congr (proj_link Namespace.origin (fun _ _ _ => rfl) m)
  | touch => exact h

theorem Ordered.step (h : w.Ordered) {f : Option Fault} (hs : Step w f w') : w'.Ordered := by
  have hg : Structural Namespace.origin := ⟨fun _ _ => rfl, fun _ _ => rfl, fun _ _ => rfl, fun _ => rfl⟩
  obtain ⟨i, v, hc, heq⟩ | ⟨n, hn, rfl⟩ | heq := hs.structural hg
  · exact Ordered.congr (h.change hc) heq
  · exact h.create hn
  · exact Ordered.congr h heq

/-- **Parents and superclasses are older in every run.** -/
theorem Ordered.notedRun (h : w.Ordered) (hl : w.Linked) (hr : NotedRun w notes w') : w'.Ordered :=
  NotedRun.keeps (fun _ h hs => Ordered.step h hs) hl h hr

theorem Ordered.empty : Ordered {} := by
  intro j k hk
  rw [node_empty] at hk
  exact hk.elim nofun nofun

/-! ### Circles -/

/-- A live namespace includes a newer module, from which it is reached itself. -/
structure Circle (w : World) (i m : NamespaceId) : Prop where
  alive : w.isAlive i = true
  includes : m ∈ (w.node i).includes
  newer : i < m
  back : Reaches w.links m i

/-- A namespace is reached from a circle. -/
def Encircled (w : World) (j : NamespaceId) : Prop := ∃ i m, w.Circle i m ∧ Reaches w.links m j

/-- What is held in a circle lives. -/
theorem Linked.isAlive_of_encircled (hl : w.Linked) (h : w.Encircled j) : w.isAlive j = true := by
  obtain ⟨i, m, hc, hr⟩ := h
  have hm : m ∈ w.links i := Namespace.mem_links.mpr (Or.inr (Or.inr hc.includes))
  exact hl.isAlive_of_reaches (hl.alive hc.alive hm) hr

/-- Links that lead around pass a namespace that includes a newer module. -/
theorem Linked.encircled (hl : w.Linked) (ho : w.Ordered) (ha : Acyclic w.uplinks)
    (hi : w.isAlive i = true) (hr : Reaches w.links i j)
    (hcircle : Relation.TransGen (fun k l => l ∈ w.links k) i i) : w.Encircled j := by
  obtain ⟨x, m, hm, hxm, hix, hmi⟩ := (exists_rise hcircle).resolve_left (Nat.lt_irrefl i)
  have hincludes : m ∈ (w.node x).includes := by
    rcases Namespace.mem_links.mp hm with hp | hs | hinc
    · exact absurd (ho _ _ (Or.inl hp)) (Nat.not_lt.mpr hxm)
    · exact absurd (ho _ _ (Or.inr hs)) (Nat.not_lt.mpr hxm)
    · exact hinc
  have hne : x ≠ m := by
    rintro rfl
    exact ha x (Relation.TransGen.single (List.mem_append_left _ (List.mem_reverse.mpr hincludes)))
  exact ⟨x, m, ⟨hl.isAlive_of_reaches hi hix, hincludes, Nat.lt_of_le_of_ne hxm hne, hmi.trans hix⟩,
    hmi.trans hr⟩

/-- **What lives is reached from what has holders, or from a circle.** -/
theorem Upheld.origin (h : w.Upheld) (hl : w.Linked) (ho : w.Ordered) (ha : Acyclic w.uplinks)
    (hj : w.isAlive j = true) :
    (∃ i, 0 < (w.node i).holders ∧ Reaches w.links i j) ∨ w.Encircled j := by
  have hback : ∀ k, w.isAlive k = true →
      0 < (w.node k).holders ∨ ∃ l, w.isAlive l = true ∧ k ∈ w.links l :=
    fun k hk => isHeld_iff.mp (h k hk List.not_mem_nil)
  have hbound : ∀ k, w.isAlive k = true → k ≤ w.size := fun k hk => (has_of_alive hk).2
  obtain ⟨i, hi, hr, hholders | hcircle⟩ := exists_source_or_circle hbound hback hj
  · exact Or.inl ⟨i, hholders, hr⟩
  · exact Or.inr (hl.encircled ho ha hi hr hcircle)

end World
end ConstantResolution
