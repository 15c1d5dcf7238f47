import ConstantResolution.Proofs.World.Links

/-! # Steps of a world

All that can happen to a world, as a relation: a change of constants or links with the advance of
generations that follows it, the creation of a namespace, a handler, and what holds and lets go of
namespaces.  Each step says under which condition it is taken.  An advance that finds a counter at
its greatest value stops there, and the step carries that fault.

Every action on worlds is a run of such steps, and what each step keeps every run keeps; here this
is shown for the soundness of links (`Linked.run`). -/

namespace ConstantResolution.World

/-- What a change makes of the constants and links of a namespace, before generations advance. -/
inductive Change (w : World) (i : NamespaceId) : World → Prop
  | bind (name : String) (v : Value) (hn : isConstantName name = true) : Change w i (w.bind i name v)
  | unbind (name : String) (hn : (w.local? i name).isSome = true) : Change w i (w.unbind i name)
  | link (m : NamespaceId) (hi : w.isAlive i = true) (hm : w.isAlive m = true)
      (hk : (w.node m).kind = .moduleScope) (hne : m ≠ i) (hc : i ∉ w.ancestors m)
      (hnew : m ∉ w.ancestors i) : Change w i (w.link i m)
  /-- Nothing changes but the generations. -/
  | touch : Change w i w

/-- A namespace as it is created: written in a live one unless it is a top level, and only a class
has a superclass, which is no module. -/
structure Creatable (w : World) (n : Namespace) : Prop where
  fresh : n = { name := n.name, kind := n.kind, parent := n.parent, superclass := n.superclass }
  parent : ∀ {p}, n.parent = some p → w.isAlive p = true
  superclass : ∀ {s}, n.superclass = some s → w.isAlive s = true
  topLevel : n.kind = .topLevel ↔ n.parent = none
  classScope : ∀ {s}, n.superclass = some s → n.kind = .classScope ∧ (w.node s).kind ≠ .moduleScope

/-- One step of a world, with the fault that it meets. -/
inductive Step : World → Option Fault → World → Prop
  | change {w w' : World} {i : NamespaceId} (h : w.Change i w') :
      Step w (w'.advance (w'.affected i)).2 (w'.advance (w'.affected i)).1
  | create {w : World} {n : Namespace} (h : w.Creatable n) : Step w none (w.create n)
  | handler {w : World} (i : NamespaceId) (h : Handler) : Step w none (w.setHandler i h)
  | retain {w : World} {i : NamespaceId} (h : w.isAlive i = true) : Step w none (w.retain i)
  /-- One hold is given up. -/
  | loosen {w : World} (i : NamespaceId) : Step w none (w.loosen i)
  | bury {w : World} {i : NamespaceId} (ha : w.isAlive i = true) (hh : w.isHeld i = false) :
      Step w none (w.bury i)
  /-- The names outside of the world hold something else. -/
  | rename {w : World} (d : Dictionary NamespaceId) : Step w none { w with held := d }

/-- Steps one after another, with their faults. -/
inductive Run : World → List (Option Fault) → World → Prop
  | refl (w : World) : Run w [] w
  | step {w w' w'' : World} {f : Option Fault} {fs : List (Option Fault)} :
      Step w f w' → Run w' fs w'' → Run w (f :: fs) w''

theorem Run.trans {w w' w'' : World} {fs gs : List (Option Fault)} (h : Run w fs w')
    (h' : Run w' gs w'') : Run w (fs ++ gs) w'' := by
  induction h with
  | refl w => exact h'
  | step hs _ ih => exact Run.step hs (ih h')

theorem Run.single {w w' : World} {f : Option Fault} (h : Step w f w') : Run w [f] w' :=
  Run.step h (Run.refl w')

/-- A run of which each fault is noted. -/
def NotedRun (w : World) (notes : List Note) (w' : World) : Prop :=
  ∃ fs, Run w fs w' ∧ ∀ f, some f ∈ fs → .fault f ∈ notes

theorem NotedRun.refl (w : World) (notes : List Note) : NotedRun w notes w :=
  ⟨[], Run.refl w, fun _ h => absurd h List.not_mem_nil⟩

theorem NotedRun.trans {w w' w'' : World} {notes notes' : List Note} (h : NotedRun w notes w')
    (h' : NotedRun w' notes' w'') : NotedRun w (notes ++ notes') w'' := by
  obtain ⟨fs, hr, hf⟩ := h
  obtain ⟨gs, hr', hg⟩ := h'
  refine ⟨fs ++ gs, hr.trans hr', fun f hm => ?_⟩
  rcases List.mem_append.mp hm with hm | hm
  · exact List.mem_append_left _ (hf f hm)
  · exact List.mem_append_right _ (hg f hm)

theorem NotedRun.step {w w' : World} {notes : List Note} {f : Option Fault} (h : Step w f w')
    (hf : ∀ e, f = some e → .fault e ∈ notes) : NotedRun w notes w' :=
  ⟨[f], Run.single h, fun e he => hf e (List.mem_singleton.mp he).symm⟩

/-- A step without a fault. -/
theorem NotedRun.quiet {w w' : World} {n : List Note} (h : Step w none w') : NotedRun w n w' :=
  NotedRun.step h nofun

variable {w w' : World} {i : NamespaceId}

/-! ### What a change leaves alone -/

theorem Change.size_eq (h : w.Change i w') : w'.size = w.size := by
  cases h with
  | bind name v _ => exact size_bind w i name v
  | unbind name _ => exact size_unbind w i name
  | link m _ _ _ _ _ _ => exact size_link w i m
  | touch => rfl

theorem Change.isAlive_eq (h : w.Change i w') (j : NamespaceId) : w'.isAlive j = w.isAlive j := by
  cases h with
  | bind name v _ => exact proj_bind Namespace.alive (fun _ _ => rfl) name v j
  | unbind name _ => exact proj_unbind Namespace.alive (fun _ _ => rfl) name j
  | link m _ _ _ _ _ _ => exact proj_link Namespace.alive (fun _ _ _ => rfl) m j
  | touch => rfl

theorem Change.generation_eq (h : w.Change i w') (j : NamespaceId) : w'.generation j = w.generation j := by
  cases h with
  | bind name v _ => exact proj_bind Namespace.generation (fun _ _ => rfl) name v j
  | unbind name _ => exact proj_unbind Namespace.generation (fun _ _ => rfl) name j
  | link m _ _ _ _ _ _ => exact proj_link Namespace.generation (fun _ _ _ => rfl) m j
  | touch => rfl

theorem Change.held_eq (h : w.Change i w') : w'.held = w.held := by
  cases h with
  | bind name v _ => exact held_update w i _
  | unbind name _ => exact held_update w i _
  | link m _ _ _ _ _ _ => exact held_link w i m
  | touch => rfl

theorem Change.holders_eq (h : w.Change i w') (j : NamespaceId) :
    (w'.node j).holders = (w.node j).holders := by
  cases h with
  | bind name v _ => exact proj_bind Namespace.holders (fun _ _ => rfl) name v j
  | unbind name _ => exact proj_unbind Namespace.holders (fun _ _ => rfl) name j
  | link m _ _ _ _ _ _ => exact proj_link Namespace.holders (fun _ _ _ => rfl) m j
  | touch => rfl

/-! ### What only changes and creation settle -/

/-- A part of a namespace that generations, handlers, holders and deaths are no part of. -/
structure Structural {β : Type} (g : Namespace → β) : Prop where
  generation : ∀ n x, g { n with generation := x } = g n
  handler : ∀ n d, g { n with handler := d } = g n
  holders : ∀ n k, g { n with holders := k } = g n
  death : ∀ n, g { n with alive := false } = g n

/-- **A step is a change or a creation, or it leaves alone what only these settle.** -/
theorem Step.structural {β : Type} {g : Namespace → β} (hg : Structural g) {f : Option Fault}
    (h : Step w f w') :
    (∃ i v, w.Change i v ∧ ∀ j, g (w'.node j) = g (v.node j)) ∨
      (∃ n, w.Creatable n ∧ w' = w.create n) ∨ ∀ j, g (w'.node j) = g (w.node j) := by
  cases h with
  | change hc => exact Or.inl ⟨_, _, hc, proj_advance g hg.generation _⟩
  | create hn => exact Or.inr (Or.inl ⟨_, hn, rfl⟩)
  | handler j d => exact Or.inr (Or.inr (proj_setHandler g (fun n d => hg.handler n d) d))
  | retain _ => exact Or.inr (Or.inr (proj_retain g hg.holders))
  | loosen _ => exact Or.inr (Or.inr (proj_loosen g hg.holders))
  | bury _ _ => exact Or.inr (Or.inr (proj_bury g hg.death))
  | rename _ => exact Or.inr (Or.inr fun _ => rfl)

/-! ### Every step keeps links sound -/

theorem Linked.advance (h : w.Linked) (is : List NamespaceId) : (w.advance is).1.Linked :=
  h.congr (size_advance w is) fun j => proj_advance Namespace.ties (fun _ _ => rfl) is j

theorem Linked.link (h : w.Linked) {m : NamespaceId} (hi : w.isAlive i = true)
    (hm : w.isAlive m = true) : (w.link i m).Linked := by
  have hasi := has_of_alive hi
  have hasm := has_of_alive hm
  have halive : ∀ j, (w.link i m).isAlive j = w.isAlive j := fun j =>
    proj_link Namespace.alive (fun _ _ _ => rfl) m j
  constructor
  · intro j k hk
    rw [Has, size_link]
    rcases (mem_links_link hasi m).mp hk with hk | ⟨_, rfl⟩
    · exact h.has hk
    · exact hasm
  · intro j k hj hk
    rw [halive] at hj ⊢
    rcases (mem_links_link hasi m).mp hk with hk | ⟨_, rfl⟩
    · exact h.alive hj hk
    · exact hm
  · intro j k
    rw [mem_dependents_link hasm, mem_links_link hasi, h.dependents]
    simp only [and_comm, eq_comm]
  · intro j hj
    rw [proj_link Namespace.holders (fun _ _ _ => rfl)] at hj
    rw [halive]
    exact h.holders hj

theorem Linked.change (h : w.Linked) (hc : w.Change i w') : w'.Linked := by
  cases hc with
  | bind name v hn => exact h.congr (size_bind w i name v) (proj_bind Namespace.ties (fun _ _ => rfl) name v)
  | unbind name hn => exact h.congr (size_unbind w i name) (proj_unbind Namespace.ties (fun _ _ => rfl) name)
  | link m hi hm _ _ _ _ => exact h.link hi hm
  | touch => exact h

theorem Linked.create (h : w.Linked) {n : Namespace} (hn : w.Creatable n) : (w.create n).Linked := by
  have hincl : n.includes = [] := by rw [hn.fresh]
  have hup : ∀ {k}, k ∈ n.links → w.isAlive k = true := by
    intro k hk
    rcases Namespace.mem_links.mp hk with hp | hs | hi
    · exact hn.parent hp
    · exact hn.superclass hs
    · rw [hincl] at hi
      exact absurd hi List.not_mem_nil
  have hold : ∀ {k}, w.isAlive k = true → (w.create n).isAlive k = true := by
    intro k hk
    rw [isAlive_create, if_neg (ne_of_alive hk), hk]
  have hnone : w.links (w.size + 1) = [] := links_of_not_has (by simp [Has])
  constructor
  · intro j k hk
    rw [links_create] at hk
    rw [has_create]
    split at hk
    · exact Or.inl (has_of_alive (hup hk))
    · exact Or.inl (h.has hk)
  · intro j k hj hk
    rw [isAlive_create] at hj
    rw [links_create] at hk
    split at hk
    · exact hold (hup hk)
    · rename_i hne
      rw [if_neg hne] at hj
      exact hold (h.alive hj hk)
  · intro j k
    rw [mem_dependents_create (by rw [hn.fresh]) (fun p hp => has_of_alive (hn.parent hp))
      (fun s hs => has_of_alive (hn.superclass hs)), links_create, h.dependents]
    by_cases hk : k = w.size + 1
    · subst hk
      rw [if_pos rfl, hnone, Namespace.mem_links, hincl]
      simp
    · simp [hk]
  · intro j hj
    rw [proj_create Namespace.holders (fun _ _ => rfl)] at hj
    split at hj
    · rw [hn.fresh] at hj
      exact absurd hj (Nat.lt_irrefl 0)
    · exact hold (h.holders hj)

/-- Holders may change where what they hold lives. -/
theorem Linked.holding (h : w.Linked) (hs : w'.size = w.size)
    (hlinks : ∀ j, w'.links j = w.links j)
    (hdeps : ∀ j, (w'.node j).dependents = (w.node j).dependents)
    (halive : ∀ j, w'.isAlive j = w.isAlive j)
    (hhold : ∀ j, 0 < (w'.node j).holders → 0 < (w.node j).holders ∨ w.isAlive j = true) : w'.Linked := by
  constructor
  · intro j k hk
    rw [hlinks] at hk
    have := h.has hk
    rwa [Has, ← hs] at this
  · intro j k hj hk
    rw [halive] at hj ⊢
    rw [hlinks] at hk
    exact h.alive hj hk
  · intro j k
    rw [hdeps, hlinks]
    exact h.dependents
  · intro j hj
    rw [halive]
    rcases hhold j hj with hj | hj
    · exact h.holders hj
    · exact hj

theorem Linked.retain (h : w.Linked) (hi : w.isAlive i = true) : (w.retain i).Linked := by
  refine h.holding (size_retain w i) (proj_retain Namespace.links fun _ _ => rfl)
    (proj_retain Namespace.dependents fun _ _ => rfl) (proj_retain Namespace.alive fun _ _ => rfl) ?_
  intro j hj
  by_cases hij : i = j
  · subst hij
    exact Or.inr hi
  · rw [World.retain, node_update_of_ne _ hij] at hj
    exact Or.inl hj

theorem Linked.loosen (h : w.Linked) (i : NamespaceId) : (w.loosen i).Linked := by
  refine h.holding (size_loosen w i) (proj_loosen Namespace.links fun _ _ => rfl)
    (proj_loosen Namespace.dependents fun _ _ => rfl) (proj_loosen Namespace.alive fun _ _ => rfl) ?_
  intro j hj
  rw [holders_loosen] at hj
  exact Or.inl (by omega)

/-- What nothing holds has no holders outside, and no live namespace is linked to it. -/
theorem not_mem_links_of_not_isHeld (hh : w.isHeld i = false) :
    (w.node i).holders = 0 ∧ ∀ j, w.isAlive j = true → i ∉ w.links j := by
  unfold isHeld at hh
  rw [Bool.or_eq_false_iff, decide_eq_false_iff_not] at hh
  refine ⟨by omega, fun j hj hi => ?_⟩
  have hany := hh.2
  rw [Array.any_eq_false] at hany
  have hhas := has_of_alive hj
  cases j with
  | zero => exact absurd hhas.1 (Nat.lt_irrefl 0)
  | succ j =>
      have hlt : j < w.nodes.size := hhas.2
      have hnode : w.node (j + 1) = w.nodes[j] := by
        rw [node, get?, Array.getElem?_eq_getElem hlt, Option.getD_some]
      apply hany j hlt
      rw [isAlive, hnode] at hj
      rw [links, hnode, Namespace.mem_links] at hi
      simpa [holds, hj, or_assoc] using hi

/-- A namespace is held by its holders and by what is linked to it. -/
theorem isHeld_iff :
    w.isHeld i = true ↔ 0 < (w.node i).holders ∨ ∃ j, w.isAlive j = true ∧ i ∈ w.links j := by
  constructor
  · intro h
    rw [isHeld, Bool.or_eq_true, decide_eq_true_iff] at h
    refine h.imp id fun hany => ?_
    obtain ⟨j, hj, hheld⟩ := Array.any_eq_true.mp hany
    have hnode : w.node (j + 1) = w.nodes[j] := by
      rw [node, get?, Array.getElem?_eq_getElem hj, Option.getD_some]
    rw [Bool.and_eq_true] at hheld
    refine ⟨j + 1, ?_, ?_⟩
    · rw [isAlive, hnode]
      exact hheld.1
    · rw [links, hnode, Namespace.mem_links]
      simpa [holds, or_assoc] using hheld.2
  · intro h
    by_contra hfree
    obtain ⟨hzero, hnone⟩ := not_mem_links_of_not_isHeld (Bool.not_eq_true _ ▸ hfree)
    rcases h with hpos | ⟨j, hj, hij⟩
    · omega
    · exact hnone j hj hij

theorem isHeld_mono (hholders : (w.node i).holders ≤ (w'.node i).holders)
    (hlinks : ∀ j, w.isAlive j = true → i ∈ w.links j → w'.isAlive j = true ∧ i ∈ w'.links j)
    (h : w.isHeld i = true) : w'.isHeld i = true := by
  rw [isHeld_iff] at h ⊢
  rcases h with hpos | ⟨j, hj, hij⟩
  · exact Or.inl (hpos.trans_le hholders)
  · exact Or.inr ⟨j, hlinks j hj hij⟩

theorem isAlive_bury (w : World) (i j : NamespaceId) :
    (w.bury i).isAlive j = true ↔ w.isAlive j = true ∧ i ≠ j := by
  unfold bury isAlive
  by_cases hij : i = j
  · subst hij
    by_cases hi : w.Has i
    · simp [node_update _ hi]
    · rw [update_of_not_has _ hi, node_of_not_has hi]
      simp [Namespace.absent]
  · rw [node_update_of_ne _ hij]
    simp [hij]

theorem Linked.bury (h : w.Linked) (hh : w.isHeld i = false) : (w.bury i).Linked := by
  obtain ⟨hzero, hnone⟩ := not_mem_links_of_not_isHeld hh
  have hlinks : ∀ j, (w.bury i).links j = w.links j := proj_bury Namespace.links fun _ => rfl
  have hdeps : ∀ j, ((w.bury i).node j).dependents = (w.node j).dependents :=
    proj_bury Namespace.dependents fun _ => rfl
  have hhold : ∀ j, ((w.bury i).node j).holders = (w.node j).holders :=
    proj_bury Namespace.holders fun _ => rfl
  constructor
  · intro j k hk
    rw [hlinks] at hk
    rw [Has, size_bury]
    exact h.has hk
  · intro j k hj hk
    rw [isAlive_bury] at hj ⊢
    rw [hlinks] at hk
    refine ⟨h.alive hj.1 hk, ?_⟩
    rintro rfl
    exact hnone j hj.1 hk
  · intro j k
    rw [hdeps, hlinks]
    exact h.dependents
  · intro j hj
    rw [hhold] at hj
    rw [isAlive_bury]
    refine ⟨h.holders hj, ?_⟩
    rintro rfl
    omega

theorem Linked.step (h : w.Linked) {f : Option Fault} (hs : Step w f w') : w'.Linked := by
  cases hs with
  | change hc => exact (h.change hc).advance _
  | create hn => exact h.create hn
  | handler j hd =>
      exact h.congr (size_setHandler w j hd) (proj_setHandler Namespace.ties (fun _ _ => rfl) hd)
  | retain hi => exact h.retain hi
  | loosen j => exact h.loosen j
  | bury _ hh => exact h.bury hh
  | rename d => exact h.congr rfl fun _ => rfl

/-- **Links stay sound in every run.** -/
theorem Linked.run {fs : List (Option Fault)} (h : w.Linked) (hr : Run w fs w') : w'.Linked := by
  induction hr with
  | refl w => exact h
  | step hs _ ih => exact ih (h.step hs)

theorem Linked.notedRun {notes : List Note} (h : w.Linked) (hr : NotedRun w notes w') : w'.Linked := by
  obtain ⟨fs, hr, -⟩ := hr
  exact h.run hr

/-- **What every step keeps where links are sound, every run keeps.** -/
theorem NotedRun.keeps {P : World → Prop} {notes : List Note}
    (hstep : ∀ {v v' : World} {f : Option Fault}, v.Linked → P v → Step v f v' → P v') (hl : w.Linked)
    (h : P w) (hr : NotedRun w notes w') : P w' := by
  obtain ⟨fs, hr, -⟩ := hr
  induction hr with
  | refl w => exact h
  | step hs _ ih => exact ih (hl.step hs) (hstep hl h hs)

end ConstantResolution.World
