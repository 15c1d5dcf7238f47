import ConstantResolution.Proofs.World.Actions

/-! # Changes among the same namespaces

Bindings, removals, links, reopenings, handlers and what handlers do happen among the namespaces that are
there.  They create no namespace and let none die, they take no link away, and nothing is held more often or
less often by them (`Calm`).  What takes hold of namespaces or lets go of them comes from outside.

A namespace that is created to be bound is bound by such a change, or dies at once (`Makes.established`). -/

namespace ConstantResolution.World

variable {w w' w'' : World} {i : NamespaceId} {notes notes' : List Note}

/-- What an action leaves behind that creates nothing and holds nothing. -/
structure Calm (w : World) (notes : List Note) (w' : World) : Prop extends Follows w notes w' where
  size : w'.size = w.size
  dead : ∀ {j}, w'.isAlive j = true → w.isAlive j = true
  links : ∀ {j k}, k ∈ w.links j → k ∈ w'.links j

namespace Calm

theorem refl (w : World) (notes : List Note) : Calm w notes w where
  toFollows := Follows.refl w notes
  size := rfl
  dead := fun h => h
  links := fun hk => hk

theorem trans (h : Calm w notes w') (h' : Calm w' notes' w'') : Calm w (notes ++ notes') w'' where
  toFollows := h.toFollows.trans h'.toFollows
  size := h'.size.trans h.size
  dead := fun ha => h.dead (h'.dead ha)
  links := fun hk => h'.links (h.links hk)

theorem isAlive_eq (h : Calm w notes w') (j : NamespaceId) : w'.isAlive j = w.isAlive j :=
  Bool.eq_iff_iff.mpr ⟨h.dead, h.alive⟩

end Calm

/-- The contract that actions keep which create nothing and hold nothing. -/
def calm : Contract World where
  valid := Linked
  step := Calm
  refl := Calm.refl
  trans := Calm.trans

/-! ### Changes -/

theorem Change.mem_links (h : w.Change i w') {j k : NamespaceId} (hk : k ∈ w.links j) :
    k ∈ w'.links j := by
  cases h with
  | bind name v _ =>
      have hlinks : (w.bind i name v).links j = w.links j := proj_bind Namespace.links (fun _ _ => rfl) name v j
      rwa [hlinks]
  | unbind name _ =>
      have hlinks : (w.unbind i name).links j = w.links j := proj_unbind Namespace.links (fun _ _ => rfl) name j
      rwa [hlinks]
  | link m hi _ _ _ _ _ => exact (mem_links_link (has_of_alive hi) m).mpr (Or.inl hk)
  | touch => exact hk

theorem changing_calm {α : Type} {f : World → World} {n : UInt64 → Note} {a : UInt64 → α}
    (hc : w.Change i (f w)) : (changing f i n a).Keeps calm w fun _ _ => True := by
  intro hl
  obtain ⟨hl', hfollows, -⟩ := changing_keeps (n := n) (a := a) hc hl
  refine ⟨hl', ⟨hfollows, ?_, fun {j} hj => ?_, fun hk => ?_⟩, fun _ _ => trivial⟩
  · rw [changing_state, size_advance, hc.size_eq]
  · rwa [changing_state, isAlive_advance, hc.isAlive_eq] at hj
  · rw [changing_state, links_advance]
    exact hc.mem_links hk

theorem define_calm (w : World) (i : NamespaceId) (name : String) (v : Value) :
    (define i name v).Keeps calm w fun _ _ => True := by
  by_cases hn : isConstantName name = true
  · exact Action.Keeps.congr (define_eq i hn v w) (changing_calm (Change.bind name v hn))
  · rw [define_of_not_name i hn]
    exact Action.Keeps.raise

theorem remove_calm (w : World) (i : NamespaceId) (name : String) :
    (remove i name).Keeps calm w fun _ _ => True := by
  cases hv : w.local? i name with
  | none => exact Action.Keeps.congr (remove_of_none hv) (Action.Keeps.pure trivial)
  | some v =>
      have hsome : (w.local? i name).isSome = true := by rw [hv]; rfl
      exact Action.Keeps.congr (remove_of_some hv) (changing_calm (Change.unbind name hsome))

theorem reopen_calm (w : World) (i : NamespaceId) : (reopen i).Keeps calm w fun _ _ => True :=
  Action.Keeps.congr (reopen_eq i w) (changing_calm Change.touch)

theorem includeModule_calm {m : NamespaceId} (hi : w.isAlive i = true) (hm : w.isAlive m = true) :
    (includeModule i m).Keeps calm w fun _ _ => True := by
  by_cases h : w.Includable i m
  · exact Action.Keeps.congr (includeModule_of_includable h)
      (changing_calm (Change.link m hi hm h.kind h.ne h.acyclic h.new))
  · exact Action.Keeps.of_state (includeModule_of_not_includable h) fun _ _ => trivial

/-! ### Handlers -/

theorem setHandler_calm (w : World) (i : NamespaceId) (h : Handler) :
    (Action.modify fun w => w.setHandler i h).Keeps calm w fun _ _ => True := by
  intro hl
  obtain ⟨hl', hfollows, -⟩ := setHandler_keeps w i h hl
  refine ⟨hl', ⟨hfollows, size_setHandler w i h, fun {j} hj => ?_, fun {j _} hk => ?_⟩, fun _ _ => trivial⟩
  · rwa [Action.modify_apply, isAlive, proj_setHandler Namespace.alive (fun _ _ => rfl)] at hj
  · have hlinks : (w.setHandler i h).links j = w.links j := proj_setHandler Namespace.links (fun _ _ => rfl) h j
    rwa [Action.modify_apply, hlinks]

/-- **Handlers create nothing and hold nothing.** -/
theorem dispatch_calm (w : World) (i : NamespaceId) (name : String) :
    (dispatch i name).Keeps calm w fun _ _ => True :=
  dispatch_keeps_of define_calm w i name

/-! ### Namespaces that are created to be bound -/

theorem links_define (w : World) (p : NamespaceId) (name : String) (v : Value) (j : NamespaceId) :
    (define p name v w).state.links j = w.links j := by
  by_cases hn : isConstantName name = true
  · rw [define_eq p hn, changing_state, links_advance]
    exact proj_bind Namespace.links (fun _ _ => rfl) name v j
  · rw [define_of_not_name p hn]
    rfl

/-- Nothing holds a new namespace, and to bind a name to it does not hold it either. -/
theorem not_isHeld_define_create (hl : w.Linked) {n : Namespace} (hn : w.Creatable n) (p : NamespaceId)
    (name : String) (v : Value) : (define p name v (w.create n)).state.isHeld (w.size + 1) = false := by
  have hnew : ¬ w.Has (w.size + 1) := fun h => Nat.not_succ_le_self _ h.2
  have hcalm := (define_calm (w.create n) p name v (hl.create hn)).2.1
  rw [Bool.eq_false_iff, ne_eq, isHeld_iff]
  rintro (hpos | ⟨j, -, hj⟩)
  · rw [hcalm.holders, proj_create Namespace.holders (fun _ _ => rfl), if_pos rfl, hn.fresh] at hpos
    exact Nat.lt_irrefl 0 hpos
  · rw [links_define, links_create] at hj
    split at hj
    · rcases Namespace.mem_links.mp hj with hp | hs | hi
      · exact hnew (has_of_alive (hn.parent hp))
      · exact hnew (has_of_alive (hn.superclass hs))
      · rw [hn.fresh] at hi
        exact absurd hi List.not_mem_nil
    · exact hnew (hl.has hj)

variable {p : NamespaceId} {name : String} {x : Action World NamespaceId}

theorem establish_of_error {e : Failure} (hx : x w = ⟨w', notes, .error e⟩) :
    establish p name x w = ⟨w', notes, .error e⟩ := Action.bind_of_error hx _

/-- A binding that succeeds leaves the new namespace to its name, and one that fails lets it die. -/
theorem establish_of_ok (hx : x w = ⟨w', [], .ok i⟩) :
    establish p name x w = match define p name (.ns i) w' with
      | ⟨v, notes, .ok _⟩ => ⟨v, notes, .ok i⟩
      | ⟨v, notes, .error e⟩ => ⟨v.bury i, notes, .error e⟩ := by
  unfold establish
  rw [Action.bind_of_quiet hx, Action.bind_of_ok (Action.outcome_apply _ _)]
  rcases define p name (.ns i) w' with ⟨v, notes, e | a⟩
  · show (⟨v.bury i, notes ++ [], .error e⟩ : Outcome World NamespaceId) = _
    rw [List.append_nil]
  · show (⟨v, notes ++ [], .ok i⟩ : Outcome World NamespaceId) = _
    rw [List.append_nil]

/-- What becomes of a namespace that is created to be bound: it is refused, it is bound, or it dies at once. -/
inductive Established (w : World) : Outcome World NamespaceId → Prop
  | refused (e : Failure) : Established w ⟨w, [], .error e⟩
  | bound {n : Namespace} {notes : List Note} {w' : World} (hn : w.Creatable n)
      (h : (w.create n).Calm notes w') : Established w ⟨w', notes, .ok (w.size + 1)⟩
  | lost {n : Namespace} {notes : List Note} {w' : World} {e : Failure} (hn : w.Creatable n)
      (h : (w.create n).Calm notes w') (hfree : w'.isHeld (w.size + 1) = false) :
      Established w ⟨w'.bury (w.size + 1), notes, .error e⟩

theorem Makes.established (hx : w.Makes x) (hl : w.Linked) (p : NamespaceId) (name : String) :
    Established w (establish p name x w) := by
  rcases hx with ⟨e, hx⟩ | ⟨n, hn, hx⟩
  · rw [establish_of_error hx]
    exact .refused e
  · have hcalm := (define_calm (w.create n) p name (.ns (w.size + 1)) (hl.create hn)).2.1
    have hfree := not_isHeld_define_create hl hn p name (.ns (w.size + 1))
    rw [establish_of_ok hx]
    rcases hd : define p name (.ns (w.size + 1)) (w.create n) with ⟨v, notes, e | a⟩ <;> rw [hd] at hcalm hfree
    · exact .lost hn hcalm hfree
    · exact .bound hn hcalm

/-- A new namespace that dies at once leaves all others as they were. -/
theorem Follows.lost {n : Namespace} (hn : w.Creatable n) (h : (w.create n).Calm notes w')
    (hfree : w'.isHeld (w.size + 1) = false) : w.Follows notes (w'.bury (w.size + 1)) := by
  have hnew : w'.isAlive (w.size + 1) = true := h.alive (by rw [isAlive_create, if_pos rfl, hn.fresh])
  have hfollows : w.Follows notes w' := (Follows.create [] hn).trans h.toFollows
  have hrun := hfollows.run.trans (NotedRun.quiet (n := []) (Step.bury hnew hfree))
  refine ⟨by rwa [List.append_nil] at hrun, (held_update w' _ _).trans hfollows.held, fun j => ?_, fun {j} hj => ?_⟩
  · rw [proj_bury Namespace.holders fun _ => rfl]
    exact hfollows.holders j
  · rw [isAlive_bury]
    exact ⟨hfollows.alive hj, (ne_of_alive hj).symm⟩

theorem establish_keeps (hx : w.Makes x) (p : NamespaceId) (name : String) :
    (establish p name x).Keeps contract w fun i w' => w'.isAlive i = true := by
  intro hl
  have h := hx.established hl p name
  generalize establish p name x w = o at h
  cases h with
  | refused e => exact ⟨hl, Follows.refl w [], nofun⟩
  | @bound n notes w' hn h =>
      have hfollows : w.Follows notes w' := (Follows.create [] hn).trans h.toFollows
      refine ⟨hl.notedRun hfollows.run, hfollows, fun i hi => ?_⟩
      obtain rfl : w.size + 1 = i := Except.ok.inj hi
      exact h.alive (by rw [isAlive_create, if_pos rfl, hn.fresh])
  | lost hn h hfree =>
      have hfollows := Follows.lost hn h hfree
      exact ⟨hl.notedRun hfollows.run, hfollows, nofun⟩

end ConstantResolution.World
