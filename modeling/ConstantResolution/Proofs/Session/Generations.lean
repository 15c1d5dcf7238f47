import ConstantResolution.Proofs.Session.Runs
import ConstantResolution.Proofs.World.Reopening
import ConstantResolution.Proofs.World.Shadowing

/-! # Generations in a session

In the worlds of sessions, a generation stands for all that resolves through its namespace while no counter
runs over: it does not decrease, and as long as it is the same, each name resolves to the same value
(`resolution_eq_of_generation_eq`).  A counter that runs over starts at zero again, and then stands for
something else than before (`generation_runs_over`).  What changes resolution advances exactly the generations that
depend on it, and nothing else advances any (`mutations_propagated`); so no lookup does
(`world_perform_of_isLookup`). -/

namespace ConstantResolution

/-- The commands that look names up or look at namespaces. -/
inductive Command.IsLookup : Command → Prop where
  | lookup (ns name : String) : IsLookup (.lookup ns name)
  | localConstant (ns name : String) : IsLookup (.localConstant ns name)
  | isDefined (ns name : String) : IsLookup (.isDefined ns name)
  | names (ns : String) : IsLookup (.names ns)
  | ancestors (ns : String) : IsLookup (.ancestors ns)
  | inspect (ns : String) : IsLookup (.inspect ns)
  | describe (ns : String) : IsLookup (.describe ns)
  | resolve (site : String) (context : ContextTerm) : IsLookup (.resolve site context)
  | siteDefined (site : String) (context : ContextTerm) : IsLookup (.siteDefined site context)
  | definition (site : String) (context : ContextTerm) : IsLookup (.definition site context)

namespace Session

variable {s : Session}

/-! ### Lookups -/

/-- The contract of what leaves the world alone. -/
def sameWorld : Contract Session where
  valid := fun _ => True
  step := fun s _ t => t.store.world = s.store.world
  refl := fun _ _ => rfl
  trans := fun h h' => h'.trans h

theorem overlooks_sameWorld : Overlooks sameWorld :=
  fun _ _ _ h _ => ⟨trivial, congrArg Store.world h.store⟩

/-- What leaves the scope of a site alone leaves the world alone. -/
theorem atSite_keeps_world {α : Type} {x : {σ : Type} → Scope σ → Action (Reading σ) α} (site : String)
    (context : ContextTerm)
    (hx : ∀ (i : NamespaceId) (r : Reading World), (x (World.scope i) r).state.scope = r.scope) :
    (atSite site context x).Keeps sameWorld s fun _ _ => True := by
  unfold atSite
  refine Action.Keeps.bind (held_keeps sites site) fun k s₁ _ _ _ _ => ?_
  refine Action.Keeps.bind (heldIfNamed_keeps context.enteredFrom) fun _ s₂ _ _ _ _ => ?_
  split
  · refine Action.Keeps.bind (heldNamespace_keeps _) fun i s₃ _ _ _ _ _ => ⟨trivial, ?_, fun _ _ => trivial⟩
    exact Store.world_atSite k (hx i) s₃.store
  · refine Action.Keeps.bind (held_keeps stubs _) fun stub s₃ _ _ _ _ => ?_
    refine Action.Keeps.bind (placed_keeps k) fun p s₄ _ _ _ _ => ?_
    exact (Action.Keeps.within_any fun _ _ _ => ⟨trivial, rfl⟩).imp fun _ _ _ _ => trivial

/-- **No lookup changes the world.** -/
theorem world_perform_of_isLookup {c : Command} (hc : c.IsLookup) (s : Session) :
    (perform c s).state.store.world = s.store.world := by
  have hkeeps : (perform c).Keeps sameWorld s fun _ _ => True := by
    cases hc with
    | resolve site context =>
        exact Action.Keeps.map (atSite_keeps_world site context Reading.resolve_scope)
    | siteDefined site context =>
        exact Action.Keeps.map (atSite_keeps_world site context Reading.isDefined_scope)
    | definition site context =>
        exact Action.Keeps.map (atSite_keeps_world site context Reading.definition_scope)
    | _ => exact overlooks_sameWorld.perform_keeps rfl
  exact (hkeeps trivial).2.1

/-! ### What a generation stands for -/

/-- **A generation stands for all that resolves.**  Whatever commands do without running a generation
over, no generation decreases, and what lives before and after at the same generation has the same
ancestors and finds the same value for each name. -/
theorem resolution_eq_of_generation_eq (policy : Policy) (cs ds : List Command)
    (hn : ((start policy).after cs).WithoutOverflow ds) :
    let w := ((start policy).after cs).store.world
    let w' := (((start policy).after cs).after ds).store.world
    (∀ j, w.generation j ≤ w'.generation j) ∧
      ∀ i, w.isAlive i = true → w'.isAlive i = true → w'.generation i = w.generation i →
        w'.ancestors i = w.ancestors i ∧ ∀ name, w'.lookup i name = w.lookup i name := by
  intro w w'
  have hs : ((start policy).after cs).Sound := sound_after (sound_start policy) cs
  have hl : w.Linked := hs.store.linked
  have hw : w.Later w' := later_after hs hn
  refine ⟨hw.generation, fun i hi hi' hg => ⟨?_, fun name => ?_⟩⟩
  · exact hw.ancestors_eq hl hi hi' hg
  · exact hw.lookup_eq hl hi hi' hg name

/-- A class that includes a module, and a constant outside of both. -/
def including : List Command :=
  [.newClass "c" "C" "top" none, .newModule "m" "M" "top", .includeModule "c" "m",
    .define "top" "X" (.value (.int 1))]

/-- Changes of a namespace that the class does not depend on. -/
def elsewhere : List Command :=
  [.newModule "n" "N" "c", .define "n" "X" (.value (.int 2)), .setHandler "c" none .symbol,
    .remove "n" "X", .dropNamespace "n"]

set_option maxRecDepth 10000 in
theorem resolution_eq_elsewhere :
    ((start {}).after including).WithoutOverflow elsewhere ∧
      ((start {}).after including).store.world.generation 2 = 2 ∧
      (((start {}).after including).after elsewhere).store.world.ancestors 2 =
          ((start {}).after including).store.world.ancestors 2 ∧
        ∀ name, (((start {}).after including).after elsewhere).store.world.lookup 2 name =
          ((start {}).after including).store.world.lookup 2 name := by
  have hn : ((start {}).after including).WithoutOverflow elsewhere := by decide +kernel
  have hi : ((start {}).after including).store.world.isAlive 2 = true := by decide +kernel
  have hi' : (((start {}).after including).after elsewhere).store.world.isAlive 2 = true := by
    decide +kernel
  have hg : ((start {}).after including).store.world.generation 2 = 2 := by decide +kernel
  have hg' : (((start {}).after including).after elsewhere).store.world.generation 2 =
      ((start {}).after including).store.world.generation 2 := by decide +kernel
  exact ⟨hn, hg, (resolution_eq_of_generation_eq {} including elsewhere hn).2 2 hi hi' hg'⟩

/-! ### A generation that runs over -/

theorem world_perform_reopen {ns : String} {i : NamespaceId} (hi : s.store.world.held.get? ns = some i) :
    (perform (.reopen ns) s).state.store.world = (World.reopen i s.store.world).state := by
  have hheld : heldNamespace ns s = ⟨s, [], .ok i⟩ := by rw [heldNamespace_apply, hi]
  have hperform : perform (.reopen ns) s =
      (onWorld (World.reopen i) >>= fun g => pure (.number g.toNat)) s := Action.bind_of_quiet hheld _
  rw [hperform, Action.bind_pure_apply]
  rfl

theorem world_perform_define {ns : String} {i : NamespaceId} (hi : s.store.world.held.get? ns = some i)
    (name : String) (v : Value) :
    (perform (.define ns name (.value v)) s).state.store.world = (World.define i name v s.store.world).state := by
  have hheld : heldNamespace ns s = ⟨s, [], .ok i⟩ := by rw [heldNamespace_apply, hi]
  have hvalue : valueOf (.value v) s = ⟨s, [], .ok v⟩ := rfl
  have hperform : perform (.define ns name (.value v)) s =
      (onWorld (World.define i name v) >>= fun old => pure (.value old)) s :=
    (Action.bind_of_quiet hheld _).trans (Action.bind_of_quiet hvalue _)
  rw [hperform, Action.bind_pure_apply]
  rfl

/-- What opens a body again and again changes nothing but generations, and its own one counts how often: from the
greatest value on it starts at zero again. -/
theorem world_after_reopens {ns : String} {i : NamespaceId} (hi : s.store.world.held.get? ns = some i)
    (hhas : s.store.world.Has i) (n : Nat) :
    let w := (s.after (List.replicate n (.reopen ns))).store.world
    World.Ageless s.store.world w ∧ w.generation i = s.store.world.generation i + UInt64.ofNat n := by
  induction n generalizing s with
  | zero => exact ⟨World.Ageless.refl _, (UInt64.add_zero _).symm⟩
  | succ n ih =>
      have hworld := world_perform_reopen hi
      have hageless := World.reopen_ageless i s.store.world
      have hgeneration := World.generation_reopen hhas
      rw [← hworld] at hageless hgeneration
      obtain ⟨hrest, hcount⟩ := ih (s := (perform (.reopen ns) s).state) (by rw [hageless.held, hi])
        (by rwa [World.Has, hageless.size])
      refine ⟨hageless.trans hrest, ?_⟩
      rw [List.replicate_succ, after_cons, hcount, hgeneration, UInt64.add_assoc, UInt64.ofNat_add,
        UInt64.add_comm 1]
      rfl

/-- **One change more than the counter can say.**  A constant is defined in a namespace that was opened again until
its generation was the greatest one: it is bound, and the generation is zero. -/
theorem define_after_reopens {ns name : String} {i : NamespaceId} {n : Nat}
    (hi : s.store.world.held.get? ns = some i) (hlive : s.store.world.isAlive i = true)
    (hn : s.store.world.generation i + UInt64.ofNat n = World.lastGeneration)
    (hname : isConstantName name = true) (hseen : s.store.world.Unshadowed i i name) (v : Value) :
    let w := (s.after (List.replicate n (.reopen ns))).store.world
    let w' := ((s.after (List.replicate n (.reopen ns))).after [.define ns name (.value v)]).store.world
    (w.isAlive i = true ∧ w'.isAlive i = true) ∧ w.generation i = World.lastGeneration ∧ w'.generation i = 0 ∧
      w'.lookup i name = some v := by
  intro w w'
  obtain ⟨hageless, hcount⟩ := world_after_reopens hi (World.has_of_alive hlive) n
  have hlive' : w.isAlive i = true := (hageless.isAlive_eq i).trans hlive
  have hhas := World.has_of_alive hlive'
  have hlast : w.generation i = World.lastGeneration := hcount.trans hn
  have hseen' : w.Unshadowed i i name := by
    refine ⟨?_, fun k hk => ?_⟩
    · rw [hageless.sameFrame.path_eq]
      exact hseen.1
    · rw [hageless.sameFrame.path_eq] at hk
      rw [hageless.local?_eq]
      exact hseen.2 k hk
  have hdefine : w' = (World.define i name v w).state :=
    world_perform_define (by rw [hageless.held, hi]) name v
  rw [hdefine]
  refine ⟨⟨hlive', ?_⟩, hlast, ?_, ?_⟩
  · rw [(World.define_sameFrame hname).isAlive_eq, hlive']
  · rw [World.generation_define hname hhas, hlast]
    rfl
  · rw [World.lookup_define hname hhas, if_pos ⟨rfl, hseen'⟩]

set_option maxRecDepth 10000 in
/-- **A generation that runs over decreases, and stands for something else than before.**  The top level is opened
again until its generation is the greatest one, and then a constant is defined in it: it stands at zero again, as
at the start, and resolves the constant, which was not bound at the start. -/
theorem generation_runs_over :
    let s := start {}
    let t := s.after (List.replicate (2 ^ 64 - 1) (.reopen "top"))
    let u := t.after [.define "top" "X" (.value (.int 1))]
    (s.store.world.isAlive 1 = true ∧ t.store.world.isAlive 1 = true ∧ u.store.world.isAlive 1 = true) ∧
      u.store.world.generation 1 < t.store.world.generation 1 ∧
      u.store.world.generation 1 = s.store.world.generation 1 ∧
      s.store.world.lookup 1 "X" = none ∧ u.store.world.lookup 1 "X" = some (.int 1) := by
  -- The number of reopenings is kept apart from the rest, so that nothing unfolds a list of that length.
  obtain ⟨n, hn⟩ : ∃ n, n = 2 ^ 64 - 1 := ⟨_, rfl⟩
  rw [← hn]
  intro s t u
  have hheld : s.store.world.held.get? "top" = some 1 := by decide +kernel
  have hlive : s.store.world.isAlive 1 = true := by decide +kernel
  have hzero : s.store.world.generation 1 = 0 := by decide +kernel
  have hfull : s.store.world.generation 1 + UInt64.ofNat n = World.lastGeneration := by
    rw [hzero, hn]
    rfl
  have hname : isConstantName "X" = true := by decide +kernel
  have hseen : s.store.world.Unshadowed 1 1 "X" := by decide +kernel
  have hunbound : s.store.world.lookup 1 "X" = none := by decide +kernel
  obtain ⟨⟨ht, hu⟩, hlast, hover, hlookup⟩ := define_after_reopens hheld hlive hfull hname hseen (.int 1)
  have hless : u.store.world.generation 1 < t.store.world.generation 1 := by
    rw [hover, hlast]
    decide
  exact ⟨⟨hlive, ht, hu⟩, hless, hover.trans hzero.symm, hunbound, hlookup⟩

/-! ### What advances a generation -/

/-- **Exact propagation.**  In every world of a session whose counters can all advance, a change of a
live namespace succeeds, adds one to the generation of each live namespace from which it is reached
afterwards, and leaves all other generations alone; and no generation changes where nothing is removed
or included anew, by handlers, by the creation of namespaces or by lookups. -/
theorem mutations_propagated (policy : Policy) (cs : List Command) (i : NamespaceId)
    (hi : ((start policy).after cs).store.world.isAlive i = true)
    (hg : ∀ j, ((start policy).after cs).store.world.generation j ≠ World.lastGeneration) :
    let s := (start policy).after cs
    let w := s.store.world
    (∀ name v, isConstantName name = true → (World.define i name v w).result = .ok (w.local? i name) ∧
        World.Propagated i w (World.define i name v w).state) ∧
      (∀ name v, w.local? i name = some v → (World.remove i name w).result = .ok (some v) ∧
        World.Propagated i w (World.remove i name w).state) ∧
      (∀ m, w.isAlive m = true → w.Includable i m → (World.includeModule i m w).result = .ok () ∧
        ((World.includeModule i m w).state.node i).includes = (w.node i).includes ++ [m] ∧
        World.Propagated i w (World.includeModule i m w).state) ∧
      ((World.reopen i w).result = .ok ((World.reopen i w).state.generation i) ∧
        World.Propagated i w (World.reopen i w).state) ∧
      (∀ name, w.local? i name = none → (World.remove i name w).state = w) ∧
      (∀ m, ¬ w.Includable i m → (World.includeModule i m w).state = w) ∧
      (∀ h j, (w.setHandler i h).generation j = w.generation j) ∧
      (∀ name sup j, (World.newClass name i sup w).state.generation j = w.generation j) ∧
      (∀ name j, (World.newModule name i w).state.generation j = w.generation j) ∧
      ∀ c, c.IsLookup → (perform c s).state.store.world = w := by
  intro s w
  have hl : w.Linked := (sound_after (sound_start policy) cs).store.linked
  refine ⟨?_, ?_, ?_, hl.reopen_propagated hi hg, ?_, ?_, ?_, ?_, ?_, ?_⟩
  · exact fun name v hname => hl.define_propagated hi hg hname v
  · exact fun name v hv => hl.remove_propagated hi hg hv
  · intro m hm h
    obtain ⟨hresult, hp⟩ := hl.includeModule_propagated hi hg hm h
    exact ⟨hresult, World.includes_includeModule hi h, hp⟩
  · intro name hnone
    rw [World.remove_of_none hnone]
  · exact fun m h => World.includeModule_of_not_includable h
  · exact fun h j => World.proj_setHandler Namespace.generation (fun _ _ => rfl) h j
  · exact fun name sup j => World.generation_newClass name i sup w j
  · exact fun name j => World.generation_newModule name i w j
  · exact fun c hc => world_perform_of_isLookup hc s

/-- A class that includes a module which is written in it. -/
def circular : List Command :=
  [.newClass "c" "C" "top" none, .newModule "m" "M" "c", .includeModule "c" "m"]

set_option maxRecDepth 10000 in
/-- The links of the two are a circle, and a constant of the module advances both once. -/
theorem mutations_propagated_circular :
    let w := ((start {}).after circular).store.world
    (w.isAlive 3 = true ∧ ∀ j, w.generation j ≠ World.lastGeneration) ∧
      (3 ∈ w.links 2 ∧ 2 ∈ w.links 3) ∧
      (World.define 3 "X" (.int 1) w).result = .ok none ∧
      World.Propagated 3 w (World.define 3 "X" (.int 1) w).state := by
  intro w
  have hi : w.isAlive 3 = true := by decide +kernel
  have hg : ∀ j, w.generation j ≠ World.lastGeneration := World.generation_ne_last (by decide +kernel)
  have hlinks : 3 ∈ w.links 2 ∧ 2 ∈ w.links 3 := by decide +kernel
  have hnone : w.local? 3 "X" = none := by decide +kernel
  obtain ⟨hdefine, -⟩ := mutations_propagated {} circular 3 hi hg
  refine ⟨⟨hi, hg⟩, hlinks, ?_⟩
  rw [← hnone]
  exact hdefine "X" (.int 1) (by decide +kernel)

end Session
end ConstantResolution
