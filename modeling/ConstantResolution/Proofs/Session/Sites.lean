import ConstantResolution.Proofs.Benchmark.Sites
import ConstantResolution.Proofs.Session.Ledger

/-! # The sites of a session

Three commands change which sites are live: a site is made in a realm, or free of realms, or given up.  All others
leave the live sites of every realm as they are, workloads included (`perform_sameSites`).

In every run of commands the live sites of a realm are those that were made through it and that a name still holds
(`census_after`). -/

namespace ConstantResolution.Session

open Store (SameSites Gains Loses)

variable {s t : Session} {c : Command} {holder site : String} {k : SiteId} {r : RealmId}

/-! ### Commands that leave live sites alone -/

/-- The contract of actions that leave live sites as they are, and what names hold of sites. -/
def sameSites : Contract Session where
  valid := fun _ => True
  step := fun s _ t => t.sites = s.sites ∧ SameSites s.store t.store
  refl := fun s _ => ⟨rfl, SameSites.refl s.store⟩
  trans := fun h h' => ⟨h'.1.trans h.1, h.2.trans h'.2⟩

theorem onStore_sameSites {α : Type} {x : Action Store α} {q : α → Store → Prop}
    (hx : x.Keeps Store.sameSites s.store q) : (onStore x).Keeps sameSites s fun _ _ => True :=
  fun _ => ⟨trivial, ⟨rfl, (hx trivial).2.1⟩, fun _ _ => trivial⟩

theorem onWorld_sameSites {α : Type} (x : Action World α) : (onWorld x).Keeps sameSites s fun _ _ => True :=
  onStore_sameSites (Store.onWorld_sameSites x)

/-- A change of neither the store nor what names hold of sites. -/
theorem modify_sameSites {f : Session → Session} (hstore : (f s).store = s.store) (hsites : (f s).sites = s.sites) :
    (Action.modify f).Keeps sameSites s fun _ _ => True := by
  refine Action.Keeps.modify fun _ => ⟨trivial, ⟨hsites, ?_⟩, trivial⟩
  rw [hstore]
  exact SameSites.refl _

theorem overlooks_sameSites : Overlooks sameSites :=
  fun s _ _ h _ => ⟨trivial, h.sites, h.store ▸ SameSites.refl s.store⟩

theorem dropNamespace_sameSites (holder : String) : (dropNamespace holder).Keeps sameSites s fun _ _ => True := by
  unfold dropNamespace
  refine Action.Keeps.read_bind fun _ => ?_
  exact Action.Keeps.map (onWorld_sameSites _)

theorem creating_sameSites (holder : String) {x : Action Session NamespaceId} {q : NamespaceId → Session → Prop}
    (hx : x.Keeps sameSites s q) : (creating holder x).Keeps sameSites s fun _ _ => True := by
  unfold creating
  exact Action.Keeps.bind hx fun _ _ _ _ _ _ => Action.Keeps.map (onWorld_sameSites _)

theorem bindRealm_sameSites (holder : String) (r : RealmId) :
    (bindRealm holder r).Keeps sameSites s fun _ _ => True := by
  unfold bindRealm
  refine Action.Keeps.read_bind fun _ => ?_
  refine Action.Keeps.bind (q := fun _ _ => True) ?_ fun _ t _ _ _ _ => modify_sameSites rfl rfl
  cases s.realms.get? holder with
  | none => exact onStore_sameSites (q := fun _ _ => True) (Action.Keeps.pure trivial)
  | some o => exact onStore_sameSites (Store.dropRealm_sameSites o)

theorem startRealm_sameSites (holder topHolder : String) (policy : Policy) :
    (startRealm holder topHolder policy).Keeps sameSites s fun _ _ => True := by
  unfold startRealm
  refine Action.Keeps.bind (onStore_sameSites (Store.newRealm_sameSites policy)) fun r t _ _ _ _ => ?_
  refine Action.Keeps.read_bind fun _ => ?_
  refine Action.Keeps.bind (bindRealm_sameSites holder r) fun _ u _ _ _ _ => ?_
  exact Action.Keeps.map (onWorld_sameSites _)

theorem atSite_sameSites {α : Type} (site : String) (context : ContextTerm)
    (x : {σ : Type} → Scope σ → Action (Reading σ) α) :
    (atSite site context x).Keeps sameSites s fun _ _ => True := by
  unfold atSite
  refine Action.Keeps.bind (held_keeps sites site) fun k t _ _ _ _ => ?_
  refine Action.Keeps.bind (heldIfNamed_keeps context.enteredFrom) fun _ u _ _ _ _ => ?_
  split
  · refine Action.Keeps.bind (heldNamespace_keeps _) fun i v _ _ _ _ => ?_
    exact onStore_sameSites (Store.atSite_sameSites k _)
  · refine Action.Keeps.bind (held_keeps stubs _) fun stub v _ _ _ _ => ?_
    refine Action.Keeps.bind (placed_keeps k) fun p w _ _ _ _ => ?_
    have hput : ∀ r : Reading Stub, SameSites w.store ((w.store.setSite k r.site).setTally p.tally r.tally) :=
      fun r => SameSites.of_site (f := fun p => { p with site := r.site }) rfl (fun _ => rfl) rfl
    exact fun _ => ⟨trivial, ⟨rfl, hput _⟩, fun _ _ => trivial⟩

/-- A command makes sites, or gives one up. -/
def movesSites : Command → Bool
  | .newSite _ _ _ _ | .newFreeSite _ _ _ _ _ | .dropSite _ => true
  | _ => false

/-- **All but three commands leave the live sites of all realms as they are**, and what names hold of sites. -/
theorem perform_sameSites (hs : s.Sound) (hl : s.store.Listed) (hc : movesSites c = false) :
    (perform c s).state.sites = s.sites ∧ SameSites s.store (perform c s).state.store := by
  have hkeeps : (perform c).Keeps sameSites s fun _ _ => True := by
    cases c with
    | openClass holder name parent superclass realm =>
        refine creating_sameSites holder (q := fun _ _ => True) ?_
        refine Action.Keeps.bind (held_keeps realms realm) fun r t _ _ _ _ => ?_
        refine Action.Keeps.bind (heldNamespace_keeps parent) fun p u _ _ _ _ => ?_
        refine Action.Keeps.bind (heldIfNamed_keeps superclass) fun sup v _ _ _ _ => ?_
        exact onStore_sameSites (Store.openClass_sameSites r name p sup)
    | openModule holder name parent realm =>
        refine creating_sameSites holder (q := fun _ _ => True) ?_
        refine Action.Keeps.bind (held_keeps realms realm) fun r t _ _ _ _ => ?_
        refine Action.Keeps.bind (heldNamespace_keeps parent) fun p u _ _ _ _ => ?_
        exact onStore_sameSites (Store.openModule_sameSites r name p)
    | newClass holder name parent superclass =>
        refine creating_sameSites holder (q := fun _ _ => True) ?_
        refine Action.Keeps.bind (heldNamespace_keeps parent) fun p u _ _ _ _ => ?_
        exact Action.Keeps.bind (heldIfNamed_keeps superclass) fun sup v _ _ _ _ => onWorld_sameSites _
    | newModule holder name parent =>
        refine creating_sameSites holder (q := fun _ _ => True) ?_
        exact Action.Keeps.bind (heldNamespace_keeps parent) fun p u _ _ _ _ => onWorld_sameSites _
    | newTopLevel holder => exact creating_sameSites holder (onWorld_sameSites _)
    | dropNamespace holder => exact Action.Keeps.map (dropNamespace_sameSites holder)
    | define ns name value =>
        refine Action.Keeps.bind (heldNamespace_keeps ns) fun i t _ _ _ _ => ?_
        refine Action.Keeps.bind (valueOf_keeps value) fun v u _ _ _ _ => ?_
        exact Action.Keeps.map (onWorld_sameSites _)
    | remove ns name =>
        refine Action.Keeps.bind (heldNamespace_keeps ns) fun i t _ _ _ _ => ?_
        exact Action.Keeps.map (onWorld_sameSites _)
    | includeModule ns mixin =>
        refine Action.Keeps.bind (heldNamespace_keeps ns) fun i t _ _ _ _ => ?_
        refine Action.Keeps.bind (heldNamespace_keeps mixin) fun m u _ _ _ _ => ?_
        exact Action.Keeps.map (onWorld_sameSites _)
    | reopen ns =>
        refine Action.Keeps.bind (heldNamespace_keeps ns) fun i t _ _ _ _ => ?_
        exact Action.Keeps.map (onWorld_sameSites _)
    | dispatch ns name =>
        refine Action.Keeps.bind (heldNamespace_keeps ns) fun i t _ _ _ _ => ?_
        exact Action.Keeps.map (onWorld_sameSites _)
    | setHandler ns label response =>
        refine Action.Keeps.bind (heldNamespace_keeps ns) fun i t _ _ _ _ => ?_
        exact Action.Keeps.map (onWorld_sameSites _)
    | survey context name =>
        exact Action.Keeps.map (overlooks_sameSites.survey_keeps name fun _ _ => onWorld_sameSites _)
    | evaluate site context times =>
        exact Action.Keeps.map (Action.Keeps.repeated (fun _ _ _ _ => atSite_sameSites site context _) _)
    | resolve site context => exact Action.Keeps.map (atSite_sameSites site context _)
    | siteDefined site context => exact Action.Keeps.map (atSite_sameSites site context _)
    | definition site context => exact Action.Keeps.map (atSite_sameSites site context _)
    | invalidate site =>
        refine Action.Keeps.bind (held_keeps sites site) fun k t _ _ _ _ => ?_
        exact Action.Keeps.map (onStore_sameSites (Store.atSite_sameSites k _))
    | rename site name =>
        refine Action.Keeps.bind (held_keeps sites site) fun k t _ _ _ _ => ?_
        exact Action.Keeps.map (onStore_sameSites (Store.renameSite_sameSites k name))
    | newRealm holder policy => exact Action.Keeps.map (startRealm_sameSites holder _ policy)
    | invalidateAll realm =>
        refine Action.Keeps.bind (held_keeps realms realm) fun r t _ _ _ _ => ?_
        exact Action.Keeps.map (onStore_sameSites (Store.invalidateAll_sameSites r))
    | newTally holder =>
        refine Action.Keeps.bind (onStore_sameSites (Store.newTally_sameSites)) fun _ t _ _ _ _ => ?_
        exact Action.Keeps.map (overlooks_sameSites.keeps ⟨rfl, rfl, rfl⟩)
    | record tally event times =>
        refine Action.Keeps.bind (heldTally_keeps tally) fun r t _ _ _ _ => ?_
        exact Action.Keeps.map (onStore_sameSites
          (Action.Keeps.times (fun _ _ _ _ _ => Store.record_sameSites r event) times 0))
    | work realm workload iterations =>
        refine Action.Keeps.bind (held_keeps realms realm) ?_
        rintro r t - - - ⟨rfl, hr⟩
        have hsame := Workload.perform_sameSites hs.store hl (hs.realms hr).1 (hs.isAlive_top hr) iterations workload
        exact Action.Keeps.map (x := onStore _) (q := fun _ _ => True)
          fun _ => ⟨trivial, ⟨rfl, hsame⟩, fun _ _ => trivial⟩
    | newSite holder name position realm => exact absurd hc (by simp [movesSites])
    | newFreeSite holder name position policy tally => exact absurd hc (by simp [movesSites])
    | dropSite holder => exact absurd hc (by simp [movesSites])
    | _ => exact overlooks_sameSites.perform_keeps rfl
  exact (hkeeps trivial).2.1

/-! ### Which sites names hold -/

/-- A site is held if and only if a name holds it, and by one name only; there may be one that was just made, which no
name holds yet. -/
structure HoldsSites (fresh : Option SiteId) (s : Session) : Prop where
  held : ∀ k, s.store.isHeld k = true ↔ fresh = some k ∨ ∃ name, s.sites.get? name = some k
  distinct : ∀ {name name' k}, s.sites.get? name = some k → s.sites.get? name' = some k → name = name'
  unnamed : ∀ {name k}, s.sites.get? name = some k → fresh ≠ some k

namespace HoldsSites

variable {fresh : Option SiteId}

theorem of_sameSites (h : HoldsSites fresh s) (hsites : t.sites = s.sites) (hsame : SameSites s.store t.store) :
    HoldsSites fresh t where
  held := fun k => by rw [hsame.held, hsites, h.held]
  distinct := by rw [hsites]; exact h.distinct
  unnamed := by rw [hsites]; exact h.unnamed

/-- A site is made. -/
theorem gains {o : Option RealmId} {store : Store} (h : HoldsSites none s) (hgains : Gains o s.store store) :
    HoldsSites (some s.store.sites.size) { s with store } where
  held := fun k => by
    rw [hgains.held, Bool.or_eq_true, h.held, beq_iff_eq, or_comm, Option.some_inj, eq_comm (a := k)]
    simp
  distinct := h.distinct
  unnamed := by
    intro name k hk hfresh
    have hheld := (h.held k).mpr (Or.inr ⟨name, hk⟩)
    rw [← Option.some.inj hfresh, Store.not_isHeld_of_le (Nat.le_refl _)] at hheld
    exact Bool.false_ne_true hheld

/-- A name gives up the site that it holds. -/
theorem drops (h : HoldsSites fresh s) (hk : s.sites.get? holder = some k) :
    HoldsSites fresh { s with
      store := (Store.dropSite k s.store).state
      sites := s.sites.erase holder } where
  held := fun k' => by
    rw [(Store.dropSite_loses k s.store).held, Bool.and_eq_true, h.held, bne_iff_ne]
    simp only [Dictionary.get?_erase_eq_some_iff]
    constructor
    · rintro ⟨hfresh | ⟨name, hname⟩, hne⟩
      · exact Or.inl hfresh
      · refine Or.inr ⟨name, fun heq => hne ?_, hname⟩
        exact Option.some.inj (hname.symm.trans (heq ▸ hk))
    · rintro (hfresh | ⟨name, hne, hname⟩)
      · exact ⟨Or.inl hfresh, fun heq => h.unnamed hk (heq ▸ hfresh)⟩
      · exact ⟨Or.inr ⟨name, hname⟩, fun heq => hne (h.distinct hname (heq ▸ hk))⟩
  distinct := fun hn hn' =>
    h.distinct (Dictionary.get?_erase_eq_some_iff.mp hn).2 (Dictionary.get?_erase_eq_some_iff.mp hn').2
  unnamed := fun hn => h.unnamed (Dictionary.get?_erase_eq_some_iff.mp hn).2

/-- A name that holds nothing takes hold of the site that was just made. -/
theorem takes (h : HoldsSites (some k) s) (hfree : s.sites.get? holder = none) :
    HoldsSites none { s with sites := s.sites.insert holder k } := by
  have hget : ∀ {name k'}, (s.sites.insert holder k).get? name = some k' ↔
      name = holder ∧ k = k' ∨ s.sites.get? name = some k' := by
    intro name k'
    rw [Dictionary.get?_insert]
    split
    · rename_i hname
      simp [hname, hfree]
    · rename_i hname
      simp [hname]
  refine ⟨fun k' => (h.held k').trans ?_, fun {name name' k'} hn hn' => ?_, fun _ hnone => ?_⟩
  · simp only [hget, Option.some.injEq, reduceCtorEq, false_or]
    constructor
    · rintro (rfl | ⟨name, hname⟩)
      · exact ⟨holder, Or.inl ⟨rfl, rfl⟩⟩
      · exact ⟨name, Or.inr hname⟩
    · rintro ⟨name, ⟨-, rfl⟩ | hname⟩
      · exact Or.inl rfl
      · exact Or.inr ⟨name, hname⟩
  · rcases hget.mp hn with ⟨rfl, rfl⟩ | hold <;> rcases hget.mp hn' with ⟨hname, hk⟩ | hold'
    · exact hname.symm
    · exact absurd rfl (h.unnamed hold')
    · exact absurd (congrArg some hk) (h.unnamed hold)
    · exact h.distinct hold hold'
  · exact absurd hnone.symm (Option.some_ne_none _)

end HoldsSites

theorem dropSite_of_some (hk : s.sites.get? holder = some k) :
    (dropSite holder s).state = { s with
      store := (Store.dropSite k s.store).state
      sites := s.sites.erase holder } := by
  unfold dropSite
  rw [Action.read_bind, hk]
  rfl

theorem dropSite_of_none (hk : s.sites.get? holder = none) : (dropSite holder s).state = s := by
  unfold dropSite
  rw [Action.read_bind, hk]
  rfl

theorem bindSite_state (holder : String) (k : SiteId) (s : Session) :
    (bindSite holder k s).state =
      { (dropSite holder s).state with sites := (dropSite holder s).state.sites.insert holder k } := by
  unfold bindSite dropSite
  rw [Action.bind_apply, Action.read_bind]
  cases s.sites.get? holder <;> rfl

/-! ### The census of a session -/

/-- **What is live**: of each realm, those sites of a row that a name holds. -/
structure Census (fresh : Option SiteId) (made : RealmId → List SiteId) (s : Session) : Prop where
  store : s.store.Census made
  names : HoldsSites fresh s

namespace Census

variable {fresh : Option SiteId} {made : RealmId → List SiteId}

theorem dropSite (h : Census fresh made s) (holder : String) :
    Census fresh made (dropSite holder s).state ∧ (Session.dropSite holder s).state.sites.get? holder = none ∧
      (Session.dropSite holder s).state.store.sites.size = s.store.sites.size := by
  cases hk : s.sites.get? holder with
  | none =>
      rw [dropSite_of_none hk]
      exact ⟨h, hk, rfl⟩
  | some k =>
      have hloses := Store.dropSite_loses k s.store
      rw [dropSite_of_some hk]
      exact ⟨⟨h.store.loses hloses, h.names.drops hk⟩, Dictionary.get?_erase_self _ _, hloses.size⟩

/-- The site that was just made is held by a name. -/
theorem bindSite (h : Census (some k) made s) (holder : String) :
    Census none made (bindSite holder k s).state ∧
      (Session.bindSite holder k s).state.store.sites.size = s.store.sites.size := by
  obtain ⟨hdropped, hfree, hsize⟩ := h.dropSite holder
  rw [bindSite_state]
  exact ⟨⟨hdropped.store, hdropped.names.takes hfree⟩, hsize⟩

end Census

/-- The realm that a command makes its sites in. -/
def maker? (s : Session) : Command → Option RealmId
  | .newSite _ _ _ realm | .work realm _ _ => s.realms.get? realm
  | _ => none

/-- The sites that a command makes in a realm. -/
def madeIn (r : RealmId) (s : Session) (c : Command) : List SiteId :=
  if s.maker? c = some r then s.store.newcomers (perform c s).state.store else []

/-- **The sites that a run of commands makes in a realm**, in order. -/
def madeBy (r : RealmId) : Session → List Command → List SiteId
  | _, [] => []
  | s, c :: cs => madeIn r s c ++ madeBy r (perform c s).state cs

namespace Census

variable {made : RealmId → List SiteId}

/-- Where live sites stay the same, so does the census. -/
theorem same (h : Census none made s) (hsites : t.sites = s.sites) (hsame : SameSites s.store t.store)
    (o : Option RealmId) :
    Census none (fun r => made r ++ if o = some r then s.store.newcomers t.store else []) t :=
  ⟨h.store.same hsame o, h.names.of_sameSites hsites hsame⟩

/-- A site is made, and a name takes hold of it. -/
theorem gains {o : Option RealmId} {store : Store} (h : Census none made s) (hgains : Gains o s.store store)
    (holder : String) :
    let t := (Session.bindSite holder s.store.sites.size { s with store }).state
    Census none (fun r => made r ++ if o = some r then s.store.newcomers t.store else []) t := by
  intro t
  obtain ⟨hbound, hsize⟩ := bindSite ⟨h.store.gains hgains, h.names.gains hgains⟩ holder
  have hnew : s.store.newcomers t.store = s.store.newcomers store := by
    rw [Store.newcomers, hsize, Store.newcomers]
  rw [hnew]
  exact hbound

/-- A site that is to be made is refused, or made and held by a name. -/
theorem making (h : Census none made s) (holder : String) {x : Action Store SiteId} (o : Option RealmId)
    (hx : (∃ e notes, x s.store = ⟨s.store, notes, .error e⟩) ∨
      ∃ store, x s.store = ⟨store, [], .ok s.store.sites.size⟩ ∧ Gains o s.store store) :
    let t := ((onStore x >>= fun k => Session.bindSite holder k >>= fun _ => pure Answer.done) s).state
    Census none (fun r => made r ++ if o = some r then s.store.newcomers t.store else []) t := by
  intro t
  rcases hx with ⟨e, notes, hx⟩ | ⟨store, hx, hgains⟩
  · have hfailed : onStore x s = ⟨s, notes, .error e⟩ := by
      unfold onStore
      rw [Action.within_apply, hx]
    have hstate : t = s := by
      show ((onStore x >>= _) s).state = s
      rw [Action.bind_of_error hfailed]
    rw [hstate]
    exact h.same rfl (SameSites.refl s.store) o
  · have hmade : onStore x s = ⟨{ s with store }, [], .ok s.store.sites.size⟩ := by
      unfold onStore
      rw [Action.within_apply, hx]
    have hstate : t = (Session.bindSite holder s.store.sites.size { s with store }).state := by
      show ((onStore x >>= _) s).state = _
      rw [Action.bind_of_quiet hmade, Action.bind_pure_apply]
    rw [hstate]
    exact h.gains hgains holder

/-- **What a command makes joins the census.** -/
theorem perform (h : Census none made s) (hs : s.Sound) (hl : s.store.Listed) (c : Command) :
    Census none (fun r => made r ++ madeIn r s c) (perform c s).state := by
  cases hc : movesSites c with
  | false =>
      obtain ⟨hsites, hsame⟩ := perform_sameSites hs hl hc
      exact h.same hsites hsame _
  | true =>
      cases c with
      | newSite holder name position realm =>
          unfold madeIn
          cases hr : s.realms.get? realm with
          | none =>
              have hfailed : Session.perform (.newSite holder name position realm) s = ⟨s, [], .error _⟩ :=
                Action.bind_of_error (held_of_none hr) _
              rw [hfailed]
              exact h.same rfl (SameSites.refl s.store) _
          | some r =>
              have hmaker : s.maker? (.newSite holder name position realm) = some r := hr
              have hperform : Session.perform (.newSite holder name position realm) s =
                  (onStore (Store.makeSite r name position) >>= fun k =>
                    Session.bindSite holder k >>= fun _ => pure Answer.done) s :=
                Action.bind_of_quiet (held_of_some hr) _
              rw [hperform, hmaker]
              refine h.making holder (some r) ?_
              refine (Store.makeSite_cases hl r name position).imp id ?_
              rintro ⟨store, hmade, o, hgains, ho⟩
              exact ⟨store, hmade, ho (hs.realms hr).1 ▸ hgains⟩
      | newFreeSite holder name position policy tally =>
          unfold madeIn
          cases hτ : s.tallyOf? tally with
          | none =>
              obtain ⟨e, hheld⟩ := heldTally_of_none hτ
              have hfailed : Session.perform (.newFreeSite holder name position policy tally) s = ⟨s, [], .error e⟩ :=
                Action.bind_of_error hheld _
              rw [hfailed]
              exact h.same rfl (SameSites.refl s.store) _
          | some τ =>
              have hperform : Session.perform (.newFreeSite holder name position policy tally) s =
                  (onStore (Store.newSite name position policy τ) >>= fun k =>
                    Session.bindSite holder k >>= fun _ => pure Answer.done) s :=
                Action.bind_of_quiet (heldTally_of_some hτ) _
              rw [hperform]
              exact h.making holder none (Store.newSite_cases hl name position policy τ)
      | dropSite holder =>
          have hstate : (Session.perform (.dropSite holder) s).state = (Session.dropSite holder s).state := by
            show ((Session.dropSite holder >>= fun b => pure (Answer.flag b)) s).state = _
            rw [Action.bind_pure_apply]
          have hnone : ∀ r, madeIn r s (.dropSite holder) = [] := fun r => if_neg (by simp [maker?])
          simp only [hnone, List.append_nil]
          rw [hstate]
          exact (h.dropSite holder).1
      | _ => exact absurd hc (by simp [movesSites])

/-- **In every run of commands the live sites of a realm are those that were made in it and that a name holds.** -/
theorem after (h : Census none made s) (hs : s.Sound) (hl : s.store.Listed) (cs : List Command) :
    Census none (fun r => made r ++ madeBy r s cs) (s.after cs) := by
  induction cs generalizing s made with
  | nil =>
      simp only [madeBy, List.append_nil]
      exact h
  | cons c cs ih =>
      have hrest := ih (h.perform hs hl c) (sound_perform hs c) (listed_perform hs hl c)
      simp only [madeBy, ← List.append_assoc]
      exact hrest

end Census

/-- A session starts without sites. -/
theorem census_start (policy : Policy) : Census none (fun _ => []) (start policy) := by
  have hempty : Census none (fun _ => []) {} := by
    refine ⟨⟨fun _ => rfl, nofun, fun _ => List.Pairwise.nil, nofun⟩, ⟨fun k => ?_, nofun, nofun⟩⟩
    simp [Store.isHeld, Store.site?, Dictionary.get?]
  obtain ⟨hsites, hsame⟩ := (startRealm_sameSites mainRealm mainTop policy (s := {}) trivial).2.1
  have hstart : Census none (fun _ => [] ++ []) (start policy) := hempty.same hsites hsame none
  exact hstart

/-- **The census of every session that commands lead to.** -/
theorem census_after (policy : Policy) (cs : List Command) :
    Census none (fun r => madeBy r (start policy) cs) ((start policy).after cs) :=
  (census_start policy).after (sound_start policy) (listed_start policy) cs

end ConstantResolution.Session
