import ConstantResolution.Proofs.Store.Tracing

/-! # Which sites are live

A realm lists the sites that were made through it, and forgets some of those that nobody holds.  What it lists does
not show: what shows is which of them are live.  Most actions leave the live sites of every realm as they are
(`sameSites`); a realm that makes a site gains one live site, at the end of its row (`makeSite_cases`), and a site
that is given up is lost from every row (`dropSite_loses`).

A census (`Census`) says for each realm which sites were made through it since the store was empty.  Its live sites
are then those of them that somebody holds, in order, each of them once. -/

namespace ConstantResolution.Store

variable {s t u : Store} {k : SiteId} {r : RealmId} {o : Option RealmId} {i p : NamespaceId}

/-! ### The same live sites -/

/-- The same sites are held, and the same ones are live in each realm. -/
structure SameSites (s t : Store) : Prop where
  size : s.sites.size ≤ t.sites.size
  held : ∀ k, t.isHeld k = s.isHeld k
  live : ∀ r, t.liveSites r = s.liveSites r

theorem SameSites.refl (s : Store) : SameSites s s := ⟨Nat.le_refl _, fun _ => rfl, fun _ => rfl⟩

theorem SameSites.trans (h : SameSites s t) (h' : SameSites t u) : SameSites s u where
  size := h.size.trans h'.size
  held := fun k => (h'.held k).trans (h.held k)
  live := fun r => (h'.live r).trans (h.live r)

/-- What is live follows from what is held and what is listed. -/
theorem SameSites.of_listed (hsize : s.sites.size ≤ t.sites.size) (hheld : ∀ k, t.isHeld k = s.isHeld k)
    (hlisted : ∀ r, (t.realm r).sites = (s.realm r).sites) : SameSites s t where
  size := hsize
  held := hheld
  live := fun r => by rw [liveSites, liveSites, hlisted, funext hheld]

theorem SameSites.of_eq (hsites : t.sites = s.sites) (hrealms : t.realms = s.realms) : SameSites s t :=
  .of_listed (by rw [hsites]) (fun k => by rw [isHeld, isHeld, site?, site?, hsites])
    fun r => by rw [realm, realm, hrealms]

/-- A realm may change apart from what it lists. -/
theorem SameSites.of_realm {f : Realm → Realm} (hsites : t.sites = s.sites) (h : t.realms = s.realms.modify r f)
    (hf : ∀ m, (f m).sites = m.sites) : SameSites s t := by
  refine .of_listed (by rw [hsites]) (fun k => by rw [isHeld, isHeld, site?, site?, hsites]) fun r' => ?_
  rcases realm_modify_or h r' with heq | ⟨-, heq⟩ <;> rw [heq]
  exact hf _

/-- A site may change that is held as before. -/
theorem SameSites.of_site {f : PlacedSite → PlacedSite} (hsites : t.sites = s.sites.modify k f)
    (hf : ∀ p, (f p).held = p.held) (hrealms : t.realms = s.realms) : SameSites s t := by
  refine .of_listed (by rw [hsites, Array.size_modify]) (fun k' => ?_) fun r => by rw [realm, realm, hrealms]
  rw [isHeld, site?_modify hsites, isHeld]
  split
  · rw [Option.any_map]
    exact congrArg (Option.any · _) (funext hf)
  · rfl

/-- The contract of actions that leave live sites as they are. -/
def sameSites : Contract Store where
  valid := fun _ => True
  step := fun s _ t => SameSites s t
  refl := fun s _ => SameSites.refl s
  trans := SameSites.trans

theorem modify_sameSites {f : Store → Store} (h : SameSites s (f s)) :
    (Action.modify f).Keeps sameSites s fun _ _ => True :=
  Action.Keeps.modify fun _ => ⟨trivial, h, trivial⟩

theorem onWorld_sameSites {α : Type} (x : Action World α) : (onWorld x).Keeps sameSites s fun _ _ => True :=
  fun _ => ⟨trivial, SameSites.of_eq (s := s) rfl rfl, fun _ _ => trivial⟩

theorem newTally_sameSites : newTally.Keeps sameSites s fun _ _ => True :=
  fun _ => ⟨trivial, SameSites.of_eq rfl rfl, fun _ _ => trivial⟩

theorem record_sameSites (t : TallyId) (event : Count) : (record t event).Keeps sameSites s fun _ _ => True :=
  modify_sameSites (SameSites.of_eq rfl rfl)

theorem atSite_sameSites {α : Type} (k : SiteId) (x : Action (Reading World) α) :
    (atSite k x).Keeps sameSites s fun _ _ => True := by
  intro hs
  cases hp : s.site? k with
  | none =>
      rw [atSite_of_none hp]
      exact ⟨trivial, SameSites.refl s, fun _ _ => trivial⟩
  | some p =>
      rw [atSite_of_some hp]
      exact ⟨trivial, SameSites.of_site (f := fun p => { p with site := _ }) rfl (fun _ => rfl) rfl,
        fun _ _ => trivial⟩

theorem renameSite_sameSites (k : SiteId) (name : String) :
    (renameSite k name).Keeps sameSites s fun _ _ => True := by
  unfold renameSite
  refine Action.Keeps.bind (Action.Keeps.of_state (q := fun _ t => t = s) (placed_state k s) fun _ _ => rfl) ?_
  rintro p _ _ - - rfl
  split
  · exact modify_sameSites (SameSites.of_site (f := fun p => { p with site := _ }) rfl (fun _ => rfl) rfl)
  · exact Action.Keeps.raise

theorem pruneSites_sameSites (r : RealmId) : (pruneSites r).Keeps sameSites s fun _ _ => True := by
  have hrealms : (pruneSites r s).state.realms = s.realms.modify r fun m => { m with sites := s.liveSites r } := rfl
  refine fun _ => ⟨trivial, ⟨Nat.le_refl _, fun _ => rfl, fun r' => ?_⟩, fun _ _ => trivial⟩
  rcases realm_modify_or hrealms r' with heq | ⟨rfl, -⟩
  · rw [liveSites, heq]
    rfl
  · exact liveSites_pruneSites r s

theorem invalidateEach_sameSites (ks : List SiteId) : (invalidateEach ks).Keeps sameSites s fun _ _ => True := by
  induction ks generalizing s with
  | nil => exact Action.Keeps.pure trivial
  | cons k ks ih => exact Action.Keeps.bind (atSite_sameSites k _) fun _ _ _ _ _ _ => ih

theorem invalidateAll_sameSites (r : RealmId) : (invalidateAll r).Keeps sameSites s fun _ _ => True := by
  unfold invalidateAll
  refine Action.Keeps.bind (pruneSites_sameSites r) fun _ t _ _ _ _ => ?_
  refine Action.Keeps.read_bind fun _ => ?_
  refine Action.Keeps.bind (invalidateEach_sameSites _) fun _ u _ _ _ _ => ?_
  exact Action.Keeps.map (Action.Keeps.note (q := fun _ _ => True) trivial)

/-! ### Realms and what they open -/

theorem newRealm_sameSites (policy : Policy) : (newRealm policy).Keeps sameSites s fun _ _ => True := by
  refine fun _ => ⟨trivial, SameSites.of_listed (Nat.le_refl _) (fun _ => rfl) fun r => ?_, fun _ _ => trivial⟩
  rw [realm_newRealm]
  split
  · rename_i hr
    rw [realm_of_size_le hr.ge]
  · rfl

theorem dropRealm_sameSites (r : RealmId) : (dropRealm r).Keeps sameSites s fun _ _ => True :=
  fun _ => ⟨trivial, SameSites.of_realm (f := fun m => { m with registered := [] }) rfl rfl fun _ => rfl,
    fun _ _ => trivial⟩

theorem install_sameSites (r : RealmId) (name : String) (p : NamespaceId) (x : Action World NamespaceId) :
    (install r name p x).Keeps sameSites s fun _ _ => True := by
  unfold install
  refine Action.Keeps.bind (onWorld_sameSites _) fun i t _ _ _ _ => ?_
  have hregister : SameSites t (register r i t).state :=
    SameSites.of_realm rfl (realms_register r i t) fun _ => rfl
  exact Action.Keeps.map (x := register r i) (q := fun _ _ => True) fun _ => ⟨trivial, hregister, fun _ _ => trivial⟩

theorem reopened_sameSites (i : NamespaceId) : (reopened i).Keeps sameSites s fun _ _ => True :=
  Action.Keeps.map (onWorld_sameSites _)

theorem openClass_sameSites (r : RealmId) (name : String) (p : NamespaceId) (sup : Option NamespaceId) :
    (openClass r name p sup).Keeps sameSites s fun _ _ => True := by
  unfold openClass
  split
  · refine Action.Keeps.get_bind fun _ => ?_
    split
    · exact install_sameSites r name p _
    · split
      · exact Action.Keeps.raise
      · exact reopened_sameSites _
    · exact Action.Keeps.raise
  · exact Action.Keeps.raise

theorem openModule_sameSites (r : RealmId) (name : String) (p : NamespaceId) :
    (openModule r name p).Keeps sameSites s fun _ _ => True := by
  unfold openModule
  split
  · refine Action.Keeps.get_bind fun _ => ?_
    split
    · exact install_sameSites r name p _
    · exact reopened_sameSites _
    · exact Action.Keeps.raise
  · exact Action.Keeps.raise

/-! ### One site more -/

/-- A site is made, and is held.  If it was made through a realm, then it is the last of its live sites. -/
structure Gains (o : Option RealmId) (s t : Store) : Prop where
  size : t.sites.size = s.sites.size + 1
  held : ∀ k, t.isHeld k = (s.isHeld k || k == s.sites.size)
  live : ∀ r, t.liveSites r = s.liveSites r ++ if o = some r then [s.sites.size] else []

theorem lt_of_isHeld (h : s.isHeld k = true) : k < s.sites.size := by
  obtain ⟨p, hp, -⟩ := (Option.any_eq_true _ _).mp h
  exact (Array.getElem?_eq_some_iff.mp hp).1

theorem not_isHeld_of_le (h : s.sites.size ≤ k) : s.isHeld k = false :=
  Bool.eq_false_iff.mpr fun hk => Nat.not_lt_of_le h (lt_of_isHeld hk)

theorem isHeld_of_mem_liveSites (h : k ∈ s.liveSites r) : s.isHeld k = true := (List.mem_filter.mp h).2

theorem Gains.of_same (h : Gains o s t) (h' : SameSites t u) (hsize : u.sites.size = t.sites.size) : Gains o s u where
  size := hsize.trans h.size
  held := fun k => (h'.held k).trans (h.held k)
  live := fun r => (h'.live r).trans (h.live r)

/-- A site that no realm lists is gained by none. -/
theorem gains_push (hl : s.Listed) (site : Site) (τ : TallyId) :
    Gains none s { s with sites := s.sites.push ⟨site, τ, true⟩ } := by
  have hheld : ∀ k, ({ s with sites := s.sites.push ⟨site, τ, true⟩ } : Store).isHeld k =
      (s.isHeld k || k == s.sites.size) := by
    intro k
    rw [isHeld, site?, Array.getElem?_push]
    split
    · rename_i hk
      rw [hk, beq_self_eq_true, Bool.or_true]
      rfl
    · rename_i hk
      rw [beq_eq_false_iff_ne.mpr hk, Bool.or_false]
      rfl
  refine ⟨Array.size_push _, hheld, fun r => ?_⟩
  rw [if_neg (by simp), List.append_nil]
  refine List.filter_congr fun k hk => ?_
  obtain ⟨p, hp, -⟩ := hl r k hk
  have hlt := (Array.getElem?_eq_some_iff.mp hp).1
  rw [hheld, beq_eq_false_iff_ne.mpr (Nat.ne_of_lt hlt), Bool.or_false]

/-- The site goes to the end of what a realm lists. -/
theorem Gains.list (h : Gains none s t) (hr : r < t.realms.size) (hsites : u.sites = t.sites)
    (hrealms : u.realms = t.realms.modify r fun m => { m with sites := m.sites ++ [s.sites.size] }) :
    Gains (some r) s u := by
  have hheld : u.isHeld = t.isHeld := by
    funext k
    rw [isHeld, isHeld, site?, site?, hsites]
  have hnew : t.isHeld s.sites.size = true := by
    rw [h.held, beq_self_eq_true, Bool.or_true]
  have hlive : ∀ r', t.liveSites r' = s.liveSites r' := fun r' => (h.live r').trans (List.append_nil _)
  refine ⟨by rw [hsites, h.size], fun k => by rw [hheld, h.held], fun r' => ?_⟩
  rw [← hlive r', liveSites, hheld]
  by_cases hrr : r' < t.realms.size
  · rw [realm_modify hrealms hrr]
    by_cases heq : r = r'
    · rw [if_pos heq, if_pos (congrArg some heq), List.filter_append, List.filter_singleton, hnew]
      rfl
    · rw [if_neg heq, if_neg fun h => heq (Option.some.inj h), List.append_nil]
      rfl
  · have hne : r ≠ r' := fun heq => hrr (heq ▸ hr)
    rw [if_neg fun h => hne (Option.some.inj h), List.append_nil]
    rcases realm_modify_or hrealms r' with heq | ⟨heq, -⟩
    · rw [heq]
      rfl
    · exact absurd heq hne

/-- **A realm that makes a site gains one live site.**  A text that names no constant makes none. -/
theorem makeSite_cases (hl : s.Listed) (r : RealmId) (name : String) (position : Position) :
    (∃ e notes, makeSite r name position s = ⟨s, notes, .error e⟩) ∨
      ∃ t, makeSite r name position s = ⟨t, [], .ok s.sites.size⟩ ∧
        ∃ o, Gains o s t ∧ (r < s.realms.size → o = some r) := by
  unfold makeSite
  rw [Action.read_bind]
  cases hnew : Site.new name position (s.realm r).policy with
  | error f =>
      have hfault : newSite name position (s.realm r).policy (s.realm r).tally s =
          ⟨s, [.fault f], .error (.fault f)⟩ := by
        unfold newSite
        rw [hnew]
      exact Or.inl ⟨_, _, Action.bind_of_error hfault _⟩
  | ok site =>
      let t : Store := { s with sites := s.sites.push ⟨site, (s.realm r).tally, true⟩ }
      have hmade : newSite name position (s.realm r).policy (s.realm r).tally s = ⟨t, [], .ok s.sites.size⟩ := by
        unfold newSite
        rw [hnew]
      obtain ⟨-, hpruned, -⟩ := pruneSites_sameSites (s := t) r trivial
      have hgains : Gains none s (pruneSites r t).state := (gains_push hl site _).of_same hpruned rfl
      have hsize : (pruneSites r t).state.realms.size = s.realms.size := Array.size_modify ..
      rw [Action.bind_of_quiet hmade]
      refine Or.inr ⟨_, rfl, ?_⟩
      by_cases hr : r < s.realms.size
      · exact ⟨some r, hgains.list (hsize.symm ▸ hr) rfl rfl, fun _ => rfl⟩
      · refine ⟨none, hgains.of_same (SameSites.of_eq rfl ?_) rfl, fun h => absurd h hr⟩
        refine Array.toList_inj.mp ((Array.toList_modify ..).trans (List.modify_eq_self ?_))
        show (pruneSites r t).state.realms.toList.length ≤ r
        rw [Array.length_toList, hsize]
        exact Nat.le_of_not_lt hr

/-- **A free site is gained by no realm.** -/
theorem newSite_cases (hl : s.Listed) (name : String) (position : Position) (policy : Policy) (τ : TallyId) :
    (∃ e notes, newSite name position policy τ s = ⟨s, notes, .error e⟩) ∨
      ∃ t, newSite name position policy τ s = ⟨t, [], .ok s.sites.size⟩ ∧ Gains none s t := by
  unfold newSite
  cases Site.new name position policy with
  | error f => exact Or.inl ⟨_, _, rfl⟩
  | ok site => exact Or.inr ⟨_, rfl, gains_push hl site τ⟩

/-! ### One site less -/

/-- A site is held no more, and live no more. -/
structure Loses (k : SiteId) (s t : Store) : Prop where
  size : t.sites.size = s.sites.size
  held : ∀ k', t.isHeld k' = (s.isHeld k' && k' != k)
  live : ∀ r, t.liveSites r = (s.liveSites r).filter (· != k)

/-- **A site that is given up is lost.** -/
theorem dropSite_loses (k : SiteId) (s : Store) : Loses k s (dropSite k s).state := by
  have hsites : (dropSite k s).state.sites = s.sites.modify k fun p => { p with held := false } := rfl
  have hheld : ∀ k', (dropSite k s).state.isHeld k' = (s.isHeld k' && k' != k) := by
    intro k'
    rw [isHeld, site?_modify hsites, isHeld]
    split
    · rename_i hk
      rw [hk, bne_self_eq_false, Bool.and_false]
      cases s.site? k' <;> rfl
    · rename_i hk
      rw [bne_iff_ne.mpr (Ne.symm hk), Bool.and_true]
  refine ⟨by rw [hsites, Array.size_modify], hheld, fun r => ?_⟩
  have hrealm : (dropSite k s).state.realm r = s.realm r := rfl
  rw [liveSites, hrealm, liveSites, List.filter_filter]
  exact List.filter_congr fun k' _ => (hheld k').trans (Bool.and_comm _ _)

/-! ### One site for a while -/

/-- A site that was made, and is given up after some time in which live sites stay the same, leaves no trace. -/
theorem Gains.sameSites {v : Store} (h : Gains o s t) (h' : SameSites t u) (h'' : Loses s.sites.size u v) :
    SameSites s v where
  size := by
    rw [h''.size]
    exact ((Nat.le_succ _).trans_eq h.size.symm).trans h'.size
  held := fun k => by
    rw [h''.held, h'.held, h.held]
    by_cases hk : k = s.sites.size
    · rw [hk, bne_self_eq_false, Bool.and_false, not_isHeld_of_le (Nat.le_refl _)]
    · rw [beq_eq_false_iff_ne.mpr hk, bne_iff_ne.mpr hk, Bool.or_false, Bool.and_true]
  live := fun r => by
    have hold : (s.liveSites r).filter (· != s.sites.size) = s.liveSites r := by
      refine List.filter_eq_self.mpr fun k hk => bne_iff_ne.mpr (Nat.ne_of_lt ?_)
      exact lt_of_isHeld (isHeld_of_mem_liveSites hk)
    rw [h''.live, h'.live, h.live, List.filter_append, hold]
    split
    · rw [List.filter_singleton, bne_self_eq_false]
      exact List.append_nil _
    · exact List.append_nil _

/-! ### The census -/

/-- The sites that were made between two states, in order. -/
def newcomers (s t : Store) : List SiteId := List.range' s.sites.size (t.sites.size - s.sites.size)

theorem mem_newcomers {n : Nat} : n ∈ s.newcomers t ↔ s.sites.size ≤ n ∧ n < t.sites.size := by
  rw [newcomers, List.mem_range'_1]
  omega

/-- **The live sites of each realm are those of a row that somebody holds.**  The rows are in order, and no site is in
two of them. -/
structure Census (made : RealmId → List SiteId) (s : Store) : Prop where
  live : ∀ r, s.liveSites r = (made r).filter s.isHeld
  bound : ∀ {r k}, k ∈ made r → k < s.sites.size
  sorted : ∀ r, (made r).Pairwise (· < ·)
  apart : ∀ {r r' k}, k ∈ made r → k ∈ made r' → r = r'

namespace Census

variable {made : RealmId → List SiteId}

/-- The newcomers join the row of one realm, or of none. -/
theorem join (h : Census made s) (o : Option RealmId) (hsize : s.sites.size ≤ t.sites.size)
    (hlive : ∀ r, t.liveSites r = (made r ++ if o = some r then s.newcomers t else []).filter t.isHeld) :
    Census (fun r => made r ++ if o = some r then s.newcomers t else []) t := by
  have hmem : ∀ {r k}, k ∈ (made r ++ if o = some r then s.newcomers t else []) →
      k ∈ made r ∨ o = some r ∧ s.sites.size ≤ k ∧ k < t.sites.size := by
    intro r k hk
    rcases List.mem_append.mp hk with hk | hk
    · exact Or.inl hk
    · split at hk
      · rename_i ho
        exact Or.inr ⟨ho, mem_newcomers.mp hk⟩
      · exact absurd hk List.not_mem_nil
  refine ⟨hlive, fun hk => ?_, fun r => ?_, fun hk hk' => ?_⟩
  · exact (hmem hk).elim (fun hold => (h.bound hold).trans_le hsize) fun hnew => hnew.2.2
  · refine List.pairwise_append.mpr ⟨h.sorted r, ?_, fun k hk k' hk' => ?_⟩
    · split
      · exact List.pairwise_lt_range'
      · exact List.Pairwise.nil
    · split at hk'
      · exact (h.bound hk).trans_le (mem_newcomers.mp hk').1
      · exact absurd hk' List.not_mem_nil
  · rcases hmem hk with hold | ⟨ho, hle, -⟩ <;> rcases hmem hk' with hold' | ⟨ho', hle', -⟩
    · exact h.apart hold hold'
    · exact absurd (h.bound hold) (Nat.not_lt_of_le hle')
    · exact absurd (h.bound hold') (Nat.not_lt_of_le hle)
    · exact Option.some.inj (ho.symm.trans ho')

/-- Where live sites stay the same, the newcomers are no longer held. -/
theorem same (h : Census made s) (hsame : SameSites s t) (o : Option RealmId) :
    Census (fun r => made r ++ if o = some r then s.newcomers t else []) t := by
  refine h.join o hsame.size fun r => ?_
  have hnone : (if o = some r then s.newcomers t else []).filter t.isHeld = [] := by
    refine List.filter_eq_nil_iff.mpr fun k hk => ?_
    split at hk
    · rw [hsame.held, not_isHeld_of_le (mem_newcomers.mp hk).1]
      exact Bool.false_ne_true
    · exact absurd hk List.not_mem_nil
  rw [List.filter_append, hnone, List.append_nil, funext hsame.held, hsame.live, h.live]

theorem gains (h : Census made s) (hgains : Gains o s t) :
    Census (fun r => made r ++ if o = some r then s.newcomers t else []) t := by
  have hnew : s.newcomers t = [s.sites.size] := by
    rw [newcomers, hgains.size, Nat.add_sub_cancel_left]
    rfl
  have hheld : t.isHeld s.sites.size = true := by
    rw [hgains.held, beq_self_eq_true, Bool.or_true]
  refine h.join o (hgains.size ▸ Nat.le_succ _) fun r => ?_
  have hold : (made r).filter t.isHeld = (made r).filter s.isHeld := by
    refine List.filter_congr fun k hk => ?_
    rw [hgains.held, beq_eq_false_iff_ne.mpr (Nat.ne_of_lt (h.bound hk)), Bool.or_false]
  rw [hgains.live, h.live, List.filter_append, hold, hnew]
  split
  · rw [List.filter_singleton, hheld]
    rfl
  · rfl

theorem loses (h : Census made s) (hloses : Loses k s t) : Census made t where
  live := fun r => by
    rw [hloses.live, h.live, List.filter_filter]
    exact List.filter_congr fun k' _ => (Bool.and_comm _ _).trans (hloses.held k').symm
  bound := fun hk => hloses.size ▸ h.bound hk
  sorted := h.sorted
  apart := h.apart

/-- A live site is counted once. -/
theorem nodup_live (h : Census made s) (r : RealmId) : (s.liveSites r).Nodup := by
  rw [h.live]
  exact ((h.sorted r).imp Nat.ne_of_lt).filter _

end Census

end ConstantResolution.Store
