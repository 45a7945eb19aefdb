import Xcp.Library.Runs
import Xcp.Server.RegistryInvariants

/-!
# The registry is consistent

An instance that runs is the one that `clients` maps its identity to, until its disposal removes it.
`insert` keeps an entry that exists, so this holds along the runs in which no portal connection is
registered under an identity that is taken; it fails for the first one that is. That a removal takes
away nothing else holds along every run: an instance that is not in the map waits for itself before
it comes to its removal.
-/

namespace Xcp

namespace Registry

variable {Id : Type} [DecidableEq Id] {cfg : Config Id} {s s' : State Id} {a : Action Id}

/-- A portal connection is registered only under an identity that is not in the map. -/
def Fresh (cfg : Config Id) (s : State Id) (a : Action Id) : Prop :=
  ∀ k, a = .portal k → s.portal k = .checked → cfg.identity k ∉ s.clients

/-- The thread of a removal takes away no entry but its own. -/
def RemovesOwn (s : State Id) (a : Action Id) (s' : State Id) : Prop :=
  ∀ k, a = .removal k → ∀ id j, s.clients.lookup id = some j →
    s'.clients.lookup id = some j ∨ j = k

/-- What a step leaves: whoever runs is registered until its `dispose_impl` comes to the removal, and
the thread of a removal takes away no entry but its own. -/
structure Consistent (cfg : Config Id) (s : State Id) (a : Action Id) (s' : State Id) : Prop where
  registered : ∀ k, s'.portal k = .running → (s'.client k).disposer.stage < 15 →
    s'.clients.lookup (cfg.identity k) = some k
  removes : RemovesOwn s a s'

/-! ### With any identities -/

/-- An instance whose portal thread has been joined is in the map until it is removed from there or
the map is cleared. -/
def Joined (cfg : Config Id) (s : State Id) : Prop :=
  ∀ k, 12 ≤ (s.client k).disposer.stage → s.clients.lookup (cfg.identity k) = some k ∨
    s.removal k = .erased ∨ s.disposer = .done

lemma Joined.congr (hs : Joined cfg s) (hclient : s'.client = s.client)
    (hclients : ∀ id k, s.clients.lookup id = some k → s'.clients.lookup id = some k)
    (hremoval : ∀ k, s.removal k = .erased → s'.removal k = .erased)
    (hd : s.disposer = .done → s'.disposer = .done) : Joined cfg s' := by
  intro k hk
  rw [hclient] at hk
  exact (hs k hk).imp (hclients _ k) (Or.imp (hremoval k) hd)

lemma Joined.step (hs : Joined cfg s) (hi : Inv cfg s) (h : Step cfg s a s') : Joined cfg s' := by
  have herased : ∀ {k r}, s.removal k ≠ .erased → ∀ j, s.removal j = .erased →
      Function.update s.removal k r j = .erased := by
    intro k r hk j hj
    have hne : j ≠ k := by rintro rfl; exact hk hj
    rwa [Function.update_of_ne hne]
  cases h with
  | registerPortal =>
    exact hs.congr rfl (fun _ _ => lookup_insertClient_of_lookup) (fun _ => id) id
  | spawn _ _ hremoval | skip _ _ hremoval | checkRemoval hremoval | abandonRemoval hremoval =>
    exact hs.congr rfl (fun _ _ => id) (herased (by simp [hremoval])) id
  | @client k b i hrunning hb hremove h howned =>
    intro j hj
    by_cases hjk : j = k
    · subst hjk
      have hj' : 12 ≤ i.disposer.stage := by
        simpa only [State.setClient, Function.update_self] using hj
      rcases (ClientInstance.Step.of_step h).2.joined hj' with hle | ⟨hb, hpc⟩
      · exact hs j hle
      · exact .inl (howned hb hpc)
    · refine hs j ?_
      simpa only [State.setClient, Function.update_of_ne hjk] using hj
  | @erase k hwaiting hfree =>
    intro j hj
    rcases hs j hj with hreg | herased' | hdone
    · by_cases hid : cfg.identity j = cfg.identity k
      · -- what is removed has been joined, so the entry is its own
        have hstage := (hi.entries.removal k (by simp [hwaiting])).2
        rcases hs k (le_trans (by decide) hstage) with hreg' | herased' | hdone
        · rw [hid, hreg', Option.some.injEq] at hreg
          exact .inr (.inl (hreg ▸ Function.update_self ..))
        · cases hwaiting.symm.trans herased'
        · exact .inr (.inr hdone)
      · exact .inl ((AList.lookup_erase_ne hid).trans hreg)
    · exact .inr (.inl (herased (by simp [hwaiting]) j herased'))
    · exact .inr (.inr hdone)
  | clear => exact fun _ _ => .inr (.inr rfl)
  | shutdown hd | closed hd | lock hd | disposed hd =>
    exact hs.congr rfl (fun _ _ => id) (fun _ => id) fun hdone => by cases hd.symm.trans hdone
  | @attach c identity k =>
    intro j hj
    refine hs j ?_
    by_cases hjk : j = k
    · subst hjk
      have hj' : 12 ≤ (attach c (s.client j)).disposer.stage := by
        simpa only [State.setClient, Function.update_self] using hj
      exact hj'
    · simpa only [State.setClient, State.setChannel, Function.update_of_ne hjk] using hj
  | @disposeClient k rest hd =>
    intro j hj
    have hle : 12 ≤ (s.client j).disposer.stage := by
      by_cases hjk : j = k
      · subst hjk
        have hj' : 12 ≤ (s.client j).startDispose.disposer.stage := by
          simpa only [State.setClient, Function.update_self] using hj
        rw [ClientInstance.startDispose_eq] at hj'
        dsimp only at hj'
        split_ifs at hj' with hidle
        · exact absurd hj' (by decide)
        · exact hj'
      · simpa only [State.setClient, Function.update_of_ne hjk] using hj
    rcases hs j hle with hreg | herased' | hdone
    · exact .inl hreg
    · exact .inr (.inl herased')
    · cases hd.symm.trans hdone
  | _ => exact hs.congr rfl (fun _ _ => id) (fun _ => id) id

lemma Joined.of_reach {C : State Id → Action Id → Prop} (h : (machine cfg).ReachIf C s) :
    Joined cfg s := by
  refine h.invariant ?_ fun s a s' hr hs _ hstep => hs.step (.of_reach hr) (Step.of_step hstep).2
  rintro s ⟨-, -, rfl⟩ k hk
  have hidle : 12 ≤ ClientInstance.DisposerPc.stage .idle := hk
  exact absurd hidle (by decide)

lemma Joined.removesOwn (hs : Joined cfg s) (hi : Inv cfg s) (h : Step cfg s a s') :
    RemovesOwn s a s' := by
  rintro k rfl id j hj
  cases h with
  | checkRemoval | abandonRemoval => exact .inl hj
  | erase hwaiting hfree =>
    by_cases hid : id = cfg.identity k
    · subst hid
      have hstage := (hi.entries.removal k (by rw [hwaiting]; nofun)).2
      rcases hs k (le_trans (by decide) hstage) with hreg | herased | hdone
      · exact .inr (Option.some.inj (hj.symm.trans hreg))
      · exact absurd (hwaiting.symm.trans herased) nofun
      · rw [hi.entries.empty hdone, AList.lookup_empty] at hj
        cases hj
    · exact .inl ((AList.lookup_erase_ne hid).trans hj)

/-! ### With fresh identities -/

/-- Where the instances are that run: in the map, removed, or behind `clear`; and those that
`dispose_impl` of the server need not dispose any more have come to their removal. -/
structure Registered (cfg : Config Id) (s : State Id) : Prop where
  running : ∀ k, s.portal k = .running → s.clients.lookup (cfg.identity k) = some k ∨
    s.removal k = .erased ∨ s.disposer = .done
  disposed : ∀ k, s.portal k = .running → s.disposer.Left k ∨
    15 ≤ (s.client k).disposer.stage

lemma Registered.step (hs : Registered cfg s) (hi : Inv cfg s) (hfresh : Fresh cfg s a)
    (h : Step cfg s a s') : Registered cfg s' := by
  obtain ⟨hrunning, hdisposed⟩ := hs
  obtain ⟨hlookup, hattached, hleft, hremoval, hborn, hempty⟩ := hi.entries
  have hchecked := hi.mutex.checked
  cases h with
  | @greetPortal k ok stage hstage hstage' =>
    dsimp only [State.setPortal]
    rcases hstage' with rfl | rfl <;> constructor <;> first | assumption | grind -linarith
  | @registerPortal k hstage =>
    have hk := hfresh k rfl hstage
    have hinsert : insertClient (cfg.identity k) k s.clients =
        s.clients.insert (cfg.identity k) k := if_neg hk
    dsimp only [State.setPortal]
    refine ⟨fun j hj => ?_, fun j hj => ?_⟩
    · by_cases hjk : j = k
      · subst hjk
        rw [hinsert, AList.lookup_insert]
        exact .inl rfl
      · have hj' : s.portal j = .running := (Function.update_of_ne hjk _ _).symm.trans hj
        exact (hrunning j hj').imp_left lookup_insertClient_of_lookup
    · grind -linarith
  | @client k b i hrun hb hremove h =>
    have hle := (ClientInstance.Step.of_step h).2.stage_le
    dsimp only [State.setClient]
    constructor <;> first | assumption | grind -linarith
  | spawn | skip | checkRemoval | abandonRemoval =>
    dsimp only [State.setRemoval]
    constructor <;> first | assumption | grind -linarith
  | @erase k hwaiting hfree =>
    refine ⟨fun j hj => ?_, hdisposed⟩
    rcases hrunning j hj with hreg | herased | hdone
    · by_cases hid : cfg.identity j = cfg.identity k
      · -- two instances that are registered under one identity are the same
        have hk := (hremoval k (by rw [hwaiting]; nofun)).1
        rcases hrunning k hk with hreg' | herased | hdone
        · rw [hid, hreg', Option.some.injEq] at hreg
          exact .inr (.inl (hreg ▸ Function.update_self ..))
        · exact absurd (hwaiting.symm.trans herased) nofun
        · exact .inr (.inr hdone)
      · exact .inl ((AList.lookup_erase_ne hid).trans hreg)
    · have hjk : j ≠ k := by
        rintro rfl
        exact absurd (hwaiting.symm.trans herased) nofun
      exact .inr (.inl ((Function.update_of_ne hjk _ _).trans herased))
    · exact .inr (.inr hdone)
  | lock hd hfree =>
    refine ⟨fun k hk => ?_, fun k hk => ?_⟩
    · refine (hrunning k hk).imp_right (Or.imp_right fun hdone => ?_)
      cases hd.symm.trans hdone
    · rcases hrunning k hk with hreg | herased | hdone
      · exact .inl (mem_clients_iff.mpr ⟨_, hreg⟩)
      · exact .inr (hremoval k (by rw [herased]; nofun)).2
      · cases hd.symm.trans hdone
  | clear hd => exact ⟨fun _ _ => .inr (.inr rfl), by grind -linarith⟩
  | shutdown | closed | disposed => constructor <;> first | assumption | grind -linarith
  | @disposeClient k rest hd hk =>
    have hle := ClientInstance.stage_startDispose (s.client k)
    dsimp only [State.setClient]
    constructor <;> first | assumption | grind -linarith
  | _ =>
    dsimp only [State.setPortal, State.setChannel, State.setClient, attach,
      ClientInstance.State.setChan]
    constructor <;> first | assumption | grind -linarith

lemma Registered.of_reach (h : (machine cfg).ReachIf (Fresh cfg) s) : Registered cfg s := by
  refine h.invariant ?_ ?_
  · rintro s ⟨-, -, rfl⟩
    exact ⟨nofun, nofun⟩
  · intro s a s' hr hs hfresh hstep
    exact hs.step (.of_reach hr) hfresh (Step.of_step hstep).2

lemma Registered.consistent (hi : Inv cfg s) (hj : Joined cfg s) (hs' : Registered cfg s')
    (hi' : Inv cfg s') (h : Step cfg s a s') : Consistent cfg s a s' := by
  refine ⟨fun k hk hstage => ?_, hj.removesOwn hi h⟩
  rcases hs'.running k hk with hreg | herased | hdone
  · exact hreg
  · have hle := (hi'.entries.removal k (by rw [herased]; nofun)).2
    exact absurd hstage (Nat.not_lt.mpr hle)
  · rcases hs'.disposed k hk with hleft | hle
    · rw [hdone] at hleft
      exact hleft.elim
    · exact absurd hstage (Nat.not_lt.mpr hle)

/-! ### With distinct identities -/

/-- The portal connections that have been accepted present distinct identities. -/
def Distinct (cfg : Config Id) (s : State Id) : Prop :=
  ∀ j k, s.portal j ≠ .absent → s.portal k ≠ .absent → cfg.identity j = cfg.identity k → j = k

/-- A portal connection stays accepted. -/
lemma Step.portal_ne_absent {k : ℕ} (h : Step cfg s a s') (hk : s.portal k ≠ .absent) :
    s'.portal k ≠ .absent := by
  cases h with
  | greetPortal hstage hstage' =>
    dsimp only [State.setPortal]
    rcases hstage' with rfl | rfl <;> grind -linarith
  | acceptPortal | lockPortal | checkPortal | refusePortal | registerPortal =>
    dsimp only [State.setPortal]
    grind -linarith
  | _ => exact hk

lemma Distinct.of_step (hs' : Distinct cfg s') (h : Step cfg s a s') : Distinct cfg s :=
  fun j k hj hk => hs' j k (h.portal_ne_absent hj) (h.portal_ne_absent hk)

/-- Clients with distinct identities find their identities free. -/
lemma Distinct.fresh (hd : Distinct cfg s) (h : (machine cfg).Reach s) (a : Action Id) :
    Fresh cfg s a := by
  rintro k rfl hchecked hmem
  obtain ⟨j, hj⟩ := Option.isSome_iff_exists.mp (AList.lookup_isSome.mpr hmem)
  obtain ⟨hrunning, hid⟩ := (Inv.of_reach h).entries.lookup _ j hj
  obtain rfl := hd j k (by simp [hrunning]) (by simp [hchecked]) hid
  cases hrunning.symm.trans hchecked

lemma reachIf_fresh (h : (machine cfg).Reach s) (hd : Distinct cfg s) :
    (machine cfg).ReachIf (Fresh cfg) s := by
  induction h with
  | init h => exact .init h
  | step h _ hs ih =>
    have hd' := hd.of_step (Step.of_step hs).2
    exact .step (ih hd') (hd'.fresh h _) hs

/-! ### With an identity that is taken -/

/-- An instance that is created under an identity that is taken runs, and is not registered. -/
lemma not_consistent_of_not_fresh (hi : Inv cfg s) (hfresh : ¬ Fresh cfg s a)
    (h : Step cfg s a s') : ¬ Consistent cfg s a s' := by
  intro hcons
  simp only [Fresh, not_forall, not_not] at hfresh
  obtain ⟨k, rfl, hchecked, hmem⟩ := hfresh
  cases h with
  | lockPortal hstage => exact absurd (hchecked.symm.trans hstage) nofun
  | checkPortal hstage => exact absurd (hchecked.symm.trans hstage) nofun
  | refusePortal hstage => exact absurd (hchecked.symm.trans hstage) nofun
  | registerPortal =>
    have hidle := hi.entries.born k (by rw [hchecked]; nofun)
    have hreg := hcons.registered k (Function.update_self ..) ?_
    · have hkeep : insertClient (cfg.identity k) k s.clients = s.clients := if_pos hmem
      have hreg' : s.clients.lookup (cfg.identity k) = some k :=
        (congrArg (AList.lookup _) hkeep).symm.trans hreg
      exact absurd (hchecked.symm.trans (hi.entries.lookup _ _ hreg').1) nofun
    · dsimp only [State.setPortal]
      rw [hidle]
      decide

/-- Along every run, the registry is consistent after every step exactly if every portal connection
is registered under an identity that is not in the map; and no removal takes away an entry that is
not its own. -/
theorem consistent_iff (hs : (machine cfg).init s) (as : List (Action Id)) :
    ((machine cfg).AllSteps (Consistent cfg) s as ↔
      (machine cfg).AllSteps (fun s a _ => Fresh cfg s a) s as) ∧
    (machine cfg).AllSteps RemovesOwn s as := by
  constructor
  · refine Machine.allSteps_congr (I := (machine cfg).ReachIf (Fresh cfg)) (.init hs) ?_ ?_ as
    · intro t a t' hr hstep
      have h := (Step.of_step hstep).2
      constructor
      · intro hcons
        by_contra hfresh
        exact not_consistent_of_not_fresh (.of_reach hr) hfresh h hcons
      · intro hfresh
        have hr' := hr.step hfresh hstep
        exact Registered.consistent (.of_reach hr) (.of_reach hr) (.of_reach hr') (.of_reach hr') h
    · intro t a t' hr hstep hfresh
      exact hr.step hfresh hstep
  · refine Machine.allSteps_of_reach (.init hs) (fun t a t' hr hstep => ?_) as
    exact (Joined.of_reach hr).removesOwn (.of_reach hr) (Step.of_step hstep).2

/-- A server whose portal connections are numbered, and present their numbers. -/
def numbered : Config ℕ where
  programOptions := ⟨{ host := "*", repeats := some 1 }, [], 1⟩
  identity := id

lemma numbered_start : (machine numbered).init (start numbered) := ⟨by decide, by decide, rfl⟩

lemma numbered_distinct (s : State ℕ) : Distinct numbered s := fun _ _ _ _ => id

/-- A client is registered and receives `message_server_information`. -/
def registers (k : ℕ) : List (Action ℕ) :=
  [.acceptPortal k, .greetPortal k true, .portal k, .portal k, .portal k, .client k .portal,
    .client k (.portalOp true), .client k .portal, .client k (.portalOp true), .client k .portal]

/-- It loses its portal connection, is disposed and removed. -/
def leaves (k : ℕ) : List (Action ℕ) :=
  List.flatten
    [[.client k (.portalOp false), .client k .portal], List.replicate 13 (.client k .dispose),
    List.replicate 2 (.removal k)]

/-- Two clients are registered, and the first one leaves. -/
def exampleLeave : List (Action ℕ) := List.flatten [registers 7, registers 8, leaves 7]

lemma exampleLeave_run :
    ((machine numbered).run (start numbered) exampleLeave).map (fun s =>
      (s.clients.lookup 7, s.clients.lookup 8, (s.client 7).disposer, s.portal 8)) =
        some (none, some 8, .done, .running) := by
  decide +kernel

/-- Every step of this run is consistent, and the client that stays keeps its entry. -/
theorem consistent_iff_exampleLeave :
    (∃ s, (machine numbered).run (start numbered) exampleLeave = some s ∧
      s.clients.lookup 7 = none ∧ s.clients.lookup 8 = some 8 ∧ s.portal 8 = .running) ∧
    (machine numbered).AllSteps (Consistent numbered) (start numbered) exampleLeave ∧
    (machine numbered).AllSteps RemovesOwn (start numbered) exampleLeave := by
  obtain ⟨s, hrun, h⟩ := Option.map_eq_some_iff.mp exampleLeave_run
  simp only [Prod.mk.injEq] at h
  obtain ⟨hleft, hstays, -, hrunning⟩ := h
  have hfresh : (machine numbered).AllSteps (fun s a _ => Fresh numbered s a) (start numbered)
      exampleLeave :=
    Machine.allSteps_of_reach (.init numbered_start)
      (fun t a _ ht _ => (numbered_distinct t).fresh ht a) _
  obtain ⟨hiff, hremoves⟩ := consistent_iff numbered_start exampleLeave
  exact ⟨⟨s, hrun, hleft, hstays, hrunning⟩, hiff.mpr hfresh, hremoves⟩

/-- A server whose clients all present one identity. -/
def twins : Config Unit where
  programOptions := ⟨{ host := "*", repeats := some 1 }, [], 1⟩
  identity _ := ()

lemma twins_start : (machine twins).init (start twins) := ⟨by decide, by decide, rfl⟩

/-- A client is registered, and another one is about to be. -/
def registerTwins : List (Action Unit) :=
  [.acceptPortal 0, .greetPortal 0 true, .portal 0, .portal 0, .portal 0, .acceptPortal 1,
    .greetPortal 1 true, .portal 1, .portal 1]

/-- Then the other one is registered, and loses its portal connection: `dispose_impl` comes to the
join of its portal thread. -/
def disposeTwin : List (Action Unit) :=
  registerTwins ++ [.portal 1, .client 1 .portal, .client 1 (.portalOp false), .client 1 .portal] ++
    List.replicate 7 (.client 1 .dispose)

lemma registerTwins_run :
    (((machine twins).run (start twins) registerTwins).bind fun s =>
      ((machine twins).step s (.portal 1)).map fun s' =>
        (s'.portal 1, (s'.client 1).disposer, s'.clients.lookup ())) =
      some (.running, .idle, some 0) := by
  decide +kernel

lemma disposeTwin_run :
    ((machine twins).run (start twins) disposeTwin).map (fun s =>
      ((s.client 1).portal, (s.client 1).disposer,
        ((machine twins).step s (.client 1 .dispose)).isSome)) =
      some (.done, .joinPortal, false) := by
  decide +kernel

/-- A second client with the identity of the first one runs without being registered; and when it
loses its portal connection, its disposal waits for its portal thread, which waits for the disposal. -/
theorem twins_inconsistent :
    (∃ s s', (machine twins).Reach s ∧ (machine twins).step s (.portal 1) = some s' ∧
      s'.portal 1 = .running ∧ (s'.client 1).disposer = .idle ∧ s'.clients.lookup () = some 0 ∧
      ¬ Consistent twins s (.portal 1) s') ∧
    ∃ s, (machine twins).Reach s ∧ (s.client 1).portal = .done ∧
      (s.client 1).disposer = .joinPortal ∧ (machine twins).step s (.client 1 .dispose) = none := by
  constructor
  · obtain ⟨s, hrun, h⟩ := Option.bind_eq_some_iff.mp registerTwins_run
    obtain ⟨s', hstep, h⟩ := Option.map_eq_some_iff.mp h
    simp only [Prod.mk.injEq] at h
    obtain ⟨hportal, hdisposer, hlookup⟩ := h
    refine ⟨s, s', .of_run (.init twins_start) hrun, hstep, hportal, hdisposer, hlookup, ?_⟩
    intro hcons
    have hreg := hcons.registered 1 hportal (by rw [hdisposer]; decide)
    exact absurd (hlookup.symm.trans hreg) (by decide)
  · obtain ⟨s, hrun, h⟩ := Option.map_eq_some_iff.mp disposeTwin_run
    simp only [Prod.mk.injEq] at h
    obtain ⟨hportal, hdisposer, hstep⟩ := h
    exact ⟨s, .of_run (.init twins_start) hrun, hportal, hdisposer, by simpa using hstep⟩

end Registry

end Xcp
