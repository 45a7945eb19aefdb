import Xcp.Server.ClientInstanceChannels
import Xcp.Server.RegistryStep

/-!
# Invariants of the registry

Who holds `clients_mutex`; that every instance runs as the machine of a client instance; and where
the registered instances are in the map.
-/

namespace Xcp

namespace Registry

variable {Id : Type} [DecidableEq Id] {cfg : Config Id} {s s' : State Id} {a : Action Id}

/-! ### The lock -/

/-- `dispose_impl` of the server holds `clients_mutex`. -/
def DisposerPc.Iterating : DisposerPc → Prop
  | .next _ | .waiting _ _ => True
  | _ => False

/-- `dispose_impl` of the server has not come to the clients yet. -/
def DisposerPc.BeforeClients (d : DisposerPc) : Prop := d = .idle ∨ d = .closing ∨ d = .lock

/-- The thread of the channel holds `clients_mutex`. -/
def ChannelStage.Locked : ChannelStage Id → Prop
  | .locked _ => True
  | _ => False

attribute [grind =] DisposerPc.Iterating ChannelStage.Locked
attribute [grind] DisposerPc.BeforeClients

/-- Who is inside `clients_mutex`. -/
structure Mutex (s : State Id) : Prop where
  portal : ∀ k, s.portal k = .locked ∨ s.portal k = .checked ↔ s.clientsMutex = some (.portal k)
  channel : ∀ c, (s.channel c).Locked ↔ s.clientsMutex = some (.channel c)
  disposer : s.disposer.Iterating ↔ s.clientsMutex = some .disposer
  checked : ∀ k, s.portal k = .checked → s.disposer.BeforeClients

lemma Mutex.step (hs : Mutex s) (h : Step cfg s a s') : Mutex s' := by
  obtain ⟨hportal, hchannel, hdisposer, hchecked⟩ := hs
  cases h with
  | client | spawn | skip | checkRemoval | abandonRemoval | erase =>
    exact ⟨hportal, hchannel, hdisposer, hchecked⟩
  | @greetPortal k ok stage hstage hstage' =>
    dsimp only [State.setPortal]
    rcases hstage' with rfl | rfl <;> constructor <;> first | assumption | grind -linarith
  | shutdown | closed | lock | clear | disposed => constructor <;>
    first | assumption | grind -linarith
  | _ =>
    dsimp only [State.setPortal, State.setChannel, State.setClient]
    constructor <;> first | assumption | grind -linarith

/-! ### The instances -/

/-- An instance moves on without losing what its threads have done, and takes or leaves no
channel. -/
lemma keeps_of_step {n : ℕ} {i i' : ClientInstance.State} {b : ClientInstance.Action}
    (h : i.step n b = some i') (hb : ofClient b = true) :
    i'.peerClosed = i.peerClosed ∧ ∀ c, i'.chan c ≠ .absent ↔ i.chan c ≠ .absent := by
  cases (ClientInstance.Step.of_step h).2 with
  | portal _ h =>
    cases h with
    | exit => rw [ClientInstance.startDispose_eq]; exact ⟨rfl, fun _ => Iff.rfl⟩
    | _ => exact ⟨rfl, fun _ => Iff.rfl⟩
  | @channel _ c₀ _ _ h =>
    have hmove : ∀ {pc : ClientInstance.ChannelPc}, i.chan c₀ ≠ .absent → pc ≠ .absent →
        ∀ c, Function.update i.chan c₀ pc c ≠ .absent ↔ i.chan c ≠ .absent := by
      intro pc hpc hpc' c
      by_cases heq : c = c₀
      · rw [heq, Function.update_self]
        exact iff_of_true hpc' hpc
      · rw [Function.update_of_ne heq]
    cases h with
    | assertNull | invokeNull => exact ⟨rfl, fun _ => Iff.rfl⟩
    | @exit result hpc =>
      cases result with
      | true => exact ⟨rfl, hmove (by rw [hpc]; nofun) nofun⟩
      | false =>
        rw [ClientInstance.startDispose_eq]
        exact ⟨rfl, hmove (by rw [hpc]; nofun) nofun⟩
    | signalAll hpc | transferred hpc | signalFinished hpc =>
      refine ⟨rfl, hmove (by rw [hpc]; nofun) ?_⟩
      split_ifs <;> nofun
    | lookup hpc | lockSerial hpc | rejected hpc | lockMutex hpc | add hpc | setAll hpc
    | waitReady hpc | checkDisposed hpc | checkNormal hpc | assertTransfer hpc | invoke hpc
    | setFinished hpc =>
      exact ⟨rfl, hmove (by rw [hpc]; nofun) nofun⟩
  | dispose h => cases h <;> exact ⟨rfl, fun _ => Iff.rfl⟩
  | sendRequest => exact ⟨rfl, fun _ => Iff.rfl⟩
  | startDispose | openChannel | loseChannel | close => cases hb

/-- `dispose` of an instance is a step of its machine, or it has been called before. -/
lemma reach_startDispose {n : ℕ} {i : ClientInstance.State}
    (h : (ClientInstance.machine n).Reach i) (hfault : i.fault = none) :
    (ClientInstance.machine n).Reach i.startDispose := by
  by_cases hd : i.disposer = .idle
  · refine .step (a := .startDispose) h trivial ?_
    exact (if_neg (not_not.mpr hfault)).trans (if_pos hd)
  · rwa [ClientInstance.State.startDispose, if_neg hd]

/-- A channel comes to an instance by two steps of its machine. -/
lemma reach_attach {n c : ℕ} {i : ClientInstance.State} (h : (ClientInstance.machine n).Reach i)
    (hfault : i.fault = none) (hpeer : i.peerClosed = false) (hpc : i.chan c = .absent) :
    (ClientInstance.machine n).Reach (attach c i) := by
  have hopen : (ClientInstance.machine n).step i (.openChannel c) =
      some ({ i with opened := insert c i.opened }.setChan c .connecting) :=
    (if_neg (not_not.mpr hfault)).trans (if_pos ⟨hpeer, hpc⟩)
  have hlookup : (ClientInstance.machine n).step
      ({ i with opened := insert c i.opened }.setChan c .connecting) (.channel c) =
        some (attach c i) := by
    refine (if_neg (not_not.mpr hfault)).trans ?_
    simp only [ClientInstance.State.channelStep, ClientInstance.State.setChan,
      Function.update_self, attach, Function.update_idem]
  exact .step (.step h trivial hopen) trivial hlookup

/-- Every instance runs as the machine of a client instance, and has exactly the channels that have
been attached to it. -/
structure Clients (cfg : Config Id) (s : State Id) : Prop where
  reach : ∀ k, (ClientInstance.machine cfg.programOptions.totalChannelRepeatsCount).Reach
    (s.client k)
  fault : s.aborted = false → ∀ k, (s.client k).fault = none
  peer : ∀ k, (s.client k).peerClosed = false
  chan : ∀ k c, (s.client k).chan c ≠ .absent ↔ s.channel c = .attached k

omit [DecidableEq Id] in
/-- A connection moves on that has not been attached. -/
lemma Clients.congr (hs : Clients cfg s) (hclient : s'.client = s.client)
    (haborted : s'.aborted = s.aborted)
    (hchannel : ∀ c k, s'.channel c = .attached k ↔ s.channel c = .attached k) :
    Clients cfg s' := by
  constructor
  · rw [hclient]
    exact hs.reach
  · rw [hclient, haborted]
    exact hs.fault
  · rw [hclient]
    exact hs.peer
  · rw [hclient]
    exact fun k c => (hs.chan k c).trans (hchannel c k).symm

omit [DecidableEq Id] in
/-- One instance moves on. -/
lemma Clients.update {k : ℕ} {i : ClientInstance.State} (hs : Clients cfg s)
    (hclient : s'.client = Function.update s.client k i)
    (hreach : (ClientInstance.machine cfg.programOptions.totalChannelRepeatsCount).Reach i)
    (hfault : s'.aborted = false → s.aborted = false ∧ i.fault = none)
    (hpeer : i.peerClosed = false)
    (hchan : ∀ c, i.chan c ≠ .absent ↔ s'.channel c = .attached k)
    (hchannel : ∀ c j, j ≠ k → (s'.channel c = .attached j ↔ s.channel c = .attached j)) :
    Clients cfg s' := by
  have hother : ∀ j, j = k ∧ s'.client j = i ∨ j ≠ k ∧ s'.client j = s.client j := by
    intro j
    rw [hclient, Function.update_apply]
    split_ifs with hj
    · exact .inl ⟨hj, rfl⟩
    · exact .inr ⟨hj, rfl⟩
  constructor
  · intro j
    rcases hother j with ⟨-, h⟩ | ⟨-, h⟩ <;> rw [h]
    · exact hreach
    · exact hs.reach j
  · intro haborted j
    obtain ⟨hbefore, hi⟩ := hfault haborted
    rcases hother j with ⟨-, h⟩ | ⟨-, h⟩ <;> rw [h]
    · exact hi
    · exact hs.fault hbefore j
  · intro j
    rcases hother j with ⟨-, h⟩ | ⟨-, h⟩ <;> rw [h]
    · exact hpeer
    · exact hs.peer j
  · intro j c
    rcases hother j with ⟨rfl, h⟩ | ⟨hj, h⟩ <;> rw [h]
    · exact hchan c
    · exact (hs.chan j c).trans (hchannel c j hj).symm

lemma Clients.step (hs : Clients cfg s) (haborted : s.aborted = false) (h : Step cfg s a s') :
    Clients cfg s' := by
  have hmove : ∀ {c : ℕ} {stage : ChannelStage Id}, (∀ k, s.channel c ≠ .attached k) →
      (∀ k, stage ≠ .attached k) → ∀ i k,
        Function.update s.channel c stage i = .attached k ↔ s.channel i = .attached k := by
    intro c stage hc hstage i k
    by_cases hi : i = c
    · rw [hi, Function.update_self]
      exact iff_of_false (hstage k) (hc k)
    · rw [Function.update_of_ne hi]
  cases h with
  | openChannel _ hstage | acceptChannel _ hstage | greetChannel hstage | refuseChannel hstage
  | loseChannel hstage | lockChannel hstage | unknownIdentity hstage =>
    exact hs.congr rfl rfl (hmove (by rw [hstage]; nofun) nofun)
  | @attach c identity k hstage hlookup =>
    have habsent : (s.client k).chan c = .absent := by
      by_contra hne
      exact absurd (hstage.symm.trans ((hs.chan k c).mp hne)) nofun
    have hreach := reach_attach (hs.reach k) (hs.fault haborted k) (hs.peer k) habsent
    refine hs.update rfl hreach (fun _ => ⟨haborted, hs.fault haborted k⟩) (hs.peer k) ?_ ?_
    · intro i
      by_cases hic : i = c
      · subst hic
        exact iff_of_true (by simp [attach, ClientInstance.State.setChan])
          (Function.update_self ..)
      · have hchan : (attach c (s.client k)).chan i = (s.client k).chan i :=
          Function.update_of_ne hic _ _
        have hchannel : Function.update s.channel c (.attached k) i = s.channel i :=
          Function.update_of_ne hic _ _
        rw [hchan]
        exact (hs.chan k i).trans (iff_of_eq (congrArg (· = _) hchannel.symm))
    · intro i j hj
      by_cases hic : i = c
      · rw [hic, hstage]
        refine iff_of_false (fun h => hj ?_) nofun
        have hself : Function.update s.channel c (.attached k) c = .attached k :=
          Function.update_self ..
        exact (ChannelStage.attached.inj (hself.symm.trans h)).symm
      · exact iff_of_eq (congrArg (· = _) (Function.update_of_ne hic _ _))
  | @client k b i hrunning hb hremove h =>
    obtain ⟨hpeer, hchan⟩ := keeps_of_step h hb
    refine hs.update rfl (.step (hs.reach k) trivial h) (fun h => ⟨haborted, ?_⟩)
      (hpeer.trans (hs.peer k)) (fun c => (hchan c).trans (hs.chan k c)) fun _ _ _ => Iff.rfl
    exact Option.not_isSome_iff_eq_none.mp (by simpa [State.setClient] using h)
  | @disposeClient k rest =>
    refine hs.update rfl (reach_startDispose (hs.reach k) (hs.fault haborted k))
      (fun _ => ⟨haborted, ?_⟩) ?_ ?_ fun _ _ _ => Iff.rfl
    · rw [ClientInstance.startDispose_eq]
      exact hs.fault haborted k
    · rw [ClientInstance.startDispose_eq]
      exact hs.peer k
    · rw [ClientInstance.startDispose_eq]
      exact hs.chan k
  | _ => exact hs.congr rfl rfl fun _ _ => Iff.rfl

/-! ### The map -/

/-- `insert` adds at most the new entry. -/
lemma lookup_insertClient {id id' : Id} {k j : ℕ} {m : AList fun _ : Id => ℕ}
    (h : (insertClient id k m).lookup id' = some j) :
    m.lookup id' = some j ∨ id' = id ∧ j = k := by
  unfold insertClient at h
  split_ifs at h with hmem
  · exact .inl h
  · by_cases hid : id' = id
    · subst hid
      rw [AList.lookup_insert] at h
      exact .inr ⟨rfl, (Option.some.inj h).symm⟩
    · rw [AList.lookup_insert_ne hid] at h
      exact .inl h

/-- `insert` keeps every entry. -/
lemma lookup_insertClient_of_lookup {id id' : Id} {k j : ℕ} {m : AList fun _ : Id => ℕ}
    (h : m.lookup id' = some j) : (insertClient id k m).lookup id' = some j := by
  unfold insertClient
  split_ifs with hmem
  · exact h
  · have hid : id' ≠ id := by
      rintro rfl
      exact hmem (AList.lookup_isSome.mp (by rw [h]; rfl))
    rwa [AList.lookup_insert_ne hid]

lemma lookup_of_lookup_erase {id id' : Id} {k : ℕ} {m : AList fun _ : Id => ℕ}
    (h : (m.erase id).lookup id' = some k) : m.lookup id' = some k := by
  have hid : id' ≠ id := by
    rintro rfl
    rw [AList.lookup_erase] at h
    cases h
  rwa [AList.lookup_erase_ne hid] at h

lemma mem_clients_iff {k : ℕ} {m : AList fun _ : Id => ℕ} :
    k ∈ m.entries.map Sigma.snd ↔ ∃ id, m.lookup id = some k := by
  simp only [List.mem_map, ← AList.mem_lookup_iff, Option.mem_def, Sigma.exists]
  exact ⟨fun ⟨id, _, h, hk⟩ => ⟨id, hk ▸ h⟩, fun ⟨id, h⟩ => ⟨id, k, h, rfl⟩⟩

/-- The clients that `dispose_impl` of the server still has to dispose or to wait for. -/
def DisposerPc.Left : DisposerPc → ℕ → Prop
  | .idle, _ | .closing, _ | .lock, _ => True
  | .next rest, k => k ∈ rest
  | .waiting j rest, k => k = j ∨ k ∈ rest
  | .done, _ => False

attribute [grind =] DisposerPc.Left

/-- What is in the map, what channels have been attached to and what is being disposed: only
instances that run. -/
structure Entries (cfg : Config Id) (s : State Id) : Prop where
  lookup : ∀ id k, s.clients.lookup id = some k → s.portal k = .running ∧ cfg.identity k = id
  attached : ∀ c k, s.channel c = .attached k → s.portal k = .running
  left : ∀ k, s.disposer.Iterating → s.disposer.Left k → s.portal k = .running
  removal : ∀ k, s.removal k ≠ .absent →
    s.portal k = .running ∧ 15 ≤ (s.client k).disposer.stage
  born : ∀ k, s.portal k ≠ .running → (s.client k).disposer = .idle
  empty : s.disposer = .done → s.clients = ∅

lemma Entries.step (hs : Entries cfg s) (hm : Mutex s) (h : Step cfg s a s') : Entries cfg s' := by
  obtain ⟨hlookup, hattached, hleft, hremoval, hborn, hempty⟩ := hs
  have hchecked := hm.checked
  cases h with
  | @greetPortal k ok stage hstage hstage' =>
    dsimp only [State.setPortal]
    rcases hstage' with rfl | rfl <;> constructor <;> first | assumption | grind -linarith
  | @registerPortal k hstage =>
    dsimp only [State.setPortal]
    refine ⟨fun id j hj => ?_, ?_, ?_, ?_, ?_, ?_⟩
    · rcases lookup_insertClient hj with hj | ⟨rfl, rfl⟩
      · grind -linarith
      · exact ⟨Function.update_self .., rfl⟩
    all_goals grind -linarith
  | @client k b i hrunning hb hremove h =>
    have hle := (ClientInstance.Step.of_step h).2.stage_le
    dsimp only [State.setClient]
    constructor <;> first | assumption | grind -linarith
  | spawn | skip | checkRemoval | abandonRemoval =>
    dsimp only [State.setRemoval]
    constructor <;> first | assumption | grind -linarith
  | erase =>
    refine ⟨fun id j hj => hlookup id j (lookup_of_lookup_erase hj), hattached, hleft, ?_, hborn, ?_⟩
    · dsimp only [State.setRemoval]
      grind -linarith
    · intro hd
      dsimp only [State.setRemoval]
      rw [hempty hd]
      rfl
  | lock =>
    refine ⟨hlookup, hattached, fun k _ hk => ?_, hremoval, hborn, nofun⟩
    obtain ⟨id, hid⟩ := mem_clients_iff.mp hk
    exact (hlookup id k hid).1
  | clear => exact ⟨nofun, hattached, nofun, hremoval, hborn, fun _ => rfl⟩
  | shutdown | closed | disposed => constructor <;> first | assumption | grind -linarith
  | @disposeClient k rest hd hk =>
    have hle := ClientInstance.stage_startDispose (s.client k)
    dsimp only [State.setClient]
    constructor <;> first | assumption | grind -linarith [List.mem_of_mem_erase]
  | _ =>
    dsimp only [State.setPortal, State.setChannel, State.setClient, attach,
      ClientInstance.State.setChan]
    constructor <;> first | assumption | grind -linarith

/-! ### Reachable servers -/

/-- The invariants of a server. -/
structure Inv (cfg : Config Id) (s : State Id) : Prop where
  mutex : Mutex s
  clients : Clients cfg s
  entries : Entries cfg s

lemma Inv.start (hn : 0 < cfg.programOptions.totalChannelRepeatsCount)
    (hn' : cfg.programOptions.totalChannelRepeatsCount < invalidSignalCount) :
    Inv cfg (start cfg) where
  mutex := by constructor <;> simp [Registry.start, ChannelStage.Locked, DisposerPc.Iterating]
  clients :=
    { reach := fun _ => .init ⟨hn, hn', rfl⟩
      fault := fun _ _ => rfl
      peer := fun _ => rfl
      chan := by simp [Registry.start, ClientInstance.start] }
  entries := by
    constructor <;> simp [Registry.start, ClientInstance.start, DisposerPc.Iterating]

lemma Inv.step (hs : Inv cfg s) (haborted : s.aborted = false) (h : Step cfg s a s') :
    Inv cfg s' where
  mutex := hs.mutex.step h
  clients := hs.clients.step haborted h
  entries := hs.entries.step hs.mutex h

/-- The invariants hold of every state that a server reaches. -/
lemma Inv.of_reach {C : State Id → Action Id → Prop} (h : (machine cfg).ReachIf C s) :
    Inv cfg s := by
  refine h.invariant ?_ ?_
  · rintro s ⟨hn, hn', rfl⟩
    exact .start hn hn'
  · intro s a s' _ hs _ hstep
    obtain ⟨haborted, hstep⟩ := Step.of_step hstep
    exact hs.step haborted hstep

end Registry

end Xcp
