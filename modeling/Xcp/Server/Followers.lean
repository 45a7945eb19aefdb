import Xcp.Server.RegistryConsistent

/-!
# Channels reach their own instance

A client that follows the protocol opens channels once it has received `message_server_information`,
on the endpoints announced there, and presents its identity. Its instance has been registered before
the message was sent, so the channel is attached to it, or rejected while it (or the server) is being
disposed.
-/

namespace Xcp

namespace ClientInstance

/-- A channel is rejected by an instance only after its disposal has begun. -/
lemma disposer_ne_idle_of_rejected {n c : ℕ} {s : State} (h : (machine n).Reach s)
    (hc : s.chan c = .rejected) : s.disposer ≠ .idle := by
  have hrundown : ∀ c, s.chan c = .rejected → s.requiredRundown = true := by
    refine h.invariant (I := fun s => ∀ c, s.chan c = .rejected → s.requiredRundown = true) ?_ ?_
    · rintro s ⟨-, -, rfl⟩
      exact nofun
    · intro s a s' _ hs _ hstep
      cases (Step.of_step hstep).2 with
      | portal _ h =>
        cases h with
        | exit => rw [startDispose_eq]; exact hs
        | _ => exact hs
      | channel _ h =>
        cases h with
        | @exit result =>
          cases result with
          | true => dsimp only [State.setChan]; grind -linarith
          | false => rw [startDispose_eq]; dsimp only [State.setChan]; grind -linarith
        | _ => dsimp only [State.setChan, State.crash]; grind -linarith
      | dispose h =>
        cases h with
        | lockSerial => exact fun _ _ => rfl
        | _ => exact hs
      | startDispose | sendRequest | close => exact hs
      | openChannel | loseChannel => dsimp only [State.setChan]; grind -linarith
  have hstage := (Inv.of_reach h).locks.rundown.mp (hrundown c hc)
  intro hd
  rw [hd] at hstage
  exact absurd hstage (by decide)

end ClientInstance

namespace Registry

open Server

variable {Id : Type} [DecidableEq Id] {cfg : Config Id} {s s' : State Id} {a : Action Id}

/-- The disposal of the client or of the server has begun. -/
def Disposing (s : State Id) (k : ℕ) : Prop :=
  (s.client k).disposer ≠ .idle ∨ s.disposer ≠ .idle

/-- An instance stays. -/
lemma Step.running {k : ℕ} (h : Step cfg s a s') (hk : s.portal k = .running) :
    s'.portal k = .running := by
  cases h with
  | acceptPortal | greetPortal | lockPortal | checkPortal | refusePortal | registerPortal =>
    dsimp only [State.setPortal]
    grind -linarith
  | _ => exact hk

/-- `dispose_impl` of an instance only goes on. -/
lemma Step.stage_le (h : Step cfg s a s') (k : ℕ) :
    (s.client k).disposer.stage ≤ (s'.client k).disposer.stage := by
  have hupdate : ∀ {j : ℕ} {i : ClientInstance.State},
      (s.client j).disposer.stage ≤ i.disposer.stage →
      (s.client k).disposer.stage ≤ (Function.update s.client j i k).disposer.stage := by
    intro j i hle
    by_cases hkj : k = j
    · subst hkj
      rwa [Function.update_self]
    · rw [Function.update_of_ne hkj]
  cases h with
  | attach => exact hupdate le_rfl
  | client _ _ _ h => exact hupdate (ClientInstance.Step.of_step h).2.stage_le
  | disposeClient => exact hupdate (ClientInstance.stage_startDispose _)
  | _ => exact le_rfl

lemma Disposing.step {k : ℕ} (hs : Disposing s k) (h : Step cfg s a s') : Disposing s' k := by
  rcases hs with hclient | hserver
  · left
    intro hidle
    have hle := h.stage_le k
    rw [hidle] at hle
    exact hclient (ClientInstance.stage_eq_zero.mp (Nat.le_zero.mp hle))
  · right
    cases h with
    | closed | lock | clear | disposed | disposeClient => nofun
    | shutdown hd => exact absurd hd hserver
    | _ => exact hserver

/-- An instance that runs and is not in the map is being disposed. -/
lemma Registered.disposing {k : ℕ} (hr : Registered cfg s) (hi : Inv cfg s)
    (hk : s.portal k = .running) (hlookup : s.clients.lookup (cfg.identity k) ≠ some k) :
    Disposing s k := by
  rcases hr.running k hk with hreg | herased | hdone
  · exact absurd hreg hlookup
  · left
    intro hidle
    have hle := (hi.entries.removal k (by rw [herased]; nofun)).2
    rw [hidle] at hle
    exact absurd hle (by decide)
  · right
    rw [hdone]
    nofun

/-- Where a channel can be that the client `k` has opened: on its way with the identity of `k`,
attached to the instance of `k`, cut off, or rejected as unknown while `k` is being disposed. -/
def Follows (cfg : Config Id) (s : State Id) (k : ℕ) : ChannelStage Id → Prop
  | .absent | .notAllowed => False
  | .accepted l identity =>
    l.allowRoleChannel cfg.programOptions = true ∧ identity = cfg.identity k
  | .waiting identity | .locked identity => identity = cfg.identity k
  | .attached j => j = k
  | .disconnected => True
  | .unknownIdentity => Disposing s k

lemma Follows.step {k : ℕ} {stage : ChannelStage Id} (hs : Follows cfg s k stage)
    (h : Step cfg s a s') : Follows cfg s' k stage := by
  cases stage with
  | unknownIdentity => exact Disposing.step hs h
  | _ => exact hs

/-- The endpoints that are announced allow channels. -/
lemma allowRoleChannel_of_advertised {o : XcpdProgramOptions} {l : Listener}
    (h : advertised o l = true) : l.allowRoleChannel o = true := by
  cases l <;> exact h

/-- The channels that clients have opened behind `message_server_information`. -/
structure Followers (cfg : Config Id) (s : State Id) : Prop where
  running : ∀ c k, s.opener c = some k → s.portal k = .running
  follows : ∀ c k, s.opener c = some k → Follows cfg s k (s.channel c)

/-- A channel moves on, to where its opener may find it. -/
lemma Followers.move {c : ℕ} {stage : ChannelStage Id} (hs : Followers cfg s)
    (h : Step cfg s a s') (hopener : s'.opener = s.opener)
    (hchannel : s'.channel = Function.update s.channel c stage)
    (hstage : ∀ k, s.opener c = some k → Follows cfg s' k stage) : Followers cfg s' := by
  constructor
  · rw [hopener]
    exact fun i k hi => h.running (hs.running i k hi)
  · intro i k hi
    rw [hopener] at hi
    rw [hchannel]
    by_cases hic : i = c
    · subst hic
      rw [Function.update_self]
      exact hstage k hi
    · rw [Function.update_of_ne hic]
      exact (hs.follows i k hi).step h

lemma Followers.step (hs : Followers cfg s) (hi : Inv cfg s) (hr : Registered cfg s)
    (hd : Distinct cfg s) (h : Step cfg s a s') : Followers cfg s' := by
  have hstep := h
  cases h with
  | @openChannel c k l _ hstage hadvertised hrunning hinformed =>
    constructor
    · intro i j hij
      dsimp only [State.setChannel] at hij ⊢
      by_cases hic : i = c
      · subst hic
        rw [Function.update_self, Option.some.injEq] at hij
        exact hij ▸ hrunning
      · rw [Function.update_of_ne hic] at hij
        exact hs.running i j hij
    · intro i j hij
      dsimp only [State.setChannel] at hij ⊢
      by_cases hic : i = c
      · subst hic
        rw [Function.update_self, Option.some.injEq] at hij
        subst hij
        rw [Function.update_self]
        exact ⟨allowRoleChannel_of_advertised hadvertised, rfl⟩
      · rw [Function.update_of_ne hic] at hij ⊢
        exact (hs.follows i j hij).step hstep
  | acceptChannel _ hstage =>
    refine hs.move hstep rfl rfl fun k hk => ?_
    have hfollows := hs.follows _ k hk
    rw [hstage] at hfollows
    exact hfollows.elim
  | greetChannel hstage =>
    refine hs.move hstep rfl rfl fun k hk => ?_
    have hfollows := hs.follows _ k hk
    rw [hstage] at hfollows
    exact hfollows.2
  | refuseChannel hstage hallow =>
    refine hs.move hstep rfl rfl fun k hk => ?_
    have hfollows := hs.follows _ k hk
    rw [hstage] at hfollows
    exact absurd (hallow.symm.trans hfollows.1) nofun
  | loseChannel => exact hs.move hstep rfl rfl fun _ _ => trivial
  | lockChannel hstage =>
    refine hs.move hstep rfl rfl fun k hk => ?_
    have hfollows := hs.follows _ k hk
    rwa [hstage] at hfollows
  | unknownIdentity hstage hlookup =>
    refine hs.move hstep rfl rfl fun k hk => ?_
    have hfollows := hs.follows _ k hk
    rw [hstage] at hfollows
    obtain rfl : _ = cfg.identity k := hfollows
    exact hr.disposing hi (hs.running _ k hk) (by rw [hlookup]; nofun)
  | @attach c identity j hstage hlookup =>
    refine hs.move hstep rfl rfl fun k hk => ?_
    have hfollows := hs.follows _ k hk
    rw [hstage] at hfollows
    obtain ⟨hrunning, hid⟩ := hi.entries.lookup _ _ hlookup
    have hrunning' := hs.running _ k hk
    exact hd j k (by rw [hrunning]; nofun) (by rw [hrunning']; nofun) (hid.trans hfollows)
  | _ =>
    exact ⟨fun c k hc => hstep.running (hs.running c k hc),
      fun c k hc => (hs.follows c k hc).step hstep⟩

lemma Followers.of_reach (h : (machine cfg).Reach s) (hd : Distinct cfg s) :
    Followers cfg s := by
  induction h with
  | init h =>
    obtain ⟨-, -, rfl⟩ := h
    exact ⟨nofun, nofun⟩
  | step h _ hs ih =>
    have hstep := (Step.of_step hs).2
    have hd' := hd.of_step hstep
    exact (ih hd').step (.of_reach h) (.of_reach (reachIf_fresh h hd')) hd' hstep

/-- The client opens a channel, which comes to its instance. -/
def opens (c k : ℕ) : List (Action ℕ) :=
  [.openChannel c k .portal, .greetChannel c true, .channel c, .channel c]

/-- A client is registered and opens a channel. -/
def exampleChannel : List (Action ℕ) := registers 7 ++ opens 0 7

/-- Two clients are registered, and the second one is the first to open a channel. -/
def exampleClients : List (Action ℕ) := registers 7 ++ registers 8 ++ opens 0 8 ++ opens 1 7

lemma exampleClients_run :
    ((machine numbered).run (start numbered) exampleClients).map (fun s =>
      (s.opener 0, s.opener 1, s.channel 0, s.channel 1)) =
        some (some 8, some 7, .attached 8, .attached 7) := by
  decide +kernel

end Registry

end Xcp
