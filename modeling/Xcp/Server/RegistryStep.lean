import Xcp.Server.Registry

/-!
# What a server can do

The steps of the threads of a server, read off the step function.
-/

namespace Xcp

namespace Registry

variable {Id : Type} [DecidableEq Id]

/-- The steps of a server. -/
inductive Step (cfg : Config Id) (s : State Id) : Action Id → State Id → Prop where
  | acceptPortal {k} (haccept : s.accepting = true) (hstage : s.portal k = .absent) :
      Step cfg s (.acceptPortal k) (s.setPortal k .accepted)
  | greetPortal {k ok stage} (hstage : s.portal k = .accepted)
      (hstage' : stage = .waiting ∨ stage = .rejected) :
      Step cfg s (.greetPortal k ok) (s.setPortal k stage)
  | lockPortal {k} (hstage : s.portal k = .waiting) (hfree : s.clientsMutex = none) :
      Step cfg s (.portal k)
        ({ s with clientsMutex := some (.portal k) }.setPortal k .locked)
  | checkPortal {k} (hstage : s.portal k = .locked) (hd : s.disposer = .idle) :
      Step cfg s (.portal k) (s.setPortal k .checked)
  | refusePortal {k} (hstage : s.portal k = .locked) (hd : s.disposer ≠ .idle) :
      Step cfg s (.portal k) ({ s with clientsMutex := none }.setPortal k .rejected)
  | registerPortal {k} (hstage : s.portal k = .checked) :
      Step cfg s (.portal k) ({ s with
        clients := insertClient (cfg.identity k) k s.clients
        clientsMutex := none }.setPortal k .running)
  | openChannel {c k l} (haccept : s.accepting = true) (hstage : s.channel c = .absent)
      (hadvertised : advertised cfg.programOptions l = true) (hrunning : s.portal k = .running)
      (hinformed : (s.client k).informationSent = true) :
      Step cfg s (.openChannel c k l)
        ({ s with opener := Function.update s.opener c (some k) }.setChannel c
          (.accepted l (cfg.identity k)))
  | acceptChannel {c l identity} (haccept : s.accepting = true) (hstage : s.channel c = .absent) :
      Step cfg s (.acceptChannel c l identity) (s.setChannel c (.accepted l identity))
  | greetChannel {c l identity} (hstage : s.channel c = .accepted l identity)
      (hallow : l.allowRoleChannel cfg.programOptions = true) :
      Step cfg s (.greetChannel c true) (s.setChannel c (.waiting identity))
  | refuseChannel {c l identity} (hstage : s.channel c = .accepted l identity)
      (hallow : l.allowRoleChannel cfg.programOptions = false) :
      Step cfg s (.greetChannel c true) (s.setChannel c .notAllowed)
  | loseChannel {c l identity} (hstage : s.channel c = .accepted l identity) :
      Step cfg s (.greetChannel c false) (s.setChannel c .disconnected)
  | lockChannel {c identity} (hstage : s.channel c = .waiting identity)
      (hfree : s.clientsMutex = none) :
      Step cfg s (.channel c)
        ({ s with clientsMutex := some (.channel c) }.setChannel c (.locked identity))
  | unknownIdentity {c identity} (hstage : s.channel c = .locked identity)
      (hlookup : s.clients.lookup identity = none) :
      Step cfg s (.channel c) ({ s with clientsMutex := none }.setChannel c .unknownIdentity)
  | attach {c identity k} (hstage : s.channel c = .locked identity)
      (hlookup : s.clients.lookup identity = some k) :
      Step cfg s (.channel c)
        (({ s with clientsMutex := none }.setChannel c (.attached k)).setClient k
          (attach c (s.client k)))
  | client {k a i} (hrunning : s.portal k = .running) (ha : ofClient a = true)
      (hremove : a = .dispose → (s.client k).disposer = .remove → s.removal k ≠ .absent)
      (h : (s.client k).step cfg.programOptions.totalChannelRepeatsCount a = some i)
      (howned : a = .dispose → (s.client k).disposer = .joinPortal →
        s.clients.lookup (cfg.identity k) = some k) :
      Step cfg s (.client k a) ({ s with aborted := i.fault.isSome }.setClient k i)
  | spawn {k} (hrunning : s.portal k = .running) (hpc : (s.client k).disposer = .remove)
      (hremoval : s.removal k = .absent) (hd : s.disposer = .idle) :
      Step cfg s (.client k .dispose) (s.setRemoval k .spawned)
  | skip {k} (hrunning : s.portal k = .running) (hpc : (s.client k).disposer = .remove)
      (hremoval : s.removal k = .absent) (hd : s.disposer ≠ .idle) :
      Step cfg s (.client k .dispose) (s.setRemoval k .skipped)
  | checkRemoval {k} (hremoval : s.removal k = .spawned) (hd : s.disposer = .idle) :
      Step cfg s (.removal k) (s.setRemoval k .waiting)
  | abandonRemoval {k} (hremoval : s.removal k = .spawned) (hd : s.disposer ≠ .idle) :
      Step cfg s (.removal k) (s.setRemoval k .skipped)
  | erase {k} (hremoval : s.removal k = .waiting) (hfree : s.clientsMutex = none) :
      Step cfg s (.removal k)
        ({ s with clients := s.clients.erase (cfg.identity k) }.setRemoval k .erased)
  | shutdown (hd : s.disposer = .idle) : Step cfg s .shutdown { s with disposer := .closing }
  | closed (hd : s.disposer = .closing) : Step cfg s .dispose { s with disposer := .lock }
  | lock (hd : s.disposer = .lock) (hfree : s.clientsMutex = none) :
      Step cfg s .dispose { s with
        clientsMutex := some .disposer
        disposer := .next (s.clients.entries.map Sigma.snd) }
  | clear (hd : s.disposer = .next []) : Step cfg s .dispose { s with
      clients := ∅
      clientsMutex := none
      disposer := .done }
  | disposed {k rest} (hd : s.disposer = .waiting k rest)
      (hdone : (s.client k).disposer = .done) :
      Step cfg s .dispose { s with disposer := .next rest }
  | disposeClient {k rest} (hd : s.disposer = .next rest) (hk : k ∈ rest) :
      Step cfg s (.disposeClient k)
        ({ s with disposer := .waiting k (rest.erase k) }.setClient k
          (s.client k).startDispose)

variable {cfg : Config Id} {s s' : State Id}

lemma Step.of_portalStep {k : ℕ} (h : s.portalStep cfg k = some s') :
    Step cfg s (.portal k) s' := by
  unfold State.portalStep at h
  split at h
  · next hstage =>
    split_ifs at h with hfree
    cases h
    exact .lockPortal hstage hfree
  · next hstage =>
    cases h
    split_ifs with hd
    · exact .checkPortal hstage hd
    · exact .refusePortal hstage hd
  · next hstage =>
    cases h
    exact .registerPortal hstage
  · cases h

lemma Step.of_channelStep {c : ℕ} (h : s.channelStep c = some s') :
    Step cfg s (.channel c) s' := by
  unfold State.channelStep at h
  split at h
  · next identity hstage =>
    split_ifs at h with hfree
    cases h
    exact .lockChannel hstage hfree
  · next identity hstage =>
    split at h
    · next hlookup =>
      cases h
      exact .unknownIdentity hstage hlookup
    · next k hlookup =>
      cases h
      exact .attach hstage hlookup
  · cases h

lemma Step.of_clientStep {k : ℕ} {a : ClientInstance.Action} (h : s.clientStep cfg k a = some s') :
    Step cfg s (.client k a) s' := by
  unfold State.clientStep at h
  by_cases hrunning : s.portal k = .running ∧ ofClient a = true
  swap
  · rw [if_neg hrunning] at h
    cases h
  rw [if_pos hrunning] at h
  by_cases hjoin : a = .dispose ∧ (s.client k).disposer = .joinPortal ∧
      s.clients.lookup (cfg.identity k) ≠ some k
  · rw [if_pos hjoin] at h
    cases h
  rw [if_neg hjoin] at h
  by_cases hremove : a = .dispose ∧ (s.client k).disposer = .remove ∧ s.removal k = .absent
  · rw [if_pos hremove] at h
    cases h
    obtain ⟨rfl, hpc, hremoval⟩ := hremove
    split_ifs with hd
    · exact .spawn hrunning.1 hpc hremoval hd
    · exact .skip hrunning.1 hpc hremoval hd
  · rw [if_neg hremove] at h
    obtain ⟨i, hi, rfl⟩ := Option.map_eq_some_iff.mp h
    refine .client hrunning.1 hrunning.2 (fun ha hpc habsent => hremove ⟨ha, hpc, habsent⟩) hi ?_
    intro ha hpc
    by_contra hlookup
    exact hjoin ⟨ha, hpc, hlookup⟩

lemma Step.of_removalStep {k : ℕ} (h : s.removalStep cfg k = some s') :
    Step cfg s (.removal k) s' := by
  unfold State.removalStep at h
  split at h
  · next hremoval =>
    cases h
    split_ifs with hd
    · exact .checkRemoval hremoval hd
    · exact .abandonRemoval hremoval hd
  · next hremoval =>
    split_ifs at h with hfree
    cases h
    exact .erase hremoval hfree
  · cases h

lemma Step.of_disposeStep (h : s.disposeStep = some s') : Step cfg s .dispose s' := by
  unfold State.disposeStep at h
  split at h
  · cases h; exact .closed ‹_›
  · next hd =>
    split_ifs at h with hfree
    cases h
    exact .lock hd hfree
  · cases h; exact .clear ‹_›
  · next k rest hd =>
    split_ifs at h with hdone
    cases h
    exact .disposed hd hdone
  all_goals cases h

lemma Step.of_disposeClient {k : ℕ} (h : s.disposeClient k = some s') :
    Step cfg s (.disposeClient k) s' := by
  unfold State.disposeClient at h
  split at h
  · next rest hd =>
    split_ifs at h with hk
    cases h
    exact .disposeClient hd hk
  · cases h

/-- The steps of a server, as long as the process has not ended. -/
lemma Step.of_step {a : Action Id} (h : s.step cfg a = some s') :
    s.aborted = false ∧ Step cfg s a s' := by
  unfold State.step at h
  cases haborted : s.aborted with
  | true =>
    rw [if_pos haborted] at h
    cases h
  | false =>
    rw [if_neg (by simp [haborted])] at h
    refine ⟨rfl, ?_⟩
    cases a with
    | acceptPortal k =>
      simp only at h
      split_ifs at h with hif
      cases h
      exact .acceptPortal hif.1 hif.2
    | greetPortal k ok =>
      simp only at h
      by_cases hstage : s.portal k = .accepted
      · rw [if_pos hstage] at h
        cases h
        refine .greetPortal hstage ?_
        cases ok <;> simp
      · rw [if_neg hstage] at h
        cases h
    | portal k => exact .of_portalStep h
    | openChannel c k l =>
      simp only at h
      split_ifs at h with hif
      cases h
      exact .openChannel hif.1 hif.2.1 hif.2.2.1 hif.2.2.2.1 hif.2.2.2.2
    | acceptChannel c l identity =>
      simp only at h
      split_ifs at h with hif
      cases h
      exact .acceptChannel hif.1 hif.2
    | greetChannel c ok =>
      simp only at h
      split at h
      · next l identity hstage =>
        cases h
        cases ok with
        | false => exact .loseChannel hstage
        | true =>
          cases hallow : l.allowRoleChannel cfg.programOptions with
          | true => simpa [hallow] using Step.greetChannel hstage hallow
          | false => simpa [hallow] using Step.refuseChannel hstage hallow
      · cases h
    | channel c => exact .of_channelStep h
    | client k a => exact .of_clientStep h
    | removal k => exact .of_removalStep h
    | shutdown =>
      simp only at h
      split_ifs at h with hd
      cases h
      exact .shutdown hd
    | dispose => exact .of_disposeStep h
    | disposeClient k => exact .of_disposeClient h

end Registry

end Xcp
