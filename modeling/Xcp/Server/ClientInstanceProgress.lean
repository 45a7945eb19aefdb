import Xcp.Server.ClientInstanceChannels

/-!
# Disposing a client instance goes on

Whatever the disposing thread waits for has been released by something it did before: the socket is
disposed and the gates are open before it joins the portal thread, the lock of the rundown
protection is only held by threads that go on, and the socket of a channel is disposed before its
thread is joined.
-/

namespace Xcp

namespace ClientInstance

variable {n : ℕ} {s s' : State} {a : Action}

/-- A step of one of the threads of the instance that does not wait for the client: an operation on
a socket counts only if the socket is disposed. -/
def Unblocked (s : State) : Action → Prop
  | .portal | .create _ | .initialise _ | .channel _ | .dispose => True
  | .portalOp _      => s.socketOpen = false
  | .transferred c _ => s.chanOpen c = false
  | .startDispose | .openChannel _ | .loseChannel _ | .sendRequest | .close => False

/-- Some thread of the instance can go on. -/
def CanStep (n : ℕ) (s : State) : Prop :=
  ∃ a, Unblocked s a ∧ ((machine n).step s a).isSome

lemma step_of_fault (hfault : s.fault = none) (a : Action) :
    (machine n).step s a =
      match a with
      | .portal               => s.portalStep
      | .portalOp ok          => s.portalOp ok
      | .create r             => s.create r
      | .initialise r         => s.initialise n r
      | .channel c            => s.channelStep c
      | .loseChannel c        => s.loseChannel c
      | .transferred c result => s.transferred c result
      | .startDispose         => if s.disposer = .idle then some s.startDispose else none
      | .dispose              => s.disposeStep
      | .openChannel _ | .sendRequest | .close => s.clientStep a :=
  if_neg (not_not.mpr hfault)

lemma CanStep.portal (hfault : s.fault = none) (h : s.portalStep.isSome) : CanStep n s :=
  ⟨.portal, trivial, by rwa [step_of_fault hfault]⟩

lemma CanStep.channel {c : ℕ} (hfault : s.fault = none) (h : (s.channelStep c).isSome) :
    CanStep n s :=
  ⟨.channel c, trivial, by rwa [step_of_fault hfault]⟩

lemma CanStep.dispose (hfault : s.fault = none) (h : s.disposeStep.isSome) : CanStep n s :=
  ⟨.dispose, trivial, by rwa [step_of_fault hfault]⟩

/-- The portal thread goes on until it has ended, once the socket is disposed and the gates are
open. -/
lemma CanStep.of_joinPortal (hfault : s.fault = none) (hi : Inv s)
    (hd : s.disposer = .joinPortal) (hpc : s.portal ≠ .done) : CanStep n s := by
  have hopen : s.socketOpen = false := hi.teardown.socketOpen (by rw [hd]; decide)
  have hall := hi.teardown.all (by rw [hd]; decide)
  cases hportal : s.portal with
  | inside op =>
    refine ⟨.portalOp false, hopen, ?_⟩
    rw [step_of_fault hfault]
    simp [State.portalOp, hportal]
  | exchange =>
    refine ⟨.portalOp false, hopen, ?_⟩
    rw [step_of_fault hfault]
    simp [State.portalOp, hportal]
  | create =>
    refine ⟨.create .exception, trivial, ?_⟩
    rw [step_of_fault hfault]
    simp [State.create, hportal]
  | created =>
    refine ⟨.initialise .ok, trivial, ?_⟩
    rw [step_of_fault hfault]
    simp only [State.initialise, hportal]
    rcases s.transfer with _ | kind
    · rfl
    · cases kind <;> rfl
  | use op =>
    refine .portal hfault ?_
    simp only [State.portalStep, hportal]
    split_ifs <;> rfl
  | waitAll => exact .portal hfault (by simp [State.portalStep, hportal, hall])
  | waitFinished =>
    have hset := hi.transferring.finished hportal (by rw [hd]; decide)
    exact .portal hfault (by simp [State.portalStep, hportal, hset])
  | invoke =>
    refine .portal hfault ?_
    simp only [State.portalStep, hportal]
    rcases s.transfer with _ | kind
    · rfl
    · dsimp only
      split_ifs <;> rfl
  | check | signalReady | setReady | exit =>
    exact .portal hfault (by simp [State.portalStep, hportal])
  | done => exact absurd hportal hpc

/-- A channel that holds the lock of `channel_threads` leaves it. -/
lemma CanStep.of_holdsMutex {c : ℕ} (hfault : s.fault = none) (hpc : s.chan c = .holdsMutex) :
    CanStep n s :=
  .channel (c := c) hfault (by simp [State.channelStep, hpc])

/-- The lock of the rundown protection is free, or a channel goes on. -/
lemma CanStep.of_lockSerial (hfault : s.fault = none) (hi : Inv s)
    (hd : s.disposer = .lockSerial) : CanStep n s := by
  cases hserial : s.serial with
  | none => exact .dispose hfault (by simp [State.disposeStep, hd, hserial])
  | some owner =>
    cases owner with
    | disposer => exact absurd ((hi.locks.serialDisposer.mp hserial).symm.trans hd) nofun
    | channel c =>
      have hpc : s.chan c = .holdsSerial := (hi.locks.serial c).mpr hserial
      cases hmutex : s.mutex with
      | none =>
        refine .channel (c := c) hfault ?_
        simp only [State.channelStep, hpc, hmutex]
        split_ifs <;> rfl
      | some owner =>
        cases owner with
        | disposer =>
          have hstage := hi.locks.mutexDisposer.mp hmutex
          rw [hd] at hstage
          cases hstage
        | channel c' => exact .of_holdsMutex hfault ((hi.locks.mutex c').mpr hmutex)

lemma CanStep.of_lockMutex (hfault : s.fault = none) (hi : Inv s)
    (hd : s.disposer = .lockMutex) : CanStep n s := by
  cases hmutex : s.mutex with
  | none => exact .dispose hfault (by simp [State.disposeStep, hd, hmutex])
  | some owner =>
    cases owner with
    | disposer =>
      have hstage := hi.locks.mutexDisposer.mp hmutex
      rw [hd] at hstage
      cases hstage
    | channel c => exact .of_holdsMutex hfault ((hi.locks.mutex c).mpr hmutex)

/-- The thread of a channel goes on until it has ended, once its socket is disposed and the gates
are open. -/
lemma CanStep.of_joinChannel {c : ℕ} {rest : List ℕ} (hfault : s.fault = none) (hi : Inv s)
    (hd : s.disposer = .joinChannel c rest) (hpc : s.chan c ≠ .done) : CanStep n s := by
  have hready := hi.teardown.ready (by rw [hd]; exact Nat.le_of_ble_eq_true rfl)
  have hprogress := hi.channels.progress
  rw [hd] at hprogress
  cases hprogress with
  | before h => exact absurd h (by simp [DisposerPc.stage])
  | after h => exact absurd h (by simp [DisposerPc.stage])
  | @joinChannel pre _ _ hadded _ _ hopen =>
    have hmem : c ∈ s.added := by rw [hadded]; simp
    have hinside : (s.chan c).Inside :=
      ((hi.channels.added c).mp hmem).resolve_right hpc
    cases hchan : s.chan c with
    | absent | connecting | acquire | holdsSerial | holdsMutex | rejected | lost | done =>
      rw [hchan] at hinside
      exact hinside.elim
    | transferring kind =>
      refine ⟨.transferred c false, hopen, ?_⟩
      rw [step_of_fault hfault]
      simp [State.transferred, hchan]
    | waitReady => exact .channel (c := c) hfault (by simp [State.channelStep, hchan, hready])
    | assertTransfer | invoke =>
      refine .channel (c := c) hfault ?_
      simp only [State.channelStep, hchan]
      rcases s.transfer with _ | kind <;> rfl
    | signalAll | setAll | check | signalFinished | setFinished | exit =>
      exact .channel (c := c) hfault (by simp [State.channelStep, hchan])

/-- Disposal goes on: as long as it has begun and not ended, some thread of the instance can take a
step. -/
lemma CanStep.of_disposing (hfault : s.fault = none) (hi : Inv s) (hidle : s.disposer ≠ .idle)
    (hdone : s.disposer ≠ .done) : CanStep n s := by
  cases hd : s.disposer with
  | idle => exact absurd hd hidle
  | done => exact absurd hd hdone
  | joinPortal =>
    by_cases hpc : s.portal = .done
    · exact .dispose hfault (by simp [State.disposeStep, hd, hpc])
    · exact .of_joinPortal hfault hi hd hpc
  | lockSerial => exact .of_lockSerial hfault hi hd
  | lockMutex => exact .of_lockMutex hfault hi hd
  | joinChannel c rest =>
    by_cases hpc : s.chan c = .done
    · exact .dispose hfault (by simp [State.disposeStep, hd, hpc])
    · exact .of_joinChannel hfault hi hd hpc
  | disposeChannel rest =>
    cases rest <;> exact .dispose hfault (by simp [State.disposeStep, hd])
  | disposeTransfer =>
    refine .dispose hfault ?_
    simp only [State.disposeStep, hd]
    split_ifs <;> rfl
  | disposeSocket | resetSocket | forceAll | setAll | forceReady | setReady | ifTransfer
  | setFinished | resetTransfer | remove =>
    exact .dispose hfault (by simp [State.disposeStep, hd])

end ClientInstance

end Xcp
