import Xcp.Transfer.Destination

/-!
# Steps of the receiving transfer

`Step` lists what each step of a channel or of `dispose_impl` needs and does; `Step.of_step` is the
inversion of the step function. The lemmas after it say what a step leaves alone.
-/

namespace Xcp

open Outcome

namespace Destination

variable {F N : ℕ}

namespace State

variable (s : State F N)

/-! ### Projections of the updates -/

section Projections

variable (c : Fin N) (pc : Pc F) (n : Fin F) (ctx : RecvFileContext) (b : Block F) (addr : ℕ)
  (bytes : List UInt8)

@[simp] lemma filesInfo_setPc : (s.setPc c pc).filesInfo = s.filesInfo := rfl
@[simp] lemma recvCtx_setPc : (s.setPc c pc).recvCtx = s.recvCtx := rfl
@[simp] lemma gate_setPc :
    (s.setPc c pc).gateAllChannelsFinished = s.gateAllChannelsFinished := rfl
@[simp] lemma totalSize_setPc : (s.setPc c pc).totalSize = s.totalSize := rfl
@[simp] lemma transferredSize_setPc : (s.setPc c pc).transferredSize = s.transferredSize := rfl
@[simp] lemma chan_setPc : (s.setPc c pc).chan = Function.update s.chan c pc := rfl
@[simp] lemma disposer_setPc : (s.setPc c pc).disposer = s.disposer := rfl
@[simp] lemma content_setPc : (s.setPc c pc).content = s.content := rfl
@[simp] lemma received_setPc : (s.setPc c pc).received = s.received := rfl
@[simp] lemma syscalls_setPc : (s.setPc c pc).syscalls = s.syscalls := rfl
@[simp] lemma aborted_setPc : (s.setPc c pc).aborted = s.aborted := rfl

@[simp] lemma setPc_setPc (pc' : Pc F) : (s.setPc c pc).setPc c pc' = s.setPc c pc' := by
  simp [State.setPc]

@[simp] lemma filesInfo_setCtx : (s.setCtx n ctx).filesInfo = s.filesInfo := rfl
@[simp] lemma recvCtx_setCtx : (s.setCtx n ctx).recvCtx = Function.update s.recvCtx n ctx := rfl
@[simp] lemma gate_setCtx :
    (s.setCtx n ctx).gateAllChannelsFinished = s.gateAllChannelsFinished := rfl
@[simp] lemma totalSize_setCtx : (s.setCtx n ctx).totalSize = s.totalSize := rfl
@[simp] lemma transferredSize_setCtx : (s.setCtx n ctx).transferredSize = s.transferredSize := rfl
@[simp] lemma chan_setCtx : (s.setCtx n ctx).chan = s.chan := rfl
@[simp] lemma disposer_setCtx : (s.setCtx n ctx).disposer = s.disposer := rfl
@[simp] lemma content_setCtx : (s.setCtx n ctx).content = s.content := rfl
@[simp] lemma received_setCtx : (s.setCtx n ctx).received = s.received := rfl
@[simp] lemma syscalls_setCtx : (s.setCtx n ctx).syscalls = s.syscalls := rfl
@[simp] lemma aborted_setCtx : (s.setCtx n ctx).aborted = s.aborted := rfl

@[simp] lemma recvCtx_setDisposer (d : Disposer) : (s.setDisposer d).recvCtx = s.recvCtx := rfl
@[simp] lemma disposer_setDisposer (d : Disposer) : (s.setDisposer d).disposer = d := rfl
@[simp] lemma chan_setDisposer (d : Disposer) : (s.setDisposer d).chan = s.chan := rfl
@[simp] lemma gate_setDisposer (d : Disposer) :
    (s.setDisposer d).gateAllChannelsFinished = s.gateAllChannelsFinished := rfl
@[simp] lemma aborted_setDisposer (d : Disposer) : (s.setDisposer d).aborted = s.aborted := rfl
@[simp] lemma aborted_setGate (gate : GateGuard) : (s.setGate gate).aborted = s.aborted := rfl
@[simp] lemma aborted_closeHandle : (s.closeHandle n).aborted = s.aborted := rfl
@[simp] lemma aborted_unmapFile : (s.unmapFile n).aborted = s.aborted := rfl
@[simp] lemma gate_setGate (gate : GateGuard) :
    (s.setGate gate).gateAllChannelsFinished = gate := rfl
@[simp] lemma chan_setGate (gate : GateGuard) : (s.setGate gate).chan = s.chan := rfl
@[simp] lemma disposer_setGate (gate : GateGuard) : (s.setGate gate).disposer = s.disposer := rfl

@[simp] lemma recvCtx_closeHandle :
    (s.closeHandle n).recvCtx = Function.update s.recvCtx n (s.recvCtx n).closeHandle.1 := rfl
@[simp] lemma recvCtx_unmapFile :
    (s.unmapFile n).recvCtx = Function.update s.recvCtx n (s.recvCtx n).unmapFile.1 := rfl
@[simp] lemma syscalls_closeHandle :
    (s.closeHandle n).syscalls = s.syscalls ++ (s.recvCtx n).closeHandle.2 := rfl
@[simp] lemma syscalls_unmapFile :
    (s.unmapFile n).syscalls = s.syscalls ++ (s.recvCtx n).unmapFile.2 := rfl

@[simp] lemma chan_closeHandle : (s.closeHandle n).chan = s.chan := rfl
@[simp] lemma chan_unmapFile : (s.unmapFile n).chan = s.chan := rfl
@[simp] lemma received_closeHandle : (s.closeHandle n).received = s.received := rfl
@[simp] lemma received_unmapFile : (s.unmapFile n).received = s.received := rfl
@[simp] lemma gate_closeHandle :
    (s.closeHandle n).gateAllChannelsFinished = s.gateAllChannelsFinished := rfl
@[simp] lemma gate_unmapFile :
    (s.unmapFile n).gateAllChannelsFinished = s.gateAllChannelsFinished := rfl
@[simp] lemma filesInfo_closeHandle : (s.closeHandle n).filesInfo = s.filesInfo := rfl
@[simp] lemma filesInfo_unmapFile : (s.unmapFile n).filesInfo = s.filesInfo := rfl

@[simp] lemma recvCtx_addTransferred (b : ℕ) : (s.addTransferred b).recvCtx = s.recvCtx := rfl
@[simp] lemma chan_addTransferred (b : ℕ) : (s.addTransferred b).chan = s.chan := rfl
@[simp] lemma received_addTransferred (b : ℕ) : (s.addTransferred b).received = s.received := rfl
@[simp] lemma aborted_addTransferred (b : ℕ) : (s.addTransferred b).aborted = s.aborted := rfl
@[simp] lemma filesInfo_addTransferred (b : ℕ) :
    (s.addTransferred b).filesInfo = s.filesInfo := rfl
@[simp] lemma gate_addTransferred (b : ℕ) :
    (s.addTransferred b).gateAllChannelsFinished = s.gateAllChannelsFinished := rfl

@[simp] lemma recvCtx_store : (s.store addr bytes).recvCtx = s.recvCtx := rfl
@[simp] lemma chan_store : (s.store addr bytes).chan = s.chan := rfl
@[simp] lemma received_store : (s.store addr bytes).received = s.received := rfl
@[simp] lemma received_addReceived :
    (s.addReceived c b).received = Function.update s.received c (s.received c ++ [b]) := rfl

end Projections

end State

/-! ### What a step can do -/

/-- The header that ends a stream. -/
def Tail (h : DecodedHeader) : Prop :=
  h.blockSize = 0 ∧ h.offset = 2 ^ 64 - 1 ∧ h.nFile = 2 ^ 32 - 1

/-- The steps, by the program counter of the thread that moves. -/
inductive Step (e : Bytes.Endian) (s : State F N) : Action N → State F N → Prop where
  | recvHeader {c bytes} (hpc : s.chan c = .header) (hlen : bytes.length = 16) :
      Step e s (.recv c bytes) (s.setPc c (.check (decodeHeader e bytes)))
  | recvBody {c bytes offset blockSize n ptr} (hpc : s.chan c = .body offset blockSize n ptr)
      (hlen : bytes.length = blockSize) :
      Step e s (.recv c bytes)
        (((s.store (toU64 (ptr.getD 0 + offset)) bytes).addReceived c ⟨n, offset, bytes⟩).setPc c
          (.count blockSize n))
  | headerFailed {c bytes} (hpc : s.chan c = .header) (hlen : bytes.length < 16) :
      Step e s (.recvFailed c bytes) (s.setPc c (.exit false))
  | bodyFailed {c bytes offset blockSize n ptr} (hpc : s.chan c = .body offset blockSize n ptr)
      (hlen : bytes.length < blockSize) :
      Step e s (.recvFailed c bytes)
        ((s.store (toU64 (ptr.getD 0 + offset)) bytes).setPc c (.exit false))
  | checkTail {c h} (hpc : s.chan c = .check h) (htail : Tail h) :
      Step e s (.run c) (s.setPc c (.exit true))
  | badTail {c h} (hpc : s.chan c = .check h) (hsize : h.blockSize = 0) (htail : ¬ Tail h) :
      Step e s (.run c) s.abort
  | badIndex {c h} (hpc : s.chan c = .check h) (hsize : h.blockSize ≠ 0) (hn : ¬ h.nFile < F) :
      Step e s (.run c) s.abort
  | mapped {c h base} (hpc : s.chan c = .check h) (hsize : h.blockSize ≠ 0) (hn : h.nFile < F)
      (hbase : (s.recvCtx ⟨h.nFile, hn⟩).dstFileMapped = some base) :
      Step e s (.run c) (s.setPc c (.load h.offset h.blockSize ⟨h.nFile, hn⟩))
  | disposed {c h} (hpc : s.chan c = .check h) (hsize : h.blockSize ≠ 0) (hn : h.nFile < F)
      (hnone : (s.recvCtx ⟨h.nFile, hn⟩).dstFileMapped = none) (hd : s.disposer ≠ .idle) :
      Step e s (.run c) (s.setPc c (.exit false))
  | unmapped {c h} (hpc : s.chan c = .check h) (hsize : h.blockSize ≠ 0) (hn : h.nFile < F)
      (hnone : (s.recvCtx ⟨h.nFile, hn⟩).dstFileMapped = none) (hd : s.disposer = .idle) :
      Step e s (.run c) s.abort
  | load {c offset blockSize n} (hpc : s.chan c = .load offset blockSize n) :
      Step e s (.run c) (s.setPc c (.body offset blockSize n (s.recvCtx n).dstFileMapped))
  | count {c blockSize n} (hpc : s.chan c = .count blockSize n) {s' : State F N}
      (hs' : s.countReceived c blockSize n = s') : Step e s (.run c) s'
  | unmap {c blockSize n} (hpc : s.chan c = .unmap blockSize n) :
      Step e s (.run c) ((s.unmapFile n).setPc c (.close blockSize n))
  | close {c blockSize n} (hpc : s.chan c = .close blockSize n) :
      Step e s (.run c) ((s.closeHandle n).setPc c (.report blockSize))
  | report {c blockSize} (hpc : s.chan c = .report blockSize) :
      Step e s (.run c) ((s.addTransferred blockSize).setPc c .header)
  | signal {c result} (hpc : s.chan c = .exit result) {s' : State F N}
      (hs' : s.signal c result = s') : Step e s (.run c) s'
  | setEvent {c result} (hpc : s.chan c = .setEvent result) :
      Step e s (.run c)
        ((s.setGate s.gateAllChannelsFinished.set).setPc c (.returned result))
  | disposeStart (hd : s.disposer = .idle) :
      Step e s .dispose (s.setDisposer (.closeHandle 0))
  | disposeClose {n : Fin F} (hd : s.disposer = .closeHandle n) :
      Step e s .dispose ((s.closeHandle n).setDisposer (.unmapFile n))
  | disposeUnmap {n : Fin F} (hd : s.disposer = .unmapFile n) :
      Step e s .dispose ((s.unmapFile n).setDisposer (.closeHandle (n + 1)))
  | disposeForce {n} (hd : s.disposer = .closeHandle n) (hn : ¬ n < F)
      (hgate : s.gateAllChannelsFinished.initialized) :
      Step e s .dispose ((s.setGate s.gateAllChannelsFinished.force).setDisposer .setEvent)
  | disposeNoGate {n} (hd : s.disposer = .closeHandle n) (hn : ¬ n < F)
      (hgate : ¬ s.gateAllChannelsFinished.initialized) :
      Step e s .dispose (s.setDisposer .done)
  | disposeSet (hd : s.disposer = .setEvent) :
      Step e s .dispose ((s.setGate s.gateAllChannelsFinished.set).setDisposer .done)

variable {e : Bytes.Endian} {s s' : State F N} {a : Action N}

lemma Step.of_recv {c : Fin N} {bytes : List UInt8} (h : s.recv e c bytes = some s') :
    Step e s (.recv c bytes) s' := by
  unfold State.recv at h
  split at h
  · next hpc =>
    split_ifs at h with hlen
    cases h
    exact .recvHeader hpc hlen
  · next hpc =>
    split_ifs at h with hlen
    cases h
    exact .recvBody hpc hlen
  · cases h

lemma Step.of_recvFailed {c : Fin N} {bytes : List UInt8} (h : s.recvFailed c bytes = some s') :
    Step e s (.recvFailed c bytes) s' := by
  unfold State.recvFailed at h
  split at h
  · next hpc =>
    split_ifs at h with hlen
    cases h
    exact .headerFailed hpc hlen
  · next hpc =>
    split_ifs at h with hlen
    cases h
    exact .bodyFailed hpc hlen
  · cases h

lemma Step.of_checkHeader {c : Fin N} {h : DecodedHeader} (hpc : s.chan c = .check h) :
    Step e s (.run c) (s.checkHeader c h) := by
  unfold State.checkHeader
  by_cases hsize : h.blockSize = 0
  · rw [if_pos hsize]
    split_ifs with htail
    · exact .checkTail hpc ⟨hsize, htail⟩
    · exact .badTail hpc hsize fun ht => htail ht.2
  · rw [if_neg hsize]
    by_cases hn : h.nFile < F
    · rw [dif_pos hn]
      split
      · next hbase => exact .mapped hpc hsize hn hbase
      · next hnone =>
        split_ifs with hd
        · exact .disposed hpc hsize hn hnone (by simpa [State.isDisposeRequired] using hd)
        · exact .unmapped hpc hsize hn hnone (by simpa [State.isDisposeRequired] using hd)
    · rw [dif_neg hn]
      exact .badIndex hpc hsize hn

lemma Step.of_runChannel {c : Fin N} (h : s.runChannel c = some s') : Step e s (.run c) s' := by
  unfold State.runChannel at h
  cases hpc : s.chan c with
  | check hd => rw [hpc] at h; cases h; exact .of_checkHeader hpc
  | load o b n => rw [hpc] at h; cases h; exact .load hpc
  | count b n => rw [hpc] at h; cases h; exact .count hpc rfl
  | unmap b n => rw [hpc] at h; cases h; exact .unmap hpc
  | close b n => rw [hpc] at h; cases h; exact .close hpc
  | report b => rw [hpc] at h; cases h; exact .report hpc
  | exit r => rw [hpc] at h; cases h; exact .signal hpc rfl
  | setEvent r => rw [hpc] at h; cases h; exact .setEvent hpc
  | header | body | returned => rw [hpc] at h; cases h

lemma Step.of_disposeStep (h : s.disposeStep = some s') : Step e s .dispose s' := by
  unfold State.disposeStep at h
  split at h
  · next hd => cases h; exact .disposeStart hd
  · next n hd =>
    split_ifs at h with hn hgate
    · cases h; exact .disposeClose (n := ⟨n, hn⟩) hd
    · cases h; exact .disposeForce hd hn hgate
    · cases h; exact .disposeNoGate hd hn hgate
  · next n hd =>
    split_ifs at h with hn
    cases h
    exact .disposeUnmap (n := ⟨n, hn⟩) hd
  · next hd => cases h; exact .disposeSet hd
  · cases h

/-- The inversion of the step function: the step is listed, and no `ASSERT` has failed before. -/
lemma Step.of_step (h : s.step e a = some s') : s.aborted = false ∧ Step e s a s' := by
  cases a with
  | recv c bytes | recvFailed c bytes | run c | dispose =>
    simp only [State.step] at h
    split_ifs at h with ha
    refine ⟨by simpa using ha, ?_⟩
    first
      | exact .of_recv h
      | exact .of_recvFailed h
      | exact .of_runChannel h
      | exact .of_disposeStep h

/-! ### Program counters -/

lemma chan_countReceived (c : Fin N) (blockSize : ℕ) (n : Fin F) :
    (s.countReceived c blockSize n).chan = s.chan ∨
      (s.countReceived c blockSize n).chan = Function.update s.chan c (.unmap blockSize n) ∨
      (s.countReceived c blockSize n).chan = Function.update s.chan c (.report blockSize) := by
  unfold State.countReceived
  simp only
  split_ifs
  · exact .inr (.inl rfl)
  · exact .inr (.inr rfl)
  · exact .inl rfl

lemma chan_signal (c : Fin N) (result : Bool) :
    (s.signal c result).chan = s.chan ∨
      (s.signal c result).chan = Function.update s.chan c (.setEvent result) ∨
      (s.signal c result).chan = Function.update s.chan c (.returned result) := by
  unfold State.signal
  by_cases hg : s.gateAllChannelsFinished.initialized
  · rw [if_pos hg]
    by_cases hr : s.gateAllChannelsFinished.increment.reached
    · exact .inr (.inl (by simp [hr]))
    · exact .inr (.inr (by simp [hr]))
  · rw [if_neg hg]
    exact .inl rfl

/-- A step moves no other channel. -/
lemma Step.chan_of_ne (h : Step e s a s') {c : Fin N} (hc : a.actor ≠ some c) :
    s'.chan c = s.chan c := by
  cases h with
  | @count c' b n hpc _ hs' =>
    have hne : c ≠ c' := fun heq => hc (by simp [Action.actor, heq])
    rcases chan_countReceived (s := s) c' b n with h | h | h <;> rw [← hs', h] <;>
      exact Function.update_of_ne hne _ _
  | @signal c' r hpc _ hs' =>
    have hne : c ≠ c' := fun heq => hc (by simp [Action.actor, heq])
    rcases chan_signal (s := s) c' r with h | h | h <;> rw [← hs', h] <;>
      exact Function.update_of_ne hne _ _
  | badTail | badIndex | unmapped => rfl
  | disposeStart | disposeClose | disposeUnmap | disposeForce | disposeNoGate | disposeSet => rfl
  | _ => exact Function.update_of_ne (fun heq => hc (by simp [Action.actor, heq])) _ _

lemma disposer_countReceived (c : Fin N) (blockSize : ℕ) (n : Fin F) :
    (s.countReceived c blockSize n).disposer = s.disposer := by
  unfold State.countReceived
  simp only
  split_ifs <;> rfl

lemma disposer_signal (c : Fin N) (result : Bool) :
    (s.signal c result).disposer = s.disposer := by
  unfold State.signal
  split_ifs <;> rfl

/-- Only `dispose` moves the disposing thread. -/
lemma Step.disposer_eq (h : Step e s a s') (ha : a ≠ .dispose) : s'.disposer = s.disposer := by
  cases h with
  | count hpc hs' => rw [← hs', disposer_countReceived]
  | signal hpc hs' => rw [← hs', disposer_signal]
  | disposeStart | disposeClose | disposeUnmap | disposeForce | disposeNoGate | disposeSet =>
    exact absurd rfl ha
  | _ => rfl

/-- `dispose` starts and goes on; it does not go back. -/
lemma Step.disposer_ne_idle (h : Step e s .dispose s') : s'.disposer ≠ .idle := by
  cases h <;> nofun

/-- A channel that has returned does not move. -/
lemma Step.not_returned (h : Step e s a s') {c : Fin N} (hc : a.actor = some c) (result : Bool) :
    s.chan c ≠ .returned result := by
  cases h with
  | disposeStart | disposeClose | disposeUnmap | disposeForce | disposeNoGate | disposeSet =>
    cases hc
  | recvHeader hpc | recvBody hpc | headerFailed hpc | bodyFailed hpc | checkTail hpc | badTail hpc
  | badIndex hpc | mapped hpc | disposed hpc | unmapped hpc | load hpc | count hpc | unmap hpc
  | close hpc | report hpc | signal hpc | setEvent hpc =>
    cases hc
    rw [hpc]
    nofun

/-- A channel receives a body at the address that it has loaded. -/
lemma Step.body (h : Step e s a s') {c : Fin N} {offset blockSize : ℕ} {n : Fin F}
    {ptr : Option ℕ} (hpc : s'.chan c = .body offset blockSize n ptr) :
    s.chan c = .body offset blockSize n ptr ∨
      (s.chan c = .load offset blockSize n ∧ ptr = (s.recvCtx n).dstFileMapped) := by
  by_cases hc : a.actor = some c
  · cases h with
    | load hpc' =>
      cases hc
      rw [State.chan_setPc, Function.update_self] at hpc
      cases hpc
      exact .inr ⟨hpc', rfl⟩
    | @count c' b m hpc' _ hs' =>
      cases hc
      rcases chan_countReceived (s := s) c b m with heq | heq | heq <;>
        simp [← hs', heq, hpc'] at hpc
    | @signal c' r hpc' _ hs' =>
      cases hc
      rcases chan_signal (s := s) c r with heq | heq | heq <;> simp [← hs', heq, hpc'] at hpc
    | badTail | badIndex | unmapped => exact .inl hpc
    | disposeStart | disposeClose | disposeUnmap | disposeForce | disposeNoGate | disposeSet =>
      cases hc
    | _ =>
      cases hc
      simp at hpc
  · rw [h.chan_of_ne hc] at hpc
    exact .inl hpc

lemma received_countReceived (c : Fin N) (blockSize : ℕ) (n : Fin F) :
    (s.countReceived c blockSize n).received = s.received := by
  unfold State.countReceived
  simp only
  split_ifs <;> rfl

lemma received_signal (c : Fin N) (result : Bool) :
    (s.signal c result).received = s.received := by
  unfold State.signal
  split_ifs <;> rfl

/-- Only the `recv` of a body adds to what has been received. -/
lemma Step.received_eq (h : Step e s a s') : s'.received = s.received ∨
    ∃ c bytes offset blockSize n ptr, a = .recv c bytes ∧
      s.chan c = .body offset blockSize n ptr ∧ bytes.length = blockSize ∧
      s'.received = Function.update s.received c (s.received c ++ [⟨n, offset, bytes⟩]) ∧
      s'.chan = Function.update s.chan c (.count blockSize n) := by
  cases h with
  | recvBody hpc hlen => exact .inr ⟨_, _, _, _, _, _, rfl, hpc, hlen, rfl, rfl⟩
  | count hpc hs' => exact .inl (by rw [← hs', received_countReceived])
  | signal hpc hs' => exact .inl (by rw [← hs', received_signal])
  | _ => exact .inl rfl

/-! ### The step function while no `ASSERT` has failed -/

section NotAborted

variable (ha : s.aborted = false)
include ha

lemma step_recv (c : Fin N) (bytes : List UInt8) :
    s.step e (.recv c bytes) = s.recv e c bytes := by
  simp [State.step, ha]

lemma step_run (c : Fin N) : s.step e (.run c) = s.runChannel c := by
  simp [State.step, ha]

lemma step_dispose : s.step e .dispose = s.disposeStep := by
  simp [State.step, ha]

end NotAborted

end Destination

end Xcp
