import Mathlib
import Xcp.Library.Machine
import Xcp.ProgramOptions
import Xcp.Transfer.Header

/-!
# The sending transfer

`transfer_source` as a machine. Every channel runs `invoke_channel`: it claims the next range of
the current file from a shared offset, sends the part of it inside the file, and goes on to the
next file when its claim lies behind the end. How a channel tunes the size of its next claim
depends on the clock, so the action gives the size.
-/

namespace Xcp

open ProgramOptionsDefaults

namespace Source

/-- A file as the transfer finds it: its size is an `off_t`. -/
structure SourceFile where
  size : ℕ
  byte : ℕ → UInt8
  size_lt : size < 2 ^ 63

/-- `count` bytes from `offset` on. -/
def SourceFile.slice (file : SourceFile) (offset count : ℕ) : List UInt8 :=
  List.ofFn fun i : Fin count => file.byte (offset + i)

@[simp] lemma SourceFile.length_slice (file : SourceFile) (offset count : ℕ) :
    (file.slice offset count).length = count := by
  simp [slice]

lemma SourceFile.getD_slice (file : SourceFile) (offset : ℕ) {count i : ℕ} (hi : i < count) :
    (file.slice offset count).getD i 0 = file.byte (offset + i) := by
  simp [slice, List.getD_eq_getElem?_getD, hi]

/-- Where a channel is in `invoke_channel`. -/
inductive Pc (F : ℕ) where
  | claim (nFile : Fin F)
  | send (nFile : Fin F) (curr blockSize : ℕ)
  | report (nFile : Fin F) (blockSize : ℕ)
  | tail
  | returned (result : Bool)
  deriving DecidableEq

/-- Where the disposing thread is in `dispose_impl`; `idle` is before `dispose`. -/
inductive Disposer where
  | idle
  | closeHandle (nFile : ℕ)
  | done
  deriving DecidableEq

/-- `transfer_source` with `F` files, and its threads. `currChannelBlockSize` is local to each
channel, `fileOpen` tells that the descriptor of a file is open, and `sent` are the blocks that each
channel has sent. -/
structure State (F N : ℕ) where
  currOffset : Fin F → ℕ := fun _ => 0
  fileOpen : Fin F → Bool := fun _ => true
  totalSize : ℕ
  transferredSize : ℕ := 0
  currChannelBlockSize : Fin N → ℕ
  chan : Fin N → Pc F
  disposer : Disposer := .idle
  sent : Fin N → List (Block F) := fun _ => []

/-- What a thread does: `send_file` returns `true`, after which the channel claims `next` bytes at
a time, or a send returns `false`; the final tail is sent; the rest needs no answer. -/
inductive Action (N : ℕ) where
  | claim (c : Fin N)
  | send (c : Fin N) (next : ℕ)
  | report (c : Fin N)
  | sendTail (c : Fin N)
  | sendFailed (c : Fin N)
  | dispose
  deriving DecidableEq

variable {F N : ℕ}

/-- The start of the loop over the files, at index `i`. -/
def atFile (i : ℕ) : Pc F := if h : i < F then .claim ⟨i, h⟩ else .tail

/-- The new block size that `invoke_channel` makes of the measured one: aligned upwards to 64K and
at most `MAX_TRANSFER_BLOCK_SIZE`. -/
def tuneBlockSize (measured : ℕ) : ℕ :=
  let aligned := toU64 (measured + (1 <<< 16 - 1)) >>> 16 <<< 16
  if maxTransferBlockSize < aligned then maxTransferBlockSize
  else if aligned = 0 then 1 <<< 16
  else aligned

lemma tuneBlockSize_mem (measured : ℕ) :
    1 ≤ tuneBlockSize measured ∧ tuneBlockSize measured ≤ maxTransferBlockSize := by
  unfold tuneBlockSize
  simp only
  split_ifs with h h'
  · exact ⟨by decide, le_rfl⟩
  · exact ⟨by decide, by decide⟩
  · omega

namespace State

variable (files : Fin F → SourceFile) (s : State F N)

def setPc (c : Fin N) (pc : Pc F) : State F N := { s with chan := Function.update s.chan c pc }

def setDisposer (d : Disposer) : State F N := { s with disposer := d }

/-- `ctx.curr_offset.fetch_add(curr_channel_block_size)`. -/
def fetchAdd (c : Fin N) (n : Fin F) : State F N :=
  { s with
    currOffset := Function.update s.currOffset n
      (toU64 (s.currOffset n + s.currChannelBlockSize c)) }

/-- The claim loop up to the header: the claim and the clipping of the last block. -/
def claim (c : Fin N) (n : Fin F) : State F N :=
  let curr := s.currOffset n
  if (files n).size ≤ curr then (s.fetchAdd c n).setPc c (atFile (n + 1))
  else if (files n).size ≤ toU64 (curr + s.currChannelBlockSize c) then
    (s.fetchAdd c n).setPc c (.send n curr (Bytes.toU32 ((files n).size - curr)))
  else (s.fetchAdd c n).setPc c (.send n curr (s.currChannelBlockSize c))

/-- `send_file` has sent the block. -/
def sendBlock (c : Fin N) (n : Fin F) (curr blockSize next : ℕ) : State F N :=
  { s with
    sent := Function.update s.sent c (s.sent c ++ [⟨n, curr, (files n).slice curr blockSize⟩])
    currChannelBlockSize := Function.update s.currChannelBlockSize c next }

/-- `_transferred_size += block_size`. -/
def addTransferred (blockSize : ℕ) : State F N :=
  { s with transferredSize := toU64 (s.transferredSize + blockSize) }

/-- `close_handle` for file `n`. -/
def closeHandle (n : Fin F) : State F N :=
  { s with fileOpen := Function.update s.fileOpen n false }

/-- A step of the transfer. A file whose descriptor is closed cannot be sent from. -/
def step : Action N → Option (State F N)
  | .claim c =>
    match s.chan c with
    | .claim n => some (s.claim files c n)
    | _ => none
  | .send c next =>
    match s.chan c with
    | .send n curr blockSize =>
      if s.fileOpen n ∧ 1 ≤ next ∧ next ≤ maxTransferBlockSize then
        some ((s.sendBlock files c n curr blockSize next).setPc c (.report n blockSize))
      else none
    | _ => none
  | .report c =>
    match s.chan c with
    | .report n blockSize => some ((s.addTransferred blockSize).setPc c (.claim n))
    | _ => none
  | .sendTail c =>
    match s.chan c with
    | .tail => some (s.setPc c (.returned true))
    | _ => none
  | .sendFailed c =>
    match s.chan c with
    | .send _ _ _ | .tail => some (s.setPc c (.returned false))
    | _ => none
  | .dispose =>
    match s.disposer with
    | .idle => some (s.setDisposer (.closeHandle 0))
    | .closeHandle n =>
      if hn : n < F then some ((s.closeHandle ⟨n, hn⟩).setDisposer (.closeHandle (n + 1)))
      else some (s.setDisposer .done)
    | .done => none

section Projections

variable (c : Fin N) (pc : Pc F)

@[simp] lemma currOffset_setPc : (s.setPc c pc).currOffset = s.currOffset := rfl
@[simp] lemma fileOpen_setPc : (s.setPc c pc).fileOpen = s.fileOpen := rfl
@[simp] lemma totalSize_setPc : (s.setPc c pc).totalSize = s.totalSize := rfl
@[simp] lemma transferredSize_setPc : (s.setPc c pc).transferredSize = s.transferredSize := rfl
@[simp] lemma currChannelBlockSize_setPc :
    (s.setPc c pc).currChannelBlockSize = s.currChannelBlockSize := rfl
@[simp] lemma chan_setPc : (s.setPc c pc).chan = Function.update s.chan c pc := rfl
@[simp] lemma disposer_setPc : (s.setPc c pc).disposer = s.disposer := rfl
@[simp] lemma sent_setPc : (s.setPc c pc).sent = s.sent := rfl

end Projections

end State

/-- A transfer that has been prepared, with the first block sizes of its channels. -/
def start (files : Fin F → SourceFile) (blockSize : Fin N → ℕ) : State F N where
  totalSize := toU64 (List.ofFn fun n => (files n).size).sum
  currChannelBlockSize := blockSize
  chan _ := atFile 0

/-- The machine of a transfer that has been prepared. -/
def machine (files : Fin F → SourceFile) (N : ℕ) : Machine (State F N) (Action N) where
  init s := ∃ blockSize : Fin N → ℕ,
    (∀ c, 1 ≤ blockSize c ∧ blockSize c ≤ maxTransferBlockSize) ∧ s = start files blockSize
  step s a := s.step files a

/-! ### What a step can do -/

variable {files : Fin F → SourceFile}

/-- The steps, by the program counter of the thread that moves. -/
inductive Step (files : Fin F → SourceFile) (s : State F N) : Action N → State F N → Prop where
  | claim {c n} (hpc : s.chan c = .claim n) : Step files s (.claim c) (s.claim files c n)
  | send {c n curr blockSize next} (hpc : s.chan c = .send n curr blockSize)
      (hopen : s.fileOpen n = true) (hnext : 1 ≤ next ∧ next ≤ maxTransferBlockSize) :
      Step files s (.send c next)
        ((s.sendBlock files c n curr blockSize next).setPc c (.report n blockSize))
  | report {c n blockSize} (hpc : s.chan c = .report n blockSize) :
      Step files s (.report c) ((s.addTransferred blockSize).setPc c (.claim n))
  | sendTail {c} (hpc : s.chan c = .tail) : Step files s (.sendTail c) (s.setPc c (.returned true))
  | sendFailed {c} (hpc : (∃ n curr blockSize, s.chan c = .send n curr blockSize) ∨
        s.chan c = .tail) :
      Step files s (.sendFailed c) (s.setPc c (.returned false))
  | disposeStart (hd : s.disposer = .idle) :
      Step files s .dispose (s.setDisposer (.closeHandle 0))
  | disposeClose {n : Fin F} (hd : s.disposer = .closeHandle n) :
      Step files s .dispose ((s.closeHandle n).setDisposer (.closeHandle (n + 1)))
  | disposeDone {n} (hd : s.disposer = .closeHandle n) (hn : ¬ n < F) :
      Step files s .dispose (s.setDisposer .done)

lemma Step.of_step {s s' : State F N} {a : Action N} (h : s.step files a = some s') :
    Step files s a s' := by
  cases a with
  | claim c =>
    simp only [State.step] at h
    split at h <;> cases h
    exact .claim ‹_›
  | send c next =>
    simp only [State.step] at h
    split at h
    · split_ifs at h with hsend
      cases h
      exact .send ‹_› hsend.1 hsend.2
    · cases h
  | report c =>
    simp only [State.step] at h
    split at h <;> cases h
    exact .report ‹_›
  | sendTail c =>
    simp only [State.step] at h
    split at h <;> cases h
    exact .sendTail ‹_›
  | sendFailed c =>
    simp only [State.step] at h
    split at h <;> cases h
    · exact .sendFailed (.inl ⟨_, _, _, ‹_›⟩)
    · exact .sendFailed (.inr ‹_›)
  | dispose =>
    simp only [State.step] at h
    split at h
    · cases h
      exact .disposeStart ‹_›
    · next n hd =>
      split_ifs at h with hn <;> cases h
      · exact .disposeClose (n := ⟨n, hn⟩) hd
      · exact .disposeDone hd hn
    · cases h

/-- The channel that moves. -/
def Action.actor {N : ℕ} : Action N → Option (Fin N)
  | .claim c | .send c _ | .report c | .sendTail c | .sendFailed c => some c
  | .dispose => none

lemma chan_claim (files : Fin F → SourceFile) (s : State F N) (c : Fin N) (n : Fin F) :
    ∃ pc, (∀ r, pc ≠ .returned r) ∧ (s.claim files c n).chan = Function.update s.chan c pc := by
  unfold State.claim
  simp only
  split_ifs
  · refine ⟨atFile (n + 1), fun r => ?_, rfl⟩
    unfold atFile
    split_ifs <;> nofun
  · exact ⟨_, by nofun, rfl⟩
  · exact ⟨_, by nofun, rfl⟩

lemma sent_claim (s : State F N) (c : Fin N) (n : Fin F) :
    (s.claim files c n).sent = s.sent := by
  unfold State.claim
  simp only
  split_ifs <;> rfl

/-- A step moves no other channel. -/
lemma Step.chan_of_ne {s s' : State F N} {a : Action N} (h : Step files s a s') {c : Fin N}
    (hc : a.actor ≠ some c) : s'.chan c = s.chan c := by
  cases h with
  | @claim c' n hpc =>
    obtain ⟨pc, -, heq⟩ := chan_claim files s c' n
    rw [heq, Function.update_of_ne fun heq => hc (by simp [Action.actor, heq])]
  | disposeStart | disposeClose | disposeDone => rfl
  | _ => exact Function.update_of_ne (fun heq => hc (by simp [Action.actor, heq])) _ _

lemma Step.sent_of_ne {s s' : State F N} {a : Action N} (h : Step files s a s') {c : Fin N}
    (hc : a.actor ≠ some c) : s'.sent c = s.sent c := by
  cases h with
  | claim => rw [sent_claim]
  | send => exact Function.update_of_ne (fun heq => hc (by simp [Action.actor, heq])) _ _
  | _ => rfl

end Source

end Xcp
