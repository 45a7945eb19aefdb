import Mathlib
import Xcp.Library.RoundUp
import Xcp.Transfer.SourceClaims
import Xcp.Transfer.SourceInit

/-!
# Tuning the block size

Without a fixed block size, `invoke_channel` measures how long every `send_file` took and sizes the
next claim after it, so that a claim takes about a second. The two `double` expressions are rational
arithmetic here, and the casts back to `uint64_t` truncate.

The size that is scaled is the one that was claimed. Where the end of a file has clipped the block,
less was sent in that time.
-/

namespace Xcp

open Bytes Nat ProgramOptionsDefaults

namespace Source

/-- `tmp_block_size` as it is computed from the elapsed time, before its alignment. -/
def measureBlockSize (currChannelBlockSize : ℕ) (elapsedUsec : ℤ) : ℕ :=
  if elapsedUsec ≤ 0 then toU64 (currChannelBlockSize * 2)
  else if elapsedUsec ≤ 1000 * 1000 then
    ⌊(toU64 (currChannelBlockSize * 1000 * 1000) : ℚ) / elapsedUsec⌋₊
  else
    -- `DECAY = 0.8`
    let tmp : ℚ := (toU64 (currChannelBlockSize * 1000 * 1000) : ℚ) / elapsedUsec
    ⌊(currChannelBlockSize : ℚ) * (4 / 5) + tmp * (1 - 4 / 5)⌋₊

/-- The block size after a `send_file` that took `elapsedUsec`. -/
def adjustBlockSize (currChannelBlockSize : ℕ) (elapsedUsec : ℤ) : ℕ :=
  toU32 (tuneBlockSize (measureBlockSize currChannelBlockSize elapsedUsec))

/-- `curr_channel_block_size` of a channel whose sends took `times`, under automatic tuning. -/
def channelBlockSize (times : List ℤ) : ℕ := times.foldl adjustBlockSize (initBlockSize 0)

/-- What `curr_channel_block_size` always is: a multiple of 64K in its range. -/
structure Aligned (currChannelBlockSize : ℕ) : Prop where
  pos : 0 < currChannelBlockSize
  dvd : 1 <<< 16 ∣ currChannelBlockSize
  le : currChannelBlockSize ≤ maxTransferBlockSize

/-- Nothing is lost in the 64-bit products, in the alignment and in the cast to `uint32_t`. -/
structure NoOverflow (currChannelBlockSize : ℕ) (elapsedUsec : ℤ) : Prop where
  double : currChannelBlockSize * 2 < 2 ^ 64
  scaled : currChannelBlockSize * 1000 * 1000 < 2 ^ 64
  aligned : measureBlockSize currChannelBlockSize elapsedUsec + 1 <<< 16 < 2 ^ 64
  cast : tuneBlockSize (measureBlockSize currChannelBlockSize elapsedUsec) < 2 ^ 32

/-! ### One step of the tuning -/

variable {curr : ℕ} {t : ℤ}

/-- The alignment and the clamp: round up to 64K, at least once and at most to the maximum. -/
lemma tuneBlockSize_eq {measured : ℕ} (h : measured + 1 <<< 16 < 2 ^ 64) :
    tuneBlockSize measured = min maxTransferBlockSize (roundUp (1 <<< 16) (max 1 measured)) := by
  have hpos : 0 < 1 <<< 16 := by decide
  have hmax : roundUp (1 <<< 16) 1 ≤ maxTransferBlockSize :=
    (roundUp_le_iff hpos (by decide)).mpr (by decide)
  unfold tuneBlockSize
  simp only
  rw [show toU64 (measured + (1 <<< 16 - 1)) = measured + (1 <<< 16 - 1) from
    Nat.mod_eq_of_lt (lt_of_le_of_lt (by omega) h), shift_eq_roundUp]
  rcases Nat.eq_zero_or_pos measured with rfl | hmeas
  · rfl
  · rw [max_eq_right hmeas]
    have hround : 0 < roundUp (1 <<< 16) measured := hmeas.trans_le (le_roundUp hpos)
    split_ifs with hlt hzero
    · exact (min_eq_left hlt.le).symm
    · exact absurd hzero hround.ne'
    · exact (min_eq_right (not_lt.mp hlt)).symm

/-- Truncated, a quotient of naturals is their division. -/
lemma measureBlockSize_of_le_second {t : ℕ} (hcurr : curr * 1000 * 1000 < 2 ^ 64) (ht : 0 < t)
    (hle : t ≤ 1000 * 1000) : measureBlockSize curr t = curr * (1000 * 1000) / t := by
  rw [measureBlockSize, if_neg (by omega), if_pos (by exact_mod_cast hle),
    toU64, Nat.mod_eq_of_lt hcurr, mul_assoc]
  exact Nat.floor_div_eq_div _ t

/-- A send within a second never measures less than the size it began with. -/
lemma le_measureBlockSize (hcurr : curr * 1000 * 1000 < 2 ^ 64) (ht : t ≤ 1000 * 1000) :
    curr ≤ measureBlockSize curr t := by
  rcases le_or_gt t 0 with hneg | hpos
  · rw [measureBlockSize, if_pos hneg, toU64, Nat.mod_eq_of_lt (by omega)]
    omega
  · lift t to ℕ using hpos.le
    rw [measureBlockSize_of_le_second hcurr (by exact_mod_cast hpos) (by exact_mod_cast ht)]
    rw [Nat.le_div_iff_mul_le (by exact_mod_cast hpos)]
    exact Nat.mul_le_mul_left _ (by exact_mod_cast ht)

/-- A send that takes more than a second never measures more. -/
lemma measureBlockSize_le (hcurr : curr * 1000 * 1000 < 2 ^ 64) (ht : 1000 * 1000 < t) :
    measureBlockSize curr t ≤ curr := by
  have hsecond : ((1000 * 1000 : ℤ) : ℚ) < t := Int.cast_lt.mpr ht
  have hpos : (0 : ℚ) < t := lt_trans (by norm_num) hsecond
  have hcast : ((curr * 1000 * 1000 : ℕ) : ℚ) = curr * ((1000 * 1000 : ℤ) : ℚ) := by
    push_cast
    ring
  have htmp : ((curr * 1000 * 1000 : ℕ) : ℚ) / t ≤ curr := by
    rw [div_le_iff₀ hpos, hcast]
    exact mul_le_mul_of_nonneg_left hsecond.le (Nat.cast_nonneg curr)
  rw [measureBlockSize, if_neg (by omega), if_neg (by omega), toU64, Nat.mod_eq_of_lt hcurr]
  apply Nat.floor_le_of_le
  linarith

/-- What a send within a second measures is at most its size times the microseconds of a second. -/
lemma measureBlockSize_le_scaled (hcurr : curr * 1000 * 1000 < 2 ^ 64) :
    measureBlockSize curr t ≤ curr * 1000 * 1000 := by
  rcases lt_or_ge (1000 * 1000) t with hlt | hle
  · exact (measureBlockSize_le hcurr hlt).trans (by omega)
  rcases le_or_gt t 0 with hneg | hpos
  · rw [measureBlockSize, if_pos hneg, toU64, Nat.mod_eq_of_lt (by omega)]
    omega
  · lift t to ℕ using hpos.le
    rw [measureBlockSize_of_le_second hcurr (by exact_mod_cast hpos) (by exact_mod_cast hle)]
    exact (Nat.div_le_self _ _).trans (by omega)

namespace Aligned

lemma scaled_lt (h : Aligned curr) : curr * 1000 * 1000 < 2 ^ 50 := by
  have hle := h.le
  simp only [maxTransferBlockSize] at hle
  omega

lemma noOverflow (h : Aligned curr) (t : ℤ) : NoOverflow curr t := by
  have hlt := h.scaled_lt
  have hmeas : measureBlockSize curr t ≤ curr * 1000 * 1000 :=
    measureBlockSize_le_scaled (by omega)
  have hstep : 1 <<< 16 = 65536 := rfl
  exact {
    double := by omega
    scaled := by omega
    aligned := by omega
    cast := lt_of_le_of_lt (tuneBlockSize_mem _).2 (by decide) }

/-- The size after a send, for a size in range: no cast and no product shows. -/
lemma adjustBlockSize_eq (h : Aligned curr) (t : ℤ) :
    adjustBlockSize curr t =
      min maxTransferBlockSize (roundUp (1 <<< 16) (max 1 (measureBlockSize curr t))) := by
  rw [adjustBlockSize, toU32_of_lt (h.noOverflow t).cast, tuneBlockSize_eq (h.noOverflow t).aligned]

lemma adjust (h : Aligned curr) (t : ℤ) : Aligned (adjustBlockSize curr t) := by
  have hmem := tuneBlockSize_mem (measureBlockSize curr t)
  rw [adjustBlockSize, toU32_of_lt (h.noOverflow t).cast]
  refine ⟨hmem.1, ?_, hmem.2⟩
  rw [tuneBlockSize_eq (h.noOverflow t).aligned]
  rcases min_choice maxTransferBlockSize (roundUp (1 <<< 16) (max 1 (measureBlockSize curr t)))
    with heq | heq
  · rw [heq]
    decide
  · rw [heq]
    exact dvd_roundUp

lemma le_adjust (h : Aligned curr) (ht : t ≤ 1000 * 1000) : curr ≤ adjustBlockSize curr t := by
  have hmeas := le_measureBlockSize (h.scaled_lt.trans (by decide)) ht
  rw [h.adjustBlockSize_eq]
  apply le_min h.le
  exact (hmeas.trans (le_max_right _ _)).trans (le_roundUp (by decide))

lemma adjust_le (h : Aligned curr) (ht : 1000 * 1000 < t) : adjustBlockSize curr t ≤ curr := by
  rw [h.adjustBlockSize_eq]
  apply (min_le_right _ _).trans
  rw [roundUp_le_iff (by decide) h.dvd]
  exact max_le h.pos (measureBlockSize_le (h.scaled_lt.trans (by decide)) ht)

end Aligned

/-! ### Runs -/

lemma aligned_initBlockSize : Aligned (initBlockSize 0) where
  pos := by decide
  dvd := by decide
  le := by decide

@[simp] lemma channelBlockSize_nil : channelBlockSize [] = initBlockSize 0 := rfl

@[simp] lemma channelBlockSize_append (times : List ℤ) (t : ℤ) :
    channelBlockSize (times ++ [t]) = adjustBlockSize (channelBlockSize times) t := by
  simp only [channelBlockSize, List.foldl_append, List.foldl_cons, List.foldl_nil]

lemma aligned_channelBlockSize (times : List ℤ) : Aligned (channelBlockSize times) := by
  induction times using List.reverseRecOn with
  | nil => exact aligned_initBlockSize
  | append_singleton times t ih =>
    rw [channelBlockSize_append]
    exact ih.adjust t

/-- Whatever times a channel measures, its block size is a positive multiple of 64K up to the
maximum, nothing overflows, and the next send moves it in the direction of a second. -/
theorem channelBlockSize_tuned (times : List ℤ) :
    Aligned (channelBlockSize times) ∧
      ∀ t : ℤ, NoOverflow (channelBlockSize times) t ∧
        (t ≤ 1000 * 1000 → channelBlockSize times ≤ channelBlockSize (times ++ [t])) ∧
        (1000 * 1000 < t → channelBlockSize (times ++ [t]) ≤ channelBlockSize times) := by
  have h := aligned_channelBlockSize times
  refine ⟨h, fun t => ⟨h.noOverflow t, ?_, ?_⟩⟩
  · intro ht
    rw [channelBlockSize_append]
    exact h.le_adjust ht
  · intro ht
    rw [channelBlockSize_append]
    exact h.adjust_le ht

/-! ### Channels under automatic tuning -/

variable {F N : ℕ} {files : Fin F → SourceFile}

/-- The action of a step over which `elapsedUsec` was measured: a send sets the size that follows
from it. -/
def State.timed (s : State F N) : Action N × ℤ → Action N
  | (.send c _, elapsedUsec) => .send c (adjustBlockSize (s.currChannelBlockSize c) elapsedUsec)
  | (a, _) => a

/-- The machine of a transfer whose block size is not fixed. Every step comes with a time. -/
def automatic (files : Fin F → SourceFile) (N : ℕ) : Machine (State F N) (Action N × ℤ) where
  init s := s = start files fun _ => initBlockSize 0
  step s a := s.step files (s.timed a)

/-- Automatic tuning is one way to choose the sizes. -/
lemma reach_of_automatic {s : State F N} (h : (automatic files N).Reach s) :
    (machine files N).Reach s := by
  refine Machine.ReachIf.map id ?_ ?_ h
  · rintro s rfl
    refine ⟨fun _ => initBlockSize 0, fun _ => ?_, rfl⟩
    exact ⟨aligned_initBlockSize.pos, aligned_initBlockSize.le⟩
  · intro s a s' _ _ hs
    exact .inr ⟨s.timed a, trivial, hs⟩

/-- What holds under automatic tuning: every channel has the size that its times give, and has
claimed that much of its file or what is left of it. -/
structure Tuned (files : Fin F → SourceFile) (s : State F N) : Prop where
  blockSize : ∀ c, ∃ times, s.currChannelBlockSize c = channelBlockSize times
  send : ∀ c n curr blockSize, s.chan c = .send n curr blockSize →
    curr < (files n).size ∧ blockSize = min (s.currChannelBlockSize c) ((files n).size - curr)

lemma Tuned.aligned {s : State F N} (h : Tuned files s) (c : Fin N) :
    Aligned (s.currChannelBlockSize c) := by
  obtain ⟨times, htimes⟩ := h.blockSize c
  rw [htimes]
  exact aligned_channelBlockSize times

lemma tuned_start : Tuned files (start files fun _ => initBlockSize 0 : State F N) where
  blockSize _ := ⟨[], rfl⟩
  send c n curr blockSize hpc := by
    simp only [start, atFile] at hpc
    split_ifs at hpc

/-- The sum by which the end of the file is tested does not wrap. -/
lemma claim_eq {s : State F N} {c : Fin N} (h : Aligned (s.currChannelBlockSize c)) (n : Fin F) :
    s.claim files c n = (s.fetchAdd c n).setPc c
      (if (files n).size ≤ s.currOffset n then atFile (n + 1)
        else .send n (s.currOffset n)
          (min (s.currChannelBlockSize c) ((files n).size - s.currOffset n))) := by
  have hsize := (files n).size_lt
  have hle : s.currChannelBlockSize c ≤ 2 ^ 30 := h.le
  unfold State.claim
  simp only
  split_ifs with hend hclip
  · rfl
  · rw [toU64_of_lt (by omega)] at hclip
    rw [toU32_of_lt (by omega), min_eq_right (by omega)]
  · rw [toU64_of_lt (by omega)] at hclip
    rw [min_eq_left (by omega)]

/-- A channel moves and keeps its size. -/
lemma Tuned.update {s s' : State F N} (h : Tuned files s) {c : Fin N} {pc : Pc F}
    (hsize : s'.currChannelBlockSize = s.currChannelBlockSize)
    (hchan : s'.chan = Function.update s.chan c pc)
    (hpc : ∀ n curr blockSize, pc = .send n curr blockSize → curr < (files n).size ∧
      blockSize = min (s.currChannelBlockSize c) ((files n).size - curr)) : Tuned files s' where
  blockSize c := by
    rw [hsize]
    exact h.blockSize c
  send c' n curr blockSize hsend := by
    rw [hchan] at hsend
    rw [hsize]
    rcases eq_or_ne c' c with rfl | hne
    · rw [Function.update_self] at hsend
      exact hpc n curr blockSize hsend
    · rw [Function.update_of_ne hne] at hsend
      exact h.send c' n curr blockSize hsend

lemma timed_eq_send {s : State F N} {a : Action N × ℤ} {c : Fin N} {next : ℕ}
    (h : s.timed a = .send c next) :
    next = adjustBlockSize (s.currChannelBlockSize c) a.2 := by
  obtain ⟨a, t⟩ := a
  cases a with
  | send c' next' =>
    cases h
    rfl
  | _ => cases h

lemma Tuned.step {s s' : State F N} {a : Action N × ℤ} (h : Tuned files s)
    (hs : (automatic files N).step s a = some s') : Tuned files s' := by
  have hstep : Step files s (s.timed a) s' := Step.of_step hs
  generalize hb : s.timed a = b at hstep
  cases hstep with
  | @claim c n hpc =>
    rw [claim_eq (h.aligned c)]
    refine h.update rfl rfl ?_
    intro m curr blockSize hsend
    split_ifs at hsend with hend
    · unfold atFile at hsend
      split_ifs at hsend
    · cases hsend
      exact ⟨not_le.mp hend, rfl⟩
  | @send c n curr blockSize next hpc hopen hnext =>
    obtain ⟨times, htimes⟩ := h.blockSize c
    refine ⟨fun c' => ?_, fun c' m curr' blockSize' hsend => ?_⟩
    · rcases eq_or_ne c' c with rfl | hne
      · refine ⟨times ++ [a.2], ?_⟩
        rw [channelBlockSize_append, ← htimes, ← timed_eq_send hb]
        exact Function.update_self ..
      · obtain ⟨times', htimes'⟩ := h.blockSize c'
        refine ⟨times', ?_⟩
        rw [← htimes']
        exact Function.update_of_ne hne _ _
    · rcases eq_or_ne c' c with rfl | hne
      · simp at hsend
      · simp only [State.chan_setPc, Function.update_of_ne hne] at hsend
        have := h.send c' m curr' blockSize' hsend
        simpa [State.sendBlock, Function.update_of_ne hne] using this
  | disposeStart | disposeClose | disposeDone => exact ⟨h.blockSize, h.send⟩
  | _ => exact h.update rfl rfl (by intro _ _ _ heq; cases heq)

lemma reach_tuned {s : State F N} (h : (automatic files N).Reach s) : Tuned files s := by
  refine Machine.ReachIf.invariant ?_ ?_ h
  · rintro s rfl
    exact tuned_start
  · intro s a s' _ hT _ hs
    exact hT.step hs

/-! ### Following the bandwidth -/

/-- `block_size * 1000000 / elapsed_usec`, the bytes a second that were measured. -/
def bytesPerSecond (blockSize : ℕ) (elapsedUsec : ℤ) : ℕ :=
  ⌊((blockSize * 1000000 : ℕ) : ℚ) / elapsedUsec⌋₊

/-- The size that the bandwidth asks for: the bytes of a second, rounded up to 64K and capped. -/
def bandwidthBlockSize (blockSize : ℕ) (elapsedUsec : ℤ) : ℕ :=
  min maxTransferBlockSize (roundUp (1 <<< 16) (bytesPerSecond blockSize elapsedUsec))

/-- After a block that was sent within a second, the next claim follows the bandwidth. -/
def FollowsBandwidth : State F N → Action N × ℤ → State F N → Prop
  | s, (.send c _, elapsedUsec), s' => ∀ n curr blockSize, s.chan c = .send n curr blockSize →
      0 < elapsedUsec → elapsedUsec ≤ 1000000 →
      s'.currChannelBlockSize c = bandwidthBlockSize blockSize elapsedUsec
  | _, _, _ => True

/-- No multiple of 64K below the maximum lies between what is sent, scaled to a second, and what
was claimed, scaled to a second. -/
def Unseparated : State F N → Action N × ℤ → Prop
  | s, (.send c _, elapsedUsec) => ∀ n curr blockSize, s.chan c = .send n curr blockSize →
      0 < elapsedUsec → elapsedUsec ≤ 1000000 →
      ∀ m, 1 <<< 16 ∣ m → m < maxTransferBlockSize →
        bytesPerSecond blockSize elapsedUsec ≤ m →
        bytesPerSecond (s.currChannelBlockSize c) elapsedUsec ≤ m
  | _, _ => True

lemma bytesPerSecond_eq {blockSize t : ℕ} :
    bytesPerSecond blockSize t = blockSize * 1000000 / t := Nat.floor_div_eq_div _ t

lemma bytesPerSecond_mono {blockSize : ℕ} (h : blockSize ≤ curr) (ht : 0 < t) :
    bytesPerSecond blockSize t ≤ bytesPerSecond curr t := by
  lift t to ℕ using ht.le
  rw [bytesPerSecond_eq, bytesPerSecond_eq]
  exact Nat.div_le_div_right (Nat.mul_le_mul_right _ h)

/-- What the code computes of a send within a second: the bandwidth of the size it claimed. -/
lemma Aligned.adjustBlockSize_eq_bandwidth (h : Aligned curr) (ht : 0 < t) (hle : t ≤ 1000000) :
    adjustBlockSize curr t = bandwidthBlockSize curr t := by
  have hmeas := le_measureBlockSize (h.scaled_lt.trans (by decide)) hle
  rw [h.adjustBlockSize_eq, max_eq_right (h.pos.trans_le hmeas), bandwidthBlockSize]
  lift t to ℕ using ht.le
  rw [measureBlockSize_of_le_second (h.scaled_lt.trans (by decide)) (by exact_mod_cast ht)
    (by exact_mod_cast hle), bytesPerSecond_eq]

/-- One step: the size of the sender is right exactly when nothing separates the two rates. -/
lemma Tuned.step_followsBandwidth {s s' : State F N} {a : Action N × ℤ} (h : Tuned files s)
    (hs : (automatic files N).step s a = some s') : FollowsBandwidth s a s' ↔ Unseparated s a := by
  have hstep : Step files s (s.timed a) s' := Step.of_step hs
  obtain ⟨a, t⟩ := a
  cases a with
  | send c next =>
    simp only [FollowsBandwidth, Unseparated]
    refine forall_congr' fun n => forall_congr' fun curr => forall_congr' fun blockSize =>
      forall_congr' fun hpc => forall_congr' fun ht => forall_congr' fun hle => ?_
    have hnext : s'.currChannelBlockSize c = adjustBlockSize (s.currChannelBlockSize c) t := by
      simp only [State.timed] at hstep
      cases hstep
      exact Function.update_self ..
    have hblock : blockSize ≤ s.currChannelBlockSize c :=
      (h.send c n curr blockSize hpc).2.trans_le (min_le_left _ _)
    rw [hnext, (h.aligned c).adjustBlockSize_eq_bandwidth ht hle]
    exact min_roundUp_eq_iff (by decide) (bytesPerSecond_mono hblock ht)
  | _ => exact Iff.rfl

/-- A run under automatic tuning follows the bandwidth exactly as long as, at every block, no
multiple of 64K separates the rate of what is sent from the rate of what was claimed. -/
theorem followsBandwidth_iff (files : Fin F → SourceFile) (as : List (Action N × ℤ)) :
    (automatic files N).AllSteps FollowsBandwidth (start files fun _ => initBlockSize 0) as ↔
      (automatic files N).AllSteps (fun s a _ => Unseparated s a)
        (start files fun _ => initBlockSize 0) as := by
  refine Machine.allSteps_congr (I := Tuned files) tuned_start ?_ ?_ as
  · intro s a s' hT hs
    exact hT.step_followsBandwidth hs
  · intro s a s' hT hs _
    exact hT.step hs

/-- A block that is not clipped separates nothing. -/
lemma Unseparated.of_full {s : State F N} {a : Action N × ℤ}
    (h : ∀ c next, a.1 = .send c next → ∀ n curr blockSize, s.chan c = .send n curr blockSize →
      blockSize = s.currChannelBlockSize c) : Unseparated s a := by
  obtain ⟨a, t⟩ := a
  cases a with
  | send c next =>
    intro n curr blockSize hpc _ _ m _ _ hle
    rwa [← h c next rfl n curr blockSize hpc]
  | _ => exact trivial

lemma half_lt_fileBound : 524288 < 2 ^ 63 := by decide

/-- A file of half a block. -/
def halfFile : Fin 1 → SourceFile := fun _ => ⟨524288, fun _ => 0, half_lt_fileBound⟩

/-- Its only block is clipped, but on a fast channel both rates are above the maximum. -/
lemma unseparated_halfFile :
    (automatic halfFile 1).AllSteps (fun s a _ => Unseparated s a)
      (start halfFile fun _ => initBlockSize 0) [(.claim 0, 0), (.send 0 0, 400)] := by
  have hclaimed : ((automatic halfFile 1).step (start halfFile fun _ => initBlockSize 0)
      (.claim 0, 0)).map (fun s => (s.chan 0, s.currChannelBlockSize 0)) =
        some (.send 0 0 524288, 1048576) := by
    decide +kernel
  have hrate : maxTransferBlockSize ≤ bytesPerSecond 524288 400 := by
    rw [show (400 : ℤ) = (400 : ℕ) from rfl, bytesPerSecond_eq]
    decide
  intro s hclaim
  refine ⟨trivial, fun s' hsend => ⟨?_, trivial⟩⟩
  intro n curr blockSize hpc _ _ m _ hm hle
  rw [hclaim, Option.map_some, Option.some.injEq, Prod.mk.injEq, hpc] at hclaimed
  cases hclaimed.1
  omega

lemma one_lt_fileBound : 1 < 2 ^ 63 := by decide

/-- A file of one byte. -/
def oneByteFile : Fin 1 → SourceFile := fun _ => ⟨1, fun _ => 0, one_lt_fileBound⟩

/-- It is sent in a second, a byte a second, and the size stays at 1M. -/
theorem not_followsBandwidth_oneByteFile :
    ¬ (automatic oneByteFile 1).AllSteps FollowsBandwidth
      (start oneByteFile fun _ => initBlockSize 0) [(.claim 0, 0), (.send 0 0, 1000000)] := by
  have hrun : (((automatic oneByteFile 1).step (start oneByteFile fun _ => initBlockSize 0)
      (.claim 0, 0)).bind fun s => ((automatic oneByteFile 1).step s (.send 0 0, 1000000)).map
        fun s' => (s.chan 0, s'.currChannelBlockSize 0)) = some (.send 0 0 1, 1048576) := by
    decide +kernel
  have hbandwidth : bandwidthBlockSize 1 1000000 = 65536 := by decide +kernel
  obtain ⟨s, hclaim, hsend⟩ := Option.bind_eq_some_iff.mp hrun
  obtain ⟨s', hsend, heq⟩ := Option.map_eq_some_iff.mp hsend
  obtain ⟨hchan, hsize⟩ := Prod.mk.inj heq
  intro h
  have hfollows := ((h s hclaim).2 s' hsend).1 0 0 1 hchan (by decide) le_rfl
  rw [hsize, hbandwidth] at hfollows
  cases hfollows

end Source

end Xcp
