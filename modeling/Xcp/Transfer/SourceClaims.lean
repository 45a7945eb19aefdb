import Xcp.Transfer.SourceInvariants

/-!
# What the claims amount to

Every run of the source is finite, every claim advances the shared offset by exactly its size, and
a file that all channels have passed has been sent once and completely.
-/

namespace Xcp

open ProgramOptionsDefaults Tiling

namespace Source

variable {F N : ℕ} {files : Fin F → SourceFile} {s s' : State F N} {a : Action N}

/-! ### Runs are finite -/

/-- How many steps a channel can take without finding a byte to send. -/
def Pc.rank : Pc F → ℕ
  | claim n      => F - n + 1
  | send n _ _   => F - n + 3
  | report n _   => F - n + 2
  | tail         => 1
  | returned _   => 0

def Disposer.rank (F : ℕ) : Disposer → ℕ
  | idle          => F + 2
  | closeHandle n => F - n + 1
  | done          => 0

/-- Every byte that is still unclaimed pays for three steps. -/
def rank (files : Fin F → SourceFile) (s : State F N) : ℕ :=
  3 * ∑ n, ((files n).size - s.currOffset n) + ∑ c, (s.chan c).rank + s.disposer.rank F

lemma rank_atFile (i : ℕ) : (atFile i : Pc F).rank = F - i + 1 := by
  unfold atFile
  split_ifs with hi
  · rfl
  · simp only [Pc.rank]
    omega

lemma sum_rank_setPc {t : State F N} (hchan : t.chan = s.chan) (c : Fin N) (pc : Pc F) :
    ∑ i, ((t.setPc c pc).chan i).rank + (s.chan c).rank = ∑ i, (s.chan i).rank + pc.rank := by
  refine sum_add_eq_sum_add c (fun i hi => ?_) ?_
  · simp [hchan, Function.update_of_ne hi]
  · simp [add_comm]

/-- A channel that moves without a claim comes closer to its end. -/
lemma rank_setPc_lt {t : State F N} (hchan : t.chan = s.chan) (hoff : t.currOffset = s.currOffset)
    (hd : t.disposer = s.disposer) {c : Fin N} {pc : Pc F} (h : pc.rank < (s.chan c).rank) :
    rank files (t.setPc c pc) < rank files s := by
  have hsum := sum_rank_setPc hchan c pc
  simp only [rank, State.currOffset_setPc, State.disposer_setPc, hoff, hd]
  omega

lemma rank_claim_lt (hI : Inv files s) (hN : N < 2 ^ 33) {c : Fin N} {n : Fin F}
    (hpc : s.chan c = .claim n) : rank files (s.claim files c n) < rank files s := by
  have hlt := hI.add_lt hN hpc
  have hblock := hI.blockSize c
  have hoff : (s.fetchAdd c n).currOffset =
      Function.update s.currOffset n (s.currOffset n + s.currChannelBlockSize c) := by
    rw [currOffset_fetchAdd, toU64_of_lt hlt]
  -- what is left of file `n`, the only one whose offset moves
  have hleft : ∑ m, ((files m).size - (s.fetchAdd c n).currOffset m) +
      ((files n).size - s.currOffset n) = ∑ m, ((files m).size - s.currOffset m) +
      ((files n).size - (s.currOffset n + s.currChannelBlockSize c)) := by
    refine sum_add_eq_sum_add n (fun m hm => ?_) ?_
    · rw [hoff, Function.update_of_ne hm]
    · rw [hoff, Function.update_self, add_comm]
  have hrank : (s.chan c).rank = F - n + 1 := by rw [hpc]; rfl
  have hn := n.isLt
  rcases claim_cases files hlt hblock with ⟨hend, heq⟩ | ⟨hin, k, hk, -, hmin, heq⟩ <;> rw [heq]
  · have hsum := sum_rank_setPc (s := s) (t := s.fetchAdd c n) rfl c (atFile (n + 1))
    rw [rank_atFile] at hsum
    simp only [rank, State.currOffset_setPc, State.disposer_setPc]
    have hd : (s.fetchAdd c n).disposer = s.disposer := rfl
    rw [hd]
    omega
  · have hsum := sum_rank_setPc (s := s) (t := s.fetchAdd c n) rfl c (.send n (s.currOffset n) k)
    have hsend : (Pc.send n (s.currOffset n) k).rank = F - n + 3 := rfl
    simp only [rank, State.currOffset_setPc, State.disposer_setPc]
    have hd : (s.fetchAdd c n).disposer = s.disposer := rfl
    rw [hd]
    omega

lemma Step.rank_lt (h : Step files s a s') (hI : Inv files s) (hN : N < 2 ^ 33) :
    rank files s' < rank files s := by
  cases h with
  | claim hpc => exact rank_claim_lt hI hN hpc
  | send hpc => exact rank_setPc_lt (s := s) rfl rfl rfl (by rw [hpc]; simp [Pc.rank])
  | report hpc => exact rank_setPc_lt (s := s) rfl rfl rfl (by rw [hpc]; simp [Pc.rank])
  | sendTail hpc => exact rank_setPc_lt rfl rfl rfl (by rw [hpc]; simp [Pc.rank])
  | sendFailed hpc =>
    refine rank_setPc_lt rfl rfl rfl ?_
    rcases hpc with ⟨n, curr, blockSize, hpc⟩ | hpc <;> rw [hpc] <;> simp [Pc.rank]
  | disposeStart hd => simp [rank, State.setDisposer, hd, Disposer.rank]
  | @disposeClose n hd =>
    have hn := n.isLt
    simp only [rank, State.setDisposer, State.closeHandle, hd, Disposer.rank]
    omega
  | disposeDone hd => simp [rank, State.setDisposer, hd, Disposer.rank]

lemma rank_start (blockSize : Fin N → ℕ) : rank files (start files blockSize) =
    3 * ∑ n, (files n).size + N * (F + 1) + (F + 2) := by
  simp [rank, start, rank_atFile, Disposer.rank]

/-! ### What has been sent -/

/-- The ranges of file `n` that all channels together have sent. -/
def sentRanges (s : State F N) (n : Fin F) : List (ℕ × ℕ) :=
  (List.ofFn fun c => (blocksOf (s.sent c) n).map Block.range).flatten

lemma mem_claimed_of_sent {c : Fin N} {b : Block F} (hb : b ∈ s.sent c) :
    b.range ∈ claimed s b.nFile := by
  refine Multiset.mem_sum.mpr ⟨c, Finset.mem_univ c, Multiset.mem_add.mpr (.inl ?_)⟩
  exact Multiset.mem_coe.mpr (List.mem_map_of_mem (List.mem_filter.mpr ⟨hb, by simp⟩))

lemma mem_claimed_of_send {c : Fin N} {n : Fin F} {curr blockSize : ℕ}
    (hpc : s.chan c = .send n curr blockSize) : (curr, blockSize) ∈ claimed s n :=
  Multiset.mem_sum.mpr ⟨c, Finset.mem_univ c,
    Multiset.mem_add.mpr (.inr (by simp [hpc, Pc.pending]))⟩

/-- A claimed range is not empty and inside its file. -/
lemma Inv.range_le (hI : Inv files s) {n : Fin F} {r : ℕ × ℕ} (hr : r ∈ claimed s n) :
    0 < r.2 ∧ r.1 + r.2 ≤ (files n).size := by
  obtain ⟨lost, htiles, -⟩ := hI.tiles n
  have hmem := Multiset.mem_add.mpr (.inl hr : r ∈ claimed s n ∨ r ∈ lost)
  exact ⟨htiles.pos hmem, (htiles.add_le hmem).trans (min_le_right _ _)⟩

lemma Inv.pos (hI : Inv files s) {c : Fin N} {b : Block F} (hb : b ∈ s.sent c) :
    0 < b.body.length :=
  (hI.range_le (mem_claimed_of_sent hb)).1

lemma Inv.block_le (hI : Inv files s) {c : Fin N} {b : Block F} (hb : b ∈ s.sent c) :
    b.offset + b.body.length ≤ (files b.nFile).size :=
  (hI.range_le (mem_claimed_of_sent hb)).2

lemma claimed_eq (s : State F N) (n : Fin F) :
    claimed s n = (sentRanges s n : Multiset (ℕ × ℕ)) + ∑ c, (s.chan c).pending n := by
  rw [sentRanges, coe_flatten_ofFn, ← Finset.sum_add_distrib]
  rfl

lemma sum_sentRanges (s : State F N) (n : Fin F) :
    ((sentRanges s n).map Prod.snd).sum = ∑ c, amount (s.sent c) n := by
  simp [sentRanges, List.map_flatten, List.sum_flatten, List.sum_ofFn, amount, Block.range,
    Function.comp_def]

/-- When all channels have passed a file, what they have sent tiles it. -/
lemma Inv.tiles_sentRanges (hI : Inv files s) (hN : 0 < N) {n : Fin F}
    (h : ∀ c, (s.chan c).Passed n) : Tiles (sentRanges s n) (files n).size := by
  obtain ⟨lost, htiles, hlost⟩ := hI.tiles n
  have hnone : ∑ c, (s.chan c).pending n = 0 := Finset.sum_eq_zero fun c _ => (h c).pending
  have hend := hI.passed ⟨0, hN⟩ n (h _)
  rwa [claimed_eq, hnone, hlost (fun c hc => by simpa [hc, Pc.Passed] using h c), add_zero,
    add_zero, min_eq_right hend] at htiles

/-- No more of a file is sent than it holds. -/
lemma Inv.sum_amount_le (hI : Inv files s) (n : Fin F) :
    ∑ c, amount (s.sent c) n ≤ (files n).size := by
  obtain ⟨lost, htiles, -⟩ := hI.tiles n
  have hsum := htiles.sum_length
  rw [claimed_eq, Multiset.map_add, Multiset.map_add, Multiset.sum_add, Multiset.sum_add,
    Multiset.map_coe, Multiset.sum_coe, sum_sentRanges] at hsum
  omega

lemma Inv.sum_amount_eq (hI : Inv files s) (hN : 0 < N) {n : Fin F}
    (h : ∀ c, (s.chan c).Passed n) : ∑ c, amount (s.sent c) n = (files n).size := by
  have hsum := (hI.tiles_sentRanges hN h).sum_length
  rwa [Multiset.map_coe, Multiset.sum_coe, sum_sentRanges] at hsum

lemma sum_sentSize (s : State F N) :
    ∑ c, sentSize s c = ∑ n, ∑ c, amount (s.sent c) n := by
  rw [Finset.sum_comm]
  exact Finset.sum_congr rfl fun c _ => (sum_amount (s.sent c)).symm

/-! ### Progress -/

/-- At the end the progress is the total. -/
lemma Inv.transferredSize_eq (hI : Inv files s) (hN : 0 < N) (h : ∀ c n, (s.chan c).Passed n) :
    s.transferredSize = s.totalSize := by
  obtain ⟨t, ht, hsum⟩ := hI.transferred
  have hnone : ∀ c, (s.chan c).unreported = 0 := fun c => by
    cases hpc : s.chan c with
    | report n blockSize =>
      have hlt : n < n := by simpa [hpc, Pc.Passed] using h c n
      exact absurd hlt (lt_irrefl n)
    | _ => rfl
  rw [Finset.sum_eq_zero fun c _ => hnone c, add_zero, sum_sentSize,
    Finset.sum_congr rfl fun n _ => hI.sum_amount_eq hN fun c => h c n] at hsum
  rw [ht, hI.totalSize, hsum, List.sum_ofFn]

/-- While the sizes add up without wrapping, the progress is at most the total. -/
lemma Inv.transferredSize_le (hI : Inv files s) (h : ∑ n, (files n).size < 2 ^ 64) :
    s.transferredSize ≤ s.totalSize := by
  obtain ⟨t, ht, hsum⟩ := hI.transferred
  have hle : t ≤ ∑ n, (files n).size := by
    calc t ≤ ∑ c, sentSize s c := by omega
      _ = ∑ n, ∑ c, amount (s.sent c) n := sum_sentSize s
      _ ≤ _ := Finset.sum_le_sum fun n _ => hI.sum_amount_le n
  rw [ht, hI.totalSize, List.sum_ofFn, toU64_of_lt (hle.trans_lt h), toU64_of_lt h]
  exact hle

/-- Exactly-once claiming, for a source with fewer than `2 ^ 33` channels: runs are finite, the
offsets never wrap, blocks are not empty, a file that all channels have passed is covered without
overlap, and the progress ends at the total, which it exceeds at no time unless the sizes add up to
`2 ^ 64` or more. -/
theorem claims_exactly_once (hN : 0 < N) (hN' : N < 2 ^ 33) {s₀ : State F N}
    (hs₀ : (machine files N).init s₀) {as : List (Action N)}
    (hrun : (machine files N).run s₀ as = some s) :
    as.length ≤ 3 * ∑ n, (files n).size + N * (F + 1) + (F + 2) ∧
    (∀ c s', (machine files N).step s (.claim c) = some s' → ∃ n, s.chan c = .claim n ∧
      s'.currOffset n = s.currOffset n + s.currChannelBlockSize c ∧
      ((files n).size ≤ s.currOffset n → s'.chan c = atFile (n + 1))) ∧
    (∀ c, ∀ b ∈ s.sent c, 0 < b.body.length) ∧
    (∀ n, (∀ c, (s.chan c).Passed n) → (sentRanges s n).Pairwise Apart ∧
      ∀ p, (∃ r ∈ sentRanges s n, Covers r p) ↔ p < (files n).size) ∧
    ((∀ c n, (s.chan c).Passed n) → s.transferredSize = s.totalSize) ∧
    (∑ n, (files n).size < 2 ^ 64 → s.transferredSize ≤ s.totalSize) := by
  have hreach := Machine.Reach.of_run (.init hs₀) hrun
  have hI := reach_inv hN' hreach
  refine ⟨?_, fun c s' hstep => ?_, fun c b hb => hI.pos hb, fun n h => ?_,
    hI.transferredSize_eq hN, hI.transferredSize_le⟩
  · have hlen := Machine.run_length_add_le (μ := rank files) (.init hs₀)
      (fun t a t' ht hstep => (Step.of_step hstep).rank_lt (reach_inv hN' ht) hN') hrun
    obtain ⟨blockSize, -, rfl⟩ := hs₀
    rw [rank_start] at hlen
    omega
  · cases Step.of_step (show s.step files (.claim c) = some s' from hstep) with | claim hpc
    have hlt := hI.add_lt hN' hpc
    refine ⟨_, hpc, ?_, fun hend => ?_⟩
    · rcases claim_cases files hlt (hI.blockSize c) with ⟨-, heq⟩ | ⟨-, k, -, -, -, heq⟩ <;>
        rw [heq] <;> simp [toU64_of_lt hlt]
    · simp [State.claim, hend]
  · have htiles := hI.tiles_sentRanges hN h
    exact ⟨htiles.pairwise, fun p => ⟨fun ⟨r, hr, hp⟩ => htiles.lt_of_covers hr hp,
      fun hp => htiles.exists_covers hp⟩⟩

/-- Files of five and of three bytes. -/
def smallFiles : Fin 2 → SourceFile :=
  ![⟨5, fun i => i.toUInt8, by decide⟩, ⟨3, fun i => i.toUInt8 + 100, by decide⟩]

/-- Two channels, the first of which claims two bytes at a time and the second one three. -/
def smallStart : State 2 2 := start smallFiles ![2, 3]

lemma smallStart_init : (machine smallFiles 2).init smallStart := ⟨![2, 3], by decide, rfl⟩

/-- The channels share both files. -/
def smallRun : List (Action 2) :=
  [.claim 0, .claim 1, .send 1 3, .send 0 2, .report 0, .claim 0, .claim 0, .report 1, .claim 1,
    .claim 1, .send 0 2, .send 1 3, .report 1, .claim 1, .report 0, .sendTail 1, .claim 0,
    .sendTail 0]

lemma smallRun_returned :
    ((machine smallFiles 2).run smallStart smallRun).map (fun s =>
      (s.chan 0, s.chan 1, (s.sent 0).map Block.range, (s.sent 1).map Block.range)) =
      some (.returned true, .returned true, [(0, 2), (0, 2)], [(2, 3), (2, 1)]) := by
  decide +kernel

/-- In this run the files are sent once and completely. -/
theorem claims_exactly_once_small :
    ∃ s, (machine smallFiles 2).run smallStart smallRun = some s ∧
      (∀ c n, (s.chan c).Passed n) ∧
      smallRun.length ≤ 3 * ∑ n, (smallFiles n).size + 2 * (2 + 1) + (2 + 2) ∧
      (∀ n, (sentRanges s n).Pairwise Apart ∧
        ∀ p, (∃ r ∈ sentRanges s n, Covers r p) ↔ p < (smallFiles n).size) ∧
      s.transferredSize = s.totalSize := by
  obtain ⟨s, hrun, h⟩ := Option.map_eq_some_iff.mp smallRun_returned
  simp only [Prod.mk.injEq] at h
  obtain ⟨hchan, hchan', -, -⟩ := h
  have hpassed : ∀ c n, (s.chan c).Passed n := by
    intro c n
    rcases Fin.exists_fin_two.mp ⟨c, rfl⟩ with rfl | rfl
    · rw [hchan]
      trivial
    · rw [hchan']
      trivial
  obtain ⟨hlength, -, -, hfiles, htotal, -⟩ :=
    claims_exactly_once (by decide) (by decide) smallStart_init hrun
  exact ⟨s, hrun, hpassed, hlength, fun n => hfiles n fun c => hpassed c n, htotal hpassed⟩

/-! ### Sizes that wrap -/

/-- Files of 2, `2 ^ 63 - 1` and `2 ^ 63 - 1` bytes: the sizes add up to `2 ^ 64`. -/
def hugeFiles : Fin 3 → SourceFile :=
  ![⟨2, fun _ => 0, by decide⟩, ⟨2 ^ 63 - 1, fun _ => 0, by decide⟩,
    ⟨2 ^ 63 - 1, fun _ => 0, by decide⟩]

/-- One channel that claims two bytes at a time. -/
def hugeStart : State 3 1 := start hugeFiles fun _ => 2

/-- The total has wrapped to zero, and the progress exceeds it after the first block. -/
theorem transferredSize_exceeds_huge :
    (∀ n, (hugeFiles n).size < 2 ^ 63) ∧
    ∃ s, (machine hugeFiles 1).run hugeStart [.claim 0, .send 0 2, .report 0] = some s ∧
      s.totalSize = 0 ∧ s.transferredSize = 2 ∧ ¬ s.transferredSize ≤ s.totalSize :=
  ⟨by decide, _, rfl, rfl, rfl, by decide⟩

end Source

end Xcp
