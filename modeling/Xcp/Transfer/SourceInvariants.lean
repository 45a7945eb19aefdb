import Mathlib
import Xcp.Library.Tiling
import Xcp.Transfer.Source

/-!
# Exactly-once claiming

The ranges that the channels have claimed of a file, sent or not, always cut an initial segment of
it into consecutive pieces, and the shared offset never wraps: behind the end of the file every
channel claims at most once. So when all channels have passed the file, what they have sent covers
it without overlap.
-/

namespace Xcp

open ProgramOptionsDefaults Tiling

namespace Source

variable {F N : ℕ} {files : Fin F → SourceFile} {s s' : State F N} {a : Action N}

/-! ### What the channels hold -/

namespace Pc

/-- The range of file `n` that a channel has claimed and not sent. -/
def pending (n : Fin F) : Pc F → Multiset (ℕ × ℕ)
  | send m curr blockSize => if m = n then {(curr, blockSize)} else 0
  | _ => 0

/-- The bytes that a channel has sent and not reported. -/
def unreported : Pc F → ℕ
  | report _ blockSize => blockSize
  | _ => 0

/-- The channel will not claim of file `n` any more. -/
def Gone (n : Fin F) : Pc F → Prop
  | claim m | send m _ _ | report m _ => n < m
  | tail | returned _ => True

/-- The channel has passed file `n`: it has seen a claim behind its end. -/
def Passed (n : Fin F) : Pc F → Prop
  | claim m | send m _ _ | report m _ => n < m
  | tail | returned true => True
  | returned false => False

instance (n : Fin F) : DecidablePred (Gone n) := fun pc => by
  cases pc <;> simp only [Gone] <;> infer_instance

lemma Passed.gone {n : Fin F} {pc : Pc F} (h : pc.Passed n) : pc.Gone n := by
  cases pc with
  | returned r => trivial
  | _ => exact h

lemma Passed.pending {n : Fin F} {pc : Pc F} (h : pc.Passed n) : pc.pending n = 0 := by
  cases pc with
  | send m curr blockSize => exact if_neg (ne_of_gt h)
  | _ => rfl

lemma passed_atFile {n : Fin F} {i : ℕ} : (atFile i : Pc F).Passed n ↔ (n : ℕ) < i := by
  unfold atFile
  split_ifs with hi
  · exact Iff.rfl
  · exact iff_of_true trivial (n.isLt.trans_le (Nat.le_of_not_lt hi))

@[simp] lemma pending_atFile (n : Fin F) (i : ℕ) : (atFile i : Pc F).pending n = 0 := by
  unfold atFile
  split_ifs <;> rfl

@[simp] lemma unreported_atFile (i : ℕ) : (atFile i : Pc F).unreported = 0 := by
  unfold atFile
  split_ifs <;> rfl

end Pc

/-- The ranges of file `n` that channel `c` has sent or is about to send. -/
def holding (s : State F N) (n : Fin F) (c : Fin N) : Multiset (ℕ × ℕ) :=
  (((blocksOf (s.sent c) n).map Block.range : List (ℕ × ℕ)) : Multiset (ℕ × ℕ)) +
    (s.chan c).pending n

/-- The ranges of file `n` that have been claimed. -/
def claimed (s : State F N) (n : Fin F) : Multiset (ℕ × ℕ) := ∑ c, holding s n c

/-- The channels that will not claim of file `n` any more. -/
def gone (s : State F N) (n : Fin F) : ℕ := (Finset.univ.filter fun c => (s.chan c).Gone n).card

/-- The bytes that channel `c` has sent. -/
def sentSize (s : State F N) (c : Fin N) : ℕ := ((s.sent c).map (·.body.length)).sum

/-! ### Claims -/

/-- What holds of the claims in every state. What has been claimed and not sent by a channel that
has failed since is lost. -/
structure Inv (files : Fin F → SourceFile) (s : State F N) : Prop where
  blockSize : ∀ c, 1 ≤ s.currChannelBlockSize c ∧ s.currChannelBlockSize c ≤ maxTransferBlockSize
  tiles : ∀ n, ∃ lost, Tiles (claimed s n + lost) (min (s.currOffset n) (files n).size) ∧
    ((∀ c, s.chan c ≠ .returned false) → lost = 0)
  offset_le : ∀ n, s.currOffset n ≤ (files n).size + maxTransferBlockSize * (1 + gone s n)
  passed : ∀ c n, (s.chan c).Passed n → (files n).size ≤ s.currOffset n
  pending_le : ∀ c n curr blockSize, s.chan c = .send n curr blockSize →
    blockSize ≤ maxTransferBlockSize
  sent : ∀ c, ∀ b ∈ s.sent c, b.body = (files b.nFile).slice b.offset b.body.length ∧
    b.body.length ≤ maxTransferBlockSize
  transferred : ∃ t, s.transferredSize = toU64 t ∧
    t + ∑ c, (s.chan c).unreported = ∑ c, sentSize s c
  totalSize : s.totalSize = toU64 (List.ofFn fun n => (files n).size).sum

/-- A claim does not wrap the offset. -/
lemma Inv.add_lt (hI : Inv files s) (hN : N < 2 ^ 33) {c : Fin N} {n : Fin F}
    (hpc : s.chan c = .claim n) : s.currOffset n + s.currChannelBlockSize c < 2 ^ 64 := by
  have hgone : gone s n < N := by
    have hnot : ¬ (s.chan c).Gone n := by rw [hpc]; exact lt_irrefl n
    have hmem : c ∉ Finset.univ.filter fun c => (s.chan c).Gone n := fun h =>
      hnot (Finset.mem_filter.mp h).2
    have hss : (Finset.univ.filter fun c => (s.chan c).Gone n) ⊂ Finset.univ :=
      Finset.ssubset_univ_iff.mpr fun h => hmem (by rw [h]; exact Finset.mem_univ c)
    simpa [gone] using Finset.card_lt_card hss
  have hoff := hI.offset_le n
  have hsize := (files n).size_lt
  have hblock := (hI.blockSize c).2
  simp only [maxTransferBlockSize] at *
  omega

variable (files) in
/-- The two outcomes of a claim that does not wrap. -/
lemma claim_cases {c : Fin N} {n : Fin F}
    (hlt : s.currOffset n + s.currChannelBlockSize c < 2 ^ 64)
    (hblock : 1 ≤ s.currChannelBlockSize c ∧ s.currChannelBlockSize c ≤ maxTransferBlockSize) :
    ((files n).size ≤ s.currOffset n ∧
      s.claim files c n = (s.fetchAdd c n).setPc c (atFile (n + 1))) ∨
    (s.currOffset n < (files n).size ∧ ∃ k, 0 < k ∧ k ≤ maxTransferBlockSize ∧
      min (s.currOffset n + s.currChannelBlockSize c) (files n).size = s.currOffset n + k ∧
      s.claim files c n = (s.fetchAdd c n).setPc c (.send n (s.currOffset n) k)) := by
  unfold State.claim
  simp only [toU64_of_lt hlt]
  by_cases hend : (files n).size ≤ s.currOffset n
  · exact .inl ⟨hend, if_pos hend⟩
  · rw [if_neg hend]
    refine .inr ⟨by omega, ?_⟩
    by_cases hclip : (files n).size ≤ s.currOffset n + s.currChannelBlockSize c
    · rw [if_pos hclip]
      have hlt32 : (files n).size - s.currOffset n < 2 ^ 32 := by
        have := hblock.2
        simp only [maxTransferBlockSize] at this
        omega
      refine ⟨(files n).size - s.currOffset n, by omega, by omega, by omega, ?_⟩
      rw [Bytes.toU32_of_lt hlt32]
    · rw [if_neg hclip]
      exact ⟨_, hblock.1, hblock.2, by omega, rfl⟩

/-! ### How a step changes what the channels hold -/

section Frame

variable (s)

lemma holding_of_eq {t : State F N} {n : Fin F} {c : Fin N} (hsent : t.sent c = s.sent c)
    (hchan : t.chan c = s.chan c) : holding t n c = holding s n c := by
  rw [holding, holding, hsent, hchan]

/-- A channel that moves to `pc` without sending. -/
lemma claimed_setPc_add {t : State F N} (hsent : t.sent = s.sent) (hchan : t.chan = s.chan)
    (c : Fin N) (pc : Pc F) (n : Fin F) :
    claimed (t.setPc c pc) n + (s.chan c).pending n = claimed s n + pc.pending n := by
  refine sum_add_eq_sum_add c (fun i hi => ?_) ?_
  · exact holding_of_eq s (by simp [State.setPc, hsent])
      (by simp [State.setPc, hchan, Function.update_of_ne hi])
  · simp [holding, State.setPc, hsent, add_right_comm]

lemma gone_le_setPc {t : State F N} (hchan : t.chan = s.chan) (c : Fin N) (pc : Pc F) {n : Fin F}
    (h : (s.chan c).Gone n → pc.Gone n) : gone s n ≤ gone (t.setPc c pc) n := by
  refine Finset.card_le_card fun i hi => ?_
  simp only [Finset.mem_filter, Finset.mem_univ, true_and, State.setPc, hchan] at hi ⊢
  by_cases hic : i = c
  · subst hic
    rw [Function.update_self]
    exact h hi
  · rwa [Function.update_of_ne hic]

lemma gone_lt_setPc {t : State F N} (hchan : t.chan = s.chan) (c : Fin N) (pc : Pc F) {n : Fin F}
    (h : ¬ (s.chan c).Gone n) (h' : pc.Gone n) : gone s n < gone (t.setPc c pc) n := by
  refine Finset.card_lt_card ⟨fun i hi => ?_, fun hsub => h ?_⟩
  · simp only [Finset.mem_filter, Finset.mem_univ, true_and, State.setPc, hchan] at hi ⊢
    have hic : i ≠ c := fun heq => h (heq ▸ hi)
    rwa [Function.update_of_ne hic]
  · have hc : ((t.setPc c pc).chan c).Gone n := by simpa [State.setPc] using h'
    exact (Finset.mem_filter.mp (hsub (Finset.mem_filter.mpr ⟨Finset.mem_univ c, hc⟩))).2

/-- The ranges that are sent have been held before. -/
lemma claimed_sendBlock {c : Fin N} {m : Fin F} {curr blockSize : ℕ} (next : ℕ)
    (hpc : s.chan c = .send m curr blockSize) (n : Fin F) :
    claimed ((s.sendBlock files c m curr blockSize next).setPc c (.report m blockSize)) n =
      claimed s n := by
  refine Finset.sum_congr rfl fun i _ => ?_
  by_cases hi : i = c
  · subst hi
    by_cases hm : m = n
    · simp [holding, blocksOf, State.setPc, State.sendBlock, hpc, Pc.pending, hm, Block.range,
        ← Multiset.coe_add]
    · simp [holding, blocksOf, State.setPc, State.sendBlock, hpc, Pc.pending, hm]
  · exact holding_of_eq s (by simp [State.setPc, State.sendBlock, Function.update_of_ne hi])
      (by simp [State.setPc, State.sendBlock, Function.update_of_ne hi])

lemma sum_unreported_setPc {t : State F N} (hchan : t.chan = s.chan) (c : Fin N) (pc : Pc F) :
    ∑ i, ((t.setPc c pc).chan i).unreported + (s.chan c).unreported =
      ∑ i, (s.chan i).unreported + pc.unreported := by
  refine sum_add_eq_sum_add c (fun i hi => ?_) ?_
  · simp [State.setPc, hchan, Function.update_of_ne hi]
  · simp [State.setPc, add_comm]

lemma sum_sentSize_sendBlock (c : Fin N) (m : Fin F) (curr blockSize next : ℕ) :
    ∑ i, sentSize (s.sendBlock files c m curr blockSize next) i =
      blockSize + ∑ i, sentSize s i := by
  refine sum_eq_add_sum c (fun i hi => ?_) ?_
  · simp [sentSize, State.sendBlock, Function.update_of_ne hi]
  · simp [sentSize, State.sendBlock, add_comm]

/-- A channel that moves has not failed before. -/
lemma not_failed_of_setPc {t : State F N} (hchan : t.chan = s.chan) {c : Fin N} {pc : Pc F}
    (hpc : s.chan c ≠ .returned false) (h : ∀ i, (t.setPc c pc).chan i ≠ .returned false)
    (i : Fin N) : s.chan i ≠ .returned false := by
  by_cases hi : i = c
  · rwa [hi]
  · have := h i
    rwa [State.chan_setPc, Function.update_of_ne hi, hchan] at this

end Frame

/-- A channel that moves without a claim and without sending keeps the invariant. -/
lemma Inv.setPc (hI : Inv files s) {t : State F N}
    (hblock : t.currChannelBlockSize = s.currChannelBlockSize)
    (hoff : t.currOffset = s.currOffset) (hsent : t.sent = s.sent) (hchan : t.chan = s.chan)
    (htotal : t.totalSize = s.totalSize) {c : Fin N} {pc : Pc F}
    (htransferred : t.transferredSize = toU64 (s.transferredSize + (s.chan c).unreported))
    (hold : s.chan c ≠ .returned false) (hgone : ∀ n, (s.chan c).Gone n → pc.Gone n)
    (hpassed : ∀ n, pc.Passed n → (s.chan c).Passed n)
    (hpending : ∀ n, pc.pending n = 0)
    (hlost : pc ≠ .returned false → ∀ n, (s.chan c).pending n = 0)
    (hunreported : pc.unreported = 0)
    (hsend : ∀ n curr blockSize, pc ≠ .send n curr blockSize) : Inv files (t.setPc c pc) where
  blockSize i := by simpa [hblock] using hI.blockSize i
  tiles n := by
    obtain ⟨lost, htiles, hnone⟩ := hI.tiles n
    have hclaimed := claimed_setPc_add s hsent hchan c pc n
    rw [hpending, add_zero] at hclaimed
    refine ⟨(s.chan c).pending n + lost, ?_, fun h => ?_⟩
    · rwa [← add_assoc, hclaimed, State.currOffset_setPc, hoff]
    · rw [hnone (not_failed_of_setPc s hchan hold h), add_zero]
      exact hlost (by simpa using h c) n
  offset_le n := by
    have hle := gone_le_setPc s hchan c pc (hgone n)
    rw [State.currOffset_setPc, hoff]
    exact (hI.offset_le n).trans (by gcongr)
  passed i n hi := by
    rw [State.currOffset_setPc, hoff]
    rw [State.chan_setPc] at hi
    by_cases hic : i = c
    · subst hic
      rw [Function.update_self] at hi
      exact hI.passed i n (hpassed n hi)
    · rw [Function.update_of_ne hic, hchan] at hi
      exact hI.passed i n hi
  pending_le i n curr blockSize hi := by
    rw [State.chan_setPc] at hi
    by_cases hic : i = c
    · subst hic
      exact absurd (by simpa using hi) (hsend n curr blockSize)
    · rw [Function.update_of_ne hic, hchan] at hi
      exact hI.pending_le i n curr blockSize hi
  sent i b hb := hI.sent i b (by simpa [hsent] using hb)
  transferred := by
    obtain ⟨u, hu, hsum⟩ := hI.transferred
    refine ⟨u + (s.chan c).unreported, by simp [htransferred, hu, toU64], ?_⟩
    have hsum' := sum_unreported_setPc s hchan c pc
    have hsize : ∑ i, sentSize (t.setPc c pc) i = ∑ i, sentSize s i := by simp [sentSize, hsent]
    rw [hsize, ← hsum]
    omega
  totalSize := by rw [State.totalSize_setPc, htotal, hI.totalSize]

@[simp] lemma currOffset_fetchAdd (c : Fin N) (n : Fin F) : (s.fetchAdd c n).currOffset =
    Function.update s.currOffset n (toU64 (s.currOffset n + s.currChannelBlockSize c)) := rfl

/-- A claim keeps the invariant: inside the file it adds the next piece, and behind the end it is
the last one of the channel. -/
lemma Inv.claim (hI : Inv files s) (hN : N < 2 ^ 33) {c : Fin N} {n : Fin F}
    (hpc : s.chan c = .claim n) : Inv files (s.claim files c n) := by
  have hlt := hI.add_lt hN hpc
  have hblock := hI.blockSize c
  have hoff : (s.fetchAdd c n).currOffset =
      Function.update s.currOffset n (s.currOffset n + s.currChannelBlockSize c) := by
    rw [currOffset_fetchAdd, toU64_of_lt hlt]
  have hnone : ∀ m, (s.chan c).pending m = 0 := fun m => by rw [hpc]; rfl
  have hidle : (s.chan c).unreported = 0 := by rw [hpc]; rfl
  have hold : s.chan c ≠ .returned false := by rw [hpc]; nofun
  have hgrow : ∀ {k} m, k ≤ s.currOffset m → k ≤ (s.fetchAdd c n).currOffset m := by
    intro k m hk
    rw [hoff]
    by_cases hm : m = n
    · subst hm
      rw [Function.update_self]
      omega
    · rwa [Function.update_of_ne hm]
  -- the parts that both outcomes share
  have hcommon : ∀ pc : Pc F, pc.unreported = 0 →
      ∃ u, ((s.fetchAdd c n).setPc c pc).transferredSize = toU64 u ∧
        u + ∑ i, (((s.fetchAdd c n).setPc c pc).chan i).unreported =
          ∑ i, sentSize ((s.fetchAdd c n).setPc c pc) i := by
    intro pc hpcu
    obtain ⟨u, hu, hsum⟩ := hI.transferred
    have hsum' := sum_unreported_setPc s (t := s.fetchAdd c n) rfl c pc
    rw [hpcu, hidle, add_zero, add_zero] at hsum'
    exact ⟨u, hu, by rw [hsum']; exact hsum⟩
  rcases claim_cases files hlt hblock with ⟨hend, heq⟩ | ⟨hin, k, hk, hkmax, hmin, heq⟩
  · rw [heq]
    refine ⟨hI.blockSize, fun m => ?_, fun m => ?_, fun i m hi => ?_,
      fun i m curr blockSize hi => ?_, hI.sent, hcommon _ (Pc.unreported_atFile _), hI.totalSize⟩
    · obtain ⟨lost, htiles, hlost⟩ := hI.tiles m
      have hclaimed := claimed_setPc_add s (t := s.fetchAdd c n) rfl rfl c (atFile (n + 1)) m
      rw [hnone, Pc.pending_atFile, add_zero, add_zero] at hclaimed
      refine ⟨lost, ?_, fun h => hlost (not_failed_of_setPc s rfl hold h)⟩
      rw [hclaimed, State.currOffset_setPc, hoff]
      by_cases hm : m = n
      · subst hm
        rw [Function.update_self]
        rwa [show min (s.currOffset m + s.currChannelBlockSize c) (files m).size =
          min (s.currOffset m) (files m).size by omega]
      · rwa [Function.update_of_ne hm]
    · rw [State.currOffset_setPc, hoff]
      have hle := hI.offset_le m
      by_cases hm : m = n
      · subst hm
        rw [Function.update_self]
        have hgone := gone_lt_setPc s (t := s.fetchAdd c m) rfl c (atFile (m + 1)) (n := m)
          (by rw [hpc]; exact lt_irrefl m) (Pc.passed_atFile.mpr (Nat.lt_succ_self m)).gone
        calc s.currOffset m + s.currChannelBlockSize c
            ≤ (files m).size + maxTransferBlockSize * (1 + gone s m) + maxTransferBlockSize :=
              Nat.add_le_add hle hblock.2
          _ = (files m).size + maxTransferBlockSize * (1 + (gone s m + 1)) := by ring
          _ ≤ _ := by gcongr; exact hgone
      · rw [Function.update_of_ne hm]
        have hgone := gone_le_setPc s (t := s.fetchAdd c n) rfl c (atFile (n + 1)) (n := m) (by
            rw [hpc]
            exact fun h => (Pc.passed_atFile.mpr (Nat.lt_succ_of_lt h)).gone)
        exact hle.trans (by gcongr)
    · refine hgrow m (?_ : (files m).size ≤ s.currOffset m)
      rw [State.chan_setPc] at hi
      by_cases hic : i = c
      · rw [hic, Function.update_self, Pc.passed_atFile] at hi
        by_cases hm : m = n
        · rwa [hm]
        · have hlt : m < n := lt_of_le_of_ne (Nat.lt_succ_iff.mp hi) hm
          exact hI.passed c m (by rw [hpc]; exact hlt)
      · rw [Function.update_of_ne hic] at hi
        exact hI.passed i m hi
    · rw [State.chan_setPc] at hi
      by_cases hic : i = c
      · rw [hic, Function.update_self, atFile] at hi
        split_ifs at hi
      · rw [Function.update_of_ne hic] at hi
        exact hI.pending_le i m curr blockSize hi
  · rw [heq]
    have hoffmin : min (s.currOffset n) (files n).size = s.currOffset n := by omega
    refine ⟨hI.blockSize, fun m => ?_, fun m => ?_, fun i m hi => ?_,
      fun i m curr blockSize hi => ?_, hI.sent, hcommon _ rfl, hI.totalSize⟩
    · obtain ⟨lost, htiles, hlost⟩ := hI.tiles m
      have hclaimed := claimed_setPc_add s (t := s.fetchAdd c n) rfl rfl c
        (.send n (s.currOffset n) k) m
      rw [hnone, add_zero] at hclaimed
      refine ⟨lost, ?_, fun h => hlost (not_failed_of_setPc s rfl hold h)⟩
      rw [hclaimed, State.currOffset_setPc, hoff]
      by_cases hm : m = n
      · subst hm
        rw [Function.update_self, hmin, Pc.pending, if_pos rfl, add_right_comm, add_comm,
          Multiset.singleton_add]
        exact .snoc (hoffmin ▸ htiles) hk
      · rw [Function.update_of_ne hm, Pc.pending, if_neg (Ne.symm hm), add_zero]
        exact htiles
    · rw [State.currOffset_setPc, hoff]
      have hgone := gone_le_setPc s (t := s.fetchAdd c n) rfl c
        (.send n (s.currOffset n) k) (n := m) (by rw [hpc]; exact id)
      by_cases hm : m = n
      · subst hm
        rw [Function.update_self]
        have := hblock.2
        simp only [maxTransferBlockSize] at *
        omega
      · rw [Function.update_of_ne hm]
        exact (hI.offset_le m).trans (by gcongr)
    · refine hgrow m (?_ : (files m).size ≤ s.currOffset m)
      rw [State.chan_setPc] at hi
      by_cases hic : i = c
      · rw [hic, Function.update_self] at hi
        exact hI.passed c m (by rw [hpc]; exact hi)
      · rw [Function.update_of_ne hic] at hi
        exact hI.passed i m hi
    · rw [State.chan_setPc] at hi
      by_cases hic : i = c
      · rw [hic, Function.update_self] at hi
        cases hi
        exact hkmax
      · rw [Function.update_of_ne hic] at hi
        exact hI.pending_le i m curr blockSize hi

/-- Sending turns a pending range into a sent one. -/
lemma Inv.send (hI : Inv files s) {c : Fin N} {n : Fin F} {curr blockSize next : ℕ}
    (hpc : s.chan c = .send n curr blockSize) (hnext : 1 ≤ next ∧ next ≤ maxTransferBlockSize) :
    Inv files ((s.sendBlock files c n curr blockSize next).setPc c (.report n blockSize)) where
  blockSize i := by
    by_cases hi : i = c
    · subst hi
      simpa [State.sendBlock] using hnext
    · simpa [State.sendBlock, Function.update_of_ne hi] using hI.blockSize i
  tiles m := by
    obtain ⟨lost, htiles, hlost⟩ := hI.tiles m
    exact ⟨lost, by rwa [claimed_sendBlock s next hpc],
      fun h => hlost (not_failed_of_setPc s rfl (by rw [hpc]; nofun) h)⟩
  offset_le m := by
    have hgone := gone_le_setPc s (t := s.sendBlock files c n curr blockSize next) rfl c
      (.report n blockSize) (n := m) (by rw [hpc]; exact id)
    exact (hI.offset_le m).trans (by gcongr)
  passed i m hi := by
    rw [State.chan_setPc] at hi
    by_cases hic : i = c
    · rw [hic, Function.update_self] at hi
      exact hI.passed c m (by rw [hpc]; exact hi)
    · rw [Function.update_of_ne hic] at hi
      exact hI.passed i m hi
  pending_le i m curr' blockSize' hi := by
    rw [State.chan_setPc] at hi
    by_cases hic : i = c
    · subst hic
      simp at hi
    · rw [Function.update_of_ne hic] at hi
      exact hI.pending_le i m curr' blockSize' hi
  sent i b hb := by
    by_cases hi : i = c
    · subst hi
      have hb' : b ∈ s.sent i ∨ b = ⟨n, curr, (files n).slice curr blockSize⟩ := by
        simpa [State.sendBlock] using hb
      rcases hb' with hb' | rfl
      · exact hI.sent i b hb'
      · exact ⟨by simp, by simpa using hI.pending_le i n curr blockSize hpc⟩
    · exact hI.sent i b (by simpa [State.sendBlock, Function.update_of_ne hi] using hb)
  transferred := by
    obtain ⟨u, hu, hsum⟩ := hI.transferred
    refine ⟨u, hu, ?_⟩
    have hmoved := sum_unreported_setPc s (t := s.sendBlock files c n curr blockSize next) rfl c
      (.report n blockSize)
    have hold : (s.chan c).unreported = 0 := by rw [hpc]; rfl
    have hnew : (Pc.report n blockSize).unreported = blockSize := rfl
    have hsize : ∑ i, sentSize ((s.sendBlock files c n curr blockSize next).setPc c
        (.report n blockSize)) i = blockSize + ∑ i, sentSize s i :=
      sum_sentSize_sendBlock s c n curr blockSize next
    omega
  totalSize := hI.totalSize

lemma Inv.step (hI : Inv files s) (hN : N < 2 ^ 33) (h : Step files s a s') : Inv files s' := by
  cases h with
  | claim hpc => exact hI.claim hN hpc
  | send hpc hopen hnext => exact hI.send hpc hnext
  | @report c n blockSize hpc =>
    have hadd : (s.addTransferred blockSize).transferredSize =
        toU64 (s.transferredSize + (s.chan c).unreported) := by rw [hpc]; rfl
    have hgone : ∀ m, (s.chan c).Gone m → (Pc.claim n).Gone m := fun m h => by rwa [hpc] at h
    have hpassed : ∀ m, (Pc.claim n).Passed m → (s.chan c).Passed m := fun m h => by rwa [hpc]
    have hnone : ∀ m, (s.chan c).pending m = 0 := fun m => by rw [hpc]; rfl
    exact hI.setPc (t := s.addTransferred blockSize) rfl rfl rfl rfl rfl hadd
      (by rw [hpc]; nofun) hgone hpassed (fun _ => rfl) (fun _ => hnone) rfl (by nofun)
  | @sendTail c hpc =>
    have hidle : toU64 (s.transferredSize + (s.chan c).unreported) = s.transferredSize := by
      obtain ⟨u, hu, -⟩ := hI.transferred
      simp [hpc, Pc.unreported, hu, toU64]
    exact hI.setPc rfl rfl rfl rfl rfl hidle.symm (by rw [hpc]; nofun) (fun _ _ => trivial)
      (fun _ _ => by rw [hpc]; trivial) (fun _ => rfl) (fun _ m => by rw [hpc]; rfl) rfl (by nofun)
  | @sendFailed c hpc =>
    have hidle : toU64 (s.transferredSize + (s.chan c).unreported) = s.transferredSize := by
      obtain ⟨u, hu, -⟩ := hI.transferred
      rcases hpc with ⟨n, curr, blockSize, hpc⟩ | hpc <;> simp [hpc, Pc.unreported, hu, toU64]
    have hold : s.chan c ≠ .returned false := by
      rcases hpc with ⟨n, curr, blockSize, hpc⟩ | hpc <;> rw [hpc] <;> nofun
    exact hI.setPc rfl rfl rfl rfl rfl hidle.symm hold (fun _ _ => trivial) (fun _ h => h.elim)
      (fun _ => rfl) (fun h => absurd rfl h) rfl (by nofun)
  | disposeStart | disposeClose | disposeDone =>
    exact ⟨hI.blockSize, hI.tiles, hI.offset_le, hI.passed, hI.pending_le, hI.sent,
      hI.transferred, hI.totalSize⟩

lemma Inv.start {blockSize : Fin N → ℕ}
    (h : ∀ c, 1 ≤ blockSize c ∧ blockSize c ≤ maxTransferBlockSize) :
    Inv files (start files blockSize) where
  blockSize := h
  tiles n := ⟨0, by simpa [claimed, holding, Source.start, blocksOf] using Tiles.nil, fun _ => rfl⟩
  offset_le n := Nat.zero_le _
  passed c n hpc := absurd (Pc.passed_atFile.mp hpc) (Nat.not_lt_zero _)
  pending_le c n curr blockSize hpc := by
    simp only [Source.start, atFile] at hpc
    split_ifs at hpc
  sent c b hb := by simp [Source.start] at hb
  transferred := ⟨0, by simp [Source.start, toU64], by simp [Source.start, sentSize]⟩
  totalSize := rfl

lemma reach_inv (hN : N < 2 ^ 33) (h : (machine files N).Reach s) : Inv files s :=
  h.invariant (I := Inv files) (fun _ hs => by
      obtain ⟨_, hblock, rfl⟩ := hs
      exact Inv.start hblock)
    fun _ _ _ _ hI _ hstep => hI.step hN (Step.of_step hstep)

end Source

end Xcp
