import Xcp.Transfer.DestinationRelease
import Xcp.Transfer.SessionLink

/-!
# What a session has copied

The destination never writes more of a file than the source has sent, so its counts are right in
every run of a session, whatever fails in it. A file of which as many bytes have been written as it
holds has been written at every position.
-/

namespace Xcp

open Tiling

lemma amount_le_of_isPrefix {F : ℕ} {bs bs' : List (Block F)} (h : bs <+: bs') (n : Fin F) :
    amount bs n ≤ amount bs' n := by
  obtain ⟨rest, rfl⟩ := h
  rw [amount_append]
  exact Nat.le_add_right _ _

namespace Session

open Destination (written Counted Reported)

variable {F N : ℕ} {cfg : Config F N} {s s' : State F N} {a : Action N}
  {C : State F N → Action N → Prop}

/-- A step of the session is one of its destination, or leaves it alone. -/
lemma Step.destination (h : Step cfg s a s') : s'.destination = s.destination ∨
    ∃ b, Destination.Step cfg.destinationEndian s.destination b s'.destination := by
  cases h with
  | recv _ _ h | recvFailed _ _ h | run _ h | dispose _ _ h => exact .inr ⟨_, h⟩
  | _ => exact .inl rfl

lemma reach_isPrefix (h : (machine cfg).ReachIf C s) (c : Fin N) :
    s.destination.received c <+: s.source.sent c :=
  (reach_link h c).isPrefix

lemma written_le_sent (h : (machine cfg).ReachIf C s) (n : Fin F) :
    written s.destination n ≤ ∑ c, amount (s.source.sent c) n :=
  Finset.sum_le_sum fun c _ => amount_le_of_isPrefix (reach_isPrefix h c) n

/-- No more of a file is written than it holds. -/
lemma written_le (h : (machine cfg).ReachIf C s) (n : Fin F) :
    written s.destination n ≤ (s.destination.filesInfo n).fileSize := by
  rw [(Destination.reach_fixed (reach_destination h)).filesInfo_eq]
  exact (written_le_sent h n).trans
    (((reach_sourceInv h).sum_amount_le n).trans_eq (cfg.fileSize_eq n).symm)

lemma reach_counted (h : (machine cfg).ReachIf C s) :
    Counted s.destination ∧ Reported s.destination := by
  refine h.invariant (I := fun s => Counted s.destination ∧ Reported s.destination)
    (fun s hs => ?_) fun s a s' hs hI _ hstep => ?_
  · obtain ⟨source, destination, -, hdestination, rfl⟩ := hs
    have hinit := Destination.Initial.of_init hdestination
    have hwritten : ∀ n, written destination n = 0 := fun n =>
      Finset.sum_eq_zero fun c _ => by rw [hinit.received_eq c, amount_nil]
    refine ⟨fun n => ?_, 0, hinit.transferredSize_eq.trans (Nat.zero_mod _).symm, ?_⟩
    · obtain ⟨_, -, hopened⟩ := hinit.opened
      have hzero : (destination.recvCtx n).receivedSize = 0 := by
        obtain ⟨fd, -, ⟨-, hctx, -⟩ | ⟨addr, -, -, hctx, -⟩⟩ := (hopened n).ctx_eq <;> rw [hctx]
      rw [hwritten, hzero, zero_add]
      exact Finset.sum_eq_zero fun c _ => by rw [hinit.chan_eq c]; rfl
    · rw [Finset.sum_eq_zero fun n _ => hwritten n, zero_add]
      exact Finset.sum_eq_zero fun c _ => by rw [hinit.chan_eq c]; rfl
  · have hfixed := Destination.reach_fixed (reach_destination hs)
    rcases (Step.of_step hstep).destination with heq | ⟨b, hb⟩
    · rwa [heq]
    · exact ⟨hI.1.step (written_le hs) hb hfixed, hI.2.step hI.1 (written_le hs) hb hfixed⟩

/-! ### Announced blocks -/

/-- The block that a channel is about to receive has been sent, and is part of what its file still
lacks, unless the source has failed. -/
lemma announced (h : (machine cfg).ReachIf C s) {c : Fin N}
    (hok : s.source.chan c ≠ .returned false) {offset blockSize nFile : ℕ}
    (hin : Incoming cfg.sourceEndian (s.source.chan c) (s.source.sent c) (s.wire c)
      (s.destination.received c) offset blockSize nFile) :
    ∃ b ∈ s.source.sent c, b.offset = offset ∧ b.body.length = blockSize ∧
      (b.nFile : ℕ) = nFile ∧ b.body = (s.wire c).take blockSize ∧
      written s.destination b.nFile + blockSize ≤ cfg.info.fileSize b.nFile := by
  rcases hin with ⟨b, queue, t, ho, hk, hn, hsent, hwire, -⟩ | ⟨hfailed, -⟩
  · refine ⟨b, by simp [hsent], ho, hk, hn, by simp [hwire, ← hk], ?_⟩
    have hc : amount (s.destination.received c) b.nFile + blockSize ≤
        amount (s.source.sent c) b.nFile := by
      rw [hsent, amount_append, amount_cons, if_pos rfl]
      omega
    have hsum : written s.destination b.nFile + blockSize =
        ∑ i, (amount (s.destination.received i) b.nFile + if i = c then blockSize else 0) := by
      rw [Finset.sum_add_distrib, Finset.sum_ite_eq' Finset.univ c, if_pos (Finset.mem_univ c)]
      rfl
    have hle : written s.destination b.nFile + blockSize ≤
        ∑ i, amount (s.source.sent i) b.nFile := by
      rw [hsum]
      refine Finset.sum_le_sum fun i _ => ?_
      by_cases hi : i = c
      · subst hi
        rwa [if_pos rfl]
      · rw [if_neg hi, add_zero]
        exact amount_le_of_isPrefix (reach_isPrefix h i) _
    exact hle.trans (((reach_sourceInv h).sum_amount_le _).trans_eq (cfg.fileSize_eq _).symm)
  · exact absurd hfailed hok

/-- A file of which a block is announced has not been counted completely. -/
lemma receivedSize_lt (h : (machine cfg).ReachIf C s) {n : Fin F} {blockSize : ℕ}
    (hpos : 0 < blockSize) (hle : written s.destination n + blockSize ≤ cfg.info.fileSize n) :
    (s.destination.recvCtx n).receivedSize < (s.destination.filesInfo n).fileSize := by
  rw [(Destination.reach_fixed (reach_destination h)).filesInfo_eq]
  have hcounted := (reach_counted h).1 n
  simp only [BasicTransferInfo.fileSize] at hle
  omega

/-! ### Complete files -/

/-- The ranges of file `n` that have been written. -/
def writtenRanges (s : Destination.State F N) (n : Fin F) : Multiset (ℕ × ℕ) :=
  ∑ c, (((blocksOf (s.received c) n).map Block.range : List (ℕ × ℕ)) : Multiset (ℕ × ℕ))

lemma sum_writtenRanges (s : Destination.State F N) (n : Fin F) :
    ((writtenRanges s n).map Prod.snd).sum = written s n := by
  rw [writtenRanges, ← Multiset.coe_mapAddMonoidHom, map_sum, Multiset.sum_sum]
  exact Finset.sum_congr rfl fun c _ => by simp [amount, Block.range, Function.comp_def]

lemma writtenRanges_le (h : (machine cfg).ReachIf C s) (n : Fin F) :
    writtenRanges s.destination n ≤ Source.claimed s.source n := by
  refine Finset.sum_le_sum fun c _ => le_trans ?_ (Multiset.le_add_right _ _)
  exact Multiset.coe_le.mpr
    (((reach_isPrefix h c).sublist.filter _).map Block.range).subperm

/-- A file of which all bytes have been written has been written at every position. -/
lemma exists_covers (h : (machine cfg).ReachIf C s) {n : Fin F}
    (hfull : written s.destination n = (cfg.files n).size) {p : ℕ} (hp : p < (cfg.files n).size) :
    ∃ c, ∃ b ∈ s.destination.received c, b.nFile = n ∧ Covers b.range p := by
  obtain ⟨lost, htiles, -⟩ := (reach_sourceInv h).tiles n
  have hle : writtenRanges s.destination n ≤ Source.claimed s.source n + lost :=
    (writtenRanges_le h n).trans (Multiset.le_add_right _ _)
  have hsum := sum_writtenRanges s.destination n
  have hmin : min (s.source.currOffset n) (cfg.files n).size = (cfg.files n).size := by
    have hlength := htiles.sum_length_le hle
    rw [hsum, hfull] at hlength
    exact le_antisymm (min_le_right _ _) hlength
  rw [hmin] at htiles
  obtain ⟨r, hr, hcovers⟩ := (htiles.of_le hle (hsum.trans hfull)).exists_covers hp
  obtain ⟨c, -, hr⟩ := Multiset.mem_sum.mp hr
  obtain ⟨b, hb, rfl⟩ := List.mem_map.mp (Multiset.mem_coe.mp hr)
  obtain ⟨hb, hn⟩ := List.mem_filter.mp hb
  exact ⟨c, b, hb, by simpa using hn, hcovers⟩

end Session

end Xcp
