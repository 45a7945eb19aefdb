import Xcp.Transfer.DestinationCount

/-!
# Completing a file

The channel that counts the last byte of a file unmaps and closes it. As long as no file is
exceeded and nothing is disposed there is one such channel for each file, and the file stays mapped
until then; what is stored in a mapped file shows there and in no other file.
-/

namespace Xcp

namespace Destination

variable {F N : ℕ} {info : BasicTransferInfo F} {os : OsAnswers info} {e : Bytes.Endian}
  {s s' : State F N} {a : Action N}

namespace Pc

/-- The channel has completed file `n` and is releasing it. -/
def Releasing (n : Fin F) : Pc F → Prop
  | unmap _ m | close _ m => m = n
  | _ => False

/-- The block that the channel receives or counts is not empty. -/
def Positive : Pc F → Prop
  | load _ blockSize _ | body _ blockSize _ _ | count blockSize _ => 0 < blockSize
  | _ => True

end Pc

lemma Step.positive (h : Step e s a s') (hs : ∀ c, (s.chan c).Positive) (c : Fin N) :
    (s'.chan c).Positive := by
  by_cases hc : a.actor = some c
  · have hpos := hs c
    cases h with
    | mapped hpc hsize =>
      cases hc
      simpa [Pc.Positive] using Nat.pos_of_ne_zero hsize
    | load hpc | recvBody hpc =>
      cases hc
      rw [hpc] at hpos
      simpa [Pc.Positive] using hpos
    | @count c' blockSize n hpc _ hs' =>
      cases hc
      rcases chan_countReceived (s := s) c blockSize n with heq | heq | heq <;> rw [← hs', heq]
      · exact hpos
      · simp [Pc.Positive]
      · simp [Pc.Positive]
    | @signal c' result hpc _ hs' =>
      cases hc
      rcases chan_signal (s := s) c result with heq | heq | heq <;> rw [← hs', heq]
      · exact hpos
      · simp [Pc.Positive]
      · simp [Pc.Positive]
    | badTail | badIndex | unmapped => exact hpos
    | disposeStart | disposeClose | disposeUnmap | disposeForce | disposeNoGate | disposeSet =>
      cases hc
    | _ =>
      cases hc
      simp [Pc.Positive]
  · rw [h.chan_of_ne hc]
    exact hs c

lemma reach_positive (h : (machine os N e).Reach s) (c : Fin N) : (s.chan c).Positive := by
  refine h.invariant (I := fun s => ∀ c, (s.chan c).Positive) (fun s hs c => ?_)
    (fun s a s' _ hs _ hstep => (Step.of_step hstep).2.positive hs) c
  rw [(Initial.of_init hs).chan_eq c]
  trivial

/-! ### One channel releases a file -/

/-- What is done with file `n`, which is not empty: it is received; or it is complete and one
channel unmaps it, and then closes it; or that has been done. -/
inductive Phase (s : State F N) (n : Fin F) : Prop where
  | receiving (hsize : (s.recvCtx n).receivedSize < (s.filesInfo n).fileSize)
      (hmapped : (s.recvCtx n).dstFileMapped ≠ none) (hopen : (s.recvCtx n).fileHandle ≠ none)
      (hnone : ∀ c, ¬ (s.chan c).Releasing n)
  | unmapping {c blockSize} (hpc : s.chan c = .unmap blockSize n)
      (hsize : (s.recvCtx n).receivedSize = (s.filesInfo n).fileSize)
      (hopen : (s.recvCtx n).fileHandle ≠ none)
      (hothers : ∀ i, i ≠ c → ¬ (s.chan i).Releasing n)
  | closing {c blockSize} (hpc : s.chan c = .close blockSize n)
      (hsize : (s.recvCtx n).receivedSize = (s.filesInfo n).fileSize)
      (hmapped : (s.recvCtx n).dstFileMapped = none)
      (hothers : ∀ i, i ≠ c → ¬ (s.chan i).Releasing n)
  | released (hsize : (s.recvCtx n).receivedSize = (s.filesInfo n).fileSize)
      (hmapped : (s.recvCtx n).dstFileMapped = none) (hclosed : (s.recvCtx n).fileHandle = none)
      (hnone : ∀ c, ¬ (s.chan c).Releasing n)

variable {n : Fin F}

/-- A channel that moves without releasing the file leaves it in its phase. -/
lemma Phase.of_setPc (h : Phase s n) {t : State F N} {c : Fin N} {pc : Pc F}
    (hctx : t.recvCtx n = s.recvCtx n) (hinfo : t.filesInfo = s.filesInfo)
    (hchan : t.chan = s.chan) (hpc : ¬ (s.chan c).Releasing n) (hpc' : ¬ pc.Releasing n) :
    Phase (t.setPc c pc) n := by
  have hkeep : ∀ i, ¬ (s.chan i).Releasing n → ¬ ((t.setPc c pc).chan i).Releasing n := by
    intro i hi
    rw [State.chan_setPc]
    by_cases hic : i = c
    · subst hic
      rwa [Function.update_self]
    · rwa [Function.update_of_ne hic, hchan]
  have hother : ∀ i, (s.chan i).Releasing n → (t.setPc c pc).chan i = s.chan i := by
    intro i hi
    have hic : i ≠ c := fun heq => hpc (heq ▸ hi)
    rw [State.chan_setPc, Function.update_of_ne hic, hchan]
  cases h with
  | receiving hsize hmapped hopen hnone =>
    exact .receiving (by simpa [hctx, hinfo] using hsize) (by simpa [hctx] using hmapped)
      (by simpa [hctx] using hopen) fun i => hkeep i (hnone i)
  | @unmapping i blockSize hi hsize hopen hothers =>
    have hi' := hother i (by rw [hi]; rfl)
    exact .unmapping (hi'.trans hi) (by simpa [hctx, hinfo] using hsize)
      (by simpa [hctx] using hopen) fun j hj => hkeep j (hothers j hj)
  | @closing i blockSize hi hsize hmapped hothers =>
    have hi' := hother i (by rw [hi]; rfl)
    exact .closing (hi'.trans hi) (by simpa [hctx, hinfo] using hsize)
      (by simpa [hctx] using hmapped) fun j hj => hkeep j (hothers j hj)
  | released hsize hmapped hclosed hnone =>
    exact .released (by simpa [hctx, hinfo] using hsize) (by simpa [hctx] using hmapped)
      (by simpa [hctx] using hclosed) fun i => hkeep i (hnone i)

/-- A file that is not received completely is mapped. -/
lemma Phase.mapped (h : Phase s n)
    (hsize : (s.recvCtx n).receivedSize < (s.filesInfo n).fileSize) :
    (s.recvCtx n).dstFileMapped ≠ none := by
  cases h with
  | receiving _ hmapped => exact hmapped
  | unmapping _ heq | closing _ heq | released heq => exact absurd heq hsize.ne

/-- The count of a block: the last one makes its channel release the file. -/
lemma Phase.count (h : Phase s n) (hc : Counted s)
    (hle : ∀ n, written s n ≤ (s.filesInfo n).fileSize) {c : Fin N} {blockSize : ℕ}
    (hpc : s.chan c = .count blockSize n) (hpos : 0 < blockSize) :
    Phase (s.countReceived c blockSize n) n := by
  have hadd := (hc.add_le hpc).trans (hle n)
  rw [countReceived_of_le hc hle hpc]
  cases h with
  | receiving hsize hmapped hopen hnone =>
    have hothers : ∀ (t : State F N) (pc : Pc F), t.chan = s.chan → ∀ i, i ≠ c →
        ¬ ((t.setPc c pc).chan i).Releasing n := by
      intro t pc hchan i hi
      rw [State.chan_setPc, Function.update_of_ne hi, hchan]
      exact hnone i
    by_cases heq : (s.recvCtx n).receivedSize + blockSize = (s.filesInfo n).fileSize
    · rw [if_pos heq]
      exact .unmapping (Function.update_self _ _ _) (by simpa using heq) (by simpa using hopen)
        (hothers _ _ rfl)
    · rw [if_neg heq]
      refine .receiving ?_ (by simpa using hmapped) (by simpa using hopen) fun i => ?_
      · simp only [State.recvCtx_setPc, State.recvCtx_setCtx, Function.update_self,
          State.filesInfo_setPc, State.filesInfo_setCtx]
        omega
      · by_cases hi : i = c
        · subst hi
          simp [Pc.Releasing]
        · exact hothers _ _ rfl i hi
  | unmapping _ hsize | closing _ hsize | released hsize => omega

lemma Phase.unmap (h : Phase s n) {c : Fin N} {blockSize : ℕ}
    (hpc : s.chan c = .unmap blockSize n) :
    Phase ((s.unmapFile n).setPc c (.close blockSize n)) n := by
  have hmine : (s.chan c).Releasing n := by rw [hpc]; rfl
  cases h with
  | receiving _ _ _ hnone | released _ _ _ hnone => exact absurd hmine (hnone c)
  | @unmapping i _ hi hsize hopen hothers =>
    have hic : c = i := by_contra fun hne => hothers c hne hmine
    subst hic
    refine .closing (Function.update_self _ _ _) (by simpa using hsize) ?_ fun j hj => ?_
    · cases hfd : (s.recvCtx n).fileHandle with
      | none => exact absurd hfd hopen
      | some fd => simp [RecvFileContext.unmapFile, hfd]
    · rw [State.chan_setPc, Function.update_of_ne hj]
      exact hothers j hj
  | @closing i _ hi _ _ hothers =>
    have hic : c = i := by_contra fun hne => hothers c hne hmine
    rw [← hic, hpc] at hi
    cases hi

lemma Phase.close (h : Phase s n) {c : Fin N} {blockSize : ℕ}
    (hpc : s.chan c = .close blockSize n) :
    Phase ((s.closeHandle n).setPc c (.report blockSize)) n := by
  have hmine : (s.chan c).Releasing n := by rw [hpc]; rfl
  cases h with
  | receiving _ _ _ hnone | released _ _ _ hnone => exact absurd hmine (hnone c)
  | @unmapping i _ hi _ _ hothers =>
    have hic : c = i := by_contra fun hne => hothers c hne hmine
    rw [← hic, hpc] at hi
    cases hi
  | @closing i _ hi hsize hmapped hothers =>
    have hic : c = i := by_contra fun hne => hothers c hne hmine
    subst hic
    refine .released (by simpa using hsize) (by simpa using hmapped) (by simp) fun j => ?_
    by_cases hj : j = c
    · subst hj
      simp [Pc.Releasing]
    · rw [State.chan_setPc, Function.update_of_ne hj]
      exact hothers j hj

/-- A step of a channel takes a file at most to its next phase. -/
lemma Phase.step (h : Phase s n) (hc : Counted s)
    (hle : ∀ n, written s n ≤ (s.filesInfo n).fileSize) (hpos : ∀ c, (s.chan c).Positive)
    (hs : Fixed info s) (hstep : Step e s a s') (ha : a ≠ .dispose) : Phase s' n := by
  cases hstep with
  | recvHeader hpc | recvBody hpc | headerFailed hpc | bodyFailed hpc | checkTail hpc | mapped hpc
  | disposed hpc | load hpc | report hpc | setEvent hpc =>
    exact h.of_setPc rfl rfl rfl (by rw [hpc]; exact id) id
  | badTail | badIndex | unmapped =>
    cases h with
    | receiving h₁ h₂ h₃ h₄ => exact .receiving h₁ h₂ h₃ h₄
    | unmapping h₁ h₂ h₃ h₄ => exact .unmapping h₁ h₂ h₃ h₄
    | closing h₁ h₂ h₃ h₄ => exact .closing h₁ h₂ h₃ h₄
    | released h₁ h₂ h₃ h₄ => exact .released h₁ h₂ h₃ h₄
  | @count c blockSize m hpc _ hs' =>
    subst hs'
    by_cases hm : m = n
    · subst hm
      have hblock := hpos c
      rw [hpc] at hblock
      exact h.count hc hle hpc hblock
    · rw [countReceived_of_le hc hle hpc]
      refine h.of_setPc (Function.update_of_ne (Ne.symm hm) _ _) rfl rfl (by rw [hpc]; exact id) ?_
      split_ifs
      · exact hm
      · exact id
  | @unmap c blockSize m hpc =>
    by_cases hm : m = n
    · subst hm
      exact h.unmap hpc
    · exact h.of_setPc (Function.update_of_ne (Ne.symm hm) _ _) rfl rfl (by rw [hpc]; exact hm) hm
  | @close c blockSize m hpc =>
    by_cases hm : m = n
    · subst hm
      exact h.close hpc
    · exact h.of_setPc (Function.update_of_ne (Ne.symm hm) _ _) rfl rfl (by rw [hpc]; exact hm) id
  | @signal c result hpc _ hs' =>
    rw [State.signal, if_pos hs.initialized] at hs'
    subst hs'
    refine h.of_setPc rfl rfl rfl (by rw [hpc]; exact id) ?_
    split_ifs <;> exact id
  | disposeStart | disposeClose | disposeUnmap | disposeForce | disposeNoGate | disposeSet =>
    exact absurd rfl ha

lemma Initial.phase (h : Initial os s) (hsize : 0 < info.fileSize n) : Phase s n := by
  obtain ⟨_, -, hopened⟩ := h.opened
  obtain ⟨fd, -, ⟨hzero, -⟩ | ⟨addr, -, -, hctx, -⟩⟩ := (hopened n).ctx_eq
  · omega
  · refine .receiving ?_ (by simp [hctx]) (by simp [hctx]) fun c => ?_
    · rw [hctx, h.filesInfo_eq]
      exact hsize
    · rw [h.chan_eq c]
      exact id

/-! ### What the files contain -/

/-- A step changes what the files contain only by storing a body, or a part of it. -/
lemma Step.content_eq (h : Step e s a s') : s'.content = s.content ∨
    ∃ c bytes offset blockSize n ptr, s.chan c = .body offset blockSize n ptr ∧
      (a = .recv c bytes ∨ a = .recvFailed c bytes) ∧
      s'.content = (s.store (toU64 (ptr.getD 0 + offset)) bytes).content := by
  cases h with
  | recvBody hpc => exact .inr ⟨_, _, _, _, _, _, hpc, .inl rfl, rfl⟩
  | bodyFailed hpc => exact .inr ⟨_, _, _, _, _, _, hpc, .inr rfl, rfl⟩
  | count hpc hs' =>
    rw [← hs', State.countReceived]
    simp only
    split_ifs <;> exact .inl rfl
  | signal hpc hs' =>
    rw [← hs', State.signal]
    split_ifs <;> exact .inl rfl
  | _ => exact .inl rfl

lemma size_content_store (s : State F N) (addr : ℕ) (bytes : List UInt8) (n : Fin F) :
    ((s.store addr bytes).content n).size = (s.content n).size := by
  simp only [State.store]
  split <;> rfl

/-- The files keep the size that they have been given. -/
lemma reach_contentSize (h : (machine os N e).Reach s) (n : Fin F) :
    (s.content n).size = info.fileSize n := by
  refine h.invariant (I := fun s => ∀ n, (s.content n).size = info.fileSize n) (fun s hs n => ?_)
    (fun s a s' _ hs _ hstep n => ?_) n
  · obtain ⟨_, -, hopened⟩ := (Initial.of_init hs).opened
    rw [(hopened n).content_eq]
  · rcases (Step.of_step hstep).2.content_eq with heq | ⟨c, bytes, o, b, m, ptr, -, -, heq⟩ <;>
      rw [heq]
    · exact hs n
    · rw [size_content_store]
      exact hs n

/-- A body that is stored in the mapping of file `n` shows there and nowhere else. -/
lemma byte_content_store (hres : ∀ m, Resources os (s.recvCtx m) s.syscalls m) {addr offset : ℕ}
    {bytes : List UInt8} (hmapped : (s.recvCtx n).dstFileMapped = some addr)
    (hmmap : os.mmap n = .ok addr) (hpos : 0 < bytes.length)
    (hle : offset + bytes.length ≤ info.fileSize n) (m : Fin F) (p : ℕ) :
    ((s.store (toU64 (addr + offset)) bytes).content m).byte p =
      if m = n ∧ offset ≤ p ∧ p < offset + bytes.length then bytes.getD (p - offset) 0
      else (s.content m).byte p := by
  have hrange := (os.mmap_range hmmap).2
  have haddr : toU64 (addr + offset) = addr + offset := toU64_of_lt (by omega)
  simp only [State.store, haddr]
  rcases (hres m).mapping with ⟨-, hnone⟩ | ⟨base, hsize, hbase, hm⟩
  · have hmn : m ≠ n := by
      rintro rfl
      rw [hnone] at hmapped
      cases hmapped
    simp [hnone, hmn]
  · rcases hm with ⟨hsome, hlength, -⟩ | ⟨hnone, -⟩
    · simp only [hsome, FileImage.store, hlength]
      by_cases hmn : m = n
      · subst hmn
        cases hsome.symm.trans hmapped
        by_cases hp : offset ≤ p ∧ p < offset + bytes.length
        · rw [if_pos ⟨by omega, by omega, by omega⟩, if_pos ⟨rfl, hp⟩]
          congr 1
          omega
        · rw [if_neg fun h => hp ⟨by omega, by omega⟩, if_neg fun h => hp h.2]
      · -- the two regions lie apart
        have hapart := os.mmap_apart hmn hbase hmmap hsize (by omega)
        rw [if_neg fun h => by omega, if_neg fun h => hmn h.1]
    · have hmn : m ≠ n := by
        rintro rfl
        rw [hnone] at hmapped
        cases hmapped
      simp [hnone, hmn]

end Destination

end Xcp
