import Xcp.Library.Runs
import Xcp.Transfer.DestinationRelease

/-!
# Where blocks land

`invoke_channel` checks of a header that its index is valid and its file mapped, and nothing else:
the range is never compared with the size of the file, and nothing keeps the file mapped until the
body has arrived. So blocks stay inside their files in the runs whose headers are in range, and in
which no channel unmaps a file that another channel is about to write to.
-/

namespace Xcp

namespace Destination

variable {F N : ℕ} {info : BasicTransferInfo F} {os : OsAnswers info} {e : Bytes.Endian}
  {s s' : State F N} {a : Action N}

/-- The header names a mapped file and a range inside it. -/
def InBounds (s : State F N) (h : DecodedHeader) : Prop :=
  h.blockSize ≠ 0 ∧ ∃ hn : h.nFile < F, (s.recvCtx ⟨h.nFile, hn⟩).dstFileMapped ≠ none ∧
    h.offset + h.blockSize ≤ (s.filesInfo ⟨h.nFile, hn⟩).fileSize

/-- A body is written, in whole or in part, only to where its file is mapped and inside it; any
header but the tail and those in bounds makes the channel return `false`, with all contexts
unchanged. -/
structure Contained (s : State F N) (a : Action N) (s' : State F N) : Prop where
  header : ∀ c h, a = .run c → s.chan c = .check h → Tail h ∨ InBounds s h ∨
    (s'.chan c = .exit false ∧ s'.recvCtx = s.recvCtx ∧ s'.aborted = false)
  body : ∀ c bytes offset blockSize n ptr, a = .recv c bytes ∨ a = .recvFailed c bytes →
    bytes ≠ [] → s.chan c = .body offset blockSize n ptr →
    ptr ≠ none ∧ (s.recvCtx n).dstFileMapped = ptr ∧
      offset + blockSize ≤ (s.filesInfo n).fileSize

/-- The channel is between the check of a header for file `n` and the end of the body. -/
def Pc.Writes (n : Fin F) : Pc F → Prop
  | .load _ _ m | .body _ _ m _ => m = n
  | _ => False

/-- What the peer and the other channels must respect when a channel takes a step. A header is the
tail, or names a file that is mapped and a range inside it, or a file that is not mapped while a
dispose is required; and a file that is still open is unmapped only while no channel writes to it. -/
def HonestAt (s : State F N) : Pc F → Prop
  | .check h => Tail h ∨ InBounds s h ∨ (h.blockSize ≠ 0 ∧ s.disposer ≠ .idle ∧
      ∃ hn : h.nFile < F, (s.recvCtx ⟨h.nFile, hn⟩).dstFileMapped = none)
  | .unmap _ n => (s.recvCtx n).fileHandle = none ∨ ∀ i, ¬ (s.chan i).Writes n
  | _ => True

/-- The step is one that `HonestAt` allows. -/
def Honest (s : State F N) (a : Action N) : Prop := ∀ c, a = .run c → HonestAt s (s.chan c)

instance (s : State F N) (h : DecodedHeader) : Decidable (InBounds s h) :=
  inferInstanceAs (Decidable (_ ∧ _))

instance (h : DecodedHeader) : Decidable (Tail h) := inferInstanceAs (Decidable (_ ∧ _))

instance (n : Fin F) : DecidablePred (Pc.Writes n)
  | .load _ _ m | .body _ _ m _ => inferInstanceAs (Decidable (m = n))
  | .header | .check _ | .count _ _ | .unmap _ _ | .close _ _ | .report _ | .exit _ | .setEvent _
  | .returned _ => .isFalse id

instance (s : State F N) : DecidablePred (HonestAt s)
  | .check _ => inferInstanceAs (Decidable (_ ∨ _ ∨ _))
  | .unmap _ _ => inferInstanceAs (Decidable (_ ∨ _))
  | .header | .load _ _ _ | .body _ _ _ _ | .count _ _ | .close _ _ | .report _ | .exit _
  | .setEvent _ | .returned _ => .isTrue trivial

instance (s : State F N) (a : Action N) : Decidable (Honest s a) :=
  inferInstanceAs (Decidable (∀ c, a = .run c → HonestAt s (s.chan c)))

/-- A channel gives up at a header, with everything left as it was, exactly when the header names
an unmapped file and a dispose is required. -/
lemma giveUp_iff {c : Fin N} {h : DecodedHeader} (hpc : s.chan c = .check h)
    (hstep : Step e s (.run c) s') (ha : s.aborted = false) :
    (s'.chan c = .exit false ∧ s'.recvCtx = s.recvCtx ∧ s'.aborted = false) ↔
    (h.blockSize ≠ 0 ∧ s.disposer ≠ .idle ∧
      ∃ hn : h.nFile < F, (s.recvCtx ⟨h.nFile, hn⟩).dstFileMapped = none) := by
  cases hstep with
  | checkTail hpc' htail =>
    cases hpc.symm.trans hpc'
    simp [htail.1]
  | badTail hpc' hsize htail =>
    cases hpc.symm.trans hpc'
    simp [State.abort, hsize]
  | badIndex hpc' hsize hn =>
    cases hpc.symm.trans hpc'
    simp [State.abort, hn]
  | mapped hpc' hsize hn hbase =>
    cases hpc.symm.trans hpc'
    simp [hbase]
  | disposed hpc' hsize hn hnone hd =>
    cases hpc.symm.trans hpc'
    simp [hsize, hd, hn, hnone, ha]
  | unmapped hpc' hsize hn hnone hd =>
    cases hpc.symm.trans hpc'
    simp [State.abort, hd]
  | load hpc' | count hpc' | unmap hpc' | close hpc' | report hpc' | signal hpc' | setEvent hpc' =>
    cases hpc.symm.trans hpc'

/-! ### A checked file stays mapped -/

/-- A body that a channel is about to receive is in range, and its file is mapped where the channel
has found it. -/
structure Lands (s : State F N) (c : Fin N) (offset blockSize : ℕ) (n : Fin F) : Prop where
  range : offset + blockSize ≤ (s.filesInfo n).fileSize
  mapped : (s.recvCtx n).dstFileMapped ≠ none
  pointer : ∀ ptr, s.chan c = .body offset blockSize n ptr → ptr = (s.recvCtx n).dstFileMapped

/-- All bodies land, and the disposing thread comes to the mapping of a file when its descriptor is
closed. -/
structure Landing (s : State F N) : Prop where
  lands : ∀ c offset blockSize n,
    s.chan c = .load offset blockSize n ∨ (∃ ptr, s.chan c = .body offset blockSize n ptr) →
    Lands s c offset blockSize n
  closed : ∀ n : Fin F, s.disposer = .unmapFile n → (s.recvCtx n).fileHandle = none

/-- A descriptor that is closed stays closed. -/
lemma CtxChange.fileHandle_eq_none {n : Fin F} (h : CtxChange s s')
    (hclosed : (s.recvCtx n).fileHandle = none) : (s'.recvCtx n).fileHandle = none := by
  have hupdate : ∀ {m : Fin F} {ctx : RecvFileContext},
      ctx.fileHandle = (s.recvCtx m).fileHandle ∨ ctx.fileHandle = none →
      (Function.update s.recvCtx m ctx n).fileHandle = none := by
    intro m ctx hctx
    by_cases hn : n = m
    · subst hn
      rw [Function.update_self]
      exact hctx.elim (·.trans hclosed) id
    · rwa [Function.update_of_ne hn]
  cases h with
  | same hctx => rwa [hctx]
  | count hctx => rw [hctx]; exact hupdate (.inl rfl)
  | close hctx => rw [hctx]; exact hupdate (.inr (RecvFileContext.fileHandle_closeHandle _))
  | unmap hctx => rw [hctx]; exact hupdate (.inl (RecvFileContext.fileHandle_unmapFile _))

lemma dstFileMapped_update {n m : Fin F} {ctx : RecvFileContext}
    (hctx : ctx.dstFileMapped = (s.recvCtx m).dstFileMapped) :
    (Function.update s.recvCtx m ctx n).dstFileMapped = (s.recvCtx n).dstFileMapped := by
  by_cases hn : n = m
  · subst hn
    rwa [Function.update_self]
  · rw [Function.update_of_ne hn]

lemma dstFileMapped_unmapFile {ctx : RecvFileContext} (h : ctx.fileHandle = none) :
    ctx.unmapFile.1.dstFileMapped = ctx.dstFileMapped := by
  rw [RecvFileContext.unmapFile, h]

/-- The mapping of a file changes only by an unmapping, on a channel or in the disposing thread, of a
file that is open. -/
lemma Step.dstFileMapped_eq (h : Step e s a s') (n : Fin F) :
    (s'.recvCtx n).dstFileMapped = (s.recvCtx n).dstFileMapped ∨
      (s.recvCtx n).fileHandle ≠ none ∧ (s'.recvCtx n).dstFileMapped = none ∧
        ((∃ c blockSize, a = .run c ∧ s.chan c = .unmap blockSize n) ∨
          s.disposer = .unmapFile n) := by
  have hunmap : ∀ m, (Function.update s.recvCtx m (s.recvCtx m).unmapFile.1 n).dstFileMapped =
      (s.recvCtx n).dstFileMapped ∨ n = m ∧ (s.recvCtx n).fileHandle ≠ none ∧
        (Function.update s.recvCtx m (s.recvCtx m).unmapFile.1 n).dstFileMapped = none := by
    intro m
    by_cases hn : n = m
    · subst hn
      rw [Function.update_self]
      by_cases hclosed : (s.recvCtx n).fileHandle = none
      · exact .inl (dstFileMapped_unmapFile hclosed)
      · obtain ⟨fd, hfd⟩ := Option.ne_none_iff_exists'.mp hclosed
        exact .inr ⟨rfl, hclosed, by rw [RecvFileContext.unmapFile, hfd]⟩
    · rw [Function.update_of_ne hn]
      exact .inl rfl
  cases h with
  | @unmap c b m hpc =>
    rcases hunmap m with heq | ⟨rfl, hopen, hnone⟩
    · exact .inl heq
    · exact .inr ⟨hopen, hnone, .inl ⟨c, b, rfl, hpc⟩⟩
  | @disposeUnmap m hd =>
    rcases hunmap m with heq | ⟨rfl, hopen, hnone⟩
    · exact .inl heq
    · exact .inr ⟨hopen, hnone, .inr hd⟩
  | count hpc hs' =>
    rw [← hs', State.countReceived]
    simp only
    split_ifs <;> exact .inl (dstFileMapped_update rfl)
  | signal hpc hs' =>
    rw [← hs', State.signal]
    split_ifs <;> exact .inl rfl
  | close | disposeClose =>
    exact .inl (dstFileMapped_update (RecvFileContext.dstFileMapped_closeHandle _))
  | _ => exact .inl rfl

/-- A channel that is about to receive a body was so before, or has just passed the checks. -/
lemma Step.atBody (h : Step e s a s') {c : Fin N} {offset blockSize : ℕ} {n : Fin F}
    (hpc : s'.chan c = .load offset blockSize n ∨
      ∃ ptr, s'.chan c = .body offset blockSize n ptr) :
    (s.chan c = .load offset blockSize n ∨ ∃ ptr, s.chan c = .body offset blockSize n ptr) ∨
      ∃ base, a = .run c ∧ s.chan c = .check ⟨offset, blockSize, n⟩ ∧ blockSize ≠ 0 ∧
        (s.recvCtx n).dstFileMapped = some base := by
  by_cases hc : a.actor = some c
  · cases h with
    | mapped hpc' hsize hn hbase =>
      cases hc
      simp only [State.chan_setPc, Function.update_self, Pc.load.injEq, reduceCtorEq,
        exists_false, or_false] at hpc
      obtain ⟨rfl, rfl, rfl⟩ := hpc
      exact .inr ⟨_, rfl, hpc', hsize, hbase⟩
    | load hpc' =>
      cases hc
      simp only [State.chan_setPc, Function.update_self, Pc.body.injEq, reduceCtorEq,
        false_or] at hpc
      obtain ⟨_, rfl, rfl, rfl, -⟩ := hpc
      exact .inl (.inl hpc')
    | @count c' b m hpc' _ hs' =>
      cases hc
      rcases chan_countReceived (s := s) c b m with h | h | h <;>
        simp [← hs', h, hpc'] at hpc
    | @signal c' r hpc' _ hs' =>
      cases hc
      rcases chan_signal (s := s) c r with h | h | h <;> simp [← hs', h, hpc'] at hpc
    | badTail hpc' | badIndex hpc' | unmapped hpc' =>
      cases hc
      simp [State.abort, hpc'] at hpc
    | disposeStart | disposeClose | disposeUnmap | disposeForce | disposeNoGate | disposeSet =>
      cases hc
    | _ =>
      cases hc
      simp at hpc
  · rw [h.chan_of_ne hc] at hpc
    exact .inl hpc

/-- A channel that is about to receive a body writes to its file. -/
lemma writes_of_atBody {c : Fin N} {offset blockSize : ℕ} {n : Fin F}
    (hpc : s.chan c = .load offset blockSize n ∨
      ∃ ptr, s.chan c = .body offset blockSize n ptr) : (s.chan c).Writes n := by
  rcases hpc with hpc | ⟨ptr, hpc⟩ <;> rw [hpc] <;> rfl

/-- An honest step unmaps no file that a channel writes to. -/
lemma Landing.dstFileMapped_eq {c : Fin N} {n : Fin F} (hI : Landing s) (h : Step e s a s')
    (hhonest : Honest s a) (hwrites : (s.chan c).Writes n) :
    (s'.recvCtx n).dstFileMapped = (s.recvCtx n).dstFileMapped := by
  rcases h.dstFileMapped_eq n with heq | ⟨hopen, -, ⟨i, blockSize, rfl, hpc⟩ | hd⟩
  · exact heq
  · have hat := hhonest i rfl
    rw [hpc] at hat
    exact absurd hwrites (hat.resolve_left hopen c)
  · exact absurd (hI.closed n hd) hopen

/-- The pointer of a body has just been loaded, or has been there before. -/
lemma Step.pointer (h : Step e s a s') {c : Fin N} {offset blockSize : ℕ} {n : Fin F}
    {ptr : Option ℕ} (hpc : s'.chan c = .body offset blockSize n ptr) :
    s.chan c = .body offset blockSize n ptr ∨
      s.chan c = .load offset blockSize n ∧ ptr = (s.recvCtx n).dstFileMapped := by
  by_cases hc : a.actor = some c
  · cases h with
    | load hpc' =>
      cases hc
      simp only [State.chan_setPc, Function.update_self, Pc.body.injEq] at hpc
      obtain ⟨rfl, rfl, rfl, rfl⟩ := hpc
      exact .inr ⟨hpc', rfl⟩
    | @count c' b m hpc' _ hs' =>
      cases hc
      rcases chan_countReceived (s := s) c b m with h | h | h <;> simp [← hs', h, hpc'] at hpc
    | @signal c' r hpc' _ hs' =>
      cases hc
      rcases chan_signal (s := s) c r with h | h | h <;> simp [← hs', h, hpc'] at hpc
    | badTail hpc' | badIndex hpc' | unmapped hpc' =>
      cases hc
      simp [State.abort, hpc'] at hpc
    | disposeStart | disposeClose | disposeUnmap | disposeForce | disposeNoGate | disposeSet =>
      cases hc
    | _ =>
      cases hc
      simp at hpc
  · rw [h.chan_of_ne hc] at hpc
    exact .inl hpc

/-- The disposing thread comes to the mapping of a file from its descriptor. -/
lemma Step.disposer_unmapFile {n : Fin F} (h : Step e s a s') (hd : s'.disposer = .unmapFile n) :
    s.disposer = .unmapFile n ∨ (s'.recvCtx n).fileHandle = none := by
  cases h with
  | @disposeClose m =>
    obtain rfl : m = n := Fin.ext (Disposer.unmapFile.inj hd)
    refine .inr ?_
    rw [State.recvCtx_setDisposer, State.recvCtx_closeHandle, Function.update_self,
      RecvFileContext.fileHandle_closeHandle]
  | disposeStart | disposeUnmap | disposeForce | disposeNoGate | disposeSet => cases hd
  | count hpc hs' =>
    rw [← hs', State.countReceived] at hd
    simp only at hd
    split_ifs at hd <;> exact .inl hd
  | signal hpc hs' =>
    rw [← hs', State.signal] at hd
    split_ifs at hd <;> exact .inl hd
  | _ => exact .inl hd

lemma Landing.step (hI : Landing s) (hstep : s.step e a = some s') (hhonest : Honest s a) :
    Landing s' := by
  obtain ⟨-, hstep⟩ := Step.of_step hstep
  refine ⟨fun c offset blockSize n hpc => ?_, fun n hd => ?_⟩
  · have hrange := hstep.fixed.1
    rcases hstep.atBody hpc with hpc' | ⟨base, rfl, hpc', hsize, hbase⟩
    · have hlands := hI.lands c offset blockSize n hpc'
      have hmapped := hI.dstFileMapped_eq hstep hhonest (writes_of_atBody hpc')
      refine ⟨hrange ▸ hlands.range, hmapped ▸ hlands.mapped, fun ptr hptr => ?_⟩
      rcases hstep.pointer hptr with hbefore | ⟨-, hload⟩
      · exact (hlands.pointer ptr hbefore).trans hmapped.symm
      · exact hload.trans hmapped.symm
    · have hat := hhonest c rfl
      rw [hpc'] at hat
      have hmapped : (s'.recvCtx n).dstFileMapped = (s.recvCtx n).dstFileMapped := by
        rcases hstep.dstFileMapped_eq n with heq | ⟨hopen, -, ⟨i, b, hi, hunmap⟩ | hd⟩
        · exact heq
        · cases hi
          cases hpc'.symm.trans hunmap
        · exact absurd (hI.closed n hd) hopen
      refine ⟨?_, by rw [hmapped, hbase]; nofun, fun ptr hptr => ?_⟩
      · rw [hrange]
        rcases hat with htail | ⟨-, hn, -, hle⟩ | ⟨-, -, hn, hnone⟩
        · exact absurd htail.1 hsize
        · exact hle
        · simp [hbase] at hnone
      · rcases hstep.pointer hptr with hbefore | ⟨hload, -⟩
        · cases hpc'.symm.trans hbefore
        · cases hpc'.symm.trans hload
  · rcases hstep.disposer_unmapFile hd with hd' | hclosed
    · exact hstep.ctxChange.fileHandle_eq_none (hI.closed n hd')
    · exact hclosed

lemma Landing.contained (hI : Landing s) (hstep : s.step e a = some s') (hhonest : Honest s a) :
    Contained s a s' := by
  obtain ⟨ha, hstep⟩ := Step.of_step hstep
  refine ⟨fun c h heq hpc => ?_, fun c bytes offset blockSize n ptr _ _ hpc => ?_⟩
  · subst heq
    rw [giveUp_iff hpc hstep ha]
    have hat := hhonest c rfl
    rwa [hpc] at hat
  · have hlands := hI.lands c offset blockSize n (.inr ⟨ptr, hpc⟩)
    have hptr := hlands.pointer ptr hpc
    exact ⟨hptr ▸ hlands.mapped, hptr.symm, hlands.range⟩

lemma Landing.of_reach (h : (machine os N e).ReachIf Honest s) : Landing s := by
  refine h.invariant (fun s hs => ⟨fun c offset blockSize n hpc => ?_, fun n hd => ?_⟩)
    fun s a s' _ hI hhonest hstep => hI.step hstep hhonest
  · simp [(Initial.of_init hs).chan_eq c] at hpc
  · rw [(Initial.of_init hs).disposer_eq] at hd
    cases hd

/-! ### What a dishonest step allows -/

/-- A body that arrives when its file is not mapped any more is not contained. -/
lemma not_contained_of_body {c : Fin N} {offset blockSize : ℕ} {n : Fin F} {ptr : Option ℕ}
    (ha : s.aborted = false) (hpos : 0 < blockSize)
    (hpc : s.chan c = .body offset blockSize n ptr)
    (hnone : (s.recvCtx n).dstFileMapped = none) :
    ¬ (machine os N e).AllSteps Contained s [.recv c (List.replicate blockSize 0)] := by
  intro h
  have hstep : (machine os N e).step s (.recv c (List.replicate blockSize 0)) =
      some (((s.store (toU64 (ptr.getD 0 + offset)) (List.replicate blockSize 0)).addReceived c
        ⟨n, offset, List.replicate blockSize 0⟩).setPc c (.count blockSize n)) := by
    rw [machine_step, step_recv ha, State.recv, hpc]
    exact if_pos List.length_replicate
  have hbytes : List.replicate blockSize (0 : UInt8) ≠ [] := by
    rw [Ne, List.replicate_eq_nil_iff]
    exact hpos.ne'
  obtain ⟨hptr, hmapped, -⟩ :=
    (h _ hstep).1.body c _ offset blockSize n ptr (.inl rfl) hbytes hpc
  exact hptr (hmapped.symm.trans hnone)

/-- A channel that writes to a file that is not mapped any more comes to a body of it. -/
lemma not_contained_of_writes {c : Fin N} {n : Fin F} (ha : s.aborted = false)
    (hpos : (s.chan c).Positive) (hwrites : (s.chan c).Writes n)
    (hnone : (s.recvCtx n).dstFileMapped = none) :
    ∃ bs, ¬ (machine os N e).AllSteps Contained s bs := by
  cases hpc : s.chan c with
  | body offset blockSize m ptr =>
    rw [hpc] at hwrites hpos
    obtain rfl : m = n := hwrites
    exact ⟨_, not_contained_of_body ha hpos hpc hnone⟩
  | load offset blockSize m =>
    rw [hpc] at hwrites hpos
    obtain rfl : m = n := hwrites
    have hload : (machine os N e).step s (.run c) =
        some (s.setPc c (.body offset blockSize m (s.recvCtx m).dstFileMapped)) := by
      rw [machine_step, step_run ha, State.runChannel, hpc]
    refine ⟨[.run c, .recv c (List.replicate blockSize 0)], fun h => ?_⟩
    exact not_contained_of_body (s := s.setPc c (.body offset blockSize m _)) ha hpos
      (Function.update_self ..) hnone (h _ hload).2
  | _ =>
    rw [hpc] at hwrites
    exact hwrites.elim

lemma exists_not_contained (hs : (machine os N e).Reach s) (hstep : s.step e a = some s')
    (hhonest : ¬ Honest s a) : ∃ bs, ¬ (machine os N e).AllSteps Contained s (a :: bs) := by
  simp only [Honest, not_forall] at hhonest
  obtain ⟨c, rfl, hhonest⟩ := hhonest
  obtain ⟨ha, h⟩ := Step.of_step hstep
  cases hpc : s.chan c with
  | check hd =>
    refine ⟨[], fun hall => hhonest ?_⟩
    have hheader := (hall s' hstep).1.header c hd rfl hpc
    rw [giveUp_iff hpc h ha] at hheader
    rwa [hpc]
  | unmap blockSize n =>
    rw [hpc] at hhonest
    simp only [HonestAt, not_or, not_forall, not_not] at hhonest
    obtain ⟨hopen, i, hwrites⟩ := hhonest
    have hic : i ≠ c := by
      rintro rfl
      rw [hpc] at hwrites
      exact hwrites
    obtain rfl : (s.unmapFile n).setPc c (.close blockSize n) = s' := by
      rw [step_run ha, State.runChannel, hpc] at hstep
      exact Option.some.inj hstep
    have hchan : ((s.unmapFile n).setPc c (.close blockSize n)).chan i = s.chan i :=
      Function.update_of_ne hic _ _
    have hnone : (((s.unmapFile n).setPc c (.close blockSize n)).recvCtx n).dstFileMapped =
        none := by
      obtain ⟨fd, hfd⟩ := Option.ne_none_iff_exists'.mp hopen
      rw [State.recvCtx_setPc, State.recvCtx_unmapFile, Function.update_self,
        RecvFileContext.unmapFile, hfd]
    obtain ⟨bs, hbs⟩ := not_contained_of_writes (e := e)
      (s := (s.unmapFile n).setPc c (.close blockSize n)) ha
      (hchan.symm ▸ reach_positive hs i) (hchan.symm ▸ hwrites) hnone
    exact ⟨bs, fun hall => hbs (hall _ hstep).2⟩
  | _ =>
    rw [hpc] at hhonest
    exact absurd trivial hhonest

/-- Blocks stay inside their files in a run whose steps are all honest, and where the first step is
taken that is not, what the peer sends next can be written elsewhere. -/
theorem contained_of_honest (os : OsAnswers info) (N : ℕ) (e : Bytes.Endian) :
    (∀ s, (machine os N e).init s → ∀ as,
      (machine os N e).AllSteps (fun s a _ => Honest s a) s as →
        (machine os N e).AllSteps Contained s as) ∧
      ∀ s a s', (machine os N e).ReachIf Honest s → (machine os N e).step s a = some s' →
        ¬ Honest s a → ∃ bs, ¬ (machine os N e).AllSteps Contained s (a :: bs) := by
  refine ⟨fun s hs as hhonest => ?_, fun s a s' hs hstep hhonest =>
    exists_not_contained hs.reach hstep hhonest⟩
  exact hhonest.of_reachIf (.init hs) fun t a t' ht hstep hg =>
    (Landing.of_reach ht).contained hstep hg

/-- A byte for a position behind the end of a file of one byte. -/
def behindTheEnd : List (Action 1) :=
  let c : Fin 1 := .last 0
  [.recv c (blockHeader .big 1 1 0), .run c, .run c, .recv c [7]]

/-- Two channels write two blocks to each of two files, which are both completed. -/
def twoFilesBlocks : List (Action 2) :=
  [.recv 0 (blockHeader .big 0 2 0), .recv 1 (blockHeader .big 0 1 1), .run 0, .run 1, .run 0,
    .run 1, .recv 1 [9], .recv 0 [7, 8], .run 0, .run 0, .recv 0 (blockHeader .big 2 1 0), .run 1,
    .run 1, .run 0, .run 0, .recv 1 (blockHeader .big 1 1 1), .recv 0 [6], .run 0, .run 1, .run 0,
    .run 0, .run 0, .run 1, .recv 1 [5], .run 1, .recv 0 (finalTail .big), .run 1, .run 1, .run 1,
    .run 0, .run 0]

lemma twoFilesBlocks_honest :
    (((machine twoFilesAnswers 2 .little).restrict Honest).run twoFilesStart twoFilesBlocks).map
      (fun s => (s.received 0, s.received 1, s.chan 0)) =
      some ([⟨0, 0, [7, 8]⟩, ⟨0, 2, [6]⟩], [⟨1, 0, [9]⟩, ⟨1, 1, [5]⟩], .returned true) := by
  decide +kernel

/-- These blocks are contained; the byte behind the end is not. -/
theorem contained_of_honest_twoFiles :
    (machine twoFilesAnswers 2 .little).AllSteps Contained twoFilesStart twoFilesBlocks ∧
      ∃ s, (machine oneByteAnswers 1 .little).run oneByteStart (behindTheEnd.take 1) = some s ∧
        ∃ bs, ¬ (machine oneByteAnswers 1 .little).AllSteps Contained s (.run 0 :: bs) := by
  constructor
  · obtain ⟨s, hrun, -⟩ := Option.map_eq_some_iff.mp twoFilesBlocks_honest
    exact (contained_of_honest twoFilesAnswers 2 .little).1 _ twoFilesStart_init _
      (Machine.allSteps_of_restrict hrun)
  · refine ⟨_, rfl, (contained_of_honest oneByteAnswers 1 .little).2 _ _ _ ?_ rfl (by decide)⟩
    exact (Machine.ReachIf.init oneByteStart_init).step (a := .recv 0 (blockHeader .big 1 1 0))
      (by decide) rfl

/-- The header passes the checks and the byte is written. -/
theorem oneByte_not_contained :
    ∃ s', (machine oneByteAnswers 1 .little).run oneByteStart behindTheEnd = some s' ∧
      s'.received 0 = [⟨0, 1, [7]⟩] ∧ (oneByteStart.filesInfo 0).fileSize = 1 ∧
      ¬ (machine oneByteAnswers 1 .little).AllSteps Contained oneByteStart behindTheEnd := by
  refine ⟨_, rfl, rfl, rfl, fun h => ?_⟩
  obtain ⟨-, h⟩ := h _ rfl
  obtain ⟨h, -⟩ := h _ rfl
  rcases h.header 0 _ rfl rfl with htail | ⟨-, _, -, hle⟩ | ⟨hpc, -⟩
  · exact absurd htail.1 (by decide)
  · exact absurd (show 2 ≤ 1 from hle) (by decide)
  · cases hpc

end Destination

end Xcp
