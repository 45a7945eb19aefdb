import Xcp.ProgramOptions
import Xcp.Transfer.DestinationRelease

/-!
# Decoding the stream of a channel

`invoke_channel` run by itself on the bytes of a stream. On the blocks of a source channel and the
tail behind them it makes exactly the writes that were sent, in their order, and returns `true`
with nothing left to read. What the files contain then is said without the addresses that they are
mapped at.
-/

namespace Xcp

open Bytes

/-- The bytes of a block written at its offset, and nothing else changed. -/
def FileImage.write (img : FileImage) (offset : ℕ) (bytes : List UInt8) : FileImage where
  size := img.size
  byte p :=
    if offset ≤ p ∧ p < offset + bytes.length then bytes.getD (p - offset) 0 else img.byte p

namespace Destination

variable {F N : ℕ} {info : BasicTransferInfo F} {os : OsAnswers info} {d e : Endian}
  {s s' s'' : State F N} {c : Fin N} {rest rest' rest'' : List UInt8}

/-! ### The loop on a stream -/

/-- `recv` of `size` bytes from a stream that ends after `rest`. -/
def recvFrom (c : Fin N) (size : ℕ) (rest : List UInt8) : Action N × List UInt8 :=
  if size ≤ rest.length then (.recv c (rest.take size), rest.drop size)
  else (.recvFailed c rest, [])

/-- What channel `c` does next on a stream. -/
def nextAction (s : State F N) (c : Fin N) (rest : List UInt8) : Action N × List UInt8 :=
  match s.chan c with
  | .header => recvFrom c 16 rest
  | .body _ blockSize _ _ => recvFrom c blockSize rest
  | _ => (.run c, rest)

/-- `invoke_channel` on a stream: the state it ends in, and what it has not read. -/
def invokeChannel (e : Endian) (c : Fin N) :
    ℕ → State F N → List UInt8 → State F N × List UInt8
  | 0, s, rest => (s, rest)
  | fuel + 1, s, rest =>
    match s.step e (nextAction s c rest).1 with
    | some s' => invokeChannel e c fuel s' (nextAction s c rest).2
    | none    => (s, rest)

/-- The loop gets from one state and rest of the stream to another. -/
def Runs (e : Endian) (c : Fin N) (s : State F N) (rest : List UInt8) (s' : State F N)
    (rest' : List UInt8) : Prop :=
  ∃ k, ∀ fuel, invokeChannel e c (fuel + k) s rest = invokeChannel e c fuel s' rest'

lemma Runs.refl : Runs e c s rest s rest := ⟨0, fun _ => rfl⟩

lemma Runs.trans (h : Runs e c s rest s' rest') (h' : Runs e c s' rest' s'' rest'') :
    Runs e c s rest s'' rest'' := by
  obtain ⟨k, hk⟩ := h
  obtain ⟨k', hk'⟩ := h'
  refine ⟨k' + k, fun fuel => ?_⟩
  rw [← Nat.add_assoc, hk, hk']

lemma Runs.of_step (h : s.step e (nextAction s c rest).1 = some s') :
    Runs e c s rest s' (nextAction s c rest).2 :=
  ⟨1, fun fuel => by rw [invokeChannel, h]⟩

lemma Runs.run (h : s.runChannel c = some s') (ha : s.aborted = false) :
    Runs e c s rest s' rest := by
  have hnext : nextAction s c rest = (.run c, rest) := by
    unfold nextAction
    split
    · next hpc => simp [State.runChannel, hpc] at h
    · next hpc => simp [State.runChannel, hpc] at h
    · rfl
  have hstep : s.step e (nextAction s c rest).1 = some s' := by rw [hnext, step_run ha, h]
  simpa [hnext] using Runs.of_step hstep

lemma recvFrom_append (bytes rest : List UInt8) :
    recvFrom c bytes.length (bytes ++ rest) = (.recv c bytes, rest) := by
  simp [recvFrom]

lemma Runs.recv_header {header : List UInt8} (hlen : header.length = 16) (ha : s.aborted = false)
    (hpc : s.chan c = .header) :
    Runs e c s (header ++ rest) (s.setPc c (.check (decodeHeader e header))) rest := by
  have hnext : nextAction s c (header ++ rest) = (.recv c header, rest) := by
    rw [← recvFrom_append header rest, hlen, nextAction, hpc]
  have hstep : s.step e (nextAction s c (header ++ rest)).1 =
      some (s.setPc c (.check (decodeHeader e header))) := by
    rw [hnext, step_recv ha, State.recv, hpc]
    simp [hlen]
  simpa [hnext] using Runs.of_step hstep

lemma Runs.recv_body {body : List UInt8} {offset : ℕ} {n : Fin F} {ptr : Option ℕ}
    (ha : s.aborted = false) (hpc : s.chan c = .body offset body.length n ptr) :
    Runs e c s (body ++ rest)
      (((s.store (toU64 (ptr.getD 0 + offset)) body).addReceived c ⟨n, offset, body⟩).setPc c
        (.count body.length n)) rest := by
  have hnext : nextAction s c (body ++ rest) = (.recv c body, rest) := by
    rw [← recvFrom_append body rest, nextAction, hpc]
  have hstep : s.step e (nextAction s c (body ++ rest)).1 = some
      (((s.store (toU64 (ptr.getD 0 + offset)) body).addReceived c ⟨n, offset, body⟩).setPc c
        (.count body.length n)) := by
    rw [hnext, step_recv ha, State.recv, hpc]
    exact if_pos rfl
  simpa [hnext] using Runs.of_step hstep

/-- What the loop comes to is reachable. -/
lemma reach_invokeChannel (hs : (machine os N e).Reach s) (fuel : ℕ) :
    (machine os N e).Reach (invokeChannel e c fuel s rest).1 := by
  induction fuel generalizing s rest with
  | zero => exact hs
  | succ fuel ih =>
    rw [invokeChannel]
    split
    · next hstep => exact ih (hs.step trivial hstep)
    · exact hs

lemma Runs.reach (h : Runs e c s rest s' rest') (hs : (machine os N e).Reach s) :
    (machine os N e).Reach s' := by
  obtain ⟨k, hk⟩ := h
  have hreach : (machine os N e).Reach (invokeChannel e c (0 + k) s rest).1 :=
    reach_invokeChannel hs (0 + k)
  rwa [hk 0] at hreach

/-! ### What the files contain -/

/-- File `n` after the blocks of the list have been written to it, in their order. -/
def overwritten (bs : List (Block F)) (n : Fin F) (img : FileImage) : FileImage :=
  bs.foldl (fun img b => if b.nFile = n then img.write b.offset b.body else img) img

@[simp] lemma overwritten_nil (n : Fin F) (img : FileImage) : overwritten [] n img = img := rfl

@[simp] lemma overwritten_cons (b : Block F) (bs : List (Block F)) (n : Fin F) (img : FileImage) :
    overwritten (b :: bs) n img =
      overwritten bs n (if b.nFile = n then img.write b.offset b.body else img) := rfl

/-- A block is stored in the mapping of its file: it is written at its offset in the file. -/
lemma content_store (hres : ∀ m, Resources os (s.recvCtx m) s.syscalls m) {b : Block F} {base : ℕ}
    (hmapped : (s.recvCtx b.nFile).dstFileMapped = some base) (hpos : 0 < b.body.length)
    (hle : b.offset + b.body.length ≤ info.fileSize b.nFile) (n : Fin F) :
    (s.store (toU64 (base + b.offset)) b.body).content n =
      if b.nFile = n then (s.content n).write b.offset b.body else s.content n := by
  have hmmap : os.mmap b.nFile = .ok base := by
    rcases (hres b.nFile).mapping with ⟨-, hnone⟩ | ⟨addr, -, haddr, ⟨hsome, -⟩ | ⟨hnone, -⟩⟩
    · cases hmapped.symm.trans hnone
    · cases hmapped.symm.trans hsome
      exact haddr
    · cases hmapped.symm.trans hnone
  have hbyte := byte_content_store hres hmapped hmmap hpos hle n
  have hsize := size_content_store s (toU64 (base + b.offset)) b.body n
  generalize (s.store (toU64 (base + b.offset)) b.body).content n = img at hbyte hsize ⊢
  obtain ⟨size, byte⟩ := img
  by_cases hn : b.nFile = n
  · simp only [hn, true_and] at hbyte
    rw [if_pos hn, FileImage.write, FileImage.mk.injEq]
    exact ⟨hsize, funext hbyte⟩
  · simp only [Ne.symm hn, false_and, if_false] at hbyte
    rw [if_neg hn]
    exact (FileImage.mk.injEq ..).mpr ⟨hsize, funext hbyte⟩

/-! ### One block -/

/-- What receiving block `b` changes, seen from the loop that receives it. -/
structure Accepted (s : State F N) (c : Fin N) (b : Block F) (s' : State F N) : Prop where
  chan_eq : s'.chan c = .header
  received_eq : s'.received = Function.update s.received c (s.received c ++ [b])
  aborted_eq : s'.aborted = s.aborted
  filesInfo_eq : s'.filesInfo = s.filesInfo
  gate_eq : s'.gateAllChannelsFinished = s.gateAllChannelsFinished
  ctx_of_ne : ∀ n, n ≠ b.nFile → s'.recvCtx n = s.recvCtx n
  receivedSize_eq : (s'.recvCtx b.nFile).receivedSize =
    (s.recvCtx b.nFile).receivedSize + b.body.length
  mapped_eq : (s.recvCtx b.nFile).receivedSize + b.body.length < (s.filesInfo b.nFile).fileSize →
    (s'.recvCtx b.nFile).dstFileMapped = (s.recvCtx b.nFile).dstFileMapped
  content_eq : ∀ base, (s.recvCtx b.nFile).dstFileMapped = some base →
    s'.content = (s.store (toU64 (base + b.offset)) b.body).content

/-- Header and body, up to the count. -/
lemma runs_recv {b : Block F} (hb : b.Encodable) {base : ℕ} (ha : s.aborted = false)
    (hpc : s.chan c = .header) (hmapped : (s.recvCtx b.nFile).dstFileMapped = some base) :
    Runs e c s (b.encode d ++ rest)
      (((s.store (toU64 (base + b.offset)) b.body).addReceived c b).setPc c
        (.count b.body.length b.nFile)) rest := by
  have hdecode := decodeHeader_blockHeader d e hb.offset_lt hb.length_lt hb.nFile_lt
  have hheader : Runs e c s (b.encode d ++ rest)
      (s.setPc c (.check ⟨b.offset, b.body.length, b.nFile⟩)) (b.body ++ rest) := by
    rw [Block.encode, List.append_assoc, ← hdecode]
    exact Runs.recv_header (length_blockHeader _ _ _ _) ha hpc
  have hcheck : (s.setPc c (.check ⟨b.offset, b.body.length, b.nFile⟩)).runChannel c =
      some (s.setPc c (.load b.offset b.body.length b.nFile)) := by
    simp [State.runChannel, State.checkHeader, hb.pos.ne', hmapped, State.setPc]
  have hload : (s.setPc c (.load b.offset b.body.length b.nFile)).runChannel c =
      some (s.setPc c (.body b.offset b.body.length b.nFile (some base))) := by
    simp [State.runChannel, hmapped, State.setPc]
  have hat : (s.setPc c (.body b.offset b.body.length b.nFile (some base))).chan c =
      .body b.offset b.body.length b.nFile (some base) := Function.update_self _ _ _
  have hbody : Runs e c _ (b.body ++ rest) _ rest :=
    Runs.recv_body (s := s.setPc c (.body b.offset b.body.length b.nFile (some base))) ha hat
  refine (hheader.trans ((Runs.run hcheck ha).trans (Runs.run hload ha))).trans ?_
  convert hbody using 1
  simp [State.setPc, State.store, State.addReceived]

/-- The count, and the release of a file that is complete. -/
lemma runs_count {blockSize : ℕ} {n : Fin F} (ha : s.aborted = false)
    (hpc : s.chan c = .count blockSize n)
    (hle : (s.recvCtx n).receivedSize + blockSize ≤ (s.filesInfo n).fileSize) :
    ∃ t : State F N, Runs e c s rest (t.setPc c (.report blockSize)) rest ∧
      t.received = s.received ∧ t.aborted = s.aborted ∧ t.filesInfo = s.filesInfo ∧
      t.gateAllChannelsFinished = s.gateAllChannelsFinished ∧ t.content = s.content ∧
      (∀ m, m ≠ n → t.recvCtx m = s.recvCtx m) ∧
      (t.recvCtx n).receivedSize = (s.recvCtx n).receivedSize + blockSize ∧
      ((s.recvCtx n).receivedSize + blockSize < (s.filesInfo n).fileSize →
        (t.recvCtx n).dstFileMapped = (s.recvCtx n).dstFileMapped) := by
  have hsum := toU64_of_lt (hle.trans_lt (s.filesInfo n).fileSize_lt)
  -- the state with the new count
  let t := s.setCtx n { s.recvCtx n with
    receivedSize := (s.recvCtx n).receivedSize + blockSize }
  have hcount : s.runChannel c = some (s.countReceived c blockSize n) := by
    simp [State.runChannel, hpc]
  by_cases heq : (s.recvCtx n).receivedSize + blockSize = (s.filesInfo n).fileSize
  · have hcount' : s.runChannel c = some (t.setPc c (.unmap blockSize n)) := by
      rw [hcount, State.countReceived]
      simp only [hsum, if_pos hle, if_pos heq]
      rfl
    have hunmap : (t.setPc c (.unmap blockSize n)).runChannel c =
        some ((t.unmapFile n).setPc c (.close blockSize n)) := by
      simp [State.runChannel, State.setPc, State.unmapFile, State.setCtx]
    have hclose : ((t.unmapFile n).setPc c (.close blockSize n)).runChannel c =
        some (((t.unmapFile n).closeHandle n).setPc c (.report blockSize)) := by
      simp [State.runChannel, State.setPc, State.closeHandle, State.setCtx]
    refine ⟨(t.unmapFile n).closeHandle n,
      (Runs.run hcount' ha).trans ((Runs.run hunmap ha).trans (Runs.run hclose ha)),
      rfl, rfl, rfl, rfl, rfl, fun m hm => ?_, by simp [t], fun hlt => by omega⟩
    simp [t, Function.update_of_ne hm]
  · have hcount' : s.runChannel c = some (t.setPc c (.report blockSize)) := by
      rw [hcount, State.countReceived]
      simp only [hsum, if_pos hle, if_neg heq]
      rfl
    refine ⟨t, Runs.run hcount' ha, rfl, rfl, rfl, rfl, rfl, fun m hm => ?_, by simp [t],
      fun _ => ?_⟩
    · simp [t, Function.update_of_ne hm]
    · simp [t]

/-- One block, from header to header. -/
lemma runs_block {b : Block F} (hb : b.Encodable) (ha : s.aborted = false)
    (hpc : s.chan c = .header) (hmapped : (s.recvCtx b.nFile).dstFileMapped ≠ none)
    (hle : (s.recvCtx b.nFile).receivedSize + b.body.length ≤ (s.filesInfo b.nFile).fileSize)
    (rest : List UInt8) :
    ∃ s', Runs e c s (b.encode d ++ rest) s' rest ∧ Accepted s c b s' := by
  obtain ⟨base, hbase⟩ := Option.ne_none_iff_exists'.mp hmapped
  let u := (s.store (toU64 (base + b.offset)) b.body).addReceived c b
  have hrecv : Runs e c s (b.encode d ++ rest) (u.setPc c (.count b.body.length b.nFile)) rest :=
    runs_recv hb ha hpc hbase
  obtain ⟨t, hcount, hreceived, haborted, hfiles, hgate, hcontent, hne, hsize, hmap⟩ :=
    runs_count (s := u.setPc c (.count b.body.length b.nFile)) (e := e) ha
      (Function.update_self _ _ _) hle
  have hreport : (t.setPc c (.report b.body.length)).runChannel c =
      some ((t.addTransferred b.body.length).setPc c .header) := by
    simp [State.runChannel, State.setPc, State.addTransferred]
  refine ⟨_, hrecv.trans (hcount.trans (Runs.run hreport (haborted.trans ha))), ?_⟩
  refine ⟨Function.update_self _ _ _, hreceived, haborted, hfiles, hgate, hne, hsize, hmap,
    fun base' hbase' => ?_⟩
  cases hbase.symm.trans hbase'
  exact hcontent

/-! ### A stream -/

/-- The files of the blocks are mapped, and the blocks do not hold more of a file than what it
still lacks. -/
def Fits (s : State F N) (bs : List (Block F)) : Prop :=
  ∀ b ∈ bs, (s.recvCtx b.nFile).dstFileMapped ≠ none ∧
    (s.recvCtx b.nFile).receivedSize + amount bs b.nFile ≤ (s.filesInfo b.nFile).fileSize

/-- What is left fits when a block has been received: its file is unmapped only if nothing of it is
left. -/
lemma Fits.tail {b : Block F} {bs : List (Block F)} (h : Fits s (b :: bs))
    (hpos : ∀ b' ∈ bs, 0 < b'.body.length) (hacc : Accepted s c b s') : Fits s' bs := by
  intro b' hb'
  obtain ⟨hmapped, hle⟩ := h b' (List.mem_cons_of_mem _ hb')
  rw [hacc.filesInfo_eq]
  by_cases hn : b'.nFile = b.nFile
  · rw [hn, amount_cons, if_pos rfl] at hle
    have hpos' := (hpos b' hb').trans_le (length_le_amount hb')
    rw [hn] at hpos' hmapped ⊢
    rw [hacc.mapped_eq (by omega), hacc.receivedSize_eq]
    exact ⟨hmapped, by omega⟩
  · rw [amount_cons, if_neg (Ne.symm hn), Nat.zero_add] at hle
    rw [hacc.ctx_of_ne _ hn]
    exact ⟨hmapped, hle⟩

lemma runs_blocks {bs : List (Block F)} (hs : (machine os N e).Reach s)
    (hbs : ∀ b ∈ bs, b.Encodable) (ha : s.aborted = false) (hpc : s.chan c = .header)
    (hfits : Fits s bs) (rest : List UInt8) :
    ∃ s', Runs e c s (encodeBlocks d bs ++ rest) s' rest ∧ s'.chan c = .header ∧
      s'.received = Function.update s.received c (s.received c ++ bs) ∧ s'.aborted = false ∧
      s'.gateAllChannelsFinished = s.gateAllChannelsFinished ∧
      ((∀ b ∈ bs, b.offset + b.body.length ≤ info.fileSize b.nFile) →
        ∀ n, s'.content n = overwritten bs n (s.content n)) := by
  induction bs generalizing s with
  | nil => exact ⟨s, .refl, hpc, by simp, ha, rfl, fun _ _ => rfl⟩
  | cons b bs ih =>
    have hb := hbs b (by simp)
    obtain ⟨hmapped, hle⟩ := hfits b (by simp)
    rw [amount_cons, if_pos rfl] at hle
    obtain ⟨t, hblock, hacc⟩ := runs_block (d := d) (e := e) hb ha hpc hmapped (by omega)
      (encodeBlocks d bs ++ rest)
    obtain ⟨s', hruns, hpc', hreceived, ha', hgate, hcontent⟩ := ih (hblock.reach hs)
      (fun b' hb' => hbs b' (by simp [hb'])) (hacc.aborted_eq.trans ha) hacc.chan_eq
      (hfits.tail (fun b' hb' => (hbs b' (by simp [hb'])).pos) hacc)
    refine ⟨s', ?_, hpc', ?_, ha', hgate.trans hacc.gate_eq, fun hinside n => ?_⟩
    · simpa [encodeBlocks] using hblock.trans hruns
    · simp [hreceived, hacc.received_eq]
    · obtain ⟨base, hbase⟩ := Option.ne_none_iff_exists'.mp hmapped
      rw [hcontent (fun b' hb' => hinside b' (by simp [hb'])) n, hacc.content_eq base hbase,
        content_store (reach_resources hs).1 hbase hb.pos (hinside b (by simp)), overwritten_cons]

/-- The tail ends the loop. -/
lemma runs_finalTail (ha : s.aborted = false) (hpc : s.chan c = .header)
    (hgate : s.gateAllChannelsFinished.initialized) :
    ∃ s', Runs e c s (finalTail d) s' [] ∧ s'.chan c = .returned true ∧
      s'.received = s.received ∧ s'.aborted = false ∧ s'.content = s.content := by
  have hrecv : Runs e c s (finalTail d ++ []) _ [] :=
    Runs.recv_header (length_finalTail d) ha hpc
  rw [List.append_nil, decodeHeader_finalTail] at hrecv
  have hcheck : (s.setPc c (.check ⟨2 ^ 64 - 1, 0, 2 ^ 32 - 1⟩)).runChannel c =
      some (s.setPc c (.exit true)) := by
    simp [State.runChannel, State.checkHeader]
  have hsignal : (s.setPc c (.exit true)).runChannel c =
      some ((s.setPc c (.exit true)).signal c true) := by
    simp [State.runChannel]
  have hruns := hrecv.trans ((Runs.run hcheck ha).trans (Runs.run hsignal ha))
  let gate := s.gateAllChannelsFinished.increment
  by_cases hr : gate.reached
  · have hlast : (s.setPc c (.exit true)).signal c true =
        (s.setGate gate).setPc c (.setEvent true) := by
      simp [State.signal, hgate, gate, hr, State.setPc, State.setGate]
    rw [hlast] at hruns
    have hset : ((s.setGate gate).setPc c (.setEvent true)).runChannel c =
        some ((s.setGate gate.set).setPc c (.returned true)) := by
      simp [State.runChannel, State.setPc, State.setGate]
    exact ⟨_, hruns.trans (Runs.run hset ha), Function.update_self _ _ _, rfl, ha, rfl⟩
  · have hlast : (s.setPc c (.exit true)).signal c true =
        (s.setGate gate).setPc c (.returned true) := by
      simp [State.signal, hgate, gate, hr, State.setPc, State.setGate]
    rw [hlast] at hruns
    exact ⟨_, hruns, Function.update_self _ _ _, rfl, ha, rfl⟩

lemma invokeChannel_returned {result : Bool} (hpc : s.chan c = .returned result) (fuel : ℕ) :
    invokeChannel e c fuel s rest = (s, rest) := by
  cases fuel with
  | zero => rfl
  | succ fuel =>
    have hstep : s.step e (nextAction s c rest).1 = none := by
      simp [nextAction, hpc, State.step, State.runChannel]
    rw [invokeChannel, hstep]

/-- Every file holds a descriptor, so an index fits its field of the header. -/
lemma nFile_lt (hs : (machine os N e).Reach s) (n : Fin F) : (n : ℕ) < 2 ^ 32 := by
  have hfd := fun m => ((reach_resources hs).1 m).handle
  choose fd hfd _ using hfd
  have hinj : Function.Injective fd := fun m m' h => os.openFile_inj (hfd m) (h ▸ hfd m')
  have hcard := card_le_of_descriptors ⟨fd, hinj⟩
  rw [Fintype.card_fin] at hcard
  exact n.isLt.trans_le (hcard.trans (by decide))

/-- On the stream of a source channel, `invoke_channel` makes exactly the writes that were sent, in
their order, and returns `true` after the last byte. If the blocks are inside their files, these
contain the bytes of the blocks at their offsets, and what they contained before elsewhere. -/
theorem invokeChannel_stream (hs : (machine os N e).Reach s) (ha : s.aborted = false)
    (hpc : s.chan c = .header) {bs : List (Block F)}
    (hbs : ∀ b ∈ bs, b.offset < 2 ^ 63 ∧ 1 ≤ b.body.length ∧
      b.body.length ≤ ProgramOptionsDefaults.maxTransferBlockSize)
    (hfits : Fits s bs) :
    ∃ k s', (∀ fuel, k ≤ fuel →
        invokeChannel e c fuel s (encodeBlocks d bs ++ finalTail d) = (s', [])) ∧
      s'.chan c = .returned true ∧ s'.aborted = false ∧
      s'.received = Function.update s.received c (s.received c ++ bs) ∧
      ((∀ b ∈ bs, b.offset + b.body.length ≤ info.fileSize b.nFile) →
        ∀ n, s'.content n = overwritten bs n (s.content n)) := by
  have hencodable : ∀ b ∈ bs, b.Encodable := fun b hb =>
    ⟨(hbs b hb).1.trans (by decide), (hbs b hb).2.1, (hbs b hb).2.2.trans_lt (by decide),
      nFile_lt hs b.nFile⟩
  obtain ⟨t, hblocks, hpc', hreceived, ha', hgate, hcontent⟩ :=
    runs_blocks (d := d) hs hencodable ha hpc hfits (finalTail d)
  obtain ⟨s', htail, hret, hreceived', haborted, hcontent'⟩ :=
    runs_finalTail (d := d) (e := e) ha' hpc' (hgate ▸ (reach_fixed hs).initialized)
  obtain ⟨k, hk⟩ := hblocks.trans htail
  refine ⟨k, s', fun fuel hfuel => ?_, hret, haborted, hreceived'.trans hreceived,
    fun hinside n => ?_⟩
  · rw [← Nat.sub_add_cancel hfuel, hk, invokeChannel_returned hret]
  · rw [hcontent', hcontent hinside n]

/-- Two blocks of the first file and one of the second, out of order. -/
def threeBlocks : List (Block 2) := [⟨0, 1, [8, 9]⟩, ⟨1, 0, [5, 6]⟩, ⟨0, 0, [7]⟩]

/-- Their stream, between hosts of different byte orders, makes the first file `7 8 9` and the second
one `5 6`. -/
theorem invokeChannel_threeBlocks :
    ∃ k s', (∀ fuel, k ≤ fuel → invokeChannel .little 0 fuel twoFilesStart
        (encodeBlocks .big threeBlocks ++ finalTail .big) = (s', [])) ∧
      s'.chan 0 = .returned true ∧ s'.aborted = false ∧ s'.received 0 = threeBlocks ∧
      (List.range 3).map (s'.content 0).byte = [7, 8, 9] ∧
      (List.range 2).map (s'.content 1).byte = [5, 6] := by
  have hbs : ∀ b ∈ threeBlocks, b.offset < 2 ^ 63 ∧ 1 ≤ b.body.length ∧
      b.body.length ≤ ProgramOptionsDefaults.maxTransferBlockSize := by
    simp [threeBlocks, ProgramOptionsDefaults.maxTransferBlockSize]
  have hfits : Fits twoFilesStart threeBlocks := by
    simp [Fits, threeBlocks, amount_cons, twoFilesStart, twoFilesOpened, twoFiles]
  obtain ⟨k, s', hstream, hpc, ha, hreceived, hcontent⟩ :=
    invokeChannel_stream (c := 0) (d := .big) (.init twoFilesStart_init) rfl rfl hbs hfits
  have hinside := hcontent (by simp [threeBlocks, twoFiles, BasicTransferInfo.fileSize])
  refine ⟨k, s', hstream, hpc, ha, ?_, ?_, ?_⟩
  · rw [hreceived]
    rfl
  · rw [hinside]
    rfl
  · rw [hinside]
    rfl

end Destination

end Xcp
