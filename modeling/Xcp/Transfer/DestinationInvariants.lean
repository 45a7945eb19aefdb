import Xcp.Transfer.DestinationStep

/-!
# Invariants of the receiving transfer

What holds in every state that any peer and any order of steps can reach: which files are mapped
and open and what has been released of them, and what the gate of the channels has counted.
-/

namespace Xcp

open Outcome

namespace Destination

variable {F N : ℕ} {info : BasicTransferInfo F} {os : OsAnswers info} {e : Bytes.Endian}
  {s s' : State F N} {a : Action N}

/-! ### The initial state -/

/-- The context, the contents and the system calls of a file that has just been opened. -/
structure Opened (os : OsAnswers info) (n : Fin F) (ctx : RecvFileContext) (content : FileImage)
    (calls : List Syscall) : Prop where
  content_eq : content = ⟨info.fileSize n, fun _ => 0⟩
  ctx_eq : ∃ fd, os.openFile n = .ok fd ∧
    ((info.fileSize n = 0 ∧ ctx = { fileHandle := some fd } ∧ calls = [.open fd]) ∨
      ∃ addr, 0 < info.fileSize n ∧ os.mmap n = .ok addr ∧
        ctx = ⟨0, info.fileSize n, some addr, some fd⟩ ∧
        calls = [.open fd, .mmap addr (info.fileSize n)])

/-- What `init_transfer_info` leaves. -/
structure Initial (os : OsAnswers info) (s : State F N) : Prop where
  pos : 0 < N
  lt : N < invalidSignalCount
  filesInfo_eq : s.filesInfo = info.filesInfo
  gate_eq : s.gateAllChannelsFinished = { atLeastSignal := N }
  totalSize_eq : s.totalSize = toU64 (List.ofFn info.fileSize).sum
  transferredSize_eq : s.transferredSize = 0
  chan_eq : ∀ c, s.chan c = .header
  disposer_eq : s.disposer = .idle
  received_eq : ∀ c, s.received c = []
  aborted_eq : s.aborted = false
  opened : ∃ calls : Fin F → List Syscall, s.syscalls = (List.ofFn calls).flatten ∧
    ∀ n, Opened os n (s.recvCtx n) (s.content n) (calls n)

lemma openFiles_ok {previous : Fin F → FileImage} {filePath : Fin F → FilePath}
    {files : Fin F → OpenedFile} (h : openFiles os previous filePath = ok files) (n : Fin F) :
    Opened os n (files n).ctx (files n).content (files n).syscalls := by
  obtain ⟨fd, hfd, hcontent, hctx⟩ := internalOpenRegularFile_ok (forFin_eq_ok.mp h n)
  exact ⟨hcontent, fd, hfd, hctx⟩

lemma prepareTransfer_ok {createDirectories : FilePath → Outcome PrepareError Unit}
    {requestedDstPath : FilePath} {previous : Fin F → FileImage} {status : FileType}
    {files : Fin F → OpenedFile}
    (h : prepareTransfer os createDirectories requestedDstPath previous status = ok files) :
    ∃ filePath, openFiles os previous filePath = ok files := by
  have hregular : ∀ {files}, prepareTransferRegularFile os requestedDstPath previous = ok files →
      ∃ filePath, openFiles os previous filePath = ok files :=
    fun h => ⟨_, (assert_bind_eq_ok.mp h).2⟩
  have hdirectory : ∀ {files},
      prepareTransferDirectory os createDirectories requestedDstPath previous = ok files →
      ∃ filePath, openFiles os previous filePath = ok files := by
    intro files h
    obtain ⟨-, -, h⟩ := bind_eq_ok.mp h
    exact ⟨_, h⟩
  unfold prepareTransfer at h
  cases status with
  | regular =>
    simp only at h
    split_ifs at h with hd
    exact hregular h
  | directory =>
    simp only at h
    split_ifs at h with hd
    · exact hdirectory h
    · exact hregular h
  | notFound =>
    simp only at h
    split_ifs at h with hd
    · obtain ⟨-, -, h⟩ := bind_eq_ok.mp h
      exact hdirectory h
    · exact hregular h
  | block | character | fifo | socket | unknown => cases h

lemma Initial.of_init (h : (machine os N e).init s) : Initial os s := by
  obtain ⟨hlt, createDirectories, requestedDstPath, previous, status, h⟩ := h
  obtain ⟨hpos, h⟩ := assert_bind_eq_ok.mp h
  obtain ⟨gate, hgate, h⟩ := bind_eq_ok.mp h
  obtain ⟨files, hfiles, h⟩ := bind_eq_ok.mp h
  obtain ⟨hne, -, rfl⟩ := GateGuard.init_eq_ok.mp hgate
  obtain ⟨filePath, hopen⟩ := prepareTransfer_ok hfiles
  cases h
  exact ⟨hpos, by unfold invalidSignalCount at *; omega, rfl, rfl, rfl, rfl, fun _ => rfl, rfl, fun _ => rfl, rfl,
    _, rfl, openFiles_ok hopen⟩

/-! ### Contexts -/

/-- How a step changes the contexts and the record of system calls. -/
inductive CtxChange (s s' : State F N) : Prop where
  | same (hctx : s'.recvCtx = s.recvCtx) (hcalls : s'.syscalls = s.syscalls)
  | count {n r} (hctx : s'.recvCtx = Function.update s.recvCtx n
        { s.recvCtx n with receivedSize := r })
      (hcalls : s'.syscalls = s.syscalls)
  | close {n} (hctx : s'.recvCtx = Function.update s.recvCtx n (s.recvCtx n).closeHandle.1)
      (hcalls : s'.syscalls = s.syscalls ++ (s.recvCtx n).closeHandle.2)
  | unmap {n} (hctx : s'.recvCtx = Function.update s.recvCtx n (s.recvCtx n).unmapFile.1)
      (hcalls : s'.syscalls = s.syscalls ++ (s.recvCtx n).unmapFile.2)

lemma countReceived_change (c : Fin N) (blockSize : ℕ) (n : Fin F) :
    CtxChange s (s.countReceived c blockSize n) := by
  unfold State.countReceived
  simp only
  split_ifs <;> exact .count rfl rfl

lemma signal_change (c : Fin N) (result : Bool) : CtxChange s (s.signal c result) := by
  unfold State.signal
  split_ifs <;> exact .same rfl rfl

lemma Step.ctxChange (h : Step e s a s') : CtxChange s s' := by
  cases h with
  | count hpc hs' => exact hs' ▸ countReceived_change _ _ _
  | signal hpc hs' => exact hs' ▸ signal_change _ _
  | unmap | disposeUnmap => exact .unmap rfl rfl
  | close | disposeClose => exact .close rfl rfl
  | _ => exact .same rfl rfl

/-- What is left of file `n`: its descriptor and its mapping are there as they were opened, or
have been released once. -/
structure Resources (os : OsAnswers info) (ctx : RecvFileContext) (calls : List Syscall)
    (n : Fin F) : Prop where
  handle : ∃ fd, os.openFile n = .ok fd ∧
    ((ctx.fileHandle = some fd ∧ calls.count (.close fd) = 0) ∨
      (ctx.fileHandle = none ∧ calls.count (.close fd) = 1))
  mapping :
    (info.fileSize n = 0 ∧ ctx.dstFileMapped = none) ∨
    ∃ addr, 0 < info.fileSize n ∧ os.mmap n = .ok addr ∧
      ((ctx.dstFileMapped = some addr ∧ ctx.mappedLength = info.fileSize n ∧
          calls.count (.munmap addr (info.fileSize n)) = 0) ∨
        (ctx.dstFileMapped = none ∧ calls.count (.munmap addr (info.fileSize n)) = 1))

lemma Resources.of_count {ctx ctx' : RecvFileContext} {calls calls' : List Syscall} {n : Fin F}
    (h : Resources os ctx calls n) (hhandle : ctx'.fileHandle = ctx.fileHandle)
    (hmapped : ctx'.dstFileMapped = ctx.dstFileMapped)
    (hlength : ctx'.mappedLength = ctx.mappedLength)
    (hclose : ∀ fd, os.openFile n = .ok fd → calls'.count (.close fd) = calls.count (.close fd))
    (hmunmap : ∀ addr, 0 < info.fileSize n → os.mmap n = .ok addr →
      calls'.count (.munmap addr (info.fileSize n)) =
        calls.count (.munmap addr (info.fileSize n))) :
    Resources os ctx' calls' n := by
  obtain ⟨⟨fd, hfd, hh⟩, hm⟩ := h
  refine ⟨⟨fd, hfd, by rwa [hhandle, hclose fd hfd]⟩, ?_⟩
  rcases hm with hm | ⟨addr, hsize, haddr, hm⟩
  · exact .inl (by rwa [hmapped])
  · exact .inr ⟨addr, hsize, haddr, by rwa [hmapped, hlength, hmunmap addr hsize haddr]⟩

/-- Closing a file releases its own descriptor, if it still has it, and nothing else. -/
lemma Resources.closeHandle {ctx : RecvFileContext} {calls : List Syscall} {n : Fin F}
    (h : Resources os ctx calls n) :
    Resources os ctx.closeHandle.1 (calls ++ ctx.closeHandle.2) n := by
  obtain ⟨⟨fd, hfd, hh⟩, hm⟩ := h
  unfold RecvFileContext.closeHandle
  rcases hh with ⟨hopen, hcount⟩ | ⟨hclosed, hcount⟩
  · rw [hopen]
    refine ⟨⟨fd, hfd, .inr ⟨rfl, by simp [hcount]⟩⟩, ?_⟩
    simpa [List.count_append] using hm
  · rw [hclosed]
    exact ⟨⟨fd, hfd, .inr ⟨hclosed, by simpa using hcount⟩⟩, by simpa using hm⟩

/-- Unmapping a file whose descriptor is open releases its mapping, if it still has it. -/
lemma Resources.unmapFile {ctx : RecvFileContext} {calls : List Syscall} {n : Fin F}
    (h : Resources os ctx calls n) :
    Resources os ctx.unmapFile.1 (calls ++ ctx.unmapFile.2) n := by
  obtain ⟨⟨fd, hfd, hh⟩, hm⟩ := h
  unfold RecvFileContext.unmapFile
  rcases hh with ⟨hopen, hcount⟩ | ⟨hclosed, hcount⟩
  · rw [hopen]
    refine ⟨⟨fd, hfd, .inl ⟨rfl, by simpa [List.count_append] using hcount⟩⟩, ?_⟩
    rcases hm with ⟨hsize, -⟩ | ⟨addr, hsize, haddr, hm⟩
    · exact .inl ⟨hsize, rfl⟩
    · refine .inr ⟨addr, hsize, haddr, .inr ⟨rfl, ?_⟩⟩
      rcases hm with ⟨hmapped, hlength, hcount⟩ | ⟨hmapped, hcount⟩
      · simp [hmapped, hlength, hcount]
      · -- a second call passes the null pointer, which no mapping has
        have hne : (0 : ℕ) ≠ addr := (os.mmap_range haddr).1.ne
        simp [hmapped, hcount, hne]
  · rw [hclosed]
    exact ⟨⟨fd, hfd, .inr ⟨hclosed, by simpa using hcount⟩⟩, by simpa using hm⟩

/-- The calls that release file `m` do not release another file `n`. -/
lemma Resources.frame {ctx ctx' : RecvFileContext} {calls calls' : List Syscall} {m n : Fin F}
    (hm : Resources os ctx calls m) (hn : Resources os ctx' calls n) (hmn : n ≠ m)
    (hcalls : calls' = ctx.closeHandle.2 ∨ calls' = ctx.unmapFile.2) :
    Resources os ctx' (calls ++ calls') n := by
  obtain ⟨⟨fdm, hfdm, hhm⟩, hmm⟩ := hm
  refine hn.of_count rfl rfl rfl (fun fd hfd => ?_) (fun addr hsize haddr => ?_)
  · have hne : ∀ fdm, os.openFile m = .ok fdm → fdm ≠ fd := fun fdm hfdm heq =>
      hmn (os.openFile_inj hfd (heq ▸ hfdm))
    rcases hcalls with rfl | rfl
    · unfold RecvFileContext.closeHandle
      rcases hhm with ⟨h, -⟩ | ⟨h, -⟩ <;> rw [h]
      · simp [hne fdm hfdm]
      · simp
    · unfold RecvFileContext.unmapFile
      split <;> simp
  · rcases hcalls with rfl | rfl
    · unfold RecvFileContext.closeHandle
      split <;> simp
    · unfold RecvFileContext.unmapFile
      split
      · have hne : ctx.dstFileMapped.getD 0 ≠ addr := by
          rcases hmm with ⟨-, h⟩ | ⟨addrm, hsizem, haddrm, ⟨h, -⟩ | ⟨h, -⟩⟩ <;> rw [h]
          · exact (os.mmap_range haddr).1.ne
          · rintro rfl
            have := os.mmap_apart hmn haddr haddrm hsize hsizem
            simp only [Option.getD_some] at this
            omega
          · exact (os.mmap_range haddr).1.ne
        simp [hne]
      · simp

lemma Resources.step (h : CtxChange s s')
    (hs : ∀ n, Resources os (s.recvCtx n) s.syscalls n) (n : Fin F) :
    Resources os (s'.recvCtx n) s'.syscalls n := by
  cases h with
  | same hctx hcalls => rw [hctx, hcalls]; exact hs n
  | @count m r hctx hcalls =>
    rw [hctx, hcalls]
    by_cases hn : n = m
    · subst hn
      exact (hs n).of_count (by simp) (by simp) (by simp) (fun _ _ => rfl) fun _ _ _ => rfl
    · rw [Function.update_of_ne hn]
      exact hs n
  | @close m hctx hcalls =>
    rw [hctx, hcalls]
    by_cases hn : n = m
    · subst hn
      rw [Function.update_self]
      exact (hs n).closeHandle
    · rw [Function.update_of_ne hn]
      exact (hs m).frame (hs n) hn (.inl rfl)
  | @unmap m hctx hcalls =>
    rw [hctx, hcalls]
    by_cases hn : n = m
    · subst hn
      rw [Function.update_self]
      exact (hs n).unmapFile
    · rw [Function.update_of_ne hn]
      exact (hs m).frame (hs n) hn (.inr rfl)

lemma Opened.mem_calls {n : Fin F} {ctx : RecvFileContext} {content : FileImage}
    {calls : List Syscall} (h : Opened os n ctx content calls) {call : Syscall}
    (hcall : call ∈ calls) :
    (∃ fd, call = .open fd ∧ os.openFile n = .ok fd) ∨
      ∃ addr, call = .mmap addr (info.fileSize n) ∧ 0 < info.fileSize n ∧
        os.mmap n = .ok addr := by
  obtain ⟨fd, hfd, ⟨-, -, rfl⟩ | ⟨addr, hsize, haddr, -, rfl⟩⟩ := h.ctx_eq
  · exact .inl ⟨fd, by simpa using hcall, hfd⟩
  · rcases List.mem_cons.mp hcall with rfl | hcall
    · exact .inl ⟨fd, rfl, hfd⟩
    · exact .inr ⟨addr, by simpa using hcall, hsize, haddr⟩

/-- Every descriptor and mapping in the record belongs to a file. -/
def Recorded (os : OsAnswers info) (calls : List Syscall) : Prop :=
  (∀ fd, .open fd ∈ calls → ∃ n, os.openFile n = .ok fd) ∧
    ∀ addr length, .mmap addr length ∈ calls →
      ∃ n, 0 < info.fileSize n ∧ length = info.fileSize n ∧ os.mmap n = .ok addr

lemma Initial.mem_syscalls (h : Initial os s) {call : Syscall} (hcall : call ∈ s.syscalls) :
    ∃ n, (∃ fd, call = .open fd ∧ os.openFile n = .ok fd) ∨
      ∃ addr, call = .mmap addr (info.fileSize n) ∧ 0 < info.fileSize n ∧
        os.mmap n = .ok addr := by
  obtain ⟨calls, hcalls, hopened⟩ := h.opened
  rw [hcalls, List.mem_flatten] at hcall
  obtain ⟨l, hl, hcall⟩ := hcall
  obtain ⟨n, rfl⟩ := (List.mem_ofFn' _ _).mp hl
  exact ⟨n, (hopened n).mem_calls hcall⟩

lemma Initial.recorded (h : Initial os s) : Recorded os s.syscalls := by
  constructor
  · intro fd hfd
    obtain ⟨n, ⟨fd', heq, hn⟩ | ⟨_, heq, -⟩⟩ := h.mem_syscalls hfd
    · cases heq
      exact ⟨n, hn⟩
    · cases heq
  · intro addr length haddr
    obtain ⟨n, ⟨_, heq, -⟩ | ⟨addr', heq, hsize, hn⟩⟩ := h.mem_syscalls haddr
    · cases heq
    · cases heq
      exact ⟨n, hsize, rfl, hn⟩

lemma Initial.resources (h : Initial os s) (n : Fin F) :
    Resources os (s.recvCtx n) s.syscalls n := by
  have hclose : ∀ fd, s.syscalls.count (.close fd) = 0 := fun fd =>
    List.count_eq_zero.mpr fun hmem => by
      obtain ⟨_, ⟨_, heq, -⟩ | ⟨_, heq, -⟩⟩ := h.mem_syscalls hmem <;> cases heq
  have hmunmap : ∀ addr length, s.syscalls.count (.munmap addr length) = 0 := fun addr length =>
    List.count_eq_zero.mpr fun hmem => by
      obtain ⟨_, ⟨_, heq, -⟩ | ⟨_, heq, -⟩⟩ := h.mem_syscalls hmem <;> cases heq
  obtain ⟨calls, -, hopened⟩ := h.opened
  obtain ⟨fd, hfd, ⟨hsize, hctx, -⟩ | ⟨addr, hsize, haddr, hctx, -⟩⟩ := (hopened n).ctx_eq
  · exact ⟨⟨fd, hfd, .inl ⟨by rw [hctx], hclose fd⟩⟩, .inl ⟨hsize, by rw [hctx]⟩⟩
  · exact ⟨⟨fd, hfd, .inl ⟨by rw [hctx], hclose fd⟩⟩,
      .inr ⟨addr, hsize, haddr, .inl ⟨by rw [hctx], by rw [hctx], hmunmap _ _⟩⟩⟩

lemma Recorded.step (h : CtxChange s s') (hs : Recorded os s.syscalls) :
    Recorded os s'.syscalls := by
  have hold : ∀ call : Syscall, (∀ fd, call ≠ .close fd) → (∀ addr l, call ≠ .munmap addr l) →
      call ∈ s'.syscalls → call ∈ s.syscalls := by
    intro call hclose hmunmap hmem
    cases h with
    | same _ hcalls | count _ hcalls => rwa [← hcalls]
    | close _ hcalls =>
      rw [hcalls, List.mem_append, RecvFileContext.closeHandle] at hmem
      split at hmem <;> simpa [hclose] using hmem
    | unmap _ hcalls =>
      rw [hcalls, List.mem_append, RecvFileContext.unmapFile] at hmem
      split at hmem <;> simpa [hmunmap] using hmem
  exact ⟨fun fd hfd => hs.1 fd (hold _ (by simp) (by simp) hfd),
    fun addr l haddr => hs.2 addr l (hold _ (by simp) (by simp) haddr)⟩

lemma reach_resources (h : (machine os N e).Reach s) :
    (∀ n, Resources os (s.recvCtx n) s.syscalls n) ∧ Recorded os s.syscalls :=
  h.invariant (I := fun s => (∀ n, Resources os (s.recvCtx n) s.syscalls n) ∧
      Recorded os s.syscalls)
    (fun _ hs => ⟨(Initial.of_init hs).resources, (Initial.of_init hs).recorded⟩)
    fun _ _ _ _ hs _ hstep =>
      have hchange := (Step.of_step hstep).2.ctxChange
      ⟨Resources.step hchange hs.1, hs.2.step hchange⟩

/-! ### Data that never changes -/

lemma countReceived_fixed (c : Fin N) (blockSize : ℕ) (n : Fin F) :
    (s.countReceived c blockSize n).filesInfo = s.filesInfo ∧
      (s.countReceived c blockSize n).totalSize = s.totalSize ∧
      (s.countReceived c blockSize n).gateAllChannelsFinished = s.gateAllChannelsFinished := by
  unfold State.countReceived
  simp only
  split_ifs <;> exact ⟨rfl, rfl, rfl⟩

lemma signal_fixed (c : Fin N) (result : Bool) :
    (s.signal c result).filesInfo = s.filesInfo ∧ (s.signal c result).totalSize = s.totalSize ∧
      (s.signal c result).gateAllChannelsFinished.atLeastSignal =
        s.gateAllChannelsFinished.atLeastSignal := by
  unfold State.signal
  split_ifs <;> exact ⟨rfl, rfl, rfl⟩

lemma Step.fixed (h : Step e s a s') :
    s'.filesInfo = s.filesInfo ∧ s'.totalSize = s.totalSize ∧
      s'.gateAllChannelsFinished.atLeastSignal = s.gateAllChannelsFinished.atLeastSignal := by
  cases h with
  | count hpc hs' =>
    obtain ⟨hfiles, htotal, hgate⟩ := countReceived_fixed (s := s) _ _ _
    rw [← hs']
    exact ⟨hfiles, htotal, by rw [hgate]⟩
  | signal hpc hs' => exact hs' ▸ signal_fixed _ _
  | _ => exact ⟨rfl, rfl, rfl⟩

/-- The parts of the state that `init_transfer_info` fixes. -/
structure Fixed (info : BasicTransferInfo F) (s : State F N) : Prop where
  pos : 0 < N
  lt : N < invalidSignalCount
  filesInfo_eq : s.filesInfo = info.filesInfo
  totalSize_eq : s.totalSize = toU64 (List.ofFn info.fileSize).sum
  atLeastSignal_eq : s.gateAllChannelsFinished.atLeastSignal = N

lemma Initial.fixed (h : Initial os s) : Fixed info s :=
  ⟨h.pos, h.lt, h.filesInfo_eq, h.totalSize_eq, by rw [h.gate_eq]⟩

lemma Fixed.step (hs : Fixed info s) (h : Step e s a s') : Fixed info s' := by
  obtain ⟨hfiles, htotal, hgate⟩ := h.fixed
  exact ⟨hs.pos, hs.lt, hfiles.trans hs.filesInfo_eq, htotal.trans hs.totalSize_eq,
    hgate.trans hs.atLeastSignal_eq⟩

lemma reach_fixed (h : (machine os N e).Reach s) : Fixed info s :=
  h.invariant (I := Fixed info) (fun _ hs => (Initial.of_init hs).fixed)
    fun _ _ _ _ hs _ hstep => hs.step (Step.of_step hstep).2

lemma Fixed.initialized (h : Fixed info s) : s.gateAllChannelsFinished.initialized := by
  rw [GateGuard.initialized_iff, h.atLeastSignal_eq]
  exact h.lt.ne

/-! ### A file of one byte -/

/-- A transfer of one regular file with one byte. -/
def oneByte : BasicTransferInfo 1 where
  sourceIsDirectory := false
  filesInfo _ := { relativePath := ⟨false, ["f"]⟩, fileSize := 1, posixPerm := 0o644 }

/-- The system opens it as descriptor 3 and maps it at 4096. -/
def oneByteAnswers : OsAnswers oneByte where
  openFile _ := .ok 3
  fchmod _ := .ok ()
  ftruncate _ := .ok ()
  mmap _ := .ok 4096
  openFile_inj _ _ := Subsingleton.elim _ _
  mmap_range h := by cases h; simp [oneByte, BasicTransferInfo.fileSize]
  mmap_apart hne := absurd (Subsingleton.elim _ _) hne

/-- The destination of this transfer over one channel, after `init_transfer_info`. -/
def oneByteStart : State 1 1 where
  filesInfo := oneByte.filesInfo
  recvCtx _ := ⟨0, 1, some 4096, some 3⟩
  gateAllChannelsFinished := { atLeastSignal := 1 }
  totalSize := 1
  content _ := ⟨1, fun _ => 0⟩
  syscalls := [.open 3, .mmap 4096 1]

lemma oneByteStart_init : (machine oneByteAnswers 1 .little).init oneByteStart := by
  refine ⟨by decide, fun _ => ok (), {}, fun _ => ⟨0, fun _ => 0⟩, .notFound, ?_⟩
  have hfiles : prepareTransfer oneByteAnswers (fun _ => ok ()) {} (fun _ => ⟨0, fun _ => 0⟩)
      .notFound = ok fun _ => ⟨⟨0, 1, some 4096, some 3⟩, ⟨1, fun _ => 0⟩,
        [.open 3, .mmap 4096 1]⟩ := by
    refine assert_bind_eq_ok.mpr ⟨rfl, forFin_eq_ok.mpr fun n => ?_⟩
    simp [internalOpenRegularFile, oneByte, oneByteAnswers, createPerm, orThrow, assert_of,
      FileImage.truncate]
  simp only [initTransferInfo, hfiles]
  rfl

/-! ### Two files -/

/-- A transfer of a directory with a file of three bytes and one of two. -/
def twoFiles : BasicTransferInfo 2 where
  sourceIsDirectory := true
  filesInfo := ![{ relativePath := ⟨false, ["a"]⟩, fileSize := 3, posixPerm := 0o644 },
    { relativePath := ⟨false, ["b"]⟩, fileSize := 2, posixPerm := 0o600 }]

/-- The system opens them as descriptors 3 and 4, and maps them to pages of their own. -/
def twoFilesAnswers : OsAnswers twoFiles where
  openFile n := .ok (![3, 4] n)
  fchmod _ := .ok ()
  ftruncate _ := .ok ()
  mmap := ![.ok 4096, .ok 8192]
  openFile_inj {m n _} hm hn := by
    have hinj : ∀ m n : Fin 2, (![3, 4] m : Fd) = ![3, 4] n → m = n := by decide
    exact hinj m n (Except.ok.inj (hm.trans hn.symm))
  mmap_range {n a} h := by
    fin_cases n <;> cases h <;> decide
  mmap_apart {m n a b} hne hm hn := by
    fin_cases m <;> fin_cases n <;> cases hm <;> cases hn <;>
      first | exact absurd rfl hne | decide

/-- The two files after they have been opened. -/
def twoFilesOpened : Fin 2 → OpenedFile :=
  ![⟨⟨0, 3, some 4096, some 3⟩, ⟨3, fun _ => 0⟩, [.open 3, .mmap 4096 3]⟩,
    ⟨⟨0, 2, some 8192, some 4⟩, ⟨2, fun _ => 0⟩, [.open 4, .mmap 8192 2]⟩]

/-- The destination of this transfer over two channels, after `init_transfer_info`. -/
def twoFilesStart : State 2 2 where
  filesInfo := twoFiles.filesInfo
  recvCtx n := (twoFilesOpened n).ctx
  gateAllChannelsFinished := { atLeastSignal := 2 }
  totalSize := 5
  content n := (twoFilesOpened n).content
  syscalls := (List.ofFn fun n => (twoFilesOpened n).syscalls).flatten

lemma twoFilesStart_init : (machine twoFilesAnswers 2 .little).init twoFilesStart := by
  refine ⟨by decide, fun _ => ok (), {}, fun _ => ⟨0, fun _ => 0⟩, .directory, ?_⟩
  have hfiles : prepareTransfer twoFilesAnswers (fun _ => ok ()) {} (fun _ => ⟨0, fun _ => 0⟩)
      .directory = ok twoFilesOpened := by
    refine bind_eq_ok.mpr ⟨(), rfl, forFin_eq_ok.mpr fun n => ?_⟩
    fin_cases n <;>
      simp [internalOpenRegularFile, twoFiles, twoFilesAnswers, twoFilesOpened, createPerm, orThrow,
        assert_of, FileImage.truncate]
  simp only [initTransferInfo, hfiles]
  rfl

end Destination

end Xcp
