import Xcp.Transfer.DestinationPrepare
import Xcp.Transfer.SourcePrepare

/-!
# What a failed preparation leaves open

When the preparation of a transfer fails, the object is disposed. This releases what its contexts
hold; the context of the file that failed is gone by then, and a mapping is not released once its
descriptor has been closed.
-/

namespace Xcp

open Outcome

/-! ### Descriptors and mappings that are still held -/

/-- The descriptor has been opened, and not closed since. -/
def StillOpen (log : List Syscall) (fd : Fd) : Prop :=
  ∃ before after, log = before ++ .open fd :: after ∧ .close fd ∉ after

/-- The region has been mapped, and not unmapped since. -/
def StillMapped (log : List Syscall) (addr length : ℕ) : Prop :=
  ∃ before after, log = before ++ .mmap addr length :: after ∧ .munmap addr length ∉ after

/-- Nothing is open or mapped any more. -/
structure NothingHeld (log : List Syscall) : Prop where
  closed : ∀ fd, ¬ StillOpen log fd
  unmapped : ∀ addr length, ¬ StillMapped log addr length

/-- The call obtains something. -/
def Syscall.Obtains : Syscall → Prop
  | .open _ | .mmap _ _ => True
  | .close _ | .munmap _ _ => False

section Held

variable {got released : List Syscall}

/-- What is behind the place where something has been obtained. -/
lemma exists_after {α : Type*} {a : α} {l l' before after : List α} (ha : a ∉ l')
    (h : l ++ l' = before ++ a :: after) : ∃ m, l = before ++ a :: m ∧ after = m ++ l' := by
  rcases List.append_eq_append_iff.mp h with ⟨m, hbefore, hl'⟩ | ⟨m, hl, hafter⟩
  · exact absurd (hl' ▸ List.mem_append_right m List.mem_cons_self) ha
  · cases m with
    | nil =>
      rw [List.nil_append] at hafter
      exact absurd (hafter ▸ List.mem_cons_self) ha
    | cons b m =>
      obtain ⟨rfl, rfl⟩ := List.cons.inj hafter
      exact ⟨m, hl, rfl⟩

lemma stillOpen_iff (hgot : ∀ call ∈ got, call.Obtains)
    (hreleased : ∀ call ∈ released, ¬ call.Obtains) {fd : Fd} :
    StillOpen (got ++ released) fd ↔ .open fd ∈ got ∧ .close fd ∉ released := by
  constructor
  · rintro ⟨before, after, h, hclose⟩
    obtain ⟨m, rfl, rfl⟩ := exists_after (fun h => hreleased (.open fd) h trivial) h
    exact ⟨by simp, fun h => hclose (List.mem_append_right m h)⟩
  · rintro ⟨hopen, hclose⟩
    obtain ⟨before, after, rfl⟩ := List.append_of_mem hopen
    refine ⟨before, after ++ released, by simp, fun h => ?_⟩
    rcases List.mem_append.mp h with h | h
    · exact hgot _ (List.mem_append_right before (List.mem_cons_of_mem _ h))
    · exact hclose h

lemma stillMapped_iff (hgot : ∀ call ∈ got, call.Obtains)
    (hreleased : ∀ call ∈ released, ¬ call.Obtains) {addr length : ℕ} :
    StillMapped (got ++ released) addr length ↔
      .mmap addr length ∈ got ∧ .munmap addr length ∉ released := by
  constructor
  · rintro ⟨before, after, h, hunmap⟩
    obtain ⟨m, rfl, rfl⟩ := exists_after (fun h => hreleased (.mmap addr length) h trivial) h
    exact ⟨by simp, fun h => hunmap (List.mem_append_right m h)⟩
  · rintro ⟨hmap, hunmap⟩
    obtain ⟨before, after, rfl⟩ := List.append_of_mem hmap
    refine ⟨before, after ++ released, by simp, fun h => ?_⟩
    rcases List.mem_append.mp h with h | h
    · exact hgot _ (List.mem_append_right before (List.mem_cons_of_mem _ h))
    · exact hunmap h

/-- Nothing is held if everything that was obtained has been released. -/
lemma nothingHeld_iff (hgot : ∀ call ∈ got, call.Obtains)
    (hreleased : ∀ call ∈ released, ¬ call.Obtains) :
    NothingHeld (got ++ released) ↔ (∀ fd, .open fd ∈ got → .close fd ∈ released) ∧
      ∀ addr length, .mmap addr length ∈ got → .munmap addr length ∈ released := by
  constructor
  · rintro ⟨hclosed, hunmapped⟩
    constructor
    · intro fd hfd
      by_contra hnot
      exact hclosed fd ((stillOpen_iff hgot hreleased).mpr ⟨hfd, hnot⟩)
    · intro addr length hmap
      by_contra hnot
      exact hunmapped addr length ((stillMapped_iff hgot hreleased).mpr ⟨hmap, hnot⟩)
  · rintro ⟨hopen, hmap⟩
    constructor
    · intro fd h
      obtain ⟨hfd, hnot⟩ := (stillOpen_iff hgot hreleased).mp h
      exact hnot (hopen fd hfd)
    · intro addr length h
      obtain ⟨hfd, hnot⟩ := (stillMapped_iff hgot hreleased).mp h
      exact hnot (hmap addr length hfd)

lemma nothingHeld_nil : NothingHeld [] :=
  (@nothingHeld_iff [] [] (by nofun) (by nofun)).mpr ⟨by nofun, by nofun⟩

end Held

/-! ### Destinations -/

namespace DestinationPrepare

variable {F : ℕ} {info : BasicTransferInfo F} {os : Answers info} {n : Fin F}

lemma obtains_of_mem_obtained {ctx : RecvFileContext} {call : Syscall} (h : call ∈ obtained ctx) :
    call.Obtains := by
  unfold obtained at h
  rcases List.mem_append.mp h with h | h
  · obtain ⟨fd, -, rfl⟩ := Option.map_eq_some_iff.mp (Option.mem_toList.mp h)
    trivial
  · obtain ⟨addr, -, rfl⟩ := Option.map_eq_some_iff.mp (Option.mem_toList.mp h)
    trivial

/-- Closing a context leaves nothing to unmap. -/
lemma disposeContext_opened (h : Destination.Opens os.toOsAnswers n) :
    ∃ fd, os.openFile n = .ok fd ∧
      (Preparation.disposeContext (openedCtx os n)).2 = [.close fd] := by
  obtain ⟨fd, hopen⟩ := h.openFile
  exact ⟨fd, hopen, by simp [Preparation.disposeContext, openedCtx, hopen, Except.toOption,
    RecvFileContext.closeHandle, RecvFileContext.unmapFile]⟩

/-- What closing the contexts of these files releases. -/
def closings (os : Answers info) (l : List (Fin F)) : List Syscall :=
  (l.map fun n => (Preparation.disposeContext (openedCtx os n)).2).flatten

lemma mem_closings {l : List (Fin F)} (h : ∀ m ∈ l, Destination.Opens os.toOsAnswers m)
    {call : Syscall} :
    call ∈ closings os l ↔ ∃ m ∈ l, ∃ fd, os.openFile m = .ok fd ∧ call = .close fd := by
  unfold closings
  simp only [List.mem_flatten, List.mem_map, exists_exists_and_eq_and]
  refine exists_congr fun m => and_congr_right fun hm => ?_
  obtain ⟨fd, hopen, hdispose⟩ := disposeContext_opened (h m hm)
  simp [hopen, hdispose]

/-- The files before the one at which a loop over all files stops. -/
lemma mem_before_iff {before after : List (Fin F)} (h : List.finRange F = before ++ n :: after)
    {m : Fin F} : m ∈ before ↔ m < n := by
  have hpairwise := List.pairwise_lt_finRange F
  have hm := List.mem_finRange m
  rw [h] at hpairwise hm
  obtain ⟨-, hafter, hbefore⟩ := List.pairwise_append.mp hpairwise
  constructor
  · intro hmem
    exact hbefore m hmem n List.mem_cons_self
  · intro hlt
    rcases List.mem_append.mp hm with hm | hm
    · exact hm
    · rcases List.mem_cons.mp hm with rfl | hm
      · exact absurd hlt (lt_irrefl _)
      · exact absurd hlt (lt_asymm ((List.pairwise_cons.mp hafter).1 m hm))

variable (os) in
/-- The first file that fails cannot be opened, and the files before it are empty. -/
def FailsAtOpen : Prop :=
  ∃ n, (∃ errno, os.openFile n = .error errno) ∧
    ∀ m < n, Destination.Opens os.toOsAnswers m ∧ info.fileSize m = 0

lemma open_mem_obtained {fd : Fd} :
    .open fd ∈ obtained (openedCtx os n) ↔ os.openFile n = .ok fd := by
  cases h : os.openFile n with
  | ok fd' => simp [obtained, openedCtx, h, Except.toOption, eq_comm]
  | error e => simp [obtained, openedCtx, h, Except.toOption]

lemma mmap_mem_obtained {addr length : ℕ} :
    .mmap addr length ∈ obtained (openedCtx os n) ↔
      0 < info.fileSize n ∧ os.mmap n = .ok addr ∧ length = info.fileSize n := by
  by_cases hsize : 0 < info.fileSize n
  · cases h : os.mmap n with
    | ok addr' => simp [obtained, openedCtx, h, hsize, Except.toOption, eq_comm]
    | error e => simp [obtained, openedCtx, h, hsize, Except.toOption]
  · simp [obtained, openedCtx, hsize]

/-- What has been obtained for these files. -/
def obtainings (os : Answers info) (l : List (Fin F)) : List Syscall :=
  (l.map fun n => obtained (openedCtx os n)).flatten

lemma mem_obtainings {l : List (Fin F)} {call : Syscall} :
    call ∈ obtainings os l ↔ ∃ m ∈ l, call ∈ obtained (openedCtx os m) := by
  simp [obtainings]

lemma obtainings_obtain {l : List (Fin F)} {call : Syscall} (h : call ∈ obtainings os l) :
    call.Obtains := by
  obtain ⟨m, -, hm⟩ := mem_obtainings.mp h
  exact obtains_of_mem_obtained hm

section Stopped

variable {before after : List (Fin F)} (hl : List.finRange F = before ++ n :: after)
  (hall : ∀ m ∈ before, Destination.Opens os.toOsAnswers m)

include hall in
lemma closings_release {call : Syscall} (h : call ∈ closings os before) : ¬ call.Obtains := by
  obtain ⟨m, -, fd, -, rfl⟩ := (mem_closings hall).mp h
  exact id

include hall in
/-- After closing every file, what is held are the mappings of those that are not empty. -/
lemma nothingHeld_obtainings :
    NothingHeld (obtainings os before ++ closings os before) ↔
      ∀ m ∈ before, info.fileSize m = 0 := by
  rw [nothingHeld_iff (fun _ => obtainings_obtain) fun _ => closings_release hall]
  constructor
  · rintro ⟨-, hmap⟩ m hm
    by_contra hsize
    have hpos := Nat.pos_of_ne_zero hsize
    obtain ⟨addr, haddr⟩ := (hall m hm).mmap hpos
    have hmem := hmap addr _ (mem_obtainings.mpr ⟨m, hm, mmap_mem_obtained.mpr ⟨hpos, haddr, rfl⟩⟩)
    obtain ⟨m', -, fd, -, h⟩ := (mem_closings hall).mp hmem
    cases h
  · intro hempty
    constructor
    · intro fd hfd
      obtain ⟨m, hm, hopen⟩ := mem_obtainings.mp hfd
      exact (mem_closings hall).mpr ⟨m, hm, fd, open_mem_obtained.mp hopen, rfl⟩
    · intro addr length hmap
      obtain ⟨m, hm, h⟩ := mem_obtainings.mp hmap
      exact absurd (hempty m hm) (mmap_mem_obtained.mp h).1.ne'

include hl hall in
/-- The descriptor of the file that failed is not closed. -/
lemma not_nothingHeld {fd : Fd} (hopen : os.openFile n = .ok fd) :
    ¬ NothingHeld ((obtainings os before ++ [.open fd]) ++ closings os before) := by
  have hgot : ∀ call ∈ obtainings os before ++ [Syscall.open fd], call.Obtains := by
    intro call hcall
    rcases List.mem_append.mp hcall with h | h
    · exact obtainings_obtain h
    · rw [List.mem_singleton.mp h]
      trivial
  rw [nothingHeld_iff hgot fun _ => closings_release hall]
  rintro ⟨hclosed, -⟩
  obtain ⟨m, hm, fd', hopen', h⟩ := (mem_closings hall).mp (hclosed fd (by simp))
  cases h
  -- descriptors that are open at once differ
  have hmn := os.openFile_inj hopen' hopen
  exact (mem_before_iff hl).mp hm |>.ne hmn

include hl hall in
lemma failsAtOpen_iff (hnot : ¬ Destination.Opens os.toOsAnswers n) :
    FailsAtOpen os ↔ (∃ errno, os.openFile n = .error errno) ∧
      ∀ m ∈ before, info.fileSize m = 0 := by
  constructor
  · rintro ⟨n', ⟨errno, hopen⟩, hbefore⟩
    have hn' : n' = n := by
      rcases lt_trichotomy n' n with hlt | heq | hlt
      · obtain ⟨fd, hfd⟩ := (hall n' ((mem_before_iff hl).mpr hlt)).openFile
        cases hopen.symm.trans hfd
      · exact heq
      · exact absurd (hbefore n hlt).1 hnot
    subst hn'
    exact ⟨⟨errno, hopen⟩, fun m hm => (hbefore m ((mem_before_iff hl).mp hm)).2⟩
  · rintro ⟨hopen, hempty⟩
    refine ⟨n, hopen, fun m hm => ?_⟩
    have hmem := (mem_before_iff hl).mpr hm
    exact ⟨hall m hmem, hempty m hmem⟩

end Stopped

lemma syscalls_disposeImpl {p : Preparation Unit} {l : List (Fin F)} (hinfo : p.hasInfo = true)
    (hctx : p.recvCtx = l.map (openedCtx os)) :
    p.disposeImpl.syscalls = p.syscalls ++ closings os l := by
  unfold Preparation.disposeImpl closings
  simp [hinfo, hctx, Function.comp_def]

/-- After a preparation that failed and the disposal nothing is held exactly if the preparation has
not come to its files, or the file that failed could not be opened and those before it are empty. -/
lemma nothingHeld_disposeImpl {N : ℕ} {requestedDstPath : FilePath} (hpos : 0 < N)
    (hN : N ≠ invalidSignalCount) {x : PrepareError}
    (hfail : (initTransferInfo os.system requestedDstPath info N { system := () }).1 = error x) :
    NothingHeld
        (initTransferInfo os.system requestedDstPath info N { system := () }).2.disposeImpl.syscalls ↔
      ¬ ReachesFiles os ∨ FailsAtOpen os := by
  have hrun := initTransferInfo_run os requestedDstPath hpos hN
  generalize initTransferInfo os.system requestedDstPath info N { system := () } = r at hfail hrun
  cases hrun with
  | thrown h => exact iff_of_true nothingHeld_nil (.inl h.not_reachesFiles)
  | unsupported herrno h hnot => exact iff_of_true nothingHeld_nil (.inl hnot)
  | miscounted => cases hfail
  | files hreach hr =>
    rw [or_iff_right (not_not.mpr hreach)]
    cases hr with
    | all | extraPerm => cases hfail
    | @notOpened before n after e message hl h hopen =>
      have hnot : ¬ Destination.Opens os.toOsAnswers n := fun hopens => by
        obtain ⟨fd, hfd⟩ := hopens.openFile
        cases hopen.symm.trans hfd
      rw [syscalls_disposeImpl (l := before) rfl rfl, failsAtOpen_iff hl h hnot]
      exact (nothingHeld_obtainings h).trans (and_iff_right ⟨e, hopen⟩).symm
    | @notMapped before n after e message fd hl h hopen herrno hnot =>
      rw [syscalls_disposeImpl (l := before) rfl rfl, failsAtOpen_iff hl h hnot]
      refine iff_of_false (not_nothingHeld hl h hopen) ?_
      rintro ⟨⟨errno, herror⟩, -⟩
      cases hopen.symm.trans herror

end DestinationPrepare

/-! ### Sources -/

namespace SourcePrepare

variable {a : Answers} {srcPath : FilePath} {recursive : Bool}

variable (a srcPath recursive) in
/-- A file that is reached is opened, and `fstat64` fails on it. -/
def OpensOnly : Prop :=
  (a.status = .ok .regular ∧ (∃ fd, a.file.openFile = .ok fd) ∧
    ∃ errno, a.file.fstat = .error errno) ∨
  (a.status = .ok .directory ∧ recursive = true ∧ ¬ RootThrows a srcPath ∧
    ∃ before e after, a.entries = before ++ e :: after ∧ (∀ e' ∈ before, e'.Recorded) ∧ e.OpensOnly)

/-- After the disposal of handles, of which the first have been kept. -/
lemma nothingHeld_handles {kept opened : List Fd} {p : Preparation}
    (h : Holds (started true) p kept opened ∨ Holds (started false) p kept opened) :
    NothingHeld p.disposeImpl.syscalls ↔ ∀ fd ∈ opened, fd ∈ kept := by
  have hflat : (kept.map fun fd => [Syscall.close fd]).flatten = kept.map Syscall.close := by
    rw [← List.flatMap_def, ← List.map_eq_flatMap]
  have hlog : p.disposeImpl.syscalls = opened.map Syscall.open ++ kept.map Syscall.close := by
    unfold Preparation.disposeImpl
    rcases h with h | h <;>
      simp [h.hasInfo, h.sendCtx, h.syscalls, started, SendFileContext.closeHandle,
        Function.comp_def, hflat]
  rw [hlog, nothingHeld_iff (by simp [Syscall.Obtains]) (by simp [Syscall.Obtains])]
  simp

/-- The descriptor of an entry is none of those that were opened for entries before it. -/
lemma not_mem_handles {before after : List EntryAnswers} {e : EntryAnswers} {fd : Fd}
    (hl : a.entries = before ++ e :: after) (hopen : e.file.openFile = .ok fd) :
    fd ∉ handles before := by
  intro hmem
  obtain ⟨e', he', hfd⟩ := List.mem_flatMap.mp hmem
  have hopen' : e'.file.openFile = .ok fd := by
    unfold EntryAnswers.handles at hfd
    split at hfd
    · next hopen' =>
      rw [List.mem_singleton.mp hfd]
      exact hopen'
    · cases hfd
  have hne := a.openFile_ne
  rw [hl] at hne
  exact (List.pairwise_append.mp hne).2.2 e' he' e List.mem_cons_self fd hopen' hopen

/-- An entry that fails has opened a descriptor which it does not keep, or leaves the object as it
was. -/
lemma EntryRun.stopped {dirName : FilePath} {e : EntryAnswers} {p p' : Preparation}
    {x : PrepareError} (h : EntryRun dirName e p (error x, p')) :
    ¬ e.Recorded ∧ ((¬ e.OpensOnly ∧ p' = p) ∨
      (e.OpensOnly ∧ ∃ fd, e.file.openFile = .ok fd ∧ Holds p p' [] [fd])) := by
  cases h with
  | thrown h =>
    obtain ⟨hdir, hfile⟩ := h.not_found
    refine ⟨?_, .inl ⟨fun h => hfile h.1, rfl⟩⟩
    rintro (h | h)
    · exact hdir h
    · exact hfile h.1
  | special hfile hdir h =>
    refine ⟨?_, .inl ⟨fun h => hfile h.1, rfl⟩⟩
    rintro (h | h)
    · exact hdir h
    · exact hfile h.1
  | notOpened hfile hopen =>
    have hnot : ∀ fd, e.file.openFile ≠ .ok fd := fun fd hfd => by cases hopen.symm.trans hfd
    refine ⟨?_, .inl ⟨fun h => h.2.1.elim hnot, rfl⟩⟩
    rintro (hdir | ⟨-, ⟨fd, hfd⟩, -⟩)
    · cases hfile.2.1.symm.trans hdir.2.1
    · exact hnot fd hfd
  | notStatted hfile hopen hstat hholds =>
    have hopens : e.OpensOnly := ⟨hfile, ⟨_, hopen⟩, _, hstat⟩
    exact ⟨hopens.not_recorded, .inr ⟨hopens, _, hopen, hholds⟩⟩

/-- The entries of a loop that stopped, or did not. -/
lemma EntriesRun.holds {dirName : FilePath} {p p' : Preparation} {o : Outcome PrepareError Unit}
    (h : EntriesRun dirName a.entries p (o, p')) :
    (∃ kept opened, Holds p p' kept opened ∧ ((∀ fd ∈ opened, fd ∈ kept) ↔
      ¬ ∃ before e after, a.entries = before ++ e :: after ∧ (∀ e' ∈ before, e'.Recorded) ∧
        e.OpensOnly)) := by
  cases h with
  | all h hholds =>
    refine ⟨_, _, hholds, iff_of_true (fun _ => id) ?_⟩
    rintro ⟨before, e, after, hl, -, hopens⟩
    exact hopens.not_recorded (h e (by simp [hl]))
  | @stops before e after x t p' hl h hholds he =>
    obtain ⟨hrecorded, ⟨hopens, rfl⟩ | ⟨hopens, fd, hopen, hfd⟩⟩ := he.stopped
    · refine ⟨_, _, hholds, iff_of_true (fun _ => id) ?_⟩
      rintro ⟨before', e', after', hl', h', hopens'⟩
      rw [first_unique (hl.symm.trans hl') h h' hrecorded hopens'.not_recorded] at hopens
      exact hopens hopens'
    · refine ⟨_, _, hholds.trans hfd, iff_of_false (fun hall => ?_)
        (not_not.mpr ⟨before, e, after, hl, h, hopens⟩)⟩
      rw [List.append_nil] at hall
      exact not_mem_handles hl hopen (hall fd (by simp))

/-- After a construction that failed nothing is held exactly if no file was opened on which
`fstat64` failed. -/
lemma nothingHeld_transferSource {transferBlockSize : ℕ} {x : PrepareError}
    (hfail : (transferSource a srcPath transferBlockSize recursive).1 = error x) :
    NothingHeld (transferSource a srcPath transferBlockSize recursive).2.syscalls ↔
      ¬ OpensOnly a srcPath recursive := by
  obtain ⟨p, hrun, hresult⟩ := transferSource_error hfail
  rw [hresult]
  have hfile : ∀ {type}, a.status = .ok type → type ≠ .regular →
      (OpensOnly a srcPath recursive ↔ type = .directory ∧ recursive = true ∧
        ¬ RootThrows a srcPath ∧ ∃ before e after, a.entries = before ++ e :: after ∧
          (∀ e' ∈ before, e'.Recorded) ∧ e.OpensOnly) := by
    intro type htype hne
    unfold OpensOnly
    simp [htype, hne]
  cases hrun with
  | statusThrown h => exact iff_of_true nothingHeld_nil (by simp [OpensOnly, h])
  | unsupported htype herrno hregular hdir =>
    refine iff_of_true nothingHeld_nil fun h => ?_
    obtain ⟨heq, hrecursive, -⟩ := (hfile htype hregular).mp h
    simp [hdir heq] at hrecursive
  | fileFails htype hr =>
    have hopens : OpensOnly a srcPath recursive ↔ (∃ fd, a.file.openFile = .ok fd) ∧
        ∃ errno, a.file.fstat = .error errno := by
      simp [OpensOnly, htype]
    rw [hopens]
    cases hr with
    | notOpened hopen =>
      exact (nothingHeld_handles (.inr (.refl _))).trans (by simp [hopen])
    | notStatted hopen hstat hholds =>
      exact (nothingHeld_handles (.inr hholds)).trans (by simp [hopen, hstat])
  | directory htype hrecursive hr =>
    rw [hfile htype (by decide)]
    cases hr with
    | rootThrown h =>
      exact (nothingHeld_handles (.inl (.refl _))).trans (by simp [h])
    | stops hroot hholds hr =>
      obtain ⟨kept, opened, hentries, hiff⟩ := hr.holds
      rw [nothingHeld_handles (.inl (hholds.trans hentries))]
      simpa [hrecursive, hroot] using hiff
    | iteratorThrown hroot hholds hr =>
      obtain ⟨kept, opened, hentries, hiff⟩ := hr.holds
      rw [nothingHeld_handles (.inl (hholds.trans hentries))]
      simpa [hrecursive, hroot] using hiff

end SourcePrepare

/-! ### Both sides -/

/-- After the preparation of a transfer has failed and the object has been disposed, nothing that it
obtained is held: on the receiving side exactly if it has not come to its files, or the file that
failed could not be opened and the files before it are empty; on the sending side exactly if it was
not `fstat64` that failed on an open file. -/
theorem nothing_leaks_iff {F : ℕ} {info : BasicTransferInfo F} (os : DestinationPrepare.Answers info)
    (requestedDstPath : FilePath) (N : ℕ) (a : SourcePrepare.Answers) (srcPath : FilePath)
    (transferBlockSize : ℕ) (recursive : Bool) :
    (∀ x, (DestinationPrepare.initTransferInfo os.system requestedDstPath info N
        { system := () }).1 = error x →
      (NothingHeld (DestinationPrepare.initTransferInfo os.system requestedDstPath info N
          { system := () }).2.disposeImpl.syscalls ↔
        ¬ DestinationPrepare.ReachesFiles os ∨ DestinationPrepare.FailsAtOpen os)) ∧
    ∀ x, (SourcePrepare.transferSource a srcPath transferBlockSize recursive).1 = error x →
      (NothingHeld (SourcePrepare.transferSource a srcPath transferBlockSize recursive).2.syscalls ↔
        ¬ SourcePrepare.OpensOnly a srcPath recursive) := by
  constructor
  · intro x hfail
    obtain ⟨hpos, hN⟩ := DestinationPrepare.initTransferInfo_error hfail
    exact DestinationPrepare.nothingHeld_disposeImpl hpos hN hfail
  · intro x hfail
    exact SourcePrepare.nothingHeld_transferSource hfail

lemma unmappable_openFile_inj {m n : Fin 1} {fd : Fd} (_ : (.ok 3 : Except ℕ Fd) = .ok fd)
    (_ : (.ok 3 : Except ℕ Fd) = .ok fd) : m = n := Subsingleton.elim m n

lemma unmappable_mmap_errno (_ : Fin 1) : (Except.error 12 : Except ℕ ℕ) ≠ .error 0 := by simp

/-- A system that opens the file of one byte as descriptor 3 and cannot map it. -/
def unmappable : DestinationPrepare.Answers Destination.oneByte where
  openFile _ := .ok 3
  fchmod _ := .ok ()
  ftruncate _ := .ok ()
  mmap _ := .error 12
  openFile_inj := @unmappable_openFile_inj
  mmap_range h := by cases h
  mmap_apart _ h := by cases h
  weaklyCanonical := .ok ⟨true, ["f"]⟩
  status := .ok .notFound
  createDirectory := .ok ()
  createDirectories _ := .ok ()
  permissions _ := .ok ()
  openFile_errno _ := by nofun
  fchmod_errno _ := by nofun
  ftruncate_errno _ := by nofun
  mmap_errno := unmappable_mmap_errno

/-- A system that opens two files, of which it maps the first one only. -/
def secondUnmappable : DestinationPrepare.Answers Destination.twoFiles where
  openFile := Destination.twoFilesAnswers.openFile
  fchmod _ := .ok ()
  ftruncate _ := .ok ()
  mmap := ![.ok 4096, .error 12]
  openFile_inj := Destination.twoFilesAnswers.openFile_inj
  mmap_range {n a} h := by
    fin_cases n <;> cases h
    decide
  mmap_apart {m n a b} hne hm hn := by
    fin_cases m <;> fin_cases n <;> cases hm <;> cases hn
    exact absurd rfl hne
  weaklyCanonical := .ok ⟨true, ["d"]⟩
  status := .ok .directory
  createDirectory := .ok ()
  createDirectories _ := .ok ()
  permissions _ := .ok ()
  openFile_errno _ := by nofun
  fchmod_errno _ := by nofun
  ftruncate_errno _ := by nofun
  mmap_errno n := by fin_cases n <;> simp

/-- What the system answers for the file of this name, opened under this descriptor. -/
def entryFile (name : String) (fd : Fd) (fstat : Except ℕ (Fin (2 ^ 63) × ℕ))
    (hfstat : fstat ≠ .error 0) : SourcePrepare.EntryAnswers where
  path := ⟨true, ["d", name]⟩
  relative := .ok ⟨false, [name]⟩
  isDirectory := .ok false
  permissions := .ok 0o644
  isRegularFile := .ok true
  file := ⟨.ok fd, fstat, nofun, hfstat⟩

/-- A directory with two files, of which the status of the first one can be told only. -/
def secondUnstattable : SourcePrepare.Answers where
  status := .ok .directory
  file := ⟨.error 21, .error 9, by simp, by simp⟩
  permissions := .ok 0o755
  entries := [entryFile "a" 3 (.ok (3, 0o644)) nofun, entryFile "b" 4 (.error 5) (by simp)]
  iterator := .ok ()
  openFile_ne := by simp [entryFile]

/-- Where the second of two files fails, the first one does not change what is leaked. -/
theorem nothing_leaks_second :
    ¬ NothingHeld (DestinationPrepare.initTransferInfo secondUnmappable.system ⟨true, ["d"]⟩
      Destination.twoFiles 2 { system := () }).2.disposeImpl.syscalls ∧
    ¬ NothingHeld (SourcePrepare.transferSource secondUnstattable ⟨true, ["d"]⟩ 0 true).2.syscalls := by
  obtain ⟨hdestination, hsource⟩ :=
    nothing_leaks_iff secondUnmappable ⟨true, ["d"]⟩ 2 secondUnstattable ⟨true, ["d"]⟩ 0 true
  constructor
  · rw [hdestination _ rfl, not_or, not_not]
    refine ⟨⟨fun h => h.2 fun i hi => absurd hi (Nat.not_lt_zero i), .inl rfl⟩, ?_⟩
    rintro ⟨n, ⟨errno, hopen⟩, -⟩
    cases hopen
  · rw [hsource _ rfl, not_not]
    refine .inr ⟨rfl, rfl, ?_, [_], _, [], rfl, ?_, ⟨⟨_, rfl⟩, rfl, rfl⟩, ⟨4, rfl⟩, 5, rfl⟩
    · rintro ⟨-, h⟩
      cases h
    · intro e he
      obtain rfl := List.mem_singleton.mp he
      exact .inr ⟨⟨⟨_, rfl⟩, rfl, rfl⟩, ⟨3, rfl⟩, _, rfl⟩

/-- The preparation of one file fails when it is mapped, and its descriptor stays open. -/
theorem not_nothing_leaks : ∃ x, (DestinationPrepare.initTransferInfo unmappable.system
      ⟨true, ["f"]⟩ Destination.oneByte 1 { system := () }).1 = error x ∧
    StillOpen (DestinationPrepare.initTransferInfo unmappable.system ⟨true, ["f"]⟩
      Destination.oneByte 1 { system := () }).2.disposeImpl.syscalls 3 :=
  ⟨_, rfl, [], [], rfl, nofun⟩

end Xcp
