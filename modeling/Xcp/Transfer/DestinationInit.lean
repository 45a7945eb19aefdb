import Xcp.Transfer.Destination

/-!
# Preparing a receiving transfer

What can abort in `init_transfer_info`: the number of files of a source that is no directory is
checked by an `ASSERT`, and so are the permissions of every file, at the moment it is opened.
-/

namespace Xcp

open Outcome

namespace Destination

/-- The permissions have a bit that `internal_open_regular_file` does not expect. -/
def ExtraPerm (posixPerm : ℕ) : Prop := posixPerm &&& 0o7777 ≠ posixPerm

lemma createPerm_eq_aborted {fi : BasicFileInfo} :
    createPerm fi = aborted ↔ ExtraPerm fi.posixPerm := by
  unfold createPerm
  split_ifs with hzero
  · simp [ExtraPerm, hzero]
  · rw [assert_bind_eq_aborted]
    constructor
    · intro h hperm
      cases h hperm
    · intro h hperm
      exact absurd hperm h

lemma createPerm_ok {fi : BasicFileInfo} (h : ¬ ExtraPerm fi.posixPerm) :
    ∃ perm, createPerm fi = ok perm := by
  unfold createPerm
  split_ifs
  · exact ⟨_, rfl⟩
  · exact ⟨_, by rw [assert_of (not_not.mp h)]; rfl⟩

lemma orThrow_ne_aborted {α : Type} {answer : Except ℕ α} {message : String} :
    orThrow answer message ≠ aborted := by
  cases answer <;> nofun

variable {F : ℕ} {info : BasicTransferInfo F} {os : OsAnswers info}

/-- File `n` has proper permissions, and the system opens and maps it. -/
structure Opens (os : OsAnswers info) (n : Fin F) : Prop where
  perm : ¬ ExtraPerm (info.filesInfo n).posixPerm
  openFile : ∃ fd, os.openFile n = .ok fd
  fchmod : os.fchmod n = .ok ()
  ftruncate : 0 < info.fileSize n → os.ftruncate n = .ok ()
  mmap : 0 < info.fileSize n → ∃ addr, os.mmap n = .ok addr

lemma internalOpenRegularFile_eq_aborted {filePath : String} {n : Fin F} {previous : FileImage} :
    internalOpenRegularFile os filePath n previous = aborted ↔
      ExtraPerm (info.filesInfo n).posixPerm := by
  unfold internalOpenRegularFile
  simp only
  rw [bind_eq_aborted, createPerm_eq_aborted]
  constructor
  · rintro (h | ⟨_, -, h⟩)
    · exact h
    · refine absurd h ?_
      apply bind_ne_aborted orThrow_ne_aborted
      intro fd _
      apply bind_ne_aborted orThrow_ne_aborted
      intro _ _
      split_ifs
      · apply bind_ne_aborted orThrow_ne_aborted
        intro _ _
        apply bind_ne_aborted orThrow_ne_aborted
        nofun
      · nofun
  · exact Or.inl

lemma internalOpenRegularFile_ok_iff {filePath : String} {n : Fin F} {previous : FileImage} :
    (∃ f, internalOpenRegularFile os filePath n previous = ok f) ↔ Opens os n := by
  constructor
  · rintro ⟨f, h⟩
    have hne : internalOpenRegularFile os filePath n previous ≠ aborted := by rw [h]; nofun
    have hperm : ¬ ExtraPerm (info.filesInfo n).posixPerm := fun hextra =>
      hne (internalOpenRegularFile_eq_aborted.mpr hextra)
    simp only [internalOpenRegularFile, bind_eq_ok, orThrow_eq_ok] at h
    obtain ⟨_, _, fd, hfd, _, hchmod, h⟩ := h
    split_ifs at h with hsize
    · simp only [bind_eq_ok, orThrow_eq_ok] at h
      obtain ⟨_, htruncate, addr, haddr, -⟩ := h
      exact ⟨hperm, ⟨fd, hfd⟩, hchmod, fun _ => htruncate, fun _ => ⟨addr, haddr⟩⟩
    · exact ⟨hperm, ⟨fd, hfd⟩, hchmod, fun h => absurd h hsize, fun h => absurd h hsize⟩
  · intro h
    obtain ⟨perm, hperm⟩ := createPerm_ok h.perm
    obtain ⟨fd, hfd⟩ := h.openFile
    by_cases hsize : 0 < info.fileSize n
    · obtain ⟨addr, haddr⟩ := h.mmap hsize
      simp only [internalOpenRegularFile, hperm, hfd, h.fchmod, orThrow, ok_bind, if_pos hsize,
        h.ftruncate hsize, haddr]
      exact ⟨_, rfl⟩
    · simp only [internalOpenRegularFile, hperm, hfd, h.fchmod, orThrow, ok_bind, if_neg hsize]
      exact ⟨_, rfl⟩

/-- Some file has permissions with an extra bit, and all files before it open. -/
def BadPerm (os : OsAnswers info) : Prop :=
  ∃ n, ExtraPerm (info.filesInfo n).posixPerm ∧ ∀ m < n, Opens os m

variable {createDirectories : FilePath → Outcome PrepareError Unit} {requestedDstPath : FilePath}
  {previous : Fin F → FileImage} {status : FileType}

lemma openFiles_eq_aborted {filePath : Fin F → FilePath} :
    openFiles os previous filePath = aborted ↔ BadPerm os := by
  rw [openFiles, forFin_eq_aborted]
  simp only [internalOpenRegularFile_eq_aborted, internalOpenRegularFile_ok_iff]
  rfl

lemma prepareTransferRegularFile_eq_aborted :
    prepareTransferRegularFile os requestedDstPath previous = aborted ↔ F ≠ 1 ∨ BadPerm os := by
  rw [prepareTransferRegularFile, assert_bind_eq_aborted, openFiles_eq_aborted,
    imp_iff_not_or]

/-- The directories that the source announces are created. -/
def DirectoriesCreated (createDirectories : FilePath → Outcome PrepareError Unit)
    (requestedDstPath : FilePath) (info : BasicTransferInfo F) : Prop :=
  ∀ di ∈ info.dirsInfo, createDirectories (requestedDstPath / di.relativePath) = ok ()

lemma prepareTransferDirectory_eq_aborted (hcreate : ∀ p, createDirectories p ≠ aborted) :
    prepareTransferDirectory os createDirectories requestedDstPath previous = aborted ↔
      DirectoriesCreated createDirectories requestedDstPath info ∧ BadPerm os := by
  rw [prepareTransferDirectory, bind_eq_aborted, openFiles_eq_aborted, DirectoriesCreated,
    ← forM_eq_ok]
  constructor
  · rintro (h | ⟨_, h, hbad⟩)
    · exact absurd h (forM_ne_aborted fun _ _ => hcreate _)
    · exact ⟨h, hbad⟩
  · rintro ⟨h, hbad⟩
    exact .inr ⟨(), h, hbad⟩

/-- The preparation of a destination of this type aborts: a source that is no directory has not
exactly one file, or a file is reached whose permissions have an extra bit. -/
def PrepareAborts (os : OsAnswers info) (createDirectories : FilePath → Outcome PrepareError Unit)
    (requestedDstPath : FilePath) : FileType → Prop
  | .regular => info.sourceIsDirectory = false ∧ (F ≠ 1 ∨ BadPerm os)
  | .directory =>
    if info.sourceIsDirectory then
      DirectoriesCreated createDirectories requestedDstPath info ∧ BadPerm os
    else F ≠ 1 ∨ BadPerm os
  | .notFound =>
    if info.sourceIsDirectory then
      createDirectories requestedDstPath = ok () ∧
        DirectoriesCreated createDirectories requestedDstPath info ∧ BadPerm os
    else F ≠ 1 ∨ BadPerm os
  | _ => False

lemma prepareTransfer_eq_aborted (hcreate : ∀ p, createDirectories p ≠ aborted) :
    prepareTransfer os createDirectories requestedDstPath previous status = aborted ↔
      PrepareAborts os createDirectories requestedDstPath status := by
  unfold prepareTransfer PrepareAborts
  cases status with
  | regular =>
    cases hdir : info.sourceIsDirectory with
    | true => simp
    | false => simpa using prepareTransferRegularFile_eq_aborted
  | directory =>
    simp only
    split_ifs
    · exact prepareTransferDirectory_eq_aborted hcreate
    · exact prepareTransferRegularFile_eq_aborted
  | notFound =>
    simp only
    split_ifs
    · rw [bind_eq_aborted, prepareTransferDirectory_eq_aborted hcreate]
      constructor
      · rintro (h | ⟨_, h, hrest⟩)
        · exact absurd h (hcreate _)
        · exact ⟨h, hrest⟩
      · rintro ⟨h, hrest⟩
        exact .inr ⟨(), h, hrest⟩
    · exact prepareTransferRegularFile_eq_aborted
  | _ => simp

/-- `init_transfer_info` aborts exactly if the preparation does, for a gate that can be set up. -/
lemma initTransferInfo_eq_aborted {N : ℕ} (hpos : 0 < N) (hN : N ≠ invalidSignalCount)
    (hcreate : ∀ p, createDirectories p ≠ aborted) :
    initTransferInfo os createDirectories requestedDstPath previous N status = aborted ↔
      PrepareAborts os createDirectories requestedDstPath status := by
  have hgate : (({} : GateGuard).init N : Outcome PrepareError GateGuard) =
      ok { atLeastSignal := N } := GateGuard.init_eq_ok.mpr ⟨hN, hpos, rfl⟩
  rw [initTransferInfo, assert_of hpos, ok_bind, hgate, ok_bind, bind_eq_aborted,
    prepareTransfer_eq_aborted hcreate]
  constructor
  · rintro (h | ⟨_, -, h⟩)
    · exact h
    · cases h
  · exact Or.inl

end Destination

end Xcp
