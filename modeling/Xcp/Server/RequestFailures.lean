import Xcp.Server.HandshakeAborts
import Xcp.Transfer.DestinationPrepare
import Xcp.Transfer.SourcePrepare

/-!
# How a failed initialisation is reported

The part of `fn_portal` that initialises a transfer answers a `transfer_error` with a response. An
exception of the library is caught behind `fn_portal` only, where the connection is dropped; the
client has no handler for it that does not terminate. So everything depends on which of the two a
failing step throws.
-/

namespace Xcp

open Outcome ProgramOptionsDefaults

/-! ### What the preparations throw -/

/-- An error that a response can tell. -/
def Tells (x : PrepareError) : Prop := ∃ e, x = .transferError e ∧ e.errorCode ≠ 0

namespace SourcePrepare

variable {a : Answers} {srcPath : FilePath} {recursive : Bool}

variable (a srcPath recursive) in
/-- A call of the library fails, and no other step before it. -/
def Throws : Prop :=
  a.status = .error () ∨
  (a.status = .ok .directory ∧ recursive = true ∧
    (RootThrows a srcPath ∨
      (∃ before e after, a.entries = before ++ e :: after ∧ (∀ e' ∈ before, e'.Recorded) ∧
        e.Throws) ∨
      ((∀ e ∈ a.entries, e.Recorded) ∧ a.iterator = .error ())))

lemma OpenRun.tells {filePath : FilePath} {file : FileAnswers} {p p' : Preparation}
    {x : PrepareError} (h : OpenRun filePath file p (error x, p')) : Tells x := by
  cases h with
  | notOpened hopen => exact ⟨_, rfl, fun h => file.openFile_errno (hopen.trans (h ▸ rfl))⟩
  | notStatted _ hstat => exact ⟨_, rfl, fun h => file.fstat_errno (hstat.trans (h ▸ rfl))⟩

/-- An entry that fails throws an error that can be told, or a call of the library has failed. -/
lemma EntryRun.throws_iff {dirName : FilePath} {e : EntryAnswers} {p p' : Preparation}
    {x : PrepareError} (h : EntryRun dirName e p (error x, p')) :
    (e.Throws ∧ x = .filesystemError) ∨ (¬ e.Throws ∧ Tells x) := by
  cases h with
  | thrown h => exact .inl ⟨h, rfl⟩
  | special _ _ h => exact .inr ⟨h, _, rfl, by simp⟩
  | notOpened hfile hopen =>
    refine .inr ⟨fun h => h.not_found.2 hfile, _, rfl, fun h => ?_⟩
    exact e.file.openFile_errno (hopen.trans (h ▸ rfl))
  | notStatted hfile _ hstat =>
    refine .inr ⟨fun h => h.not_found.2 hfile, _, rfl, fun h => ?_⟩
    exact e.file.fstat_errno (hstat.trans (h ▸ rfl))

/-- An entry that throws is not recorded. -/
lemma EntryAnswers.Throws.not_recorded {e : EntryAnswers} (h : e.Throws) : ¬ e.Recorded := by
  obtain ⟨hdir, hfile⟩ := h.not_found
  rintro (h | h)
  · exact hdir h
  · exact hfile h.1

lemma EntryRun.not_recorded {dirName : FilePath} {e : EntryAnswers} {p p' : Preparation}
    {x : PrepareError} (h : EntryRun dirName e p (error x, p')) : ¬ e.Recorded := by
  cases h with
  | thrown h => exact h.not_recorded
  | special hfile hdir => exact fun h => h.elim hdir fun h => hfile h.1
  | notOpened hfile hopen =>
    rintro (hdir | ⟨-, ⟨fd, hfd⟩, -⟩)
    · cases hfile.2.1.symm.trans hdir.2.1
    · cases hopen.symm.trans hfd
  | notStatted hfile hopen hstat =>
    exact EntryAnswers.OpensOnly.not_recorded ⟨hfile, ⟨_, hopen⟩, _, hstat⟩

/-- A directory that fails throws an error that can be told, or a call of the library has failed. -/
lemma DirectoryRun.throws_iff {r : Outcome PrepareError Unit × Preparation}
    (h : DirectoryRun a srcPath r) (htype : a.status = .ok .directory) (hrecursive : recursive = true) :
    (Throws a srcPath recursive ∧ r.1 = error .filesystemError) ∨
    (¬ Throws a srcPath recursive ∧ (r.1 = ok () ∨ ∃ x, r.1 = error x ∧ Tells x)) := by
  have hthrows : Throws a srcPath recursive ↔ RootThrows a srcPath ∨
      (∃ before e after, a.entries = before ++ e :: after ∧ (∀ e' ∈ before, e'.Recorded) ∧
        e.Throws) ∨
      ((∀ e ∈ a.entries, e.Recorded) ∧ a.iterator = .error ()) := by
    simp [Throws, htype, hrecursive]
  rw [hthrows]
  have hnone : (∀ e ∈ a.entries, e.Recorded) → ¬ ∃ before e after,
      a.entries = before ++ e :: after ∧ (∀ e' ∈ before, e'.Recorded) ∧ e.Throws := by
    rintro hall ⟨before, e, after, hl, -, hthrow⟩
    exact hthrow.not_recorded (hall e (by simp [hl]))
  cases h with
  | rootThrown h => exact .inl ⟨.inl h, rfl⟩
  | stops hroot _ hr =>
    cases hr with
    | @stops before e after x t p' hl hbefore _ he =>
      rcases he.throws_iff with ⟨hthrow, rfl⟩ | ⟨hthrow, htells⟩
      · exact .inl ⟨.inr (.inl ⟨before, e, after, hl, hbefore, hthrow⟩), rfl⟩
      · refine .inr ⟨?_, .inr ⟨_, rfl, htells⟩⟩
        rintro (h | ⟨before', e', after', hl', hbefore', hthrow'⟩ | ⟨hall, -⟩)
        · exact hroot h
        · have heq := first_unique (hl.symm.trans hl') hbefore hbefore' he.not_recorded
            hthrow'.not_recorded
          exact hthrow (heq ▸ hthrow')
        · exact he.not_recorded (hall e (by simp [hl]))
  | iteratorThrown _ _ hr hiterator =>
    cases hr with
    | all h => exact .inl ⟨.inr (.inr ⟨h, hiterator⟩), rfl⟩
  | read hroot _ hr hiterator =>
    cases hr with
    | all h =>
      refine .inr ⟨?_, .inl rfl⟩
      rintro (hthrow | hthrow | ⟨-, hthrow⟩)
      · exact hroot hthrow
      · exact hnone h hthrow
      · cases hiterator.symm.trans hthrow

/-- A constructor that fails throws an error that can be told, or a call of the library has
failed. -/
lemma transferSource_throws_iff (a : Answers) (srcPath : FilePath) {transferBlockSize : ℕ}
    (hsize : transferBlockSize ≤ maxTransferBlockSize) (recursive : Bool) :
    (Throws a srcPath recursive ∧
      (transferSource a srcPath transferBlockSize recursive).1 = error .filesystemError) ∨
    (¬ Throws a srcPath recursive ∧
      ((transferSource a srcPath transferBlockSize recursive).1 = ok () ∨
        ∃ x, (transferSource a srcPath transferBlockSize recursive).1 = error x ∧ Tells x)) := by
  have hresult : (transferSource a srcPath transferBlockSize recursive).1 =
      (construct a srcPath transferBlockSize recursive {}).1 := by
    unfold transferSource
    split
    · next heq => rw [heq]
    · rfl
  rw [hresult]
  have hrun := construct_run a srcPath hsize recursive
  generalize construct a srcPath transferBlockSize recursive {} = r at hrun
  cases hrun with
  | statusThrown h => exact .inl ⟨.inl h, rfl⟩
  | unsupported htype herrno hregular hdir =>
    refine .inr ⟨?_, .inr ⟨_, rfl, _, rfl, herrno⟩⟩
    rintro (h | ⟨h, hrecursive, -⟩)
    · cases htype.symm.trans h
    · simp [hdir (Except.ok.inj (htype.symm.trans h))] at hrecursive
  | fileFails htype hr =>
    exact .inr ⟨by simp [Throws, htype], .inr ⟨_, rfl, hr.tells⟩⟩
  | fileRead htype => exact .inr ⟨by simp [Throws, htype], .inl rfl⟩
  | directory htype hrecursive hr => exact hr.throws_iff htype hrecursive

end SourcePrepare

namespace DestinationPrepare

variable {F N : ℕ} {info : BasicTransferInfo F}

/-- An announcement that the preparation expects: one file unless the source is a directory, and no
permissions with extra bits. -/
structure WellFormed (info : BasicTransferInfo F) : Prop where
  count : info.sourceIsDirectory = true ∨ F = 1
  perm : ∀ n, ¬ Destination.ExtraPerm (info.filesInfo n).posixPerm

/-- A preparation that fails throws an error that can be told, or a call of the library has
failed. -/
lemma initTransferInfo_throws_iff (os : Answers info) (requestedDstPath : FilePath)
    (hinfo : WellFormed info) (hpos : 0 < N) (hN : N ≠ invalidSignalCount) :
    (LibraryFails os ∧ (initTransferInfo os.system requestedDstPath info N { system := () }).1 =
      error .filesystemError) ∨
    (¬ LibraryFails os ∧
      ((initTransferInfo os.system requestedDstPath info N { system := () }).1 = ok () ∨
        ∃ x, (initTransferInfo os.system requestedDstPath info N { system := () }).1 = error x ∧
          Tells x)) := by
  have hrun := initTransferInfo_run os requestedDstPath hpos hN
  generalize initTransferInfo os.system requestedDstPath info N { system := () } = r at hrun
  cases hrun with
  | thrown h => exact .inl ⟨h, rfl⟩
  | unsupported herrno h => exact .inr ⟨h, .inr ⟨_, rfl, _, rfl, herrno⟩⟩
  | miscounted hdir hF => exact absurd hinfo.count (by simp [hdir, hF])
  | files hreach hr =>
    have hlibrary : ¬ LibraryFails os := fun h => h.not_reachesFiles hreach
    refine .inr ⟨hlibrary, ?_⟩
    cases hr with
    | all => exact .inl rfl
    | extraPerm _ _ hperm => exact absurd hperm (hinfo.perm _)
    | notOpened _ _ hopen =>
      exact .inr ⟨_, rfl, _, rfl, fun h => os.openFile_errno _ (hopen.trans (h ▸ rfl))⟩
    | notMapped _ _ _ herrno => exact .inr ⟨_, rfl, _, rfl, herrno⟩

end DestinationPrepare

/-! ### The server -/

namespace Server

/-- What the server's system answers while a request is handled: where the home directory of a user
is and of what type, and the answers to the constructor of the transfer. -/
structure RequestAnswers (req : Wire.MessageClientTransferRequest) where
  tryGetHomeByName : List UInt8 → Option (List UInt8)
  homeStatus : Except Unit FileType
  source : SourcePrepare.Answers
  destination : (info : Wire.BasicTransferInfo) → DestinationPrepare.Answers info.toTransferInfo

/-- What is sent to the client: the response of an error, or that of a transfer. -/
inductive Response where
  | error (e : TransferError)
  | transfer

section Initialise

variable {req : Wire.MessageClientTransferRequest} (a : RequestAnswers req) (N : ℕ)

/-- The path on the server; a `transfer_error` stands for the response it leads to. -/
def resolveServerPath : Outcome PrepareError FilePath :=
  if (FilePath.ofBytes req.serverPath).absolute then .ok (FilePath.ofBytes req.serverPath)
  else
    let homePath := req.user.getUserHomePath a.tryGetHomeByName
    let message :=
      "Server side path is relative, but home path for requested user " ++ req.user.toString
    if homePath = [] then .error (.transferError ⟨22, message ++ " is not found"⟩)
    else do
      let type ← orThrowLibrary a.homeStatus
      if type = .directory then
        pure (FilePath.ofBytes homePath / FilePath.ofBytes (stripTilde req.serverPath))
      else .error (.transferError
        ⟨22, message ++ " is not found or not a directory: " ++ FilePath.text homePath⟩)

/-- The constructor of the transfer, for `N` channels. -/
def constructTransfer (path : FilePath) : Outcome PrepareError Unit :=
  if req.isFromServerToClient then do
    assert (req.transferInfo = none)
    (SourcePrepare.transferSource a.source path req.transferBlockSize.toNat (req.isRecursive ≠ 0)).1
  else
    match req.transferInfo with
    | none => .aborted
    | some info => (DestinationPrepare.initTransferInfo (a.destination info).system path
        info.toTransferInfo N { system := () }).1

/-- The part of `fn_portal` behind the request: a `transfer_error` becomes a response; an exception
of the library leaves `fn_portal`, and its thread drops the connection. -/
def respondWith : Outcome Rejected Response :=
  match resolveServerPath a >>= constructTransfer a N with
  | .ok _                      => .ok .transfer
  | .error (.transferError e)  => .ok (.error e)
  | .error .filesystemError    => .error .exception
  | .aborted                   => .aborted

/-- The initialisation succeeds, or the client gets a response with a non-zero `error_code`. -/
def Reported : Prop :=
  respondWith a N = ok .transfer ∨
    ∃ e, respondWith a N = ok (.error e) ∧ e.errorCode ≠ 0

/-- The path on the server is absolute, or the home directory of the user is there. -/
def HomeFound : Prop :=
  (FilePath.ofBytes req.serverPath).absolute = true ∨
    req.user.getUserHomePath a.tryGetHomeByName ≠ [] ∧ a.homeStatus = .ok .directory

/-- The path in which a request results. -/
def requestPath : FilePath :=
  if (FilePath.ofBytes req.serverPath).absolute then FilePath.ofBytes req.serverPath
  else FilePath.ofBytes (req.user.getUserHomePath a.tryGetHomeByName) /
    FilePath.ofBytes (stripTilde req.serverPath)

/-- A call of the library fails, and no other step before it. -/
def RequestThrows : Prop :=
  ((FilePath.ofBytes req.serverPath).absolute = false ∧
    req.user.getUserHomePath a.tryGetHomeByName ≠ [] ∧ a.homeStatus = .error ()) ∨
  HomeFound a ∧
    if req.isFromServerToClient then
      SourcePrepare.Throws a.source (requestPath a) (req.isRecursive ≠ 0)
    else ∃ info ∈ req.transferInfo, DestinationPrepare.LibraryFails (a.destination info)

end Initialise

/-- A request that the server expects. -/
structure WellFormed (req : Wire.MessageClientTransferRequest) : Prop where
  download : req.isFromServerToClient = true →
    req.transferInfo = none ∧ req.transferBlockSize.toNat ≤ maxTransferBlockSize
  upload : req.isFromServerToClient = false →
    ∃ info, req.transferInfo = some info ∧ DestinationPrepare.WellFormed info.toTransferInfo

variable {req : Wire.MessageClientTransferRequest} {a : RequestAnswers req} {N : ℕ}

/-- How the path on the server is resolved. -/
lemma resolveServerPath_cases (a : RequestAnswers req) :
    (HomeFound a ∧ resolveServerPath a = ok (requestPath a)) ∨
    (¬ HomeFound a ∧ (FilePath.ofBytes req.serverPath).absolute = false ∧
      req.user.getUserHomePath a.tryGetHomeByName ≠ [] ∧ a.homeStatus = .error () ∧
      resolveServerPath a = error .filesystemError) ∨
    (¬ HomeFound a ∧ ¬ (req.user.getUserHomePath a.tryGetHomeByName ≠ [] ∧
      a.homeStatus = .error ()) ∧ ∃ x, resolveServerPath a = error x ∧ Tells x) := by
  unfold resolveServerPath HomeFound requestPath
  simp only
  split_ifs with habs hhome
  · exact .inl ⟨.inl habs, rfl⟩
  · exact .inr (.inr ⟨by simp [habs, hhome], by simp [hhome], _, rfl, _, rfl, by simp⟩)
  · cases hstatus : a.homeStatus with
    | error u => exact .inr (.inl ⟨by simp [habs], by simpa using habs, hhome, rfl, rfl⟩)
    | ok type =>
      simp only [orThrowLibrary, ok_bind]
      split_ifs with hdir
      · exact .inl ⟨.inr ⟨hhome, by rw [hdir]⟩, rfl⟩
      · exact .inr (.inr ⟨by simp [habs, hdir], by simp, _, rfl, _, rfl, by simp⟩)

/-- How the construction of the transfer ends. -/
lemma constructTransfer_cases (hreq : WellFormed req) (hpos : 0 < N) (hN : N ≠ invalidSignalCount)
    (a : RequestAnswers req) (path : FilePath) :
    ((if req.isFromServerToClient then SourcePrepare.Throws a.source path (req.isRecursive ≠ 0)
      else ∃ info ∈ req.transferInfo, DestinationPrepare.LibraryFails (a.destination info)) ∧
        constructTransfer a N path = error .filesystemError) ∨
    (¬ (if req.isFromServerToClient then SourcePrepare.Throws a.source path (req.isRecursive ≠ 0)
      else ∃ info ∈ req.transferInfo, DestinationPrepare.LibraryFails (a.destination info)) ∧
        (constructTransfer a N path = ok () ∨
          ∃ x, constructTransfer a N path = error x ∧ Tells x)) := by
  unfold constructTransfer
  cases hdir : req.isFromServerToClient with
  | true =>
    obtain ⟨hinfo, hsize⟩ := hreq.download hdir
    simp only [if_true, assert_of hinfo, ok_bind]
    exact SourcePrepare.transferSource_throws_iff a.source path hsize _
  | false =>
    obtain ⟨info, hinfo, hwell⟩ := hreq.upload hdir
    simp only [hinfo, Bool.false_eq_true, if_false, Option.mem_some_iff, exists_eq_left']
    exact DestinationPrepare.initTransferInfo_throws_iff (a.destination info) path hwell hpos hN

/-- A failed initialisation is reported to the client exactly if it is not a call of the library
that fails first. -/
lemma reported_iff (hreq : WellFormed req) (hpos : 0 < N) (hN : N ≠ invalidSignalCount)
    (a : RequestAnswers req) : Reported a N ↔ ¬ RequestThrows a := by
  have htells : ∀ {x}, Tells x → resolveServerPath a >>= constructTransfer a N = error x →
      Reported a N := by
    rintro x ⟨e, rfl, herror⟩ h
    exact .inr ⟨e, by rw [respondWith, h], herror⟩
  have hthrown : resolveServerPath a >>= constructTransfer a N = error .filesystemError →
      ¬ Reported a N := by
    intro h
    rw [Reported, respondWith, h]
    simp
  rcases resolveServerPath_cases a with ⟨hhome, hpath⟩ | ⟨hhome, habs, hne, hstatus, hpath⟩ |
    ⟨hhome, hstatus, x, hpath, hx⟩
  · have hthrows : RequestThrows a ↔ if req.isFromServerToClient then
        SourcePrepare.Throws a.source (requestPath a) (req.isRecursive ≠ 0)
        else ∃ info ∈ req.transferInfo, DestinationPrepare.LibraryFails (a.destination info) := by
      refine ⟨?_, fun h => .inr ⟨hhome, h⟩⟩
      rintro (⟨habs, -, hstatus⟩ | ⟨-, h⟩)
      · rcases hhome with hhome | ⟨-, hhome⟩
        · cases habs.symm.trans hhome
        · cases hstatus.symm.trans hhome
      · exact h
    rw [hthrows]
    rcases constructTransfer_cases hreq hpos hN a (requestPath a) with ⟨h, hrun⟩ | ⟨h, hrun⟩
    · exact iff_of_false (hthrown (by rw [hpath, ok_bind, hrun])) (not_not.mpr h)
    · refine iff_of_true ?_ h
      rcases hrun with hrun | ⟨x, hrun, hx⟩
      · exact .inl (by rw [respondWith, hpath, ok_bind, hrun])
      · exact htells hx (by rw [hpath, ok_bind, hrun])
  · refine iff_of_false (hthrown (by rw [hpath, error_bind])) (not_not.mpr ?_)
    exact .inl ⟨habs, hne, hstatus⟩
  · refine iff_of_true (htells hx (by rw [hpath, error_bind])) ?_
    rintro (⟨-, h⟩ | ⟨h, -⟩)
    · exact hstatus h
    · exact hhome h

/-! ### Agreement with the handling of a connection -/

section Agreement

variable {env : Environment}

/-- The answers for the destination are those of the environment. -/
structure DestinationAgrees (env : Environment) (path : FilePath) (info : Wire.BasicTransferInfo)
    (os : DestinationPrepare.Answers info.toTransferInfo) : Prop where
  toOsAnswers : os.toOsAnswers = env.os info.toTransferInfo
  weaklyCanonical : os.weaklyCanonical = env.weaklyCanonical path
  status : ∀ real, env.weaklyCanonical path = .ok real →
    orThrowLibrary os.status = statusType env.fs env.special real
  directories : DestinationPrepare.DirectoryAnswers os (createDirectories env) path

/-- The answers are those of the environment. -/
structure RequestAgrees (env : Environment) (a : RequestAnswers req) : Prop where
  tryGetHomeByName : a.tryGetHomeByName = env.tryGetHomeByName
  homeStatus : orThrowLibrary a.homeStatus =
    statusType env.fs env.special (FilePath.ofBytes (homePath env req))
  source : SourcePrepare.Agrees env.fs env.special (serverPath env req) a.source
  destination : ∀ info, req.transferInfo = some info →
    DestinationAgrees env (serverPath env req) info (a.destination info)

lemma resolveServerPath_agrees (h : RequestAgrees env a) :
    resolveServerPath a = (checkServerPath env req >>= fun _ => ok (serverPath env req)) := by
  unfold resolveServerPath checkServerPath serverPath homePath
  rw [h.tryGetHomeByName, h.homeStatus]
  simp only [homePath]
  split_ifs
  · rfl
  · rfl
  · rw [bind_assoc]
    congr 1
    funext type
    split_ifs <;> rfl

lemma constructTransfer_agrees (h : RequestAgrees env a) (hlt : N < 2 ^ 64) (hpos : 0 < N)
    (hN : N ≠ invalidSignalCount) :
    constructTransfer a N (serverPath env req) = (initTransfer env req N >>= fun _ => ok ()) := by
  unfold constructTransfer initTransfer
  split_ifs
  · rw [bind_assoc]
    congr 1
    funext _
    rw [bind_assoc, (SourcePrepare.transferSource_agrees h.source _ _).1]
    rfl
  · cases hinfo : req.transferInfo with
    | none => rfl
    | some info =>
      have hagrees := h.destination info hinfo
      simp only [destinationType, bind_assoc]
      have hmembers := DestinationPrepare.initMembers_new () hpos hN
      cases hreal : env.weaklyCanonical (serverPath env req) with
      | error u =>
        rw [DestinationPrepare.initTransferInfo, Effect.bind_of_ok hmembers, Effect.bind_of_error
          (DestinationPrepare.library_of_error (hagrees.weaklyCanonical.trans hreal))]
        rfl
      | ok real =>
        have hreal' := hagrees.weaklyCanonical.trans hreal
        simp only [← hagrees.status real hreal]
        cases htype : (a.destination info).status with
        | error u =>
          rw [DestinationPrepare.initTransferInfo, Effect.bind_of_ok hmembers, Effect.bind_of_ok
            (DestinationPrepare.library_of_ok hreal'), Effect.bind_of_error
            (DestinationPrepare.library_of_error htype)]
          rfl
        | ok type =>
          rw [(DestinationPrepare.initTransferInfo_agrees (fun n => env.previous n) hlt
            hpos hN hreal' htype hagrees.directories).1, hagrees.toOsAnswers]
          rfl

/-- What the client gets is what the handling of its request yields. -/
theorem respondWith_agrees (h : RequestAgrees env a) (hlt : N < 2 ^ 64) (hpos : 0 < N)
    (hN : N ≠ invalidSignalCount) :
    (∀ e, respondWith a N = ok (.error e) ↔ respond env req N = ok (.errorResponse e)) ∧
    (respondWith a N = ok .transfer ↔ ∃ t, respond env req N = ok (.transfer t)) ∧
    (respondWith a N = error .exception ↔ respond env req N = error .exception) := by
  have hresult : (resolveServerPath a >>= constructTransfer a N) =
      ((checkServerPath env req >>= fun _ => initTransfer env req N) >>= fun _ => ok ()) := by
    rw [resolveServerPath_agrees h, bind_assoc, bind_assoc]
    congr 1
    funext _
    rw [ok_bind, constructTransfer_agrees h hlt hpos hN]
  unfold respondWith respond
  rw [hresult]
  rcases checkServerPath env req >>= fun _ => initTransfer env req N with _ | (_ | _) | _ <;>
    simp

end Agreement

end Server

/-! ### The client -/

namespace Client

/-- A function of the client that catches a `transfer_error` and then returns; an exception of the
library reaches `std::terminate`, out of `main`, or `PANIC_TERMINATE` in the thread of the
portal. -/
def catchTransferError {α : Type} : Outcome PrepareError α → Outcome TransferError α
  | .ok a                     => .ok a
  | .error (.transferError e) => .error e
  | .error .filesystemError   => .aborted
  | .aborted                  => .aborted

/-- The first part of `client_portal_state::init`, which prepares the file; the constructor of
`transfer_destination` only keeps the path. -/
def init (isFromServerToClient : Bool) (a : SourcePrepare.Answers) (fromPath : FilePath)
    (transferBlockSize : ℕ) (recursive : Bool) : Outcome TransferError Unit :=
  if isFromServerToClient then .ok ()
  else catchTransferError
    (SourcePrepare.transferSource a fromPath transferBlockSize recursive).1

/-- The call of `init_transfer_info` in `fn_thread_work`. -/
def initTransferInfo {F : ℕ} {info : BasicTransferInfo F} (os : DestinationPrepare.Answers info)
    (toPath : FilePath) (N : ℕ) : Outcome TransferError Unit :=
  catchTransferError
    (DestinationPrepare.initTransferInfo os.system toPath info N { system := () }).1

lemma catchTransferError_ne_aborted {o : Outcome PrepareError Unit}
    (h : o = ok () ∨ ∃ x, o = error x ∧ Tells x) : catchTransferError o ≠ aborted := by
  rcases h with rfl | ⟨x, rfl, e, rfl, -⟩ <;> nofun

/-- The preparation of the file ends in an orderly way exactly if it is a download, or no call of
the library fails first. -/
lemma init_ne_aborted_iff (isFromServerToClient : Bool) (a : SourcePrepare.Answers)
    (fromPath : FilePath) {transferBlockSize : ℕ} (hsize : transferBlockSize ≤ maxTransferBlockSize)
    (recursive : Bool) : init isFromServerToClient a fromPath transferBlockSize recursive ≠ aborted ↔
      isFromServerToClient = true ∨ ¬ SourcePrepare.Throws a fromPath recursive := by
  unfold init
  cases isFromServerToClient with
  | true => simp
  | false =>
    simp only [Bool.false_eq_true, if_false, false_or]
    rcases SourcePrepare.transferSource_throws_iff a fromPath hsize recursive with
      ⟨h, hrun⟩ | ⟨h, hrun⟩
    · rw [hrun]
      exact iff_of_false (not_not.mpr rfl) (not_not.mpr h)
    · exact iff_of_true (catchTransferError_ne_aborted hrun) h

/-- The preparation of the destination ends in an orderly way exactly if no call of the library
fails. -/
lemma initTransferInfo_ne_aborted_iff {F N : ℕ} {info : BasicTransferInfo F}
    (os : DestinationPrepare.Answers info) (toPath : FilePath)
    (hinfo : DestinationPrepare.WellFormed info) (hpos : 0 < N) (hN : N ≠ invalidSignalCount) :
    initTransferInfo os toPath N ≠ aborted ↔ ¬ DestinationPrepare.LibraryFails os := by
  unfold initTransferInfo
  rcases DestinationPrepare.initTransferInfo_throws_iff os toPath hinfo hpos hN with
    ⟨h, hrun⟩ | ⟨h, hrun⟩
  · rw [hrun]
    exact iff_of_false (not_not.mpr rfl) (not_not.mpr h)
  · exact iff_of_true (catchTransferError_ne_aborted hrun) h

end Client

/-! ### Both sides -/

/-- A failed initialisation is reported by the server, and ends in an orderly way in the client,
exactly if it is not a call of the library that fails first. -/
theorem failures_reported_iff {req : Wire.MessageClientTransferRequest} (hreq : Server.WellFormed req)
    {N : ℕ} (hpos : 0 < N) (hN : N ≠ invalidSignalCount) (a : Server.RequestAnswers req)
    (isFromServerToClient : Bool) (b : SourcePrepare.Answers) (fromPath : FilePath)
    {transferBlockSize : ℕ} (hsize : transferBlockSize ≤ maxTransferBlockSize) (recursive : Bool)
    {F : ℕ} {info : BasicTransferInfo F} (hinfo : DestinationPrepare.WellFormed info)
    (os : DestinationPrepare.Answers info) (toPath : FilePath) :
    (Server.Reported a N ↔ ¬ Server.RequestThrows a) ∧
    (Client.init isFromServerToClient b fromPath transferBlockSize recursive ≠ aborted ↔
      isFromServerToClient = true ∨ ¬ SourcePrepare.Throws b fromPath recursive) ∧
    (Client.initTransferInfo os toPath N ≠ aborted ↔ ¬ DestinationPrepare.LibraryFails os) :=
  ⟨Server.reported_iff hreq hpos hN a,
    Client.init_ne_aborted_iff isFromServerToClient b fromPath hsize recursive,
    Client.initTransferInfo_ne_aborted_iff os toPath hinfo hpos hN⟩

/-- A system where the destination does not exist and cannot be created. -/
def readOnly {F : ℕ} (info : BasicTransferInfo F) : DestinationPrepare.Answers info where
  openFile _ := .error 30
  fchmod _ := .error 30
  ftruncate _ := .error 30
  mmap _ := .error 30
  openFile_inj h := by cases h
  mmap_range h := by cases h
  mmap_apart _ h := by cases h
  weaklyCanonical := .ok ⟨true, ["d"]⟩
  status := .ok .notFound
  createDirectory := .error ()
  createDirectories _ := .error ()
  permissions _ := .error ()
  openFile_errno _ := by simp
  fchmod_errno _ := by simp
  ftruncate_errno _ := by simp
  mmap_errno _ := by simp

lemma denied_openFile_errno : (Except.error 13 : Except ℕ Fd) ≠ .error 0 := by simp

lemma denied_fstat_errno : (Except.error 13 : Except ℕ (Fin (2 ^ 63) × ℕ)) ≠ .error 0 := by simp

lemma denied_openFile_ne : ([] : List SourcePrepare.EntryAnswers).Pairwise fun e e' =>
    ∀ fd, e.file.openFile = .ok fd → e'.file.openFile ≠ .ok fd := .nil

/-- A path of which the status is denied. -/
def denied : SourcePrepare.Answers where
  status := .error ()
  file := ⟨.error 13, .error 13, denied_openFile_errno, denied_fstat_errno⟩
  permissions := .error ()
  entries := []
  iterator := .ok ()
  openFile_ne := denied_openFile_ne

/-- An empty directory. -/
def emptyDirectory : Wire.BasicTransferInfo where
  sourceIsDirectory := true

/-- An upload of an empty directory onto `/d`. -/
def uploadRequest : Wire.MessageClientTransferRequest where
  isFromServerToClient := false
  serverPath := [47, 100]
  transferBlockSize := 0
  isRecursive := 1
  transferInfo := some emptyDirectory

/-- What a read-only file system answers to this request. -/
def readOnlyAnswers : Server.RequestAnswers uploadRequest where
  tryGetHomeByName _ := none
  homeStatus := .error ()
  source := denied
  destination info := readOnly info.toTransferInfo

lemma emptyDirectory_wellFormed : DestinationPrepare.WellFormed emptyDirectory.toTransferInfo :=
  ⟨.inl rfl, fun n => n.elim0⟩

lemma uploadRequest_wellFormed : Server.WellFormed uploadRequest :=
  ⟨by nofun, fun _ => ⟨emptyDirectory, rfl, emptyDirectory_wellFormed⟩⟩

lemma readOnly_libraryFails : DestinationPrepare.LibraryFails (readOnly emptyDirectory.toTransferInfo) :=
  ⟨rfl, .inl (by simp [readOnly])⟩

lemma refused_openFile_inj {F : ℕ} {m n : Fin F} {fd : Fd}
    (hm : (if m.val = 0 then .ok 3 else .error 13 : Except ℕ Fd) = .ok fd)
    (hn : (if n.val = 0 then .ok 3 else .error 13 : Except ℕ Fd) = .ok fd) : m = n := by
  split_ifs at hm hn with hm' hn'
  exact Fin.ext (hm'.trans hn'.symm)

lemma refused_openFile_errno {F : ℕ} (n : Fin F) :
    (if n.val = 0 then .ok 3 else .error 13 : Except ℕ Fd) ≠ .error 0 := by
  split_ifs <;> simp

lemma refused_ok_errno : (Except.ok () : Except ℕ Unit) ≠ .error 0 := by simp

lemma refused_mmap_errno : (Except.error 28 : Except ℕ ℕ) ≠ .error 0 := by simp

/-- A system where the first file can be opened, and no other one. -/
def refused {F : ℕ} (info : BasicTransferInfo F) : DestinationPrepare.Answers info where
  openFile n := if n.val = 0 then .ok 3 else .error 13
  fchmod _ := .ok ()
  ftruncate _ := .ok ()
  mmap _ := .error 28
  openFile_inj := refused_openFile_inj
  mmap_range h := by cases h
  mmap_apart _ h := by cases h
  weaklyCanonical := .ok ⟨true, ["d"]⟩
  status := .ok .directory
  createDirectory := .error ()
  createDirectories _ := .ok ()
  permissions _ := .ok ()
  openFile_errno := refused_openFile_errno
  fchmod_errno _ := refused_ok_errno
  ftruncate_errno _ := refused_ok_errno
  mmap_errno _ := refused_mmap_errno

/-- A directory with an empty file and one of two bytes. -/
def twoFilesInfo : Wire.BasicTransferInfo where
  sourceIsDirectory := true
  filesInfo := [⟨[97], 0, 0o644⟩, ⟨[98], 2, 0o600⟩]

/-- The upload of this directory onto `/d`. -/
def twoFilesRequest : Wire.MessageClientTransferRequest :=
  { uploadRequest with transferInfo := some twoFilesInfo }

/-- What a system that refuses the second file answers to this request. -/
def refusedAnswers : Server.RequestAnswers twoFilesRequest where
  tryGetHomeByName _ := none
  homeStatus := .error ()
  source := denied
  destination info := refused info.toTransferInfo

lemma twoFilesInfo_wellFormed : DestinationPrepare.WellFormed twoFilesInfo.toTransferInfo := by
  have hperm : ∀ n : Fin 2, (twoFilesInfo.toTransferInfo.filesInfo n).posixPerm &&& 0o7777 =
      (twoFilesInfo.toTransferInfo.filesInfo n).posixPerm := by decide
  exact ⟨.inl rfl, fun n => not_not.mpr (hperm n)⟩

lemma twoFilesRequest_wellFormed : Server.WellFormed twoFilesRequest :=
  ⟨by nofun, fun _ => ⟨twoFilesInfo, rfl, twoFilesInfo_wellFormed⟩⟩

lemma refused_not_libraryFails {F : ℕ} {info : BasicTransferInfo F} :
    ¬ DestinationPrepare.LibraryFails (refused info) :=
  fun h => h.2 fun _ _ => ⟨rfl, rfl⟩

/-- A file that cannot be opened is reported, a directory that cannot be created is not. -/
theorem failures_reported_refused_readOnly :
    (Server.Reported refusedAnswers 2 ∧
      Server.respondWith refusedAnswers 2 = ok (.error ⟨13, "open() /d/b for write failed"⟩) ∧
      Client.initTransferInfo (refused twoFilesInfo.toTransferInfo) ⟨true, ["d"]⟩ 2 ≠ aborted) ∧
    ¬ Server.Reported readOnlyAnswers 1 ∧ Client.init false denied ⟨true, ["d"]⟩ 0 true = aborted ∧
      Client.initTransferInfo (readOnly emptyDirectory.toTransferInfo) ⟨true, ["d"]⟩ 1 = aborted := by
  obtain ⟨hrefused, -, hopens⟩ := failures_reported_iff twoFilesRequest_wellFormed (N := 2)
    (by decide) (by decide) refusedAnswers false denied ⟨true, ["d"]⟩ (Nat.zero_le _) true
    twoFilesInfo_wellFormed (refused twoFilesInfo.toTransferInfo) ⟨true, ["d"]⟩
  obtain ⟨hserver, hinit, hinfo⟩ := failures_reported_iff uploadRequest_wellFormed (N := 1)
    (by decide) (by decide) readOnlyAnswers false denied ⟨true, ["d"]⟩ (Nat.zero_le _) true
    emptyDirectory_wellFormed (readOnly emptyDirectory.toTransferInfo) ⟨true, ["d"]⟩
  refine ⟨⟨hrefused.mpr ?_, rfl, hopens.mpr refused_not_libraryFails⟩, ?_, ?_, ?_⟩
  · rintro (⟨habsolute, -⟩ | ⟨-, info, -, hfails⟩)
    · cases habsolute
    · exact refused_not_libraryFails hfails
  · rw [hserver, not_not]
    exact .inr ⟨.inl (by decide), emptyDirectory, rfl, readOnly_libraryFails⟩
  · by_contra hne
    exact (hinit.mp hne).elim (by decide) fun h => h (.inl rfl)
  · by_contra hne
    exact hinfo.mp hne readOnly_libraryFails

/-- On a read-only file system `create_directory` throws, and the connection is dropped without a
response. -/
theorem not_failures_reported : Server.WellFormed uploadRequest ∧
    Server.respondWith readOnlyAnswers 1 = error .exception ∧ ¬ Server.Reported readOnlyAnswers 1 := by
  have hrespond : Server.respondWith readOnlyAnswers 1 = error .exception := rfl
  refine ⟨uploadRequest_wellFormed, hrespond, ?_⟩
  rw [Server.Reported, hrespond]
  simp

end Xcp
