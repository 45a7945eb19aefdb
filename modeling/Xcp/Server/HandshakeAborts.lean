import Xcp.Server.Handshake
import Xcp.Wire.Request

/-!
# What a peer can abort

The handling of an accepted socket reaches `std::abort` on the requests that offend and on those
that cannot be decoded, and on nothing else. Every other connection ends in a rejection or an error
response, or goes on to a transfer. The server is one that runs: it may know that it has to be
disposed, but no disposal goes on while the socket is handled.
-/

namespace Xcp

open Archive Outcome Bytes PortalProtocol ProgramOptionsDefaults

namespace Server

/-! ### What the request asks for -/

section Offends

variable (env : Environment) (req : Wire.MessageClientTransferRequest)

/-- The path on the server is absolute, or the home directory of the user is there. -/
def ServerPathResolves : Prop :=
  (FilePath.ofBytes req.serverPath).absolute = true ∨
    homePath env req ≠ [] ∧
      statusType env.fs env.special (FilePath.ofBytes (homePath env req)) = ok .directory

/-- An upload without an announcement, or with one whose files cannot be prepared. -/
def UploadOffends : Prop :=
  ∀ info ∈ req.transferInfo, ∃ type, destinationType env (serverPath env req) = ok type ∧
    Destination.PrepareAborts (env.os info.toTransferInfo) (createDirectories env)
      (serverPath env req) type

/-- A request that the server does not survive: a download that announces files or asks for blocks
that are too large, and an upload that offends. -/
def Offends : Prop :=
  ServerPathResolves env req ∧
    if req.isFromServerToClient then
      req.transferInfo ≠ none ∨ maxTransferBlockSize < req.transferBlockSize.toNat
    else UploadOffends env req

variable {env req}

lemma checkServerPath_ne_aborted : checkServerPath env req ≠ aborted := by
  unfold checkServerPath
  simp only
  split_ifs
  · nofun
  · nofun
  · apply bind_ne_aborted Source.statusType_ne_aborted
    intro type _
    split_ifs <;> nofun

lemma checkServerPath_eq_ok : checkServerPath env req = ok () ↔ ServerPathResolves env req := by
  unfold checkServerPath ServerPathResolves
  simp only
  split_ifs with habs hhome
  · simp [habs]
  · simp [habs, hhome]
  · rw [bind_eq_ok]
    constructor
    · rintro ⟨type, htype, h⟩
      split_ifs at h with hdir
      exact .inr ⟨hhome, hdir ▸ htype⟩
    · rintro (h | ⟨-, htype⟩)
      · exact absurd h habs
      · exact ⟨_, htype, rfl⟩

lemma createDirectories_ne_aborted (p : FilePath) : createDirectories env p ≠ aborted := by
  unfold createDirectories
  split <;> nofun

lemma destinationType_ne_aborted (p : FilePath) : destinationType env p ≠ aborted := by
  unfold destinationType
  split
  · exact Source.statusType_ne_aborted
  · nofun

lemma initTransfer_eq_aborted {N : ℕ} (hpos : 0 < N) (hN : N ≠ invalidSignalCount) :
    initTransfer env req N = aborted ↔
      if req.isFromServerToClient then
        req.transferInfo ≠ none ∨ maxTransferBlockSize < req.transferBlockSize.toNat
      else UploadOffends env req := by
  unfold initTransfer
  split_ifs
  · rw [assert_bind_eq_aborted, imp_iff_not_or, bind_eq_aborted, Source.transferSource_eq_aborted]
    apply or_congr_right
    constructor
    · rintro (h | ⟨_, -, h⟩)
      · exact h
      · cases h
    · exact Or.inl
  · cases hinfo : req.transferInfo with
    | none => simp [UploadOffends, hinfo]
    | some info =>
      simp only [UploadOffends, hinfo, Option.mem_some_iff, forall_eq']
      rw [bind_eq_aborted]
      constructor
      · rintro (h | ⟨type, htype, h⟩)
        · exact absurd h (destinationType_ne_aborted _)
        · rcases bind_eq_aborted.mp h with h | ⟨_, -, h⟩
          · exact ⟨type, htype,
              (Destination.initTransferInfo_eq_aborted hpos hN createDirectories_ne_aborted).mp h⟩
          · cases h
      · rintro ⟨type, htype, h⟩
        refine .inr ⟨type, htype, bind_eq_aborted.mpr (.inl ?_)⟩
        exact (Destination.initTransferInfo_eq_aborted hpos hN createDirectories_ne_aborted).mpr h

lemma respond_eq_aborted {N : ℕ} (hpos : 0 < N) (hN : N ≠ invalidSignalCount) :
    respond env req N = aborted ↔ Offends env req := by
  have hrespond : respond env req N = aborted ↔
      (checkServerPath env req >>= fun _ => initTransfer env req N) = aborted := by
    unfold respond
    split <;> simp_all
  rw [hrespond, bind_eq_aborted, Offends, ← checkServerPath_eq_ok,
    ← initTransfer_eq_aborted hpos hN]
  constructor
  · rintro (h | ⟨_, h, hinit⟩)
    · exact absurd h checkServerPath_ne_aborted
    · exact ⟨h, hinit⟩
  · rintro ⟨h, hinit⟩
    exact .inr ⟨(), h, hinit⟩

end Offends

/-! ### What the connection delivers -/

section Stream

variable {α : Type} {why : Rejected} {stream : List UInt8}

lemma require_bind_eq_aborted {p : Prop} [Decidable p] {f : Unit → Outcome Rejected α} :
    (require why p >>= f) = aborted ↔ p ∧ f () = aborted := by
  unfold require
  split_ifs with h <;> simp [h]

lemma recv_eq_some {size : ℕ} {buffer rest : List UInt8} :
    Wire.recv size stream = (some buffer, rest) ↔
      size < intBound ∧ buffer.length = size ∧ stream = buffer ++ rest := by
  unfold Wire.recv
  constructor
  · intro h
    obtain ⟨hbuffer, rfl⟩ := Prod.mk.inj h
    split_ifs at hbuffer with hlen
    obtain rfl := Option.some.inj hbuffer
    exact ⟨hlen.2, List.length_take_of_le hlen.1, (List.take_append_drop _ _).symm⟩
  · rintro ⟨hsize, rfl, rfl⟩
    simp [hsize]

lemma receive_bind_eq_aborted {size : ℕ} (hsize : size < intBound)
    {f : List UInt8 × List UInt8 → Outcome Rejected α} :
    (receive why size stream >>= f) = aborted ↔
      ∃ buffer rest, buffer.length = size ∧ stream = buffer ++ rest ∧
        f (buffer, rest) = aborted := by
  unfold receive
  split
  · next buffer rest hrecv =>
    rw [ok_bind]
    constructor
    · intro h
      obtain ⟨-, hlen, hstream⟩ := recv_eq_some.mp hrecv
      exact ⟨buffer, rest, hlen, hstream, h⟩
    · rintro ⟨buffer', rest', hlen, hstream, h⟩
      have heq := hrecv.symm.trans (recv_eq_some.mpr ⟨hsize, hlen, hstream⟩)
      simp only [Prod.mk.injEq, Option.some.injEq] at heq
      rwa [heq.1, heq.2]
  · next rest hrecv =>
    simp only [error_bind, reduceCtorEq, false_iff]
    rintro ⟨buffer', rest', hlen, hstream, -⟩
    have heq := hrecv.symm.trans (recv_eq_some.mpr ⟨hsize, hlen, hstream⟩)
    exact nomatch (Prod.mk.inj heq).1

/-- A frame with the header of a request around a body. -/
def requestFrame (body : List UInt8) : List UInt8 :=
  storeU32 .big (Wire.MessageType.clientTransferRequest.code) ++ storeU32 .big body.length ++ body

/-- Eight bytes with these two words in network order. -/
lemma eq_of_loadU32 {buffer : List UInt8} {a b : ℕ} (hlen : buffer.length = 8)
    (ha : loadU32 .big buffer = a) (hb : loadU32 .big (buffer.drop 4) = b) :
    buffer = storeU32 .big a ++ storeU32 .big b := by
  have hdrop : (buffer.drop 4).length = 4 := by rw [List.length_drop, hlen]
  rw [← ha, ← hb, storeU32_loadU32 .big (hlen ▸ by decide), storeU32_loadU32 .big hdrop.ge,
    List.take_of_length_le hdrop.le, List.take_append_drop]

variable {h : Host} {out : Wire.MessageClientTransferRequest}
  {f : Wire.MessageClientTransferRequest → Outcome Rejected α}

lemma messageRecv_bind_eq_aborted :
    (orException (Wire.messageRecv h (t := .clientTransferRequest) out stream) >>= fun received =>
      require why (received.result = true) >>= fun _ => f received.msg) = aborted ↔
      ∃ body rest, body.length < intBound ∧ stream = requestFrame body ++ rest ∧
        ∀ req, Archive.read h body = some req → f req = aborted := by
  constructor
  · intro habort
    unfold Wire.messageRecv at habort
    split at habort
    · cases habort
    · next buffer rest hrecv =>
      obtain ⟨-, hlen, rfl⟩ := recv_eq_some.mp hrecv
      simp only [ntohl_loadU32] at habort
      split_ifs at habort with htype
      · cases habort
      · split at habort
        · cases habort
        · next body rest hrecv =>
          obtain ⟨hsize, hbody, rfl⟩ := recv_eq_some.mp hrecv
          refine ⟨body, rest, hbody ▸ hsize, ?_, fun req hread => ?_⟩
          · rw [requestFrame, ← eq_of_loadU32 hlen (not_not.mp htype) hbody.symm,
              List.append_assoc]
          · change Archive.read (α := Wire.Msg .clientTransferRequest) h body = some req at hread
            rw [hread] at habort
            exact habort
  · rintro ⟨body, rest, hsize, rfl, hbody⟩
    have hrecv : Wire.recv 8 (requestFrame body ++ rest) =
        (some (storeU32 .big (Wire.MessageType.clientTransferRequest.code) ++
          storeU32 .big body.length), body ++ rest) :=
      recv_eq_some.mpr ⟨by decide, rfl, by rw [requestFrame, List.append_assoc]⟩
    have hlt : body.length < 2 ^ 32 := hsize.trans (by decide)
    have hdrop : (storeU32 .big (Wire.MessageType.clientTransferRequest.code) ++
        storeU32 .big body.length).drop 4 = storeU32 .big body.length ++ [] := by
      rw [List.append_nil]
      exact List.drop_left' (length_storeU32 _ _)
    unfold Wire.messageRecv
    simp only [hrecv, ntohl_loadU32, hdrop, loadU32_storeU32_append _ hlt,
      loadU32_storeU32_append _ (Wire.MessageType.code_lt _), ne_eq, not_true_eq_false, if_false,
      recv_eq_some.mpr ⟨hsize, rfl, rfl⟩]
    cases hread : Archive.read (α := Wire.Msg .clientTransferRequest) h body with
    | none => rfl
    | some req => exact hbody req hread

end Stream

/-! ### When a request is reached -/

/-- The bytes of a greeting. -/
def greeting (role : ℕ) : List UInt8 :=
  storeU32 .big greetingMagic1 ++ storeU32 .big greetingMagic2 ++ storeU32 .big role

/-- The bytes of a version range. -/
def versions (minVer maxVer : ℕ) : List UInt8 := store .big 2 minVer ++ store .big 2 maxVer

/-- A version range that contains version 1. -/
structure Negotiable (minVer maxVer : ℕ) : Prop where
  min_le : minVer ≤ version1
  le_max : version1 ≤ maxVer
  max_lt : maxVer < 2 ^ 16

lemma chooseVersion_ne {minVer maxVer : ℕ} :
    chooseVersion minVer maxVer ≠ versionInvalid ↔ minVer ≤ version1 ∧ version1 ≤ maxVer := by
  unfold chooseVersion
  split_ifs with hmin hmax
  · simp [not_le.mpr hmin]
  · simp [not_le.mpr hmax]
  · rw [min_eq_left (not_lt.mp hmax)]
    exact iff_of_true (by decide) ⟨not_lt.mp hmin, not_lt.mp hmax⟩

section Portal

variable {h : Host} {env : Environment} {s : ServerPortalState} {l : Listener}
  {stream : List UInt8}

/-- The two fields of a version range, read from four bytes. -/
lemma ntoh_versions {buffer : List UInt8} (hlen : buffer.length = 4) :
    ntoh h.endian 2 (load h.endian (buffer.take 2)) = load .big (buffer.take 2) ∧
      ntoh h.endian 2 (load h.endian (buffer.drop 2)) = load .big (buffer.drop 2) ∧
      versions (load .big (buffer.take 2)) (load .big (buffer.drop 2)) = buffer ∧
      load .big (buffer.drop 2) < 2 ^ 16 := by
  have htake : (buffer.take 2).length = 2 := by simp [hlen]
  have hdrop : (buffer.drop 2).length = 2 := by simp [hlen]
  have hmin := ntoh_load h.endian (buffer.take 2)
  have hmax := ntoh_load h.endian (buffer.drop 2)
  have hlt := load_lt .big (buffer.drop 2)
  have hstoreMin := store_load .big (buffer.take 2)
  have hstoreMax := store_load .big (buffer.drop 2)
  rw [htake] at hmin hstoreMin
  rw [hdrop] at hmax hlt hstoreMax
  refine ⟨hmin, hmax, ?_, hlt⟩
  rw [versions, hstoreMin, hstoreMax, List.take_append_drop]

lemma ntoh_store {v : ℕ} (hv : v < 2 ^ 16) :
    ntoh h.endian 2 (load h.endian (store .big 2 v)) = v := by
  have hload := ntoh_load h.endian (store .big 2 v)
  rw [length_store] at hload
  rw [hload, load_store .big hv]

lemma fnPortal_eq_aborted (hinfo : ∃ msg, s.serverInformation = ok msg)
    (hpos : 0 < s.programOptions.totalChannelRepeatsCount)
    (hN : s.programOptions.totalChannelRepeatsCount ≠ invalidSignalCount) :
    fnPortal h env s stream = aborted ↔
      env.sendVersion = true ∧ env.sendInformation = true ∧ ∃ minVer maxVer body rest,
        Negotiable minVer maxVer ∧ body.length < intBound ∧
        stream = versions minVer maxVer ++ (requestFrame body ++ rest) ∧
        ∀ req, Archive.read h body = some req → Offends env req := by
  obtain ⟨msg, hmsg⟩ := hinfo
  unfold fnPortal
  rw [receive_bind_eq_aborted (by decide)]
  simp only [require_bind_eq_aborted, hmsg, orException_ok, ok_bind, chooseVersion_ne]
  constructor
  · rintro ⟨buffer, rest, hlen, rfl, -, hversion, ⟨hmin, hmax⟩, hinfo, habort⟩
    obtain ⟨hminVer, hmaxVer, hbuffer, hlt⟩ := ntoh_versions (h := _) hlen
    rw [hminVer] at hmin
    rw [hmaxVer] at hmax
    obtain ⟨body, rest, hsize, rfl, hbody⟩ := (messageRecv_bind_eq_aborted
      (f := fun req => respond env req s.programOptions.totalChannelRepeatsCount)).mp habort
    refine ⟨hversion, hinfo, _, _, body, rest, ⟨hmin, hmax, hlt⟩, hsize, ?_, fun req hread => ?_⟩
    · rw [hbuffer]
    · exact (respond_eq_aborted hpos hN).mp (hbody req hread)
  · rintro ⟨hversion, hinfo, minVer, maxVer, body, rest, ⟨hmin, hmax, hlt⟩, hsize, rfl, hbody⟩
    have hminlt : minVer < 2 ^ 16 := (hmin.trans hmax).trans_lt hlt
    have htake : (versions minVer maxVer).take 2 = store .big 2 minVer :=
      List.take_left' (length_store _ _ _)
    have hdrop : (versions minVer maxVer).drop 2 = store .big 2 maxVer :=
      List.drop_left' (length_store _ _ _)
    refine ⟨versions minVer maxVer, requestFrame body ++ rest, by simp [versions], rfl, ?_⟩
    rw [htake, hdrop, ntoh_store hminlt, ntoh_store hlt]
    refine ⟨hmin.trans hmax, hversion, ⟨hmin, hmax⟩, hinfo, ?_⟩
    refine (messageRecv_bind_eq_aborted
      (f := fun req => respond env req s.programOptions.totalChannelRepeatsCount)).mpr
      ⟨body, rest, hsize, rfl, fun req hread => ?_⟩
    exact (respond_eq_aborted hpos hN).mpr (hbody req hread)

/-- The connection comes to a request with this body: it is accepted by the portal, greets as a
portal, gives its identity and a version range with version 1, and sends a complete frame; and the
server is not being disposed and can send. -/
def ReachesRequest (env : Environment) (l : Listener) (stream body : List UInt8) : Prop :=
  l = .portal ∧ env.isDisposeRequired = false ∧ env.sendVersion = true ∧
    env.sendInformation = true ∧ ∃ identity minVer maxVer rest, identity.length = 16 ∧
      Negotiable minVer maxVer ∧ body.length < intBound ∧
      stream = greeting rolePortal ++ (identity ++ (versions minVer maxVer ++
        (requestFrame body ++ rest)))

/-- The handling of the connection does not reach `std::abort`. -/
def Survives (h : Host) (env : Environment) (s : ServerPortalState) (l : Listener)
    (stream : List UInt8) : Prop :=
  fnThreadUnifiedAcceptedSocket h env s l stream ≠ aborted

lemma clientInstance_ok {total : ℕ} (hpos : 0 < total) (htotal : total ≠ invalidSignalCount) :
    ∃ gates, clientInstance total = ok gates := by
  have hall : (({} : GateGuard).init total : Outcome Rejected GateGuard) =
      ok { atLeastSignal := total } := GateGuard.init_eq_ok.mpr ⟨htotal, hpos, rfl⟩
  have hready : (({} : GateGuard).init 1 : Outcome Rejected GateGuard) =
      ok { atLeastSignal := 1 } := GateGuard.init_eq_ok.mpr ⟨by decide, by decide, rfl⟩
  exact ⟨_, by rw [clientInstance, assert_of hpos, ok_bind, hall, ok_bind, hready]; rfl⟩

lemma checkRole_bind_eq_aborted {α : Type} {role : ℕ} {f : Unit → Outcome Rejected α} :
    (checkRole s l role >>= f) = aborted ↔
      (role = rolePortal ∧ l.allowRolePortal = true ∨
        role = roleChannel ∧ l.allowRoleChannel s.programOptions = true) ∧ f () = aborted := by
  have hne : rolePortal ≠ roleChannel := by decide
  unfold checkRole
  split_ifs with hportal hchannel
  · simp [require_bind_eq_aborted, hportal, hne]
  · simp [require_bind_eq_aborted, hchannel, hne.symm]
  · simp [hportal, hchannel]

lemma runRole_eq_aborted {role : ℕ} {identity : List UInt8}
    (hrole : role = rolePortal ∧ l.allowRolePortal = true ∨
      role = roleChannel ∧ l.allowRoleChannel s.programOptions = true)
    (hpos : 0 < s.programOptions.totalChannelRepeatsCount)
    (hN : s.programOptions.totalChannelRepeatsCount ≠ invalidSignalCount) :
    runRole h env s l role identity stream = aborted ↔
      role = rolePortal ∧ env.isDisposeRequired = false ∧ fnPortal h env s stream = aborted := by
  obtain ⟨gates, hgates⟩ := clientInstance_ok hpos hN
  have hne : rolePortal ≠ roleChannel := by decide
  unfold runRole
  rcases hrole with ⟨rfl, hallow⟩ | ⟨rfl, hallow⟩
  · rw [if_pos rfl, assert_of hallow, ok_bind, require_bind_eq_aborted, hgates, ok_bind]
    simp
  · rw [if_neg hne.symm, if_pos rfl, assert_of hallow, ok_bind]
    simp only [hne.symm, false_and, iff_false]
    split
    · nofun
    · rw [require_bind_eq_aborted]
      rintro ⟨-, h⟩
      cases h

/-- Twelve bytes with these three words in network order. -/
lemma eq_greeting {buffer : List UInt8} {role : ℕ} (hlen : buffer.length = 12)
    (hmagic1 : loadU32 .big buffer = greetingMagic1)
    (hmagic2 : loadU32 .big (buffer.drop 4) = greetingMagic2)
    (hrole : loadU32 .big (buffer.drop 8) = role) : buffer = greeting role := by
  have hdrop : (buffer.drop 4).length = 8 := by rw [List.length_drop, hlen]
  have hrest := eq_of_loadU32 (b := role) hdrop hmagic2 (by rwa [List.drop_drop])
  have hfirst := storeU32_loadU32 .big (hlen ▸ by decide : 4 ≤ buffer.length)
  rw [hmagic1] at hfirst
  rw [greeting, List.append_assoc, ← hrest, hfirst, List.take_append_drop]

lemma loadU32_greeting {role : ℕ} (hrole : role < 2 ^ 32) :
    loadU32 .big (greeting role) = greetingMagic1 ∧
      loadU32 .big ((greeting role).drop 4) = greetingMagic2 ∧
      loadU32 .big ((greeting role).drop 8) = role := by
  have hdrop : ∀ v (rest : List UInt8), (storeU32 .big v ++ rest).drop 4 = rest := fun v rest =>
    List.drop_left' (length_storeU32 .big v)
  rw [greeting, List.append_assoc, show (8 : ℕ) = 4 + 4 from rfl, ← List.drop_drop, hdrop, hdrop]
  refine ⟨loadU32_storeU32_append .big (by decide) _, loadU32_storeU32_append .big (by decide) _, ?_⟩
  rw [← List.append_nil (storeU32 .big role)]
  exact loadU32_storeU32_append .big hrole _

lemma handled_eq_aborted (hinfo : ∃ msg, s.serverInformation = ok msg)
    (hpos : 0 < s.programOptions.totalChannelRepeatsCount)
    (hN : s.programOptions.totalChannelRepeatsCount ≠ invalidSignalCount) :
    fnThreadUnifiedAcceptedSocket h env s l stream = aborted ↔
      ∃ body, ReachesRequest env l stream body ∧
        ∀ req, Archive.read h body = some req → Offends env req := by
  unfold fnThreadUnifiedAcceptedSocket
  rw [receive_bind_eq_aborted (by decide)]
  simp only [ntohl_loadU32, require_bind_eq_aborted, checkRole_bind_eq_aborted]
  constructor
  · rintro ⟨buffer, rest, hlen, rfl, ⟨hmagic1, hmagic2⟩, hrole, habort⟩
    obtain ⟨identity, rest, hidentity, rfl, hrun⟩ :=
      (receive_bind_eq_aborted (by decide)).mp habort
    obtain ⟨hportal, hdispose, hfn⟩ := (runRole_eq_aborted hrole hpos hN).mp hrun
    obtain ⟨hversion, hsend, minVer, maxVer, body, rest, hver, hsize, rfl, hbody⟩ :=
      (fnPortal_eq_aborted hinfo hpos hN).mp hfn
    have hl : l = .portal := by
      rcases hrole with ⟨-, hallow⟩ | ⟨hchannel, -⟩
      · cases l with
        | portal => rfl
        | channel => cases hallow
      · exact absurd (hportal.symm.trans hchannel) (by decide)
    refine ⟨body, ⟨hl, hdispose, hversion, hsend, identity, minVer, maxVer, rest, hidentity, hver,
      hsize, ?_⟩, hbody⟩
    rw [eq_greeting hlen hmagic1 hmagic2 hportal]
  · rintro ⟨body, ⟨rfl, hdispose, hversion, hsend, identity, minVer, maxVer, rest, hidentity, hver,
      hsize, rfl⟩, hbody⟩
    have hrole : rolePortal < 2 ^ 32 := by decide
    obtain ⟨hmagic1, hmagic2, hportal⟩ := loadU32_greeting hrole
    refine ⟨greeting rolePortal, _, rfl, rfl, ⟨hmagic1, hmagic2⟩, .inl ⟨hportal, rfl⟩, ?_⟩
    refine (receive_bind_eq_aborted (by decide)).mpr ⟨identity, _, hidentity, rfl, ?_⟩
    rw [hportal]
    refine (runRole_eq_aborted (.inl ⟨rfl, rfl⟩) hpos hN).mpr ⟨rfl, hdispose, ?_⟩
    exact (fnPortal_eq_aborted hinfo hpos hN).mpr
      ⟨hversion, hsend, minVer, maxVer, body, rest, hver, hsize, rfl, hbody⟩

/-- A started server survives a connection exactly if the request that the connection comes to, if
it comes to one, can be decoded and does not offend. -/
theorem survives_iff {g : String → Option (List TcpSockaddr)}
    {b : TcpSockaddr → Option TcpSockaddr} {args : XcpdArguments} {o : XcpdProgramOptions}
    (ho : args.postProcess g = ok o) (hs : ServerPortalState.init b o = ok s) (h : Host)
    (env : Environment) (l : Listener) (stream : List UInt8) :
    Survives h env s l stream ↔ ∀ body, ReachesRequest env l stream body →
      ∃ req, Archive.read h body = some req ∧ ¬ Offends env req := by
  obtain ⟨msg, hmsg, -⟩ := ServerPortalState.serverInformation_started ho hs
  obtain ⟨rfl, -⟩ := ServerPortalState.init_ok hs
  obtain ⟨hpos, hlt⟩ := totalChannelRepeatsCount_started ho
  have hN : s.programOptions.totalChannelRepeatsCount ≠ invalidSignalCount :=
    (hlt.trans (by decide)).ne
  rw [Survives, Ne, handled_eq_aborted ⟨msg, hmsg⟩ hpos hN]
  push Not
  rfl

/-- A connection comes to at most one request. -/
lemma ReachesRequest.unique {body body' : List UInt8} (h : ReachesRequest env l stream body)
    (h' : ReachesRequest env l stream body') : body = body' := by
  obtain ⟨-, -, -, -, identity, minVer, maxVer, rest, hidentity, -, hsize, rfl⟩ := h
  obtain ⟨-, -, -, -, identity', minVer', maxVer', rest', hidentity', -, hsize', heq⟩ := h'
  have hversions := (List.append_inj (List.append_cancel_left heq)
    (hidentity.trans hidentity'.symm)).2
  have hframe := (List.append_inj hversions (by simp [versions])).2
  simp only [requestFrame, List.append_assoc, List.append_cancel_left_eq] at hframe
  obtain ⟨hword, hbody⟩ := List.append_inj hframe (by simp)
  have hlen := congrArg (loadU32 .big) (congrArg (· ++ []) hword)
  simp only [loadU32_storeU32_append .big (hsize.trans (show intBound < 2 ^ 32 by decide)),
    loadU32_storeU32_append .big (hsize'.trans (show intBound < 2 ^ 32 by decide))] at hlen
  exact (List.append_inj hbody hlen).1

end Portal

/-! ### A block size that is too large -/

/-- A file system with the file `/f`, where no user is known and every call succeeds. -/
def exampleEnvironment : Environment where
  isDisposeRequired := false
  clients _ := none
  sendVersion := true
  sendInformation := true
  tryGetHomeByName _ := none
  fs :=
    { root := .directory 0o755 true (.cons "f" (.regular 1 0o644 true) .nil)
      workingDirectory := []
      linkLimit := 40
      isDirectory := trivial
      wellFormed := ⟨⟨by decide, by decide, by decide⟩, rfl, trivial, trivial⟩
      workingDirectory_isDirectory := ⟨_, rfl, trivial⟩ }
  special _ := .fifo
  weaklyCanonical p := .ok p
  createDirectories _ := .ok ()
  os _ :=
    { openFile := fun n => if hn : n.1 < intBound then .ok ⟨n, hn⟩ else .error 24
      fchmod := fun _ => .ok ()
      ftruncate := fun _ => .ok ()
      mmap := fun _ => .error 12
      openFile_inj := by
        intro m n fd hm hn
        split_ifs at hm hn
        exact Fin.ext (congrArg Fin.val ((Except.ok.inj hm).trans (Except.ok.inj hn).symm) :)
      mmap_range := nofun
      mmap_apart := nofun }
  previous _ := ⟨0, fun _ => 0⟩

/-- A download of `/f` in blocks of the given size. -/
def downloadRequest (transferBlockSize : UInt64) : Wire.MessageClientTransferRequest where
  isFromServerToClient := true
  serverPath := [47, 102]
  transferBlockSize := transferBlockSize
  isRecursive := 0

/-- The connection of a client that sends this request. -/
def connection (req : Wire.MessageClientTransferRequest) : List UInt8 :=
  greeting rolePortal ++ (List.replicate 16 0 ++ (versions version1 version1 ++
    (requestFrame (write Wire.linux64 req) ++ [])))

lemma reachesRequest_connection {req : Wire.MessageClientTransferRequest}
    (hsize : (write Wire.linux64 req).length < intBound) :
    ReachesRequest exampleEnvironment .portal (connection req) (write Wire.linux64 req) :=
  ⟨rfl, rfl, rfl, rfl, _, _, _, _, rfl, ⟨le_rfl, le_rfl, by decide⟩, hsize, rfl⟩

lemma length_downloadRequest (transferBlockSize : UInt64) :
    (write Wire.linux64 (downloadRequest transferBlockSize)).length = 53 := rfl

lemma read_downloadRequest (transferBlockSize : UInt64) :
    Archive.read Wire.linux64 (write Wire.linux64 (downloadRequest transferBlockSize)) =
      some (downloadRequest transferBlockSize) :=
  read_write (Wire.MessageClientTransferRequest.arrives _) (length_downloadRequest _ ▸ by decide)

lemma offends_downloadRequest (transferBlockSize : UInt64) :
    Offends exampleEnvironment (downloadRequest transferBlockSize) ↔
      maxTransferBlockSize < transferBlockSize.toNat := by
  have hpath : ServerPathResolves exampleEnvironment (downloadRequest transferBlockSize) :=
    .inl rfl
  rw [Offends, and_iff_right hpath]
  simp [downloadRequest]

/-- The server survives a download in blocks of the default size. -/
theorem survives_downloadRequest :
    ∃ o s, (oneChannel none (by simp)).postProcess (fun _ => none) = ok o ∧
      ServerPortalState.init some o = ok s ∧
      Survives Wire.linux64 exampleEnvironment s .portal (connection (downloadRequest 0)) := by
  refine ⟨_, _, rfl, rfl, ?_⟩
  refine (@survives_iff _ (fun _ => none) some (oneChannel none (by simp)) _ rfl rfl
    Wire.linux64 exampleEnvironment .portal (connection (downloadRequest 0))).mpr ?_
  intro body hbody
  obtain rfl := hbody.unique (reachesRequest_connection (length_downloadRequest _ ▸ by decide))
  exact ⟨_, read_downloadRequest 0, fun h => absurd ((offends_downloadRequest 0).mp h) (by decide)⟩

/-- A download in blocks of a gibibyte and one byte aborts the server. -/
theorem not_survives_downloadRequest :
    ∃ o s, (oneChannel none (by simp)).postProcess (fun _ => none) = ok o ∧
      ServerPortalState.init some o = ok s ∧
      ¬ Survives Wire.linux64 exampleEnvironment s .portal
        (connection (downloadRequest (1024 * 1024 * 1024 + 1))) := by
  refine ⟨_, _, rfl, rfl, fun h => h ?_⟩
  refine (handled_eq_aborted ⟨_, rfl⟩ (by decide) (by decide)).mpr
    ⟨_, reachesRequest_connection (length_downloadRequest _ ▸ by decide), fun req hread => ?_⟩
  obtain rfl := Option.some.inj ((read_downloadRequest _).symm.trans hread)
  exact (offends_downloadRequest _).mpr (by decide)

end Server

end Xcp
