import Xcp.Wire.Stream

/-!
# The request of a client

Every field of `message_client_transfer_request` is serialised, but the user in it is not
serialised completely: the principal name is missing from the list of fields of `user_name_t`. The
server looks up the home directory of the user it receives, so it finds another one, or none, for a
user that only the principal name leads to.
-/

namespace Xcp

open Archive

namespace Wire

variable {w h : Host} {req : MessageClientTransferRequest} {bytes : List UInt8}

/-- The request that arrives. -/
def MessageClientTransferRequest.serialised (req : MessageClientTransferRequest) :
    MessageClientTransferRequest := { req with user := req.user.serialised }

lemma MessageClientTransferRequest.arrives (req : MessageClientTransferRequest) :
    Arrives w h req req.serialised :=
  .map (a := (req.isFromServerToClient, req.serverPath, req.transferBlockSize, req.isRecursive,
      req.user, req.transferInfo)) rfl (fun _ => rfl)
    (.prod (.bool _) (.prod (.string _) (.prod (.uint64 _) (.prod (.uint64 _)
      (.prod req.user.arrives (.option fun info _ => info.arrives)))))) rfl

lemma MessageClientTransferRequest.serialised_eq_iff :
    req.serialised = req ↔ req.user.userPrincipalName = [] := by
  rw [← UserName.serialised_eq_iff]
  constructor
  · intro heq
    exact congrArg (·.user) heq
  · intro heq
    rw [serialised, heq]

/-- The bytes written for the request are read back, on the host `h`, into a message that holds no
principal name, such as the new one of `fn_portal`, as one equal in every field, whose user has the
same home directory in every user database. -/
def RequestSurvives (h : Host) (req : MessageClientTransferRequest) (bytes : List UInt8) : Prop :=
  ∀ out : MessageClientTransferRequest, out.user.userPrincipalName = [] →
    ∃ req' : MessageClientTransferRequest,
    messageRecv h (t := .clientTransferRequest) out bytes = .ok ⟨true, req', []⟩ ∧ req' = req ∧
      ∀ tryGetHomeByName, req'.user.getUserHomePath tryGetHomeByName =
        req.user.getUserHomePath tryGetHomeByName

/-- What `message_recv` makes of the request. -/
lemma messageRecv_request (hsend : messageSend w (t := .clientTransferRequest) req = some bytes)
    (out : Msg .clientTransferRequest) :
    messageRecv h out bytes = .ok ⟨true, req.serialised, []⟩ := by
  have hrecv := messageRecv_of_arrives (h := h) req.arrives hsend out []
  rwa [List.append_nil] at hrecv

lemma serialised_of_survives
    (hsend : messageSend w (t := .clientTransferRequest) req = some bytes)
    (hsurvives : RequestSurvives h req bytes) : req.serialised = req := by
  obtain ⟨req', hrecv, rfl, -⟩ := hsurvives req.serialised rfl
  have heq := (messageRecv_request hsend req'.serialised).symm.trans hrecv
  exact congrArg Received.msg (Outcome.ok.inj heq)

/-- A request survives the wire exactly if its user has no principal name. -/
theorem requestSurvives_iff
    (hsend : messageSend w (t := .clientTransferRequest) req = some bytes) :
    RequestSurvives h req bytes ↔ req.user.userPrincipalName = [] := by
  rw [← MessageClientTransferRequest.serialised_eq_iff]
  constructor
  · exact serialised_of_survives hsend
  · intro heq out _
    refine ⟨req.serialised, messageRecv_request hsend out, heq, ?_⟩
    intro tryGetHomeByName
    rw [heq]

/-- A download of `~/a` by the user `u`. -/
def exampleRequest (user : UserName) : MessageClientTransferRequest where
  isFromServerToClient := true
  serverPath := [126, 47, 97]
  transferBlockSize := 0
  isRecursive := 1
  user := user

theorem requestSurvives_named :
    ∃ bytes, messageSend linux64 (t := .clientTransferRequest)
        (exampleRequest { userName := [117] }) = some bytes ∧
      RequestSurvives linux64 (exampleRequest { userName := [117] }) bytes :=
  ⟨_, rfl, (requestSurvives_iff (w := linux64) rfl).mpr rfl⟩

/-- The user `u@d`, known by the principal name only: the server receives a user without a name,
and finds no home directory. -/
theorem not_requestSurvives_principal :
    ∃ bytes, messageSend linux64 (t := .clientTransferRequest)
        (exampleRequest { userPrincipalName := [117, 64, 100] }) = some bytes ∧
      ¬ RequestSurvives linux64 (exampleRequest { userPrincipalName := [117, 64, 100] }) bytes ∧
      ∃ req : MessageClientTransferRequest,
        messageRecv linux64 (t := .clientTransferRequest) (exampleRequest {}) bytes =
          .ok ⟨true, req, []⟩ ∧
        (exampleRequest { userPrincipalName := [117, 64, 100] }).user.getUserHomePath
          (fun name => if name = [117, 64, 100] then some [47, 104] else none) = [47, 104] ∧
        req.user.getUserHomePath
          (fun name => if name = [117, 64, 100] then some [47, 104] else none) = [] := by
  refine ⟨_, rfl, ?_, (exampleRequest { userPrincipalName := [117, 64, 100] }).serialised,
    messageRecv_request (w := linux64) rfl _, by decide, by decide⟩
  intro hsurvives
  exact absurd (serialised_of_survives (w := linux64) rfl hsurvives) (by decide)

end Wire

end Xcp
