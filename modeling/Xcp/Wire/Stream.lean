import Xcp.Wire.Message

/-!
# A connection carries messages

What `message_send` writes, one message after the other, `message_recv` reads back, each call its
message and nothing of the next one; a call that expects another type of message returns `false`.
The connection takes and gives every message whole, in one `send` and one `recv` for a header and for
a body, as a system does up to its limit for one call (`0x7ffff000` bytes on Linux).
-/

namespace Xcp

open Archive Bytes

namespace Wire

/-! ### Structures arrive -/

section Arrives

variable {w h : Host}

lemma BasicFileInfo.arrives (fi : BasicFileInfo) : Arrives w h fi fi :=
  .map (a := (fi.relativePath, fi.fileSize, fi.posixPerm)) rfl (fun _ => rfl)
    (.prod (.string _) (.prod (.uint64 _) (.uint32 _))) rfl

lemma BasicDirectoryInfo.arrives (di : BasicDirectoryInfo) : Arrives w h di di :=
  .map (a := (di.relativePath, di.posixPerm)) rfl (fun _ => rfl)
    (.prod (.string _) (.uint32 _)) rfl

lemma BasicTransferInfo.arrives (info : BasicTransferInfo) : Arrives w h info info :=
  .map (a := (info.sourceIsDirectory, info.dirsInfo, info.filesInfo)) rfl (fun _ => rfl)
    (.prod (.bool _) (.prod (.list_self fun di _ => di.arrives)
      (.list_self fun fi _ => fi.arrives))) rfl

lemma MessageServerTransferResponse.arrives (msg : MessageServerTransferResponse) :
    Arrives w h msg msg :=
  .map (a := (msg.errorCode, msg.errorMessage, msg.transferInfo)) rfl (fun _ => rfl)
    (.prod (.int32 _) (.prod (.string _) (.option fun info _ => info.arrives))) rfl

lemma MessageTransferDestinationFinished.arrives (msg : MessageTransferDestinationFinished) :
    Arrives w h msg msg :=
  .map (a := (msg.errorCode, msg.errorMessage)) rfl (fun _ => rfl)
    (.prod (.int32 _) (.string _)) rfl

/-- The channels of a server arrive one by one. -/
lemma MessageServerInformation.arrives {msg msg' : MessageServerInformation}
    (hall : List.Forall₂ (Arrives w h) msg.serverChannels msg'.serverChannels) :
    Arrives w h msg msg' :=
  .map (a := msg.serverChannels) rfl (fun _ => rfl) (.list hall) rfl

end Arrives

/-! ### One message -/

section One

variable {w h : Host} {t : MessageType} {msg msg' : Msg t} {bytes : List UInt8}

lemma messageSend_eq_some :
    messageSend w msg = some bytes ↔ (write w msg).length ≤ int32Max ∧
      header w t (write w msg).length ++ write w msg = bytes := by
  simp only [messageSend]
  split_ifs with hlt
  · simp only [false_iff, not_and]
    intro hle
    exact absurd hle (not_le.mpr hlt)
  · simp only [Option.some.injEq, not_lt.mp hlt, true_and]

@[simp] lemma length_header (n : ℕ) : (header w t n).length = 8 := by
  simp [header]

/-- The type in a header, read by any host. -/
lemma type_header (n : ℕ) : ntohl h.endian (loadU32 h.endian (header w t n)) = t.code :=
  ntohl_loadU32_storeU32_htonl w.endian h.endian t.code_lt _

/-- The size in a header, read by any host. -/
lemma binarySize_header {n : ℕ} (hn : n ≤ int32Max) :
    ntohl h.endian (loadU32 h.endian ((header w t n).drop 4)) = n := by
  have hlt : n < 2 ^ 32 := hn.trans_lt (by decide)
  have hdrop : (header w t n).drop 4 = storeU32 w.endian (htonl w.endian n) ++ [] := by
    rw [header, List.drop_left' (length_storeU32 _ _), List.append_nil]
  rw [hdrop]
  exact ntohl_loadU32_storeU32_htonl w.endian h.endian hlt []

lemma recv_append {n : ℕ} {first rest : List UInt8} (hlen : first.length = n)
    (hlt : n < intBound) : recv n (first ++ rest) = (some first, rest) := by
  simp [recv, ← hlen, hlen ▸ hlt]

/-- What is received is what the host reads in the archive, if it reads anything. -/
lemma messageRecv_of_send (hsend : messageSend w msg = some bytes) (out : Msg t)
    (rest : List UInt8) :
    messageRecv h out (bytes ++ rest) =
      match read h (write w msg) with
      | some msg' => .ok ⟨true, msg', rest⟩
      | none      => .aborted := by
  obtain ⟨hle, rfl⟩ := messageSend_eq_some.mp hsend
  cases hread : (read h (write w msg) : Option (Msg t)) with
  | none | some _ =>
    simp only [messageRecv, List.append_assoc, recv_append (length_header _) (by decide),
      type_header, binarySize_header hle, ne_eq, not_true_eq_false, if_false,
      recv_append rfl (hle.trans_lt (by decide)), hread]

lemma messageRecv_eq_ok_iff (hsend : messageSend w msg = some bytes) {out : Msg t} :
    messageRecv h out bytes = .ok ⟨true, msg', []⟩ ↔ read h (write w msg) = some msg' := by
  have hrecv := messageRecv_of_send (h := h) hsend out []
  rw [List.append_nil] at hrecv
  rw [hrecv]
  cases (read h (write w msg) : Option (Msg t)) with
  | none => exact ⟨nofun, nofun⟩
  | some msg'' =>
    constructor
    · intro heq
      exact congrArg some (congrArg Received.msg (Outcome.ok.inj heq))
    · intro heq
      cases heq
      rfl

/-- A message that arrives as `msg'` is received as `msg'`. -/
lemma messageRecv_of_arrives (harrives : Arrives w h msg msg')
    (hsend : messageSend w msg = some bytes) (out : Msg t) (rest : List UInt8) :
    messageRecv h out (bytes ++ rest) = .ok ⟨true, msg', rest⟩ := by
  have hle := (messageSend_eq_some.mp hsend).1
  rw [messageRecv_of_send hsend, read_write harrives (hle.trans_lt (by decide))]

/-- A message of another type is refused, and the output message is left as it was. -/
lemma messageRecv_of_ne {t' : MessageType} (hne : t' ≠ t)
    (hsend : messageSend w msg = some bytes) (out : Msg t') (rest : List UInt8) :
    ∃ rest', messageRecv h out (bytes ++ rest) = .ok ⟨false, out, rest'⟩ := by
  obtain ⟨hle, rfl⟩ := messageSend_eq_some.mp hsend
  have hcode : t.code ≠ t'.code := fun heq => hne (MessageType.code_injective heq).symm
  refine ⟨write w msg ++ rest, ?_⟩
  simp only [messageRecv, List.append_assoc, recv_append (length_header _) (by decide),
    type_header, ne_eq, hcode, not_false_eq_true, if_true]

end One

/-! ### Many messages -/

/-- A message of any type. -/
abbrev AnyMsg : Type := (t : MessageType) × Msg t

/-- The bytes of several `message_send`. -/
def sendAll (h : Host) : List AnyMsg → Option (List UInt8)
  | []      => some []
  | m :: ms => do
    let bytes ← messageSend h m.2
    let rest ← sendAll h ms
    return bytes ++ rest

/-- Several `message_recv` into the given output messages: the messages received and the rest of
the connection, or `none` after a `false`. -/
def recvAll (h : Host) : List AnyMsg → List UInt8 → Outcome Unit (Option (List AnyMsg × List UInt8))
  | [], stream        => .ok (some ([], stream))
  | out :: outs, stream => do
    let received ← messageRecv h out.2 stream
    if received.result then
      let all ← recvAll h outs received.rest
      return all.map fun p => (⟨out.1, received.msg⟩ :: p.1, p.2)
    else return none

/-- Hosts of the same architecture: of one byte order and one width of sizes. -/
def SameArchitecture (w h : Host) : Prop := w.endian = h.endian ∧ w.sizeWidth = h.sizeWidth

/-- The sizes in a message are sizes of the host. -/
def Fits (w : Host) : AnyMsg → Prop
  | ⟨.serverInformation, msg⟩ =>
    ∀ e ∈ MessageServerInformation.serverChannels msg, e.2.toNat < 256 ^ w.sizeBytes
  | ⟨.clientTransferRequest, _⟩ | ⟨.serverTransferResponse, _⟩
  | ⟨.transferDestinationFinished, _⟩ => True

section Many

variable {w h : Host}

lemma SameArchitecture.arrives_sockaddr (hwh : SameArchitecture w h) (a : Sockaddr) :
    Arrives w h a a := by
  have harrives := Sockaddr.arrives w h a
  cases a <;> simpa only [Sockaddr.loaded, hwh.1, if_true] using harrives

/-- All messages but the request of a client arrive as they were sent. -/
lemma SameArchitecture.arrives (hwh : SameArchitecture w h) {m : AnyMsg}
    (hwire : m.1 ≠ .clientTransferRequest) (hfits : Fits w m) : Arrives w h m.2 m.2 := by
  obtain ⟨t, msg⟩ := m
  cases t with
  | serverInformation =>
    have hwidth : w.sizeBytes = h.sizeBytes := by simp only [Host.sizeBytes, hwh.2]
    apply MessageServerInformation.arrives
    apply List.forall₂_same.mpr
    intro e he
    exact .prod (hwh.arrives_sockaddr e.1) (.size hwidth (hfits e he))
  | clientTransferRequest => exact absurd rfl hwire
  | serverTransferResponse => exact MessageServerTransferResponse.arrives msg
  | transferDestinationFinished => exact MessageTransferDestinationFinished.arrives msg

/-- The calls that read what has been sent, however much follows on the connection. -/
lemma recvAll_append {msgs outs : List AnyMsg} (harrives : ∀ m ∈ msgs, Arrives w h m.2 m.2)
    (htypes : outs.map Sigma.fst = msgs.map Sigma.fst) {bytes : List UInt8}
    (hsend : sendAll w msgs = some bytes) (rest : List UInt8) :
    recvAll h outs (bytes ++ rest) = .ok (some (msgs, rest)) := by
  induction msgs generalizing outs bytes with
  | nil =>
    cases hsend
    rw [List.map_nil, List.map_eq_nil_iff] at htypes
    subst htypes
    rfl
  | cons m msgs ih =>
    obtain ⟨first, hfirst, hsend⟩ := Option.bind_eq_some_iff.mp hsend
    obtain ⟨bytes', hbytes, hsend⟩ := Option.bind_eq_some_iff.mp hsend
    cases hsend
    obtain ⟨out, outs, rfl, hout, houts⟩ := List.map_eq_cons_iff.mp htypes
    obtain ⟨t, out⟩ := out
    obtain ⟨t', msg⟩ := m
    cases hout
    have hrecv := messageRecv_of_arrives (harrives _ List.mem_cons_self) hfirst out
      (bytes' ++ rest)
    have hrest := ih (fun m hm => harrives m (List.mem_cons_of_mem _ hm)) houts hbytes
    simp only [recvAll, List.append_assoc, hrecv, Outcome.ok_bind, if_true, hrest,
      Option.map_some, Outcome.pure_eq]

lemma sendAll_append {pre post : List AnyMsg} {bytes : List UInt8}
    (hsend : sendAll w (pre ++ post) = some bytes) :
    ∃ first rest, sendAll w pre = some first ∧ sendAll w post = some rest ∧
      bytes = first ++ rest := by
  induction pre generalizing bytes with
  | nil => exact ⟨[], bytes, rfl, hsend, rfl⟩
  | cons m pre ih =>
    obtain ⟨one, hone, hsend⟩ := Option.bind_eq_some_iff.mp hsend
    obtain ⟨bytes', hbytes, hsend⟩ := Option.bind_eq_some_iff.mp hsend
    cases hsend
    obtain ⟨first, rest, hfirst, hrest, rfl⟩ := ih hbytes
    refine ⟨one ++ first, rest, ?_, hrest, (List.append_assoc _ _ _).symm⟩
    simp only [sendAll, hone, hfirst, Option.bind_eq_bind, Option.bind_some]
    rfl

lemma sendAll_of_le {msgs : List AnyMsg}
    (hsize : ∀ m ∈ msgs, (write w m.2).length ≤ int32Max) : ∃ bytes, sendAll w msgs = some bytes := by
  induction msgs with
  | nil => exact ⟨[], rfl⟩
  | cons m msgs ih =>
    obtain ⟨rest, hrest⟩ := ih fun m hm => hsize m (List.mem_cons_of_mem _ hm)
    have hone := messageSend_eq_some.mpr ⟨hsize m List.mem_cons_self, rfl⟩
    refine ⟨header w m.1 (write w m.2).length ++ write w m.2 ++ rest, ?_⟩
    simp only [sendAll, hone, hrest, Option.bind_eq_bind, Option.bind_some]
    rfl

/-- Between hosts of the same architecture, the messages of server and destination are read back
as they were sent, with nothing left over; and a call that expects another type of message, at any
position, returns `false` and leaves its output message as it was. -/
theorem recvAll_sendAll (hwh : SameArchitecture w h) {msgs outs : List AnyMsg}
    (htypes : outs.map Sigma.fst = msgs.map Sigma.fst)
    (hwire : ∀ m ∈ msgs, m.1 ≠ .clientTransferRequest) (hfits : ∀ m ∈ msgs, Fits w m)
    (hsize : ∀ m ∈ msgs, (write w m.2).length ≤ int32Max) :
    ∃ bytes, sendAll w msgs = some bytes ∧ recvAll h outs bytes = .ok (some (msgs, [])) ∧
      ∀ pre m post, msgs = pre ++ m :: post → ∀ t, t ≠ m.1 → ∀ out : Msg t, ∃ rest rest',
        recvAll h (outs.take pre.length) bytes = .ok (some (pre, rest)) ∧
          messageRecv h out rest = .ok ⟨false, out, rest'⟩ := by
  have harrives : ∀ m ∈ msgs, Arrives w h m.2 m.2 := fun m hm =>
    hwh.arrives (hwire m hm) (hfits m hm)
  obtain ⟨bytes, hsend⟩ := sendAll_of_le hsize
  refine ⟨bytes, hsend, ?_, ?_⟩
  · have hall := recvAll_append harrives htypes hsend []
    rwa [List.append_nil] at hall
  · rintro pre m post rfl t hne out
    obtain ⟨first, rest, hfirst, hrest, rfl⟩ := sendAll_append hsend
    obtain ⟨one, hone, hrest⟩ := Option.bind_eq_some_iff.mp hrest
    obtain ⟨bytes', -, hrest⟩ := Option.bind_eq_some_iff.mp hrest
    cases hrest
    obtain ⟨rest', hrefused⟩ := messageRecv_of_ne hne hone out bytes'
    have htake : (outs.take pre.length).map Sigma.fst = pre.map Sigma.fst := by
      rw [List.map_take, htypes, List.map_append, List.take_left' (List.length_map _)]
    exact ⟨one ++ bytes', rest',
      recvAll_append (fun m hm => harrives m (List.mem_append_left _ hm)) htake hfirst _, hrefused⟩

end Many

/-- A 64-bit little-endian host, with the archive that swaps an IPv6 address as a whole. -/
def linux64 : Host := ⟨.little, .w64, 16⟩

/-- A server with one channel on IPv4 and one on IPv6 answers a request and finishes. -/
def exampleMessages : List AnyMsg :=
  [⟨.serverInformation, MessageServerInformation.mk
      [(.inet 0x75f4 0x0100007f, ⟨12⟩), (.inet6 0x76f4 0 (.replicate 16 1) 2, ⟨3⟩)]⟩,
    ⟨.serverTransferResponse, MessageServerTransferResponse.mk 0 []
      (some ⟨true, [⟨[97], 0o755⟩], [⟨[97, 47, 98], 1, 0o644⟩]⟩)⟩,
    ⟨.transferDestinationFinished, MessageTransferDestinationFinished.mk 5 [69, 73, 79]⟩]

theorem recvAll_exampleMessages :
    ∃ bytes, sendAll linux64 exampleMessages = some bytes ∧
      recvAll linux64 exampleMessages bytes = .ok (some (exampleMessages, [])) := by
  have hall : ∀ m ∈ exampleMessages, m.1 ≠ .clientTransferRequest ∧ Fits linux64 m ∧
      (write linux64 m.2).length ≤ int32Max := by
    simp only [exampleMessages, List.forall_mem_cons]
    have hfits : ∀ e ∈ [((.inet 0x75f4 0x0100007f, ⟨12⟩) : Sockaddr × Size),
        (.inet6 0x76f4 0 (.replicate 16 1) 2, ⟨3⟩)], e.2.toNat < 256 ^ linux64.sizeBytes := by
      decide
    exact ⟨⟨nofun, hfits, by decide⟩, ⟨nofun, trivial, by decide⟩, ⟨nofun, trivial, by decide⟩,
      nofun⟩
  have htypes : exampleMessages.map Sigma.fst = exampleMessages.map Sigma.fst := rfl
  obtain ⟨bytes, hsend, hrecv, -⟩ := recvAll_sendAll (w := linux64) (h := linux64) ⟨rfl, rfl⟩
    htypes (fun m hm => (hall m hm).1) (fun m hm => (hall m hm).2.1)
    (fun m hm => (hall m hm).2.2)
  exact ⟨bytes, hsend, hrecv⟩

end Wire

end Xcp
