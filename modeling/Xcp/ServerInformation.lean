import Mathlib
import Xcp.ProgramOptions

/-!
# The number of channels

The server counts its channels when it completes its options and announces them to every client in
`message_server_information`; the client opens one connection for each announced repeat. The two
numbers agree unless the portal is given repeats together with a list of channels: then the portal
is announced as a channel but not counted.
-/

namespace Xcp

open Outcome

/-- `message_server_information`: the address and the repeats of every channel. -/
structure MessageServerInformation where
  serverChannels : List (TcpSockaddr × ℕ)

/-- The number of connections that the message asks for. -/
def MessageServerInformation.repeatsSum (msg : MessageServerInformation) : ℕ :=
  (msg.serverChannels.map Prod.snd).sum

/-- `server_channel_state`, once bound. -/
structure ServerChannelState where
  requiredEndpoint : TcpEndpoint
  boundLocalEndpoint : TcpSockaddr

/-- `server_portal_state`, once bound. -/
structure ServerPortalState where
  programOptions : XcpdProgramOptions
  boundLocalEndpoint : TcpSockaddr
  channels : List ServerChannelState

section Init

/-! ### Binding -/

-- the socket calls of `init`: `bind` answers with the local address it got
variable (bind : TcpSockaddr → Option TcpSockaddr)

/-- `server_channel_state::init`: the first candidate address that can be bound. -/
def ServerChannelState.init (ep : TcpEndpoint) : Outcome Unit ServerChannelState := do
  assert (ep.resolvedSockaddrs ≠ [])
  match ep.resolvedSockaddrs.findSome? bind with
  | some addr => pure ⟨ep, addr⟩
  | none      => .error ()

/-- `server_portal_state::init`. -/
def ServerPortalState.init (o : XcpdProgramOptions) : Outcome Unit ServerPortalState := do
  let channels ← o.argChannels.mapM (ServerChannelState.init bind)
  match o.argPortal.resolvedSockaddrs.findSome? bind with
  | some addr => pure ⟨o, addr, channels⟩
  | none      => .error ()

end Init

/-! ### The announcement and the client's connections -/

/-- The entry of `client_instance::fn_portal` for a portal reused as channel, if it is. -/
def ServerPortalState.portalEntry (s : ServerPortalState) :
    Outcome Unit (List (TcpSockaddr × ℕ)) :=
  match s.programOptions.argPortal.repeats with
  | some r => do
    assert (0 < r)
    pure [(s.boundLocalEndpoint, r)]
  | none => do
    assert (s.channels ≠ [])
    pure []

/-- The entry of `client_instance::fn_portal` for a channel; `repeats.value()` of an endpoint
without repeats throws. -/
def ServerChannelState.entry (chan : ServerChannelState) : Outcome Unit (TcpSockaddr × ℕ) :=
  match chan.requiredEndpoint.repeats with
  | some r => do
    assert (0 < r)
    pure (chan.boundLocalEndpoint, r)
  | none => .error ()

/-- The `message_server_information` of `client_instance::fn_portal`. -/
def ServerPortalState.serverInformation (s : ServerPortalState) :
    Outcome Unit MessageServerInformation := do
  let portal ← s.portalEntry
  let channels ← s.channels.mapM ServerChannelState.entry
  pure ⟨portal ++ channels⟩

/-- The address that `client_portal_state::fn_thread_work` connects a channel to. -/
def channelAddr (connectedRemoteEndpoint addr : TcpSockaddr) : TcpSockaddr :=
  if addr.isAddrAny then connectedRemoteEndpoint.setPort addr.port else addr

/-- The channels that `client_portal_state::fn_thread_work` creates, by the address they connect
to, and its `total_channel_repeats_count`. -/
def createChannels (connectedRemoteEndpoint : TcpSockaddr) :
    List (TcpSockaddr × ℕ) → ℕ → List TcpSockaddr × ℕ
  | [], total => ([], total)
  | (addr, repeats) :: rest, total =>
    let (channels, total) := createChannels connectedRemoteEndpoint rest (toU64 (total + repeats))
    (List.replicate repeats (channelAddr connectedRemoteEndpoint addr) ++ channels, total)

lemma length_createChannels (remote : TcpSockaddr) (l : List (TcpSockaddr × ℕ)) (total : ℕ) :
    (createChannels remote l total).1.length = (l.map Prod.snd).sum := by
  induction l generalizing total with
  | nil => rfl
  | cons e l ih => simp [createChannels, ih]

/-! ### What the options count -/

/-- The repeats of an endpoint are present and positive. -/
def TcpEndpoint.Counted (ep : TcpEndpoint) : Prop :=
  ∃ r, ep.repeats = some r ∧ 0 < r ∧ r < intBound

lemma TcpEndpoint.resolve_repeats {g : String → Option (List TcpSockaddr)} {ep ep' : TcpEndpoint}
    (h : ep.resolve g = ok ep') : ep'.repeats = ep.repeats := by
  unfold TcpEndpoint.resolve at h
  split_ifs at h
  · cases h; rfl
  · split at h <;> cases h
    rfl

lemma postProcessChannel_counted {g : String → Option (List TcpSockaddr)} {ep ep' : TcpEndpoint}
    (hep : ep.Parsed) (h : postProcessChannel g ep = ok ep') : ep'.Counted := by
  obtain ⟨-, -, h⟩ := bind_eq_ok.mp h
  have hr : ep'.repeats = some (ep.repeats.getD 1) := TcpEndpoint.resolve_repeats h
  refine ⟨_, hr, ?_⟩
  cases hrep : ep.repeats with
  | none => simp
  | some r => exact hep r hrep

/-- The total grows by the repeats of every completed channel, without wrapping. -/
lemma postProcessChannels_ok {g : String → Option (List TcpSockaddr)} {eps eps' : List TcpEndpoint}
    {total total' : ℕ} (heps : ∀ ep ∈ eps, ep.Parsed)
    (hlt : total + eps.length * intBound < 2 ^ 64)
    (h : postProcessChannels g eps total = ok (eps', total')) :
    (∀ ep ∈ eps', ep.Counted) ∧ eps'.length = eps.length ∧
      total' = total + (eps'.map fun ep => ep.repeats.getD 0).sum := by
  induction eps generalizing total eps' with
  | nil => cases h; simp
  | cons ep eps ih =>
    obtain ⟨ep', hep', h⟩ := bind_eq_ok.mp h
    obtain ⟨⟨epsr, totalr⟩, hrest, h⟩ := bind_eq_ok.mp h
    cases h
    have hcounted := postProcessChannel_counted (heps ep (by simp)) hep'
    obtain ⟨r, hr, hrpos, hrlt⟩ := hcounted
    simp only [List.length_cons, Nat.add_mul] at hlt
    have hstep : toU64 (total + ep'.repeats.getD 0) = total + r := by
      rw [hr, Option.getD_some, toU64_of_lt (by omega)]
    rw [hstep] at hrest
    obtain ⟨hall, hlen, htotal⟩ := ih (fun e he => heps e (by simp [he])) (by omega) hrest
    refine ⟨?_, by simp [hlen], by simp [htotal, hr, Nat.add_assoc]⟩
    rintro e (_ | ⟨_, he⟩)
    · exact ⟨r, hr, hrpos, hrlt⟩
    · exact hall e he

/-- The repeats given to the portal on the command line. -/
def XcpdArguments.portalRepeats (args : XcpdArguments) : Option ℕ :=
  args.argPortal.bind (·.repeats)

lemma postProcessPortal_repeats {g : String → Option (List TcpSockaddr)}
    {portal : Option TcpEndpoint} {ep : TcpEndpoint} (h : postProcessPortal g portal = ok ep) :
    ep.repeats = portal.bind (·.repeats) := by
  rw [TcpEndpoint.resolve_repeats h]
  cases portal <;> rfl

lemma XcpdArguments.portalRepeats_lt {args : XcpdArguments} {r : ℕ}
    (h : args.portalRepeats = some r) : 0 < r ∧ r < intBound := by
  obtain ⟨ep, hep, hr⟩ := Option.bind_eq_some_iff.mp h
  exact args.portal_parsed ep hep r hr

/-- The completed options, without channels: the portal is counted. -/
lemma postProcess_nil {g : String → Option (List TcpSockaddr)} {args : XcpdArguments}
    {o : XcpdProgramOptions} (hnil : args.argChannels = []) (h : args.postProcess g = ok o) :
    o.argChannels = [] ∧ o.argPortal.repeats = some o.totalChannelRepeatsCount ∧
      0 < o.totalChannelRepeatsCount := by
  obtain ⟨ep, hep, h⟩ := bind_eq_ok.mp h
  simp only [hnil, List.isEmpty_nil, if_true] at h
  cases h
  have hr : ep.repeats = args.portalRepeats := postProcessPortal_repeats hep
  have hpos : 0 < ep.repeats.getD ProgramOptionsDefaults.serverChannelRepeats ∧
      ep.repeats.getD ProgramOptionsDefaults.serverChannelRepeats < intBound := by
    cases hrep : args.portalRepeats with
    | none => simp [hr, hrep, ProgramOptionsDefaults.serverChannelRepeats, intBound]
    | some r => simpa [hr, hrep] using XcpdArguments.portalRepeats_lt hrep
  have htotal := toU64_of_lt (hpos.2.trans (by decide))
  refine ⟨rfl, ?_, ?_⟩ <;> simp only [Nat.zero_add, htotal]
  exact hpos.1

/-- The completed options, with channels: only the channels are counted. -/
lemma postProcess_cons {g : String → Option (List TcpSockaddr)} {args : XcpdArguments}
    {o : XcpdProgramOptions} (hne : args.argChannels ≠ []) (h : args.postProcess g = ok o) :
    o.argChannels ≠ [] ∧ o.argPortal.repeats = args.portalRepeats ∧
      (∀ ep ∈ o.argChannels, ep.Counted) ∧ o.argChannels.length < intBound ∧
      o.totalChannelRepeatsCount = (o.argChannels.map fun ep => ep.repeats.getD 0).sum := by
  obtain ⟨ep, hep, h⟩ := bind_eq_ok.mp h
  have hempty : ¬ args.argChannels.isEmpty := by simpa using hne
  rw [if_neg hempty] at h
  obtain ⟨⟨eps, total⟩, heps, h⟩ := bind_eq_ok.mp h
  cases h
  have hlen := args.length_lt
  obtain ⟨hall, hlen', htotal⟩ :=
    postProcessChannels_ok args.channels_parsed (by simp only [intBound] at *; omega) heps
  refine ⟨fun hnil => hne ?_, postProcessPortal_repeats hep, hall, hlen'.trans_lt hlen,
    by simpa using htotal⟩
  simp only at hnil
  rw [hnil] at hlen'
  exact List.length_eq_zero_iff.mp hlen'.symm

/-! ### What the server announces -/

lemma ServerChannelState.init_ok {b : TcpSockaddr → Option TcpSockaddr} {ep : TcpEndpoint}
    {chan : ServerChannelState} (h : ServerChannelState.init b ep = ok chan) :
    chan.requiredEndpoint = ep := by
  obtain ⟨-, -, h⟩ := bind_eq_ok.mp h
  split at h <;> cases h
  rfl

lemma mapM_init_ok {b : TcpSockaddr → Option TcpSockaddr} {eps : List TcpEndpoint}
    {chans : List ServerChannelState} (h : eps.mapM (ServerChannelState.init b) = ok chans) :
    chans.map (·.requiredEndpoint) = eps := by
  have hreq := forall₂_of_mapM_eq_ok h
  clear h
  induction hreq with
  | nil => rfl
  | cons hchan _ ih => rw [List.map_cons, ServerChannelState.init_ok hchan, ih]

/-- `init` binds one channel for every endpoint, in order. -/
lemma ServerPortalState.init_ok {b : TcpSockaddr → Option TcpSockaddr} {o : XcpdProgramOptions}
    {s : ServerPortalState} (h : ServerPortalState.init b o = ok s) :
    s.programOptions = o ∧ s.channels.map (·.requiredEndpoint) = o.argChannels := by
  obtain ⟨chans, hchans, h⟩ := bind_eq_ok.mp h
  split at h <;> cases h
  exact ⟨rfl, mapM_init_ok hchans⟩

lemma mapM_entry_ok {chans : List ServerChannelState}
    (h : ∀ chan ∈ chans, chan.requiredEndpoint.Counted) :
    ∃ es, chans.mapM ServerChannelState.entry = ok es ∧
      es.map Prod.snd = chans.map fun chan => chan.requiredEndpoint.repeats.getD 0 := by
  induction chans with
  | nil => exact ⟨[], rfl, rfl⟩
  | cons chan chans ih =>
    obtain ⟨es, hes, hsum⟩ := ih fun c hc => h c (by simp [hc])
    obtain ⟨r, hr, hpos, -⟩ := h chan (by simp)
    have hentry : chan.entry = ok (chan.boundLocalEndpoint, r) := by
      simp [ServerChannelState.entry, hr, assert_of hpos]
    exact ⟨(chan.boundLocalEndpoint, r) :: es, by simp [List.mapM_cons, hentry, hes],
      by simp [hsum, hr]⟩

/-- What is announced: the repeats of the portal, if it has any, and those of the channels. -/
lemma ServerPortalState.serverInformation_ok {s : ServerPortalState}
    (hportal : ∀ r ∈ s.programOptions.argPortal.repeats, 0 < r)
    (hnone : s.programOptions.argPortal.repeats = none → s.channels ≠ [])
    (hchannels : ∀ chan ∈ s.channels, chan.requiredEndpoint.Counted) :
    ∃ msg, s.serverInformation = ok msg ∧
      msg.repeatsSum = s.programOptions.argPortal.repeats.getD 0 +
        ((s.channels.map (·.requiredEndpoint)).map fun ep => ep.repeats.getD 0).sum := by
  obtain ⟨es, hes, hsum⟩ := mapM_entry_ok hchannels
  cases hrep : s.programOptions.argPortal.repeats with
  | none =>
    have hentry : s.portalEntry = ok [] := by
      simp [portalEntry, hrep, assert_of (hnone hrep)]
    refine ⟨⟨es⟩, by simp [serverInformation, hentry, hes], ?_⟩
    simp [MessageServerInformation.repeatsSum, hsum, Function.comp_def]
  | some r =>
    have hentry : s.portalEntry = ok [(s.boundLocalEndpoint, r)] := by
      simp [portalEntry, hrep, assert_of (hportal r hrep)]
    refine ⟨⟨(s.boundLocalEndpoint, r) :: es⟩, by simp [serverInformation, hentry, hes], ?_⟩
    simp [MessageServerInformation.repeatsSum, hsum, Function.comp_def]

/-! ### A server that has been started -/

section Started

variable {g : String → Option (List TcpSockaddr)} {b : TcpSockaddr → Option TcpSockaddr}
  {args : XcpdArguments} {o : XcpdProgramOptions} {s : ServerPortalState}

/-- Every entry of the announcement passes its check. -/
lemma ServerPortalState.serverInformation_started (ho : args.postProcess g = ok o)
    (hs : ServerPortalState.init b o = ok s) :
    ∃ msg, s.serverInformation = ok msg ∧
      msg.repeatsSum = o.argPortal.repeats.getD 0 +
        (o.argChannels.map fun ep => ep.repeats.getD 0).sum := by
  obtain ⟨rfl, hreq⟩ := ServerPortalState.init_ok hs
  rw [← hreq]
  by_cases hnil : args.argChannels = []
  · obtain ⟨hchans, hrep, hpos⟩ := postProcess_nil hnil ho
    rw [hchans, List.map_eq_nil_iff] at hreq
    exact ServerPortalState.serverInformation_ok (by simpa [hrep] using hpos) (by simp [hrep])
      (by simp [hreq])
  · obtain ⟨hne, hrep, hcounted, -, -⟩ := postProcess_cons hnil ho
    exact ServerPortalState.serverInformation_ok
      (fun r hr => (XcpdArguments.portalRepeats_lt (hrep ▸ hr)).1)
      (fun _ hs => hne (by rw [← hreq, hs, List.map_nil]))
      (fun chan hchan => hcounted _ (hreq ▸ List.mem_map_of_mem hchan))

/-- The number of channels is positive and far below the bound of a counter. -/
lemma totalChannelRepeatsCount_started (ho : args.postProcess g = ok o) :
    0 < o.totalChannelRepeatsCount ∧ o.totalChannelRepeatsCount < intBound * intBound := by
  by_cases hnil : args.argChannels = []
  · obtain ⟨-, hrep, hpos⟩ := postProcess_nil hnil ho
    obtain ⟨ep, hep, h⟩ := bind_eq_ok.mp ho
    simp only [hnil, List.isEmpty_nil, if_true] at h
    cases h
    refine ⟨hpos, (Nat.mod_le _ _).trans_lt ?_⟩
    have hr : ep.repeats = args.portalRepeats := postProcessPortal_repeats hep
    cases hrepeats : args.portalRepeats with
    | none => simp [hr, hrepeats, ProgramOptionsDefaults.serverChannelRepeats, intBound]
    | some r =>
      have := (XcpdArguments.portalRepeats_lt hrepeats).2
      simp only [hr, hrepeats, Option.getD_some, Nat.zero_add, intBound] at *
      omega
  · obtain ⟨hne, -, hcounted, hlen, htotal⟩ := postProcess_cons hnil ho
    have hrepeats : ∀ r ∈ o.argChannels.map fun ep => ep.repeats.getD 0, 0 < r ∧ r ≤ intBound := by
      intro r hr
      obtain ⟨ep, hep, rfl⟩ := List.mem_map.mp hr
      obtain ⟨r, hr, hpos, hlt⟩ := hcounted ep hep
      rw [hr]
      exact ⟨hpos, hlt.le⟩
    rw [htotal]
    constructor
    · obtain ⟨ep, hep⟩ := List.exists_mem_of_ne_nil _ hne
      have hmem := List.mem_map_of_mem (f := fun ep => ep.repeats.getD 0) hep
      exact (hrepeats _ hmem).1.trans_le (List.single_le_sum (fun _ _ => Nat.zero_le _) _ hmem)
    · have hsum := List.sum_le_card_nsmul _ intBound fun r hr => (hrepeats r hr).2
      rw [List.length_map, nsmul_eq_mul, Nat.cast_id] at hsum
      exact hsum.trans_lt (Nat.mul_lt_mul_of_pos_right hlen (Nat.two_pow_pos 31))

end Started

/-! ### Agreement -/

/-- Server and client agree on the number of channels: the server announces its channels, what it
counted is the sum of the announced repeats, and the client opens that many connections. -/
def ChannelCountAgrees (o : XcpdProgramOptions) (s : ServerPortalState)
    (connectedRemoteEndpoint : TcpSockaddr) : Prop :=
  ∃ msg, s.serverInformation = ok msg ∧ o.totalChannelRepeatsCount = msg.repeatsSum ∧
    (createChannels connectedRemoteEndpoint msg.serverChannels 0).1.length = msg.repeatsSum

/-- The numbers agree exactly for a portal without repeats and for an empty list of channels. -/
theorem channelCountAgrees_iff {g : String → Option (List TcpSockaddr)}
    {b : TcpSockaddr → Option TcpSockaddr} {args : XcpdArguments} {o : XcpdProgramOptions}
    {s : ServerPortalState} (ho : args.postProcess g = ok o)
    (hs : ServerPortalState.init b o = ok s) (remote : TcpSockaddr) :
    ChannelCountAgrees o s remote ↔ args.portalRepeats = none ∨ args.argChannels = [] := by
  obtain ⟨rfl, hreq⟩ := ServerPortalState.init_ok hs
  have hagree : ∀ {msg}, s.serverInformation = ok msg →
      (ChannelCountAgrees s.programOptions s remote ↔
        s.programOptions.totalChannelRepeatsCount = msg.repeatsSum) := by
    intro msg hmsg
    constructor
    · rintro ⟨msg', hmsg', htotal, -⟩
      rw [hmsg] at hmsg'
      cases hmsg'
      exact htotal
    · intro htotal
      exact ⟨msg, hmsg, htotal, length_createChannels _ _ _⟩
  obtain ⟨msg, hmsg, hsum⟩ := ServerPortalState.serverInformation_started ho hs
  rw [hagree hmsg, hsum]
  by_cases hnil : args.argChannels = []
  · obtain ⟨hchans, hrep, -⟩ := postProcess_nil hnil ho
    simp [hchans, hrep, hnil]
  · obtain ⟨-, hrep, -, -, htotal⟩ := postProcess_cons hnil ho
    rw [htotal, hrep, or_iff_left hnil]
    cases hr : args.portalRepeats with
    | none => simp
    | some r =>
      have := (XcpdArguments.portalRepeats_lt hr).1
      simp only [Option.getD_some, reduceCtorEq, iff_false]
      omega

/-! ### A portal with repeats next to a channel -/

/-- `xcpd --channel "*"`, with the given portal. -/
def oneChannel (portal : Option TcpEndpoint) (h : ∀ ep ∈ portal, ep.Parsed) : XcpdArguments where
  argPortal := portal
  argChannels := [{ host := "*" }]
  portal_parsed := h
  channels_parsed := by simp [TcpEndpoint.Parsed]
  length_lt := by simp [intBound]

/-- `xcpd --channel "*"` agrees with its clients. -/
theorem channelCountAgrees_oneChannel :
    ∃ o s, (oneChannel none (by simp)).postProcess (fun _ => none) = ok o ∧
      ServerPortalState.init some o = ok s ∧ ChannelCountAgrees o s s.boundLocalEndpoint := by
  refine ⟨_, _, rfl, rfl, ?_⟩
  exact (@channelCountAgrees_iff (fun _ => none) some (oneChannel none (by simp)) _ _ rfl rfl
    _).mpr (.inl rfl)

/-- `xcpd --portal "*@3" --channel "*"`. -/
def portalAndChannel : XcpdArguments :=
  oneChannel (some { host := "*", repeats := some 3 })
    (by simp [TcpEndpoint.Parsed, intBound])

/-- The server counts one channel, announces four, and its clients open four. -/
theorem portalAndChannel_disagrees :
    ∃ o s msg, portalAndChannel.postProcess (fun _ => none) = ok o ∧
      ServerPortalState.init some o = ok s ∧ s.serverInformation = ok msg ∧
      o.totalChannelRepeatsCount = 1 ∧ msg.repeatsSum = 4 ∧
      (createChannels s.boundLocalEndpoint msg.serverChannels 0).1.length = 4 ∧
      ¬ ChannelCountAgrees o s s.boundLocalEndpoint := by
  refine ⟨_, _, _, rfl, rfl, rfl, rfl, rfl, rfl, ?_⟩
  rintro ⟨msg, hmsg, htotal, -⟩
  cases hmsg
  exact absurd htotal (by decide)

end Xcp
