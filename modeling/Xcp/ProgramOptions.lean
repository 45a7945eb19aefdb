import Xcp.Infra.Network

/-!
# Options of the server

`xcpd_program_options::post_process` completes the portal and channel endpoints given on the
command line and counts the channels. Resolving a name is the work of `getaddrinfo`, which is a
parameter here.
-/

namespace Xcp

namespace ProgramOptionsDefaults

def serverPortalHost : String := "*"
def serverPortalPort : ℕ := 62581
def serverChannelRepeats : ℕ := 12
def maxTransferBlockSize : ℕ := 1024 * 1024 * 1024

end ProgramOptionsDefaults

open ProgramOptionsDefaults

/-- The command line of `xcpd`. Every channel is an argument of its own, and `argc` is an `int`. -/
structure XcpdArguments where
  argPortal : Option TcpEndpoint
  argChannels : List TcpEndpoint
  portal_parsed : ∀ ep ∈ argPortal, ep.Parsed
  channels_parsed : ∀ ep ∈ argChannels, ep.Parsed
  length_lt : argChannels.length < intBound

/-- `xcpd_program_options` after `post_process`. -/
structure XcpdProgramOptions where
  argPortal : TcpEndpoint
  argChannels : List TcpEndpoint
  totalChannelRepeatsCount : ℕ

section PostProcess

variable (getaddrinfo : String → Option (List TcpSockaddr))

/-- The portal part of `post_process`: a missing portal binds to the default host, a missing port
is the default one. -/
def postProcessPortal (portal : Option TcpEndpoint) : Outcome Unit TcpEndpoint :=
  let ep := portal.getD { host := serverPortalHost }
  { ep with port := some (ep.port.getD serverPortalPort) }.resolve getaddrinfo

/-- The body of the loop over `arg_channels`: the completed endpoint, and its repeats. -/
def postProcessChannel (ep : TcpEndpoint) : Outcome Unit TcpEndpoint := do
  let ep := { ep with port := some (ep.port.getD 0), repeats := some (ep.repeats.getD 1) }
  Outcome.assert (0 < ep.repeats.getD 0)
  ep.resolve getaddrinfo

/-- The loop over `arg_channels`, adding the repeats to `total_channel_repeats_count`. -/
def postProcessChannels : List TcpEndpoint → ℕ → Outcome Unit (List TcpEndpoint × ℕ)
  | [], total => .ok ([], total)
  | ep :: eps, total => do
    let ep ← postProcessChannel getaddrinfo ep
    let (eps, total) ← postProcessChannels eps (toU64 (total + ep.repeats.getD 0))
    pure (ep :: eps, total)

/-- `xcpd_program_options::post_process`. -/
def XcpdArguments.postProcess (args : XcpdArguments) : Outcome Unit XcpdProgramOptions := do
  let portal ← postProcessPortal getaddrinfo args.argPortal
  if args.argChannels.isEmpty then
    -- reuse the portal as channel
    let repeats := portal.repeats.getD serverChannelRepeats
    pure ⟨{ portal with repeats := some repeats }, [], toU64 (0 + repeats)⟩
  else
    let (channels, total) ← postProcessChannels getaddrinfo args.argChannels 0
    pure ⟨portal, channels, total⟩

end PostProcess

end Xcp
