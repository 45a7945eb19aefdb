import Xcp.Library.Machine
import Xcp.Library.Bytes
import Xcp.Library.Tiling
import Xcp.ServerInformation
import Xcp.Infra.GateGuard
import Xcp.Infra.GateThreads
import Xcp.Infra.RundownProtection
import Xcp.Infra.Disposable
import Xcp.Infra.Effect
import Xcp.Transfer.Header
import Xcp.Library.Path
import Xcp.Infra.User
import Xcp.Infra.Sockaddr
import Xcp.Wire.Message
import Xcp.Wire.Stream
import Xcp.Wire.Request
import Xcp.Wire.Hosts
import Xcp.Transfer.RecvFile
import Xcp.Transfer.DestinationInit
import Xcp.Transfer.DestinationInvariants
import Xcp.Transfer.DestinationDispose
import Xcp.Transfer.DestinationBounds
import Xcp.Transfer.DestinationCount
import Xcp.Transfer.DestinationRelease
import Xcp.Transfer.DestinationGate
import Xcp.Transfer.DestinationStream
import Xcp.Transfer.SourceClaims
import Xcp.Transfer.SourceInit
import Xcp.Transfer.DestinationPrepare
import Xcp.Transfer.SourcePrepare
import Xcp.Transfer.PrepareLeaks
import Xcp.Transfer.FilePlaces
import Xcp.Transfer.ReproducedTree
import Xcp.Transfer.ListedTree
import Xcp.Transfer.SessionCopy
import Xcp.Transfer.SessionPortal
import Xcp.Transfer.SessionCount
import Xcp.Transfer.SessionLink
import Xcp.Server.HandshakeAborts
import Xcp.Server.RequestFailures
import Xcp.Server.ClientInstanceReset
import Xcp.Server.ClientInstanceVanish
import Xcp.Server.ClientInstanceProgress
import Xcp.Server.RegistryInvariants
import Xcp.Server.RegistryConsistent
import Xcp.Server.Followers
import Xcp.Server.Shutdown
import Xcp.Client.PortalStatus
import Xcp.Client.PortalReset
import Xcp.Transfer.BlockSize
import Xcp.Server.ServerPath
import Xcp.Infra.EndpointParse
import Xcp.Infra.SockaddrText
import Xcp.HostArgument
import Xcp.Client.PortalOrderly
import Xcp.Protocol.Link
import Xcp.Protocol.Messages
import Xcp.Protocol.Safety
import Xcp.Protocol.Progress
import Xcp.Protocol.End
