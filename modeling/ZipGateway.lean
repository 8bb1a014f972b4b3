import ZipGateway.Scheme0.NonceFreshness
import ZipGateway.Scheme0.Delivery
import ZipGateway.TransportService.Completion
import ZipGateway.TransportService.EndToEnd
import ZipGateway.Mailbox.Cursor
import ZipGateway.Scheme0.Lifecycle
import ZipGateway.Scheme0.NonceIdents
import ZipGateway.SecurityS2.Accounting
import ZipGateway.SecurityS2.Instantiate
import ZipGateway.SecurityS2.TableUniqueness
import ZipGateway.SendDataAppl.Abort
import ZipGateway.SendDataAppl.Attribution
import ZipGateway.Inclusion.RetryClass
import ZipGateway.Inclusion.Verified
import ZipGateway.NodeQueue.Conservation
import ZipGateway.SecurityS2.Restart
import ZipGateway.TempAssoc.Table
import ZipGateway.CommandHandler.Capabilities
import ZipGateway.Inclusion.TempKeys
import ZipGateway.MulticastGroups.Refinement
import ZipGateway.ProvisioningList.Iteration
import ZipGateway.ResourceDirectory.Dsk
import ZipGateway.ResourceDirectory.Endpoints
import ZipGateway.S2Wrap.Callbacks
import ZipGateway.S2Wrap.Receive
import ZipGateway.UdpServer.Privilege
import ZipGateway.UdpSession.Lifecycle
import ZipGateway.TransportService.Divisors
import ZipGateway.ResourceDirectory.ServiceNames
import ZipGateway.NmQueue.Order
import ZipGateway.ProbeCcVersion.Completion
import ZipGateway.SecurityS2.RetrySimulation
import ZipGateway.SecurityS2.Sealing
import ZipGateway.DataStore.RoundTrip
import ZipGateway.NetworkManagement.NodeLists
import ZipGateway.NetworkManagement.NodeRemoval
import ZipGateway.NodeQueue.Duplicates
import ZipGateway.SecurityS2.Aad
import ZipGateway.SecurityS2.CcmStandard
import ZipGateway.SecurityS2.FrameSize
import ZipGateway.SendRequest.Abort
import ZipGateway.Inclusion.FrameReads
import ZipGateway.Inclusion.KeyOrder
import ZipGateway.Inclusion.RetryBound
import ZipGateway.S2Wrap.Followups
import ZipGateway.S2Wrap.VerifyDelivery
import ZipGateway.SecurityLayer.CommandsSupported
import ZipGateway.UdpServer.ExtHeaderRoundTrip
import ZipGateway.UdpServer.NodeDiscovery
import ZipGateway.UdpServer.SendData
import ZipGateway.ResourceDirectory.EndpointWalk
import ZipGateway.ResourceDirectory.WakeUpInterval
import ZipGateway.SecurityLayer.Identity
import ZipGateway.ResourceDirectory.UnsolicitedAdmission
import ZipGateway.SerialApi.Framing
import ZipGateway.SerialApi.Timers
import ZipGateway.ProvisioningList.FrameBounds
import ZipGateway.ResourceDirectory.InterviewBlocks
import ZipGateway.SerialApi.DispatchConfined
import ZipGateway.Mdns.ExtendedNif
import ZipGateway.Mdns.TieBreak
import ZipGateway.ResourceDirectory.NameSuffix
import ZipGateway.ResourceDirectory.SucAnnouncement
import ZipGateway.TransportService.SessionIndices
import ZipGateway.CommandHandler.Indicator
import ZipGateway.CommandHandler.Unwrapping
import ZipGateway.Ipv46Nat
import ZipGateway.Mdns.Compression
