import TrishulSnmp.Wire.OidEncoding
import TrishulSnmp.Wire.SmiRanges
import TrishulSnmp.Mib.Accelerator
import TrishulSnmp.Mib.LoadOrder
import TrishulSnmp.Mib.SymbolicRoundTrip
import TrishulSnmp.Mib.Malformed
import TrishulSnmp.Notify.Members
import TrishulSnmp.Notify.StandardVarbinds
import TrishulSnmp.Notify.InformDelivery
import TrishulSnmp.Notify.V3Listening
import TrishulSnmp.Notify.HostileNetwork
import TrishulSnmp.Security.UsmRoundTrip
import TrishulSnmp.Notify.Handshake
import TrishulSnmp.Responder.Histories
import TrishulSnmp.Responder.Generated
import TrishulSnmp.Responder.Simulators
import TrishulSnmp.Responder.SafeStores
import TrishulSnmp.Responder.Serving
import TrishulSnmp.Manager.NetworkWalk
import TrishulSnmp.Manager.ChangingWalk
import TrishulSnmp.Transport.ForeignTraffic
import TrishulSnmp.Transport.Retries
import TrishulSnmp.Transport.SessionSafety
import TrishulSnmp.Transport.Deadlines
import TrishulSnmp.Transport.SocketCustody
import TrishulSnmp.Security.DiscoveryState
import TrishulSnmp.Wire.Minimal
import TrishulSnmp.Mib.NumericText
import TrishulSnmp.Mib.Search
import TrishulSnmp.Cli.Credentials
import TrishulSnmp.Responder.Counters
import TrishulSnmp.Transport.ServerClose
import TrishulSnmp.Notify.V3Sessions
import TrishulSnmp.Library.Logged
import TrishulSnmp.Mib.Directory
