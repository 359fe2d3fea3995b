import Ergot.Router.Claims
import Ergot.Router.Flood
import Ergot.Router.BridgeHolder
import Ergot.Router.Retry
import Ergot.Stack.Conformance
import Ergot.Stack.Misdelivery
import Ergot.Stack.ErrorPath
import Ergot.Stack.TooBig
import Ergot.Stack.Authentic
import Ergot.Net.Unicast
import Ergot.Router.Forward
import Ergot.Wire.CobsStream
import Ergot.Stack.Requests
import Ergot.Stack.Recovery
import Ergot.Stack.SlotPort
import Ergot.Stack.Registrations
import Ergot.Stack.Attach
import Ergot.Router.Atomic
import Ergot.Router.Refreshable
import Ergot.Stack.BusClaims
import Ergot.Stack.Upstream
import Ergot.Net.Traffic
import Ergot.Net.Broadcast
import Ergot.Router.Windows
import Ergot.Stack.Hygiene
import Ergot.Stack.LastHop
import Ergot.Stack.Verdict
import Ergot.Wire.MtuLaw
import Ergot.Stack.Borrow
import Ergot.Stack.BorrowFifo
import Ergot.Router.Collection
import Ergot.Usb.Receive
import Ergot.Usb.Transmit
import Ergot.Usb.NusbRx
import Ergot.Usb.Link
import Ergot.Stack.RawSend
import Ergot.Logging.DefmtSink
import Ergot.Transport.StreamRx
import Ergot.Transport.StreamLink
import Ergot.Stack.Inbox
import Ergot.Stack.SocketQuery
import Ergot.Stack.Probing
import Ergot.Transport.Packet
import Ergot.Transport.UdpPeer
import Ergot.Stack.EdgeLinks
import Ergot.Stack.LocalSend
