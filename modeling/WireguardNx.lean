import WireguardNx.Laws.Initiations
import WireguardNx.Laws.Retirement
import WireguardNx.Laws.Paths
import WireguardNx.Laws.Sockets
import WireguardNx.Laws.Isolation
import WireguardNx.Laws.Keepalives
import WireguardNx.Laws.Inert
import WireguardNx.Laws.Cookies
import WireguardNx.Laws.FlowTuples
import WireguardNx.Laws.Announcements
import WireguardNx.Laws.AdapterPayloads
import WireguardNx.Laws.Messages
import WireguardNx.Laws.KeyTexts
import WireguardNx.Laws.FlowHandles
import WireguardNx.Laws.AutoStart
import WireguardNx.Laws.FlowWorker
import WireguardNx.Laws.Padding
import WireguardNx.Laws.InboundQueue
import WireguardNx.Laws.AdapterControl
