import IrohEndpoint.Handles
import IrohEndpoint.Authentication
import IrohEndpoint.Routing
import IrohEndpoint.Signaling
import IrohEndpoint.Relays
import IrohEndpoint.Channels
import IrohEndpoint.Replies
import IrohEndpoint.Streams
import IrohEndpoint.Waiting
import IrohEndpoint.Shutdown
import IrohEndpoint.RelayFrames
import IrohEndpoint.Opens
import IrohEndpoint.Receives
import IrohEndpoint.Reroutes
import IrohEndpoint.DirectPaths
import IrohEndpoint.Handoff
import IrohEndpoint.Sessions
import IrohEndpoint.SecondOffers
import IrohEndpoint.Exchanges
import IrohEndpoint.Network
import IrohEndpoint.RelayFraming
import IrohEndpoint.RelayHandshake
import IrohEndpoint.RelayUrls
import IrohEndpoint.Hints
import IrohEndpoint.RelayOnly
import IrohEndpoint.RouteJournal
import IrohEndpoint.Writes
import IrohEndpoint.Takeovers
import IrohEndpoint.Owners
import IrohEndpoint.Arguments
import IrohEndpoint.Dances
import IrohEndpoint.OwnSignals
import IrohEndpoint.FrameTags
import IrohEndpoint.UdpWire
import IrohEndpoint.VirtualPoll
import IrohEndpoint.VirtualReceive
import IrohEndpoint.Transmits
import IrohEndpoint.Outbound
import IrohEndpoint.Panics
import IrohEndpoint.Scripts
import IrohEndpoint.Teardown
import IrohEndpoint.Foundation.Parallel
import IrohEndpoint.Spike.Run
import IrohEndpoint.Spike.Steps
import IrohEndpoint.Spike.Wires
import IrohEndpoint.Spike.Exchange
import IrohEndpoint.Spike.Sides
import IrohEndpoint.Spike.Agreement
import IrohEndpoint.Spike.Exits
import IrohEndpoint.Spike.Signaling
import IrohEndpoint.Spike.Dances
import IrohEndpoint.Spike.Demo
import IrohEndpoint.Spike.Report
import IrohEndpoint.Spike.Relaying
import IrohEndpoint.Spike.Loopback
