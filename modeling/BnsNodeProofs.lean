import BnsNodeProofs.Basic
import BnsNodeProofs.Relay.Basic
import BnsNodeProofs.Relay.Step
import BnsNodeProofs.Relay.Validity
import BnsNodeProofs.Relay.Reachable
import BnsNodeProofs.Relay.ReturnWalk
import BnsNodeProofs.Relay.Panics
import BnsNodeProofs.Relay.RoundTrip
import BnsNodeProofs.RingsCore.Swarm
import BnsNodeProofs.RingsCore.Pending
import BnsNodeProofs.RingsCore.Registry
import BnsNodeProofs.RingsCore.Announce
import BnsNodeProofs.BnsCore.Swarm
import BnsNodeProofs.Relay.Progress
import BnsNodeProofs.RingsCore.Builder
import BnsNodeProofs.BnsCore.Manager
import BnsNodeProofs.Node.Snark
import BnsNodeProofs.Node.Circuits
import BnsNodeProofs.Node.Rpc
import BnsNodeProofs.Node.Ffi
import BnsNodeProofs.Core.Handshake
