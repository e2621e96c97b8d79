import NanoNet.Wire
import NanoNet.Checksum
import NanoNet.MicroStack
import NanoNet.ParseSpec
import NanoNet.FastParse
import NanoNet.Basic
import NanoNet.Security
import NanoNet.Tracker
import NanoNet.ResponseSender
import NanoNet.Processor
import NanoNet.Hook
import NanoNet.Footprint
import NanoNet.Filter
import NanoNet.Addressing
import NanoNet.RoundTrip
import NanoNet.Accounting
import NanoNet.Control
import NanoNet.Interleaving
import NanoNet.Latency
import NanoNet.Lifecycle
import NanoNet.ControlTool
import NanoNet.Generator
