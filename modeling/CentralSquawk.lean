import CentralSquawk.Library.Machine
import CentralSquawk.Library.LatestWins
import CentralSquawk.Library.Utf8
import CentralSquawk.Library.FirstWins
import CentralSquawk.Library.Overwrite
import CentralSquawk.Library.Tokens
import CentralSquawk.Library.Progress
import CentralSquawk.Library.Spacing
import CentralSquawk.Library.Shielded
import CentralSquawk.Library.Simulation
import CentralSquawk.Helpers
import CentralSquawk.Json
import CentralSquawk.Types
import CentralSquawk.Server
import CentralSquawk.BridgePublisher
import CentralSquawk.ApplyAssignments
import CentralSquawk.CapturePicture
import CentralSquawk.TagFunctions
import CentralSquawk.CompileCommands
import CentralSquawk.Threads.State
import CentralSquawk.Threads.Main
import CentralSquawk.Threads.Worker
import CentralSquawk.Threads.System
import CentralSquawk.Isolation
import CentralSquawk.Survival
import CentralSquawk.Requests.Queue
import CentralSquawk.Requests.Routing
import CentralSquawk.Dupe.Network
import CentralSquawk.Dupe.Mirror
import CentralSquawk.Inference.Evidence
import CentralSquawk.Inference.Sessions
import CentralSquawk.Feed.Handover
import CentralSquawk.Feed.Freshness
import CentralSquawk.Snapshot.Applied
import CentralSquawk.Snapshot.Reported
import CentralSquawk.Requests.Outcome
import CentralSquawk.Requests.Agreement
import CentralSquawk.Codes
import CentralSquawk.Sweeps
import CentralSquawk.Feed.Status
import CentralSquawk.Dupe.Publisher
import CentralSquawk.Dupe.Registration
import CentralSquawk.Dupe.Idle
import CentralSquawk.Grammar
import CentralSquawk.Dupe.Departed
import CentralSquawk.Shutdown
import CentralSquawk.Wire.Calls
import CentralSquawk.Wire.Endpoints
import CentralSquawk.Wire.Cadence
import CentralSquawk.Wire.Pinned
import CentralSquawk.Feed.Pacing
import CentralSquawk.Feed.Handshake
import CentralSquawk.Notices
import CentralSquawk.Seat
import CentralSquawk.Requests.Refused
import CentralSquawk.Requests.Prompt
import CentralSquawk.Interleaving
import CentralSquawk.Requests.Order
import CentralSquawk.Requests.Reflected
import CentralSquawk.Bodies
import CentralSquawk.Secrecy
import CentralSquawk.Inputs
import CentralSquawk.Dupe.Traffic
import CentralSquawk.Dupe.Served
