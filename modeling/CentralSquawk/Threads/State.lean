import CentralSquawk.ApplyAssignments
import CentralSquawk.CompileCommands
import CentralSquawk.TagFunctions
import CentralSquawk.Library.Machine

/-!
# The two threads' state

EuroScope calls the plugin on its main thread; `WorkerThread` runs beside it.
They share the members of `CentralSquawk`, and each access to a shared member is
a step of its own, a change and the message that announces it being one. A
control point names what its thread does next.
-/

namespace CentralSquawk

/-- The members of `CentralSquawk` (`src/CentralSquawk.h`). -/
structure Plugin where
  mStop : Bool := false
  printError : Bool := true
  messageQueue : List Message := []
  isController : Bool := false
  connectionMode : NetworkMode := .offline
  inferredSim : Bool := false
  modeOverride : ModeOverride := .auto
  announcedMode : NetworkMode := .offline
  userCallsign : Text := []
  ssrCache : Cache := ∅
  bridge : BridgePublisher := {}
  pendingAssignRequests : Requests := ∅
  pictureRequested : Bool := false
  picture : List FlightObservation := []
  pictureReady : Bool := false
  feeding : Bool := false

namespace Plugin

def resolveMode (p : Plugin) : NetworkMode :=
  CentralSquawk.resolveMode p.connectionMode p.modeOverride p.inferredSim

def isOnline (p : Plugin) : Bool := p.resolveMode ≠ .offline

def statusView (p : Plugin) : StatusView :=
  ⟨p.connectionMode, p.modeOverride, p.inferredSim, p.feeding⟩

end Plugin

/-! ### The main thread -/

inductive MainPc where
  | idle
  | resolveMode | isController | storeController | announce | display | bridgeTimer
  | applyAssignments | sweeping
  | servePicture | capture | storePicture | storeReady | storeServed
  | joining
  deriving DecidableEq

structure MainThread where
  pc : MainPc := .idle
  mode : NetworkMode := .offline
  controller : Bool := false
  snapshot : Cache := ∅
  seen : Finset Text := ∅
  picture : List FlightObservation := []

structure Myself where
  callsign : Text
  facility : Int

inductive MainAction where
  /-- `OnTimer` begins: the connection type is stored. -/
  | timer (connectionType : Int)
  | resolveMode
  | isController (myself : Myself)
  | storeController
  | announce
  | display
  | bridgeTimer (registration : BridgePublisher.Registration)
  | applyAssignments
  | flight (fp : FlightPlan) (answer : BridgePublisher.Answer)
  | forgetAbsent
  | servePicture
  | capture (targets : List RadarTarget)
  /-- `pictureMutex_` is locked and the buffer replaced. -/
  | storePicture
  | storeReady
  /-- The request is cleared and `pictureMutex_` unlocked. -/
  | storeServed
  | compileCommand (line : Option Text)
  | functionCall (call : FunctionCall)
  | shutdown

/-! ### The worker thread -/

inductive WorkerPc where
  | loopTop | loadOverride | loadConnection | goOffline
  | readCallsign | guardOverride | guardConnection | probing
  | checkController | drain | sending | awaitingAssign
  | takePicture | pushing | awaitingPush | requestPicture
  | fetching
  | exited
  deriving DecidableEq

/-- The locals of `WorkerThread`. Time is in nanoseconds of the steady clock. The two counters do not wrap:
a 32-bit `size_t` does after 2^32 iterations of a tenth of a second, in more than thirteen years. -/
structure WorkerThread where
  pc : WorkerPc := .loopTop
  builtFor : Option Text := none
  counter : Nat := 0
  nextFeedAttempt : Nat := 0
  offNetworkSince : Nat := 0
  offNetwork : Bool := false
  mode : NetworkMode := .offline
  userCallsign : Text := []
  pending : Requests := ∅
  sending : Text := []
  picture : List FlightObservation := []

inductive WorkerAction where
  | loopTop
  | loadOverride
  | loadConnection
  | goOffline
  | readCallsign
  | guardOverride
  | guardConnection
  | probed (reply : Reply)
  | checkController
  | drain
  /-- The next turn of the loop over the drained requests, in any order. -/
  | send (callsign : Text)
  | assignReplied (reply : Reply)
  | allSent
  | takePicture
  | push
  | pushReplied (reply : Reply)
  | requestPicture
  | fetched (reply : Reply)

/-! ### The process -/

structure System where
  plugin : Plugin := {}
  main : MainThread := {}
  worker : WorkerThread := {}
  clock : Nat := 0
  /-- False once an exception has left `WorkerThread` and terminated the process. -/
  running : Bool := true

inductive Action where
  | main (action : MainAction)
  | worker (action : WorkerAction)
  | elapse (duration : Nat)

def Action.isMain : Action → Bool
  | .main _ => true
  | _ => false

def Action.isWorker : Action → Bool
  | .worker _ => true
  | _ => false

end CentralSquawk
