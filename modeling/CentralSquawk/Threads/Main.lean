import CentralSquawk.Threads.State

/-!
# The main thread

`OnTimer`, `OnCompileCommand`, `OnFunctionCall` and `Shutdown`, one step for each
access to a member the worker thread also uses.
-/

namespace CentralSquawk

def MainAction.pc : MainAction → MainPc
  | .timer _ | .compileCommand _ | .functionCall _ | .shutdown => .idle
  | .resolveMode => .resolveMode
  | .isController _ => .isController
  | .storeController => .storeController
  | .announce => .announce
  | .display => .display
  | .bridgeTimer _ => .bridgeTimer
  | .applyAssignments => .applyAssignments
  | .flight _ _ | .forgetAbsent => .sweeping
  | .servePicture => .servePicture
  | .capture _ => .capture
  | .storePicture => .storePicture
  | .storeReady => .storeReady
  | .storeServed => .storeServed

def MainThread.enabled (m : MainThread) (a : MainAction) : Bool := m.pc = a.pc

/-- `pictureMutex_` is held between steps only while `ServePictureRequest` publishes. -/
def MainThread.locksPicture (m : MainThread) : Bool := m.pc = .storeReady || m.pc = .storeServed

def MainThread.afterSweep (m : MainThread) : MainPc :=
  if m.mode = .sweatbox then .servePicture else .idle

/-- What `IsController` returns. A callsign too short to judge is no controller's. -/
def isController (myself : Myself) : Bool :=
  if myself.callsign.length < 3 then false
  else !(myself.callsign.drop (myself.callsign.length - 3) = text "OBS" || myself.facility = 0)

def Plugin.sweeps (p : Plugin) : Bool :=
  p.isOnline && p.isController && !idleSweep p.ssrCache p.bridge

def System.backOnLive (s : System) : Bool :=
  s.plugin.announcedMode = .sweatbox && s.main.mode = .live

def backOnLiveMessage : Message := queueMessage (text "Back on the live squawk server.")

def Plugin.onFunctionCall (p : Plugin) (call : FunctionCall) : FunctionResult :=
  CentralSquawk.onFunctionCall p.isOnline p.isController call

/-- `bridge_.OnTimer()`, which only a connected controller's `OnTimer` calls. -/
def System.onBridgeTimer (s : System) (registration : BridgePublisher.Registration) : BridgePublisher.Ticked :=
  if s.main.mode ≠ .offline && s.main.controller then s.plugin.bridge.onTimer registration
  else { publisher := s.plugin.bridge }

@[simp] theorem System.onBridgeTimer_published (s : System) (registration : BridgePublisher.Registration) :
    (s.onBridgeTimer registration).publisher.published = s.plugin.bridge.published := by
  unfold onBridgeTimer
  split
  · exact BridgePublisher.onTimer_published _ _
  · rfl

/-- `pendingAssignRequests_[callsign] = request`. -/
def storeRequest (pending : Requests) : Option (Text × AssignRequest) → Requests
  | some (callsign, request) => pending.insert callsign request
  | none => pending

theorem storeRequest_lookup {pending : Requests} {queued : Option (Text × AssignRequest)} {K : Text}
    {request : AssignRequest} (stored : (storeRequest pending queued).lookup K = some request) :
    queued = some (K, request) ∨ pending.lookup K = some request := by
  cases queued with
  | none => exact .inr stored
  | some entry =>
    obtain ⟨callsign, new⟩ := entry
    by_cases same : K = callsign
    · subst same
      obtain rfl : new = request := by simpa [storeRequest, AList.lookup_insert] using stored
      exact .inl rfl
    · rw [storeRequest, AList.lookup_insert_ne same] at stored
      exact .inr stored

/-- A request still there after another was sent was there before. -/
theorem erase_lookup {pending : Requests} {callsign K : Text} {request : AssignRequest}
    (left : (pending.erase callsign).lookup K = some request) : pending.lookup K = some request := by
  by_cases same : K = callsign
  · subst same
    rw [AList.lookup_erase] at left
    contradiction
  · rwa [AList.lookup_erase_ne same] at left

def mainEffect (s : System) : MainAction → System
  | .timer connectionType =>
    { s with
      plugin := { s.plugin with connectionMode := detectConnectionMode connectionType }
      main := { s.main with pc := .resolveMode } }
  | .resolveMode =>
    { s with main := { s.main with mode := s.plugin.resolveMode, pc := .isController } }
  | .isController myself =>
    { s with
      plugin := { s.plugin with
        userCallsign := if myself.callsign.length < 3 then s.plugin.userCallsign
          else myself.callsign }
      main := { s.main with controller := isController myself, pc := .storeController } }
  | .storeController =>
    { s with
      plugin := { s.plugin with isController := s.main.controller }
      main := { s.main with pc := .announce } }
  | .announce =>
    { s with
      plugin := { s.plugin with
        announcedMode := s.main.mode
        feeding := if s.backOnLive then false else s.plugin.feeding
        messageQueue := s.plugin.messageQueue ++ if s.backOnLive then [backOnLiveMessage] else [] }
      main := { s.main with pc := .display } }
  | .display =>
    { s with
      plugin := { s.plugin with messageQueue := [] }
      main := { s.main with pc := .bridgeTimer } }
  | .bridgeTimer registration =>
    { s with
      plugin := { s.plugin with bridge := (s.onBridgeTimer registration).publisher }
      main := { s.main with pc := .applyAssignments } }
  | .applyAssignments =>
    { s with
      main := { s.main with
        snapshot := s.plugin.ssrCache
        seen := ∅
        pc := if s.plugin.sweeps then .sweeping else s.main.afterSweep } }
  | .flight fp answer =>
    let applied := applyFlight s.main.snapshot s.plugin.bridge fp answer
    { s with
      plugin := { s.plugin with bridge := applied.publisher }
      main := { s.main with seen := s.main.seen ∪ applied.seen } }
  | .forgetAbsent =>
    { s with
      plugin := { s.plugin with bridge := s.plugin.bridge.forgetAbsent s.main.seen }
      main := { s.main with pc := s.main.afterSweep } }
  | .servePicture =>
    { s with
      main := { s.main with pc := if s.plugin.pictureRequested then .capture else .idle } }
  | .capture targets =>
    { s with main := { s.main with picture := capturePicture targets, pc := .storePicture } }
  | .storePicture =>
    { s with
      plugin := { s.plugin with picture := s.main.picture }
      main := { s.main with picture := [], pc := .storeReady } }
  | .storeReady =>
    { s with
      plugin := { s.plugin with pictureReady := true }
      main := { s.main with pc := .storeServed } }
  | .storeServed =>
    { s with
      plugin := { s.plugin with pictureRequested := false }
      main := { s.main with pc := .idle } }
  | .compileCommand line =>
    { s with
      plugin := { s.plugin with
        modeOverride := (onCompileCommand s.plugin.statusView line).modeOverride } }
  | .functionCall call =>
    { s with
      plugin := { s.plugin with
        pendingAssignRequests :=
          storeRequest s.plugin.pendingAssignRequests (s.plugin.onFunctionCall call).queued
        messageQueue := s.plugin.messageQueue ++ (s.plugin.onFunctionCall call).said } }
  | .shutdown =>
    -- The main thread then waits for the worker to leave its loop.
    { s with
      plugin := { s.plugin with mStop := true }
      main := { s.main with pc := .joining } }

/-! ### What the main thread leaves alone -/

theorem MainThread.afterSweep_ne_sweeping (m : MainThread) : m.afterSweep ≠ .sweeping := by
  unfold MainThread.afterSweep
  split <;> simp

@[simp] theorem mainEffect_worker (s : System) (a : MainAction) :
    (mainEffect s a).worker = s.worker := by
  cases a <;> rfl

@[simp] theorem mainEffect_inferredSim (s : System) (a : MainAction) :
    (mainEffect s a).plugin.inferredSim = s.plugin.inferredSim := by
  cases a <;> rfl

@[simp] theorem mainEffect_ssrCache (s : System) (a : MainAction) :
    (mainEffect s a).plugin.ssrCache = s.plugin.ssrCache := by
  cases a <;> rfl

theorem sweeping_before {s : System} {a : MainAction} (later : (mainEffect s a).main.pc = .sweeping)
    (other : a ≠ .applyAssignments) : s.main.pc = .sweeping := by
  cases a with
  | applyAssignments => exact absurd rfl other
  | forgetAbsent => exact absurd later s.main.afterSweep_ne_sweeping
  | servePicture =>
    simp only [mainEffect] at later
    split at later <;> contradiction
  | _ => first | exact later | contradiction

theorem mainEffect_connectionMode (s : System) {a : MainAction} (other : ∀ type, a ≠ .timer type) :
    (mainEffect s a).plugin.connectionMode = s.plugin.connectionMode := by
  cases a with
  | timer type => exact absurd rfl (other type)
  | _ => rfl

theorem mainEffect_userCallsign (s : System) {a : MainAction}
    (other : ∀ myself, a ≠ .isController myself) :
    (mainEffect s a).plugin.userCallsign = s.plugin.userCallsign := by
  cases a with
  | isController myself => exact absurd rfl (other myself)
  | _ => rfl

end CentralSquawk
