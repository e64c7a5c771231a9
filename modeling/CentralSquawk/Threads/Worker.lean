import CentralSquawk.Threads.Main

/-!
# The worker thread

`CentralSquawk::WorkerThread` (`src/CentralSquawk.cpp`), one step for each access
to a member the main thread also uses and one for what is made of each HTTP
answer. While a call is in flight the main thread may take any number of steps.
-/

namespace CentralSquawk

def WorkerAction.pc : WorkerAction → WorkerPc
  | .loopTop => .loopTop
  | .loadOverride => .loadOverride
  | .loadConnection => .loadConnection
  | .goOffline => .goOffline
  | .readCallsign => .readCallsign
  | .guardOverride => .guardOverride
  | .guardConnection => .guardConnection
  | .probed _ => .probing
  | .checkController => .checkController
  | .drain => .drain
  | .send _ | .allSent => .sending
  | .assignReplied _ => .awaitingAssign
  | .takePicture => .takePicture
  | .push => .pushing
  | .pushReplied _ => .awaitingPush
  | .requestPicture => .requestPicture
  | .fetched _ => .fetching

/-- The callsign has been read, for the probe the iteration may make. -/
def probeStage : WorkerPc → Bool
  | .guardOverride | .guardConnection | .probing => true
  | _ => false

namespace WorkerThread

def enabled (w : WorkerThread) (a : WorkerAction) : Bool :=
  w.pc = a.pc &&
    match a with
    | .send callsign => callsign ∈ w.pending
    | .allSent => w.pending.entries.isEmpty
    | _ => true

/-- The client for a base URL, rebuilt when it was built for another. -/
def clientFor (w : WorkerThread) (baseUrl : Text) : WorkerThread :=
  if w.builtFor ≠ some baseUrl then { w with builtFor := some baseUrl } else w

def begin (w : WorkerThread) (mode : NetworkMode) : WorkerThread :=
  { w.clientFor (endpointFor mode) with mode, pc := .readCallsign }

/-- Reaching the end of the loop body counts the iteration. -/
def goTo (w : WorkerThread) (pc : WorkerPc) : WorkerThread :=
  { w with pc, counter := if pc = .loopTop then w.counter + 1 else w.counter }

def afterFeed (w : WorkerThread) : WorkerPc :=
  if w.counter % (PERIODIC_FETCH_TIME_INTERVAL * 10) = 0 then .fetching else .loopTop

def feeds (w : WorkerThread) : Bool :=
  w.mode = .sweatbox && w.userCallsign ≠ [] && w.nextFeedAttempt ≤ w.counter

def afterRequests (w : WorkerThread) : WorkerPc :=
  if w.feeds then .takePicture else w.afterFeed

theorem begin_eq (w : WorkerThread) (mode : NetworkMode) :
    w.begin mode = { w with builtFor := some (endpointFor mode), mode, pc := .readCallsign } := by
  unfold begin clientFor
  split <;> simp_all

theorem afterFeed_ne_pushing (w : WorkerThread) : w.afterFeed ≠ .pushing := by
  unfold afterFeed
  split <;> simp

theorem afterFeed_ne_awaitingPush (w : WorkerThread) : w.afterFeed ≠ .awaitingPush := by
  unfold afterFeed
  split <;> simp

end WorkerThread

/-! ### The network verdict -/

def switchingMessage : Message :=
  queueMessage (text "This callsign is not logged on to VATSIM, so this is a simulator " ++
    text "session: switching to the simulator squawk server. " ++
    text "Use .centralsquawk mode live to override.")

/-- The confirmation window, the published inference, and what is said about it. -/
structure Judged where
  offNetwork : Bool
  offNetworkSince : Nat
  inferredSim : Bool
  said : List Message := []

/-- `held.count()`: whole seconds since the window was opened. -/
def heldSeconds (now offNetworkSince : Nat) : Nat := (now - offNetworkSince) / 1000000000

def judge (offNetwork : Bool) (offNetworkSince : Nat) (inferredSim : Bool) (now : Nat) :
    NetworkVerdict → Judged
  | .online => { offNetwork := false, offNetworkSince, inferredSim := false }
  | .offline =>
    if !offNetwork then { offNetwork := true, offNetworkSince := now, inferredSim }
    -- Believed only after it has held for a while.
    else if OFF_NETWORK_CONFIRM ≤ heldSeconds now offNetworkSince && !inferredSim then
      { offNetwork, offNetworkSince, inferredSim := true, said := [switchingMessage] }
    else { offNetwork, offNetworkSince, inferredSim }
  | .unknown => { offNetwork, offNetworkSince, inferredSim }

/-- Handling a verdict closes the window, opens it, keeps it, or switches on it. -/
theorem judge_cases (offNetwork : Bool) (since : Nat) (inferredSim : Bool) (now : Nat)
    (v : NetworkVerdict) (j : Judged) (h : judge offNetwork since inferredSim now v = j) :
    (v = .online ∧ j = { offNetwork := false, offNetworkSince := since, inferredSim := false }) ∨
    (v = .offline ∧ offNetwork = false ∧
      j = { offNetwork := true, offNetworkSince := now, inferredSim }) ∨
    (v = .offline ∧ offNetwork = true ∧ inferredSim = false ∧
      OFF_NETWORK_CONFIRM ≤ heldSeconds now since ∧
      j = { offNetwork, offNetworkSince := since, inferredSim := true, said := [switchingMessage] }) ∨
    (v ≠ .online ∧ (v = .offline → offNetwork = true) ∧
      j = { offNetwork, offNetworkSince := since, inferredSim }) := by
  subst h
  cases v with
  | online => exact Or.inl ⟨rfl, rfl⟩
  | unknown => exact Or.inr (Or.inr (Or.inr ⟨by simp, by simp, rfl⟩))
  | offline =>
    cases offNetwork with
    | false => exact Or.inr (Or.inl ⟨rfl, rfl, rfl⟩)
    | true =>
      by_cases confirmed : OFF_NETWORK_CONFIRM ≤ heldSeconds now since ∧ inferredSim = false
      · obtain ⟨held, off⟩ := confirmed
        subst off
        exact Or.inr (Or.inr (Or.inl ⟨rfl, rfl, rfl, held, by simp [judge, held]⟩))
      · exact Or.inr (Or.inr (Or.inr ⟨by simp, by simp, by simpa [judge] using confirmed⟩))

def System.judge (s : System) (reply : Reply) : Judged :=
  CentralSquawk.judge s.worker.offNetwork s.worker.offNetworkSince s.plugin.inferredSim s.clock
    (probeNetwork reply)

/-! ### Steps -/

/-- `ResolveMode`'s last two loads. -/
def Plugin.autoMode (p : Plugin) : NetworkMode :=
  if p.connectionMode = .sweatbox then .sweatbox
  else if p.inferredSim then .sweatbox else .live

/-- How long until the next push may be attempted: only a lost lease backs off. -/
def feedWait (outcome : FeedOutcome) : Nat :=
  if outcome = .displaced then SIM_FEED_RETRY_INTERVAL else SIM_PUSH_TIME_INTERVAL

def WorkerThread.requestBody [Secret] (w : WorkerThread) (callsign : Text) : Json :=
  assignBody w.userCallsign callsign ((w.pending.lookup callsign).getD {})

def WorkerThread.pictureBody [Secret] (w : WorkerThread) : Json := feedBody w.userCallsign w.picture

def workerEffect [Secret] (s : System) : WorkerAction → System
  | .loopTop =>
    { s with
      worker := { s.worker with
        pc := if s.plugin.mStop then .exited
          else if s.plugin.connectionMode = .offline then .goOffline else .loadOverride } }
  | .loadOverride =>
    { s with
      worker :=
        match s.plugin.modeOverride with
        | .forceSim => s.worker.begin .sweatbox
        | .forceLive => s.worker.begin .live
        | .auto => { s.worker with pc := .loadConnection } }
  | .loadConnection => { s with worker := s.worker.begin s.plugin.autoMode }
  | .goOffline =>
    { s with
      plugin := { s.plugin with inferredSim := false }
      worker := { s.worker with offNetwork := false }.goTo .loopTop }
  | .readCallsign =>
    { s with
      worker := { s.worker with
        userCallsign := s.plugin.userCallsign
        pc := if s.plugin.userCallsign = [] then .checkController else .guardOverride } }
  | .guardOverride =>
    { s with
      worker := { s.worker with
        pc := if s.plugin.modeOverride = .auto then .guardConnection else .checkController } }
  | .guardConnection =>
    { s with
      worker := { s.worker with
        pc := if s.plugin.connectionMode = .live ∧
            s.worker.counter % (NETWORK_PROBE_INTERVAL * 10) = 0 then .probing
          else .checkController } }
  | .probed reply =>
    { s with
      plugin := { s.plugin with
        inferredSim := (s.judge reply).inferredSim
        messageQueue := s.plugin.messageQueue ++ (s.judge reply).said }
      worker := { s.worker with
        offNetwork := (s.judge reply).offNetwork
        offNetworkSince := (s.judge reply).offNetworkSince
        pc := .checkController } }
  | .checkController =>
    { s with
      worker := s.worker.goTo (if s.plugin.isController then .drain else s.worker.afterRequests) }
  | .drain =>
    { s with
      plugin := { s.plugin with pendingAssignRequests := ∅ }
      worker := { s.worker with pending := s.plugin.pendingAssignRequests, pc := .sending } }
  | .send callsign =>
    { s with
      plugin := { s.plugin with
        messageQueue := s.plugin.messageQueue ++
          if s.worker.userCallsign = [] then [notConnected] else [] }
      worker := { s.worker with
        pending := s.worker.pending.erase callsign
        sending := callsign
        pc := if s.worker.userCallsign = [] then .sending else .awaitingAssign }
      -- `dump()` is called outside any try block.
      running := s.running &&
        (s.worker.userCallsign = [] || (s.worker.requestBody callsign).utf8) }
  | .assignReplied reply =>
    { s with
      plugin := { s.plugin with
        messageQueue := s.plugin.messageQueue ++
          (applyAssignReply s.plugin.ssrCache s.worker.sending reply).1
        ssrCache := (applyAssignReply s.plugin.ssrCache s.worker.sending reply).2 }
      worker := { s.worker with pc := .sending } }
  | .allSent => { s with worker := s.worker.goTo s.worker.afterRequests }
  | .takePicture =>
    { s with
      plugin := { s.plugin with
        picture := if s.plugin.pictureReady then [] else s.plugin.picture
        pictureReady := false }
      worker := { s.worker with
        picture := if s.plugin.pictureReady then s.plugin.picture else []
        pc := if s.plugin.pictureReady then .pushing else .requestPicture } }
  | .push =>
    { s with
      worker := { s.worker with picture := [], pc := .awaitingPush }
      running := s.running && s.worker.pictureBody.utf8 }
  | .pushReplied reply =>
    let fed := feedReply s.plugin.feeding reply
    { s with
      plugin := { s.plugin with
        feeding := fed.feeding
        messageQueue := s.plugin.messageQueue ++ fed.said }
      worker := { s.worker with
        nextFeedAttempt := s.worker.counter + feedWait fed.outcome * 10 }.goTo s.worker.afterFeed }
  | .requestPicture =>
    { s with
      plugin := { s.plugin with pictureRequested := true }
      worker := s.worker.goTo s.worker.afterFeed }
  | .fetched reply =>
    let fetched := fetchAssignedSSR s.plugin.printError reply
    { s with
      plugin := { s.plugin with
        printError := fetched.printError
        messageQueue := s.plugin.messageQueue ++ fetched.said
        ssrCache := fetched.parsed.getD s.plugin.ssrCache }
      worker := s.worker.goTo .loopTop }

/-! ### Where the worker thread goes -/

theorem probeStage_afterFeed (w : WorkerThread) : probeStage w.afterFeed = false := by
  unfold WorkerThread.afterFeed
  split <;> rfl

theorem probeStage_afterRequests (w : WorkerThread) : probeStage w.afterRequests = false := by
  unfold WorkerThread.afterRequests
  split
  · rfl
  · exact probeStage_afterFeed w

section
variable [Secret]

theorem probeStage_elsewhere {s : System} {a : WorkerAction} (first : a ≠ .readCallsign)
    (outside : probeStage a.pc = false) : probeStage (workerEffect s a).worker.pc = false := by
  cases a with
  | readCallsign => exact absurd rfl first
  | guardOverride | guardConnection | probed => contradiction
  | loopTop | send | takePicture =>
    simp only [workerEffect]
    repeat' split
    all_goals rfl
  | loadOverride =>
    simp only [workerEffect, WorkerThread.begin_eq]
    split <;> rfl
  | loadConnection =>
    simp only [workerEffect, WorkerThread.begin_eq]
    rfl
  | checkController =>
    simp only [workerEffect, WorkerThread.goTo]
    split
    · rfl
    · exact probeStage_afterRequests s.worker
  | allSent => exact probeStage_afterRequests s.worker
  | pushReplied | requestPicture => exact probeStage_afterFeed s.worker
  | _ => rfl

theorem probing_after {s : System} {a : WorkerAction} (under : (workerEffect s a).worker.pc = .probing) :
    a = .guardConnection ∧ s.plugin.connectionMode = .live ∧
      s.worker.counter % (NETWORK_PROBE_INTERVAL * 10) = 0 := by
  have stage : probeStage (workerEffect s a).worker.pc = true := by
    rw [under]
    rfl
  cases a with
  | guardConnection =>
    simp only [workerEffect] at under
    split at under
    · rename_i asks
      exact ⟨rfl, asks⟩
    · contradiction
  | readCallsign | guardOverride =>
    simp only [workerEffect] at under
    split at under <;> contradiction
  | probed reply => contradiction
  | _ =>
    rw [probeStage_elsewhere (by simp) rfl] at stage
    contradiction

end

/-! ### What the worker thread leaves alone -/

section
variable [Secret]

@[simp] theorem workerEffect_main (s : System) (a : WorkerAction) : (workerEffect s a).main = s.main := by
  cases a <;> rfl

@[simp] theorem workerEffect_bridge (s : System) (a : WorkerAction) :
    (workerEffect s a).plugin.bridge = s.plugin.bridge := by
  cases a <;> rfl

@[simp] theorem workerEffect_connectionMode (s : System) (a : WorkerAction) :
    (workerEffect s a).plugin.connectionMode = s.plugin.connectionMode := by
  cases a <;> rfl

@[simp] theorem workerEffect_userCallsign (s : System) (a : WorkerAction) :
    (workerEffect s a).plugin.userCallsign = s.plugin.userCallsign := by
  cases a <;> rfl

end

end CentralSquawk
