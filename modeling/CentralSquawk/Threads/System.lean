import CentralSquawk.Threads.Worker

/-!
# The plugin as a machine

Both threads, interleaved in every order the control points and `pictureMutex_`
allow, with the steady clock advancing between their steps.
-/

namespace CentralSquawk
open Library

/-- `pictureMutex_` is free, or the action does not take it. -/
def System.mayLock (s : System) : WorkerAction → Bool
  | .takePicture => !s.main.locksPicture
  | _ => true

def System.enabled (s : System) (a : Action) : Bool :=
  s.running &&
    match a with
    | .main a => s.main.enabled a
    | .worker a => s.worker.enabled a && s.mayLock a
    | .elapse _ => true

def System.effect [Secret] (s : System) : Action → System
  | .main a => mainEffect s a
  | .worker a => workerEffect s a
  | .elapse duration => { s with clock := s.clock + duration }

def plugin [Secret] : Machine System Action where
  init := {}
  enabled := System.enabled
  effect := System.effect

section
variable [Secret]

theorem enabled_main {s : System} {a : MainAction} (h : plugin.enabled s (.main a) = true) :
    s.running = true ∧ s.main.pc = a.pc := by
  simpa [plugin, System.enabled, MainThread.enabled] using h

theorem enabled_worker {s : System} {a : WorkerAction} (h : plugin.enabled s (.worker a) = true) :
    s.running = true ∧ s.worker.pc = a.pc ∧ s.worker.enabled a = true ∧ s.mayLock a = true := by
  have both : s.running = true ∧ s.worker.enabled a = true ∧ s.mayLock a = true := by
    simpa [plugin, System.enabled] using h
  obtain ⟨running, enabled, lock⟩ := both
  have at_pc : s.worker.pc = a.pc := by
    have := enabled
    simp only [WorkerThread.enabled, Bool.and_eq_true, decide_eq_true_eq] at this
    exact this.1
  exact ⟨running, at_pc, enabled, lock⟩

@[simp] theorem effect_main (s : System) (a : MainAction) :
    plugin.effect s (.main a) = mainEffect s a := rfl

@[simp] theorem effect_worker (s : System) (a : WorkerAction) :
    plugin.effect s (.worker a) = workerEffect s a := rfl

@[simp] theorem effect_elapse (s : System) (duration : Nat) :
    plugin.effect s (.elapse duration) = { s with clock := s.clock + duration } := rfl

theorem step_main {s : System} {a : MainAction} (running : s.running = true) (pc : s.main.pc = a.pc) :
    plugin.step s (.main a) = mainEffect s a := by
  have on : plugin.enabled s (.main a) = true := by
    simp [plugin, System.enabled, MainThread.enabled, running, pc]
  exact Machine.step_on on

theorem step_main_elsewhere {s : System} {a : MainAction} (pc : s.main.pc ≠ a.pc) :
    plugin.step s (.main a) = s := by
  apply Machine.step_off
  simp [plugin, System.enabled, MainThread.enabled, pc]

theorem step_worker {s : System} {a : WorkerAction} (running : s.running = true)
    (enabled : s.worker.enabled a = true) (lock : s.mayLock a = true) :
    plugin.step s (.worker a) = workerEffect s a := by
  have on : plugin.enabled s (.worker a) = true := by
    simp [plugin, System.enabled, running, enabled, lock]
  exact Machine.step_on on

theorem step_worker_elsewhere {s : System} {a : WorkerAction} (pc : s.worker.pc ≠ a.pc) :
    plugin.step s (.worker a) = s := by
  apply Machine.step_off
  simp [plugin, System.enabled, WorkerThread.enabled, pc]

theorem step_terminated {s : System} (a : Action) (terminated : s.running = false) :
    plugin.step s a = s := by
  apply Machine.step_off
  simp [plugin, System.enabled, terminated]

end

/-! ### The message queue -/

def said (s : System) : Action → List Message
  | .main .announce => if s.backOnLive then [backOnLiveMessage] else []
  | .main (.functionCall call) => (s.plugin.onFunctionCall call).said
  | .worker (.probed reply) => (s.judge reply).said
  | .worker (.send _) => if s.worker.userCallsign = [] then [notConnected] else []
  | .worker (.assignReplied reply) => (applyAssignReply s.plugin.ssrCache s.worker.sending reply).1
  | .worker (.pushReplied reply) => (feedReply s.plugin.feeding reply).said
  | .worker (.fetched reply) => (fetchAssignedSSR s.plugin.printError reply).said
  | _ => []

def displayed (s : System) : Action → List Message
  | .main .display => s.plugin.messageQueue
  | _ => []

section
variable [Secret]

/-- A step displays the queue and queues nothing, or leaves the queue standing and adds to it. -/
theorem messageQueue_step (s : System) (a : Action) :
    (said s a = [] ∧ displayed s a = s.plugin.messageQueue ∧
      (plugin.effect s a).plugin.messageQueue = []) ∨
    (displayed s a = [] ∧
      (plugin.effect s a).plugin.messageQueue = s.plugin.messageQueue ++ said s a) := by
  cases a with
  | elapse duration => exact Or.inr ⟨rfl, by simp [said]⟩
  | main a =>
    cases a with
    | display => exact Or.inl ⟨rfl, rfl, rfl⟩
    | announce | functionCall call => exact Or.inr ⟨rfl, rfl⟩
    | _ => exact Or.inr ⟨rfl, by simp [said, mainEffect]⟩
  | worker a =>
    cases a with
    | probed reply | send callsign | assignReplied reply | pushReplied reply | fetched reply =>
      exact Or.inr ⟨rfl, rfl⟩
    | _ => exact Or.inr ⟨rfl, by simp [said, workerEffect]⟩

end

/-! ### A whole sweep

`ApplyAssignments` run by itself computes what the steps of the main thread do one by one. -/

/-- The steps of one `ApplyAssignments` over a list of flight plans. -/
def sweepOver (plans : List (FlightPlan × BridgePublisher.Answer)) : List Action :=
  .main .applyAssignments ::
    (plans.map (fun fp => Action.main (.flight fp.1 fp.2)) ++ [.main .forgetAbsent])

/-- The main thread is in the middle of a sweep that has done `sweep`. -/
structure MidSweep (s : System) (snapshot : Cache) (sweep : Sweep) : Prop where
  running : s.running = true
  pc : s.main.pc = .sweeping
  snapshot : s.main.snapshot = snapshot
  publisher : s.plugin.bridge = sweep.publisher
  seen : s.main.seen = sweep.seen

section
variable [Secret]

theorem MidSweep.flights {s : System} {snapshot : Cache} {sweep : Sweep} (mid : MidSweep s snapshot sweep)
    (plans : List (FlightPlan × BridgePublisher.Answer)) :
    MidSweep (plugin.runFrom s (plans.map (fun fp => Action.main (.flight fp.1 fp.2)))) snapshot
      (sweep.flights snapshot plans) := by
  induction plans generalizing s sweep with
  | nil => exact mid
  | cons fp rest ih =>
    obtain ⟨running, pc, copied, publisher, seen⟩ := mid
    have turn : plugin.step s (.main (.flight fp.1 fp.2)) = mainEffect s (.flight fp.1 fp.2) :=
      step_main running pc
    show MidSweep (plugin.runFrom (plugin.step s (.main (.flight fp.1 fp.2))) _) snapshot
      ((sweep.flight snapshot fp).flights snapshot rest)
    rw [turn]
    apply ih
    constructor
    · exact running
    · exact pc
    · exact copied
    · simp [mainEffect, Sweep.flight, copied, publisher]
    · simp [mainEffect, Sweep.flight, copied, publisher, seen]

theorem MidSweep.finish {s : System} {snapshot : Cache} {sweep : Sweep} (mid : MidSweep s snapshot sweep) :
    (plugin.step s (.main .forgetAbsent)).plugin.bridge = sweep.finish.publisher := by
  obtain ⟨running, pc, -, publisher, seen⟩ := mid
  have last : plugin.step s (.main .forgetAbsent) = mainEffect s .forgetAbsent := step_main running pc
  rw [last]
  simp [mainEffect, Sweep.finish, publisher, seen]

theorem flights_elsewhere {s : System} (pc : s.main.pc ≠ .sweeping)
    (plans : List (FlightPlan × BridgePublisher.Answer)) :
    plugin.runFrom s (plans.map (fun fp => Action.main (.flight fp.1 fp.2))) = s := by
  induction plans with
  | nil => rfl
  | cons fp rest ih =>
    have turn : plugin.step s (.main (.flight fp.1 fp.2)) = s := step_main_elsewhere pc
    show plugin.runFrom (plugin.step s (.main (.flight fp.1 fp.2))) _ = s
    rw [turn, ih]

/-- The publisher comes out of the steps of a sweep as it comes out of `ApplyAssignments`. -/
theorem sweepOver_publisher {s : System} (running : s.running = true) (pc : s.main.pc = .applyAssignments)
    (plans : List (FlightPlan × BridgePublisher.Answer)) :
    (plugin.runFrom s (sweepOver plans)).plugin.bridge =
      (applyAssignments s.plugin.isOnline s.plugin.isController s.plugin.ssrCache s.plugin.bridge
        plans).publisher := by
  have first : plugin.step s (.main .applyAssignments) = mainEffect s .applyAssignments :=
    step_main running pc
  have split : plugin.runFrom s (sweepOver plans) =
      plugin.step (plugin.runFrom (mainEffect s .applyAssignments)
        (plans.map (fun fp => Action.main (.flight fp.1 fp.2)))) (.main .forgetAbsent) := by
    simp [sweepOver, Machine.runFrom, first]
  rw [split]
  cases sweeps : s.plugin.sweeps with
  | true =>
    have mid : MidSweep (mainEffect s .applyAssignments) s.plugin.ssrCache
        { publisher := s.plugin.bridge } := by
      constructor <;> simp [mainEffect, sweeps, running]
    have taken : (!s.plugin.isOnline || !s.plugin.isController ||
        idleSweep s.plugin.ssrCache s.plugin.bridge) = false := by
      simp only [Plugin.sweeps, Bool.and_eq_true, Bool.not_eq_true'] at sweeps
      simp [sweeps]
    rw [(mid.flights plans).finish]
    simp [applyAssignments, taken, fullSweep]
  | false =>
    have elsewhere : (mainEffect s .applyAssignments).main.pc ≠ .sweeping := by
      simpa [mainEffect, sweeps] using s.main.afterSweep_ne_sweeping
    have passed : (!s.plugin.isOnline || !s.plugin.isController ||
        idleSweep s.plugin.ssrCache s.plugin.bridge) = true := by
      cases online : s.plugin.isOnline <;> cases controller : s.plugin.isController <;>
        simp_all [Plugin.sweeps]
    rw [flights_elsewhere elsewhere, step_main_elsewhere elsewhere]
    simp [mainEffect, applyAssignments, passed]

end

/-! ### A whole call of the worker

`SendAssignRequest` and `PushSimFeed` are two steps each, since the main thread may run while the
call is in flight. With nothing between the two they compute what the function does. -/

section
variable [Secret]

theorem send_steps {s : System} {callsign : Text} (reply : Reply) (running : s.running = true)
    (pc : s.worker.pc = .sending) (member : callsign ∈ s.worker.pending) :
    let t := plugin.runFrom s [.worker (.send callsign), .worker (.assignReplied reply)]
    match sendAssignRequest (fun _ => reply) s.plugin.ssrCache s.worker.userCallsign callsign
        ((s.worker.pending.lookup callsign).getD {}) with
    | .ok (said, cache) => t.running = true ∧ t.plugin.ssrCache = cache ∧
        t.plugin.messageQueue = s.plugin.messageQueue ++ said
    | .error _ => t.running = false := by
  have first : plugin.step s (.worker (.send callsign)) = workerEffect s (.send callsign) := by
    apply step_worker running
    · simp [WorkerThread.enabled, pc, WorkerAction.pc, member]
    · rfl
  intro t
  have ran : t = plugin.step (workerEffect s (.send callsign)) (.worker (.assignReplied reply)) := by
    rw [← first]
    rfl
  clear_value t
  unfold sendAssignRequest
  by_cases anonymous : s.worker.userCallsign = []
  · have stays : (workerEffect s (.send callsign)).worker.pc ≠ (WorkerAction.assignReplied reply).pc := by
      simp [workerEffect, anonymous, WorkerAction.pc]
    rw [step_worker_elsewhere stays] at ran
    rw [if_pos anonymous]
    simp [ran, workerEffect, anonymous, running]
  rw [if_neg anonymous]
  cases utf8 : (s.worker.requestBody callsign).utf8 with
  | true =>
    have second : plugin.step (workerEffect s (.send callsign)) (.worker (.assignReplied reply)) =
        workerEffect (workerEffect s (.send callsign)) (.assignReplied reply) := by
      apply step_worker
      · simp [workerEffect, running, utf8]
      · simp [WorkerThread.enabled, workerEffect, anonymous, WorkerAction.pc]
      · rfl
    rw [second] at ran
    unfold WorkerThread.requestBody at utf8
    simp [ran, Json.dump, utf8, bind, Except.bind, pure, Except.pure, workerEffect, anonymous, running,
      WorkerThread.requestBody]
  | false =>
    have ended : (workerEffect s (.send callsign)).running = false := by
      simp [workerEffect, anonymous, utf8]
    rw [step_terminated _ ended] at ran
    unfold WorkerThread.requestBody at utf8
    simp [ran, Json.dump, utf8, bind, Except.bind, ended]

theorem push_steps {s : System} (reply : Reply) (running : s.running = true)
    (pc : s.worker.pc = .pushing) :
    let t := plugin.runFrom s [.worker .push, .worker (.pushReplied reply)]
    match pushSimFeed (fun _ => reply) s.plugin.feeding s.worker.userCallsign s.worker.picture with
    | .ok fed => t.running = true ∧ t.plugin.feeding = fed.feeding ∧
        t.plugin.messageQueue = s.plugin.messageQueue ++ fed.said ∧
        t.worker.nextFeedAttempt = s.worker.counter + feedWait fed.outcome * 10
    | .error _ => t.running = false := by
  have first : plugin.step s (.worker .push) = workerEffect s .push := by
    apply step_worker running
    · simp [WorkerThread.enabled, pc, WorkerAction.pc]
    · rfl
  intro t
  have ran : t = plugin.step (workerEffect s .push) (.worker (.pushReplied reply)) := by
    rw [← first]
    rfl
  clear_value t
  unfold pushSimFeed
  cases utf8 : s.worker.pictureBody.utf8 with
  | true =>
    have second : plugin.step (workerEffect s .push) (.worker (.pushReplied reply)) =
        workerEffect (workerEffect s .push) (.pushReplied reply) := by
      apply step_worker
      · simp [workerEffect, running, utf8]
      · simp [WorkerThread.enabled, workerEffect, WorkerAction.pc]
      · rfl
    rw [second] at ran
    unfold WorkerThread.pictureBody at utf8
    simp [ran, Json.dump, utf8, bind, Except.bind, pure, Except.pure, workerEffect, running,
      WorkerThread.pictureBody, WorkerThread.goTo]
  | false =>
    have ended : (workerEffect s .push).running = false := by
      simp [workerEffect, utf8]
    rw [step_terminated _ ended] at ran
    unfold WorkerThread.pictureBody at utf8
    simp [ran, Json.dump, utf8, bind, Except.bind, ended]

end

/-! ### Whole calls

The actions of one call, in order. A step whose branch is not taken is not enabled,
so a call can be run without knowing which way it goes. -/

/-- `OnTimer`, up to the sweep or the picture it may go on to. -/
def onTimer (connectionType : Int) (myself : Myself) (registration : BridgePublisher.Registration := {}) :
    List Action :=
  [.main (.timer connectionType), .main .resolveMode, .main (.isController myself),
    .main .storeController, .main .announce, .main .display, .main (.bridgeTimer registration),
    .main .applyAssignments]

/-- One iteration of `WorkerThread`, up to the first request that is due. -/
def iteration : List Action :=
  [.worker .loopTop, .worker .goOffline, .worker .loadOverride, .worker .loadConnection,
    .worker .readCallsign, .worker .guardOverride, .worker .guardConnection,
    .worker .checkController, .worker .drain, .worker .allSent, .worker .takePicture,
    .worker .requestPicture]

/-- `n` iterations with nothing to send; a fetch that is due is answered by `reply`. -/
def iterations (n : Nat) (reply : Reply) : List Action :=
  (List.replicate n (iteration ++ [.worker (.fetched reply)])).flatten

def unreachable : Reply := .failed []

/-! Two controllers of Paris, with the digests of their callsigns under an empty secret. -/

def tower : Myself := ⟨text "LFPG_TWR", 4⟩

def centre : Myself := ⟨text "LFFF_CTR", 6⟩

@[reducible] def parisSecret : Secret where
  authSecret := []
  sha256 message :=
    if message = centre.callsign then
      #v[0x27, 0x62, 0x41, 0x83, 0x24, 0x92, 0x1C, 0x87, 0xF3, 0xA5, 0x9D, 0x4A,
        0xFF, 0xDE, 0xBA, 0xC4, 0xCE, 0xE4, 0x70, 0xE1, 0x4A, 0xA8, 0x4F, 0xA7,
        0xE0, 0x5A, 0xF2, 0xB8, 0xBA, 0x2F, 0x6C, 0x22]
    else
      #v[0x20, 0xD6, 0xAA, 0x27, 0x09, 0xCD, 0xDF, 0x40, 0xE8, 0xCE, 0xC0, 0x35,
        0x9D, 0xCC, 0x6E, 0x2F, 0xB7, 0x5D, 0x61, 0x0D, 0x13, 0xDF, 0x5E, 0x12,
        0x46, 0x44, 0x02, 0x58, 0x2F, 0x70, 0x98, 0xA9]

end CentralSquawk
