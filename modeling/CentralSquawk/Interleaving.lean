import CentralSquawk.Library.Shielded
import CentralSquawk.Threads.System

/-!
# Calls that the other thread falls between

`ApplyAssignments` copies the cache and then walks the flight plans with no lock
held; the worker sends the requests it drained one HTTP call after another. Either
comes out as if nothing had happened meanwhile.
-/

namespace CentralSquawk
open Library

theorem mainEffect_running (s : System) (a : MainAction) : (mainEffect s a).running = s.running := by
  cases a <;> rfl

section
variable [Secret]

theorem running_before {s : System} {a : Action} (after : (plugin.step s a).running = true) :
    s.running = true := by
  by_contra terminated
  rw [step_terminated a (by simpa using terminated)] at after
  exact terminated after

/-! ### A sweep -/

/-- The bridge calls and the squawks of the sweep under way, or of the last one. -/
structure Emitted where
  calls : List BridgeCall := []
  squawks : List (Text × Text) := []

def Emitted.next (h : Emitted) (s : System) : Action → Emitted
  | .main .applyAssignments => {}
  | .main (.flight fp answer) =>
    let applied := applyFlight s.main.snapshot s.plugin.bridge fp answer
    { calls := h.calls ++ applied.calls, squawks := h.squawks ++ applied.squawk.toList }
  | _ => h

def emitting : Machine (System × Emitted) Action := plugin.observe {} Emitted.next

def sweepTurn : Action → Prop
  | .main (.flight _ _) | .main .forgetAbsent => True
  | _ => False

def sweepView (x : System × Emitted) : MainThread × BridgePublisher × Emitted :=
  (x.1.main, x.1.plugin.bridge, x.2)

theorem emitting_on {s : System} {h : Emitted} {a : MainAction} (running : s.running = true)
    (pc : s.main.pc = a.pc) : emitting.step (s, h) (.main a) = (mainEffect s a, h.next s (.main a)) := by
  apply Machine.step_on
  simp [emitting, Machine.observe, plugin, System.enabled, MainThread.enabled, running, pc]

theorem emitting_elsewhere {s : System} {h : Emitted} {a : MainAction} (pc : s.main.pc ≠ a.pc) :
    emitting.step (s, h) (.main a) = (s, h) := by
  apply Machine.step_off
  simp [emitting, Machine.observe, plugin, System.enabled, MainThread.enabled, pc]

theorem sweep_shielded :
    Shielded emitting (fun x => x.1.running = true) Action.isMain sweepTurn sweepView where
  before x a after := running_before (by rwa [← Machine.observe_step_fst])
  keeps x a running mine _ := by
    rw [emitting, Machine.observe_step_fst]
    cases a with
    | main a =>
      by_cases pc : x.1.main.pc = a.pc
      · rw [step_main running pc, mainEffect_running, running]
      · rw [step_main_elsewhere pc, running]
    | _ => contradiction
  rests x a other := by
    unfold Machine.step
    split
    · cases a with
      | main a => contradiction
      | elapse duration => rfl
      | worker a =>
        show ((workerEffect x.1 a).main, (workerEffect x.1 a).plugin.bridge, x.2) = sweepView x
        rw [workerEffect_main, workerEffect_bridge]
        rfl
    · rfl
  moves := by
    rintro ⟨s, h⟩ ⟨t, k⟩ a running there same mine turn
    simp only [sweepView, Prod.mk.injEq] at same
    obtain ⟨main, bridge, rfl⟩ := same
    cases a with
    | main a =>
      by_cases pc : s.main.pc = a.pc
      · rw [emitting_on running pc, emitting_on there (main ▸ pc)]
        cases a with
        | flight fp answer => simp [sweepView, mainEffect, Emitted.next, main, bridge]
        | forgetAbsent => simp [sweepView, mainEffect, Emitted.next, main, bridge]
        | _ => contradiction
      · rw [emitting_elsewhere pc, emitting_elsewhere (main ▸ pc)]
        simp [sweepView, main, bridge]
    | _ => contradiction

/-! The sweep by itself -/

theorem MidSweep.emits {s : System} {snapshot : Cache} {sweep : Sweep} (mid : MidSweep s snapshot sweep)
    (plans : List (FlightPlan × BridgePublisher.Answer)) :
    let x := emitting.runFrom (s, ⟨sweep.calls, sweep.squawks⟩)
      (plans.map (fun fp => Action.main (.flight fp.1 fp.2)))
    MidSweep x.1 snapshot (sweep.flights snapshot plans) ∧
      x.2 = ⟨(sweep.flights snapshot plans).calls, (sweep.flights snapshot plans).squawks⟩ := by
  induction plans generalizing s sweep with
  | nil => exact ⟨mid, rfl⟩
  | cons fp rest ih =>
    have next : MidSweep (mainEffect s (.flight fp.1 fp.2)) snapshot (sweep.flight snapshot fp) := by
      have one := mid.flights [fp]
      have turn : plugin.step s (.main (.flight fp.1 fp.2)) = mainEffect s (.flight fp.1 fp.2) :=
        step_main mid.running mid.pc
      rw [← turn]
      exact one
    have turn : emitting.step (s, ⟨sweep.calls, sweep.squawks⟩) (.main (.flight fp.1 fp.2)) =
        (mainEffect s (.flight fp.1 fp.2),
          ⟨(sweep.flight snapshot fp).calls, (sweep.flight snapshot fp).squawks⟩) := by
      have here : s.main.pc = (MainAction.flight fp.1 fp.2).pc := mid.pc
      rw [emitting_on mid.running here]
      simp [Emitted.next, Sweep.flight, mid.snapshot, mid.publisher]
    intro x
    have ran : x = emitting.runFrom (emitting.step (s, ⟨sweep.calls, sweep.squawks⟩)
      (.main (.flight fp.1 fp.2))) (rest.map (fun fp => Action.main (.flight fp.1 fp.2))) := rfl
    rw [ran, turn]
    exact ih next

theorem flights_emit_elsewhere {s : System} {h : Emitted} (pc : s.main.pc ≠ .sweeping)
    (plans : List (FlightPlan × BridgePublisher.Answer)) :
    emitting.runFrom (s, h) (plans.map (fun fp => Action.main (.flight fp.1 fp.2))) = (s, h) := by
  induction plans with
  | nil => rfl
  | cons fp rest ih =>
    have turn : emitting.step (s, h) (.main (.flight fp.1 fp.2)) = (s, h) := emitting_elsewhere pc
    show emitting.runFrom (emitting.step (s, h) (.main (.flight fp.1 fp.2))) _ = (s, h)
    rw [turn, ih]

/-- By themselves the steps of a sweep do what `ApplyAssignments` does. -/
theorem sweep_emits {s : System} (running : s.running = true)
    (plans : List (FlightPlan × BridgePublisher.Answer)) :
    let swept := applyAssignments s.plugin.isOnline s.plugin.isController s.plugin.ssrCache s.plugin.bridge plans
    let x := emitting.runFrom (mainEffect s .applyAssignments, {})
      (plans.map (fun fp => Action.main (.flight fp.1 fp.2)) ++ [.main .forgetAbsent])
    x.1.plugin.bridge = swept.publisher ∧ x.2 = ⟨swept.calls, swept.squawks⟩ := by
  intro swept x
  have split : x = emitting.step (emitting.runFrom (mainEffect s .applyAssignments, {})
      (plans.map (fun fp => Action.main (.flight fp.1 fp.2)))) (.main .forgetAbsent) := by
    simp [x, Machine.runFrom]
  clear_value x
  cases sweeps : s.plugin.sweeps with
  | true =>
    have mid : MidSweep (mainEffect s .applyAssignments) s.plugin.ssrCache
        { publisher := s.plugin.bridge } := by
      constructor <;> simp [mainEffect, sweeps, running]
    have taken : (!s.plugin.isOnline || !s.plugin.isController ||
        idleSweep s.plugin.ssrCache s.plugin.bridge) = false := by
      simp only [Plugin.sweeps, Bool.and_eq_true, Bool.not_eq_true'] at sweeps
      simp [sweeps]
    obtain ⟨last, emitted⟩ := mid.emits plans
    have here : _ = (MainAction.forgetAbsent).pc := last.pc
    have computed : swept = fullSweep s.plugin.ssrCache s.plugin.bridge plans := by
      simp [swept, applyAssignments, taken]
    rw [split, emitting_on last.running here, computed]
    have finished := last.finish
    rw [step_main last.running here] at finished
    exact ⟨finished, emitted⟩
  | false =>
    have elsewhere : (mainEffect s .applyAssignments).main.pc ≠ .sweeping := by
      simpa [mainEffect, sweeps] using s.main.afterSweep_ne_sweeping
    have passed : (!s.plugin.isOnline || !s.plugin.isController ||
        idleSweep s.plugin.ssrCache s.plugin.bridge) = true := by
      cases online : s.plugin.isOnline <;> cases controller : s.plugin.isController <;>
        simp_all [Plugin.sweeps]
    have computed : swept = { publisher := s.plugin.bridge } := by
      simp [swept, applyAssignments, passed]
    rw [split, flights_emit_elsewhere elsewhere, emitting_elsewhere elsewhere, computed]
    exact ⟨rfl, rfl⟩

theorem swept_ends {s : System} {rest : List Action} {plans : List (FlightPlan × BridgePublisher.Answer)}
    (alive : s.running = true)
    (turns : rest.filter Action.isMain =
      plans.map (fun fp => Action.main (.flight fp.1 fp.2)) ++ [.main .forgetAbsent])
    (running : (emitting.runFrom (mainEffect s .applyAssignments, {}) rest).1.running = true) :
    let swept := applyAssignments s.plugin.isOnline s.plugin.isController s.plugin.ssrCache s.plugin.bridge plans
    let x := emitting.runFrom (mainEffect s .applyAssignments, {}) rest
    x.1.plugin.bridge = swept.publisher ∧ x.2 = ⟨swept.calls, swept.squawks⟩ := by
  intro swept x
  have script : ∀ a ∈ rest, a.isMain = true → sweepTurn a := by
    intro a member mine
    have turn : a ∈ rest.filter Action.isMain := List.mem_filter.mpr ⟨member, mine⟩
    rw [turns] at turn
    rcases List.mem_append.mp turn with visit | last
    · obtain ⟨fp, -, rfl⟩ := List.mem_map.mp visit
      trivial
    · obtain rfl := List.mem_singleton.mp last
      trivial
  have here : (mainEffect s .applyAssignments).running = true := (mainEffect_running _ _).trans alive
  have alone := sweep_shielded.alone script running here rfl
  rw [turns] at alone
  simp only [sweepView, Prod.mk.injEq] at alone
  obtain ⟨-, bridge, emitted⟩ := alone
  obtain ⟨publisher, outputs⟩ := sweep_emits alive plans
  exact ⟨bridge.trans publisher, emitted.trans outputs⟩

theorem emitting_swept {past : List Action}
    (starts : plugin.enabled (plugin.run past) (.main .applyAssignments) = true) (rest : List Action) :
    emitting.run (past ++ .main .applyAssignments :: rest) =
      emitting.runFrom (mainEffect (plugin.run past) .applyAssignments, {}) rest := by
  obtain ⟨alive, pc⟩ := enabled_main starts
  have state : (emitting.run past).1 = plugin.run past := Machine.observe_run_fst past
  have copied : emitting.step (emitting.run past) (.main .applyAssignments) =
      (mainEffect (plugin.run past) .applyAssignments, {}) := by
    rw [← state] at alive pc ⊢
    exact emitting_on alive pc
  rw [← copied]
  exact Machine.run_append past (.main .applyAssignments :: rest)

/-- The steps of a sweep do what `ApplyAssignments` would have done at once, with whatever the worker
does between them. -/
theorem sweep_atomic {past rest : List Action} {plans : List (FlightPlan × BridgePublisher.Answer)}
    (starts : plugin.enabled (plugin.run past) (.main .applyAssignments) = true)
    (turns : rest.filter Action.isMain =
      plans.map (fun fp => Action.main (.flight fp.1 fp.2)) ++ [.main .forgetAbsent])
    (running : (plugin.run (past ++ .main .applyAssignments :: rest)).running = true) :
    let p := (plugin.run past).plugin
    let swept := applyAssignments p.isOnline p.isController p.ssrCache p.bridge plans
    let x := emitting.run (past ++ .main .applyAssignments :: rest)
    x.1.plugin.bridge = swept.publisher ∧ x.2 = ⟨swept.calls, swept.squawks⟩ := by
  have same : (emitting.run (past ++ .main .applyAssignments :: rest)).1 =
      plugin.run (past ++ .main .applyAssignments :: rest) := Machine.observe_run_fst _
  rw [← same, emitting_swept starts] at running
  rw [emitting_swept starts]
  exact swept_ends (enabled_main starts).1 turns running

/-! ### The requests of an iteration -/

/-- What the worker has said of the requests it last drained. -/
def answered (before : List Message) (s : System) : Action → List Message
  | .worker .drain => []
  | .worker (.send callsign) => before ++ said s (.worker (.send callsign))
  | .worker (.assignReplied reply) => before ++ said s (.worker (.assignReplied reply))
  | _ => before

def answering : Machine (System × List Message) Action := plugin.observe [] answered

/-- The loop over the drained requests, each with the reply it is given. -/
def sendRequests (cache : Cache) (userCallsign : Text) :
    List (Text × AssignRequest × Reply) → Except Json.Error (List Message × Cache)
  | [] => .ok ([], cache)
  | (callsign, request, reply) :: rest => do
    let (said, cache) ← sendAssignRequest (fun _ => reply) cache userCallsign callsign request
    let (later, cache) ← sendRequests cache userCallsign rest
    return (said ++ later, cache)

/-- The turns of the loop: a request whose body does not serialise, or with no callsign to send it
under, leaves the second one without effect. -/
def sendTurns (order : List (Text × Reply)) : List Action :=
  order.flatMap (fun t => [.worker (.send t.1), .worker (.assignReplied t.2)])

def sendTurn : Action → Prop
  | .worker (.send _) | .worker (.assignReplied _) => True
  | _ => False

def sendView (x : System × List Message) : WorkerThread × Bool × Cache × List Message :=
  (x.1.worker, x.1.running, x.1.plugin.ssrCache, x.2)

theorem answering_on {s : System} {said : List Message} {a : WorkerAction} (running : s.running = true)
    (enabled : s.worker.enabled a = true) (lock : s.mayLock a = true) :
    answering.step (s, said) (.worker a) = (workerEffect s a, answered said s (.worker a)) := by
  apply Machine.step_on
  simp [answering, Machine.observe, plugin, System.enabled, running, enabled, lock]

theorem answering_off {s : System} {said : List Message} {a : WorkerAction}
    (off : s.running = false ∨ s.worker.enabled a = false) :
    answering.step (s, said) (.worker a) = (s, said) := by
  apply Machine.step_off
  rcases off with terminated | disabled
  · simp [answering, Machine.observe, plugin, System.enabled, terminated]
  · simp [answering, Machine.observe, plugin, System.enabled, disabled]

theorem send_shielded : Shielded answering (fun _ => True) Action.isWorker sendTurn sendView where
  before _ _ _ := trivial
  keeps _ _ _ _ _ := trivial
  rests x a other := by
    unfold Machine.step
    split
    · cases a with
      | worker a => contradiction
      | elapse duration => rfl
      | main a =>
        show ((mainEffect x.1 a).worker, (mainEffect x.1 a).running, (mainEffect x.1 a).plugin.ssrCache, x.2) =
          sendView x
        rw [mainEffect_worker, mainEffect_running, mainEffect_ssrCache]
        rfl
    · rfl
  moves := by
    rintro ⟨s, said⟩ ⟨t, same⟩ a - - equal mine turn
    simp only [sendView, Prod.mk.injEq] at equal
    obtain ⟨worker, running, cache, rfl⟩ := equal
    cases a with
    | worker a =>
      have free : s.mayLock a = true ∧ t.mayLock a = true := by
        cases a <;> first | exact ⟨rfl, rfl⟩ | contradiction
      cases on : s.running && s.worker.enabled a with
      | true =>
        obtain ⟨alive, enabled⟩ := Bool.and_eq_true_iff.mp on
        rw [answering_on alive enabled free.1,
          answering_on (running ▸ alive) (worker ▸ enabled) free.2]
        cases a with
        | send callsign =>
          simp [sendView, workerEffect, answered, CentralSquawk.said, WorkerThread.requestBody, worker, running, cache]
        | assignReplied reply => simp [sendView, workerEffect, answered, CentralSquawk.said, worker, running, cache]
        | _ => contradiction
      | false =>
        have off := Bool.and_eq_false_iff.mp on
        rw [answering_off off, answering_off (running ▸ worker ▸ off)]
        simp [sendView, worker, running, cache]
    | _ => contradiction

end

/-! The loop by itself -/

/-- The loop ends with what `sendRequests` returns, or terminates the process where it throws. -/
def Ended (result : Except Json.Error (List Message × Cache)) (before : List Message)
    (x : System × List Message) : Prop :=
  match result with
  | .ok (said, cache) => x.1.running = true ∧ x.1.plugin.ssrCache = cache ∧ x.2 = before ++ said
  | .error _ => x.1.running = false

theorem Ended.of_view {result : Except Json.Error (List Message × Cache)} {before : List Message}
    {x y : System × List Message} (same : sendView x = sendView y) (ended : Ended result before x) :
    Ended result before y := by
  simp only [sendView, Prod.mk.injEq] at same
  obtain ⟨-, running, cache, reported⟩ := same
  cases result with
  | error e => exact running.symm.trans ended
  | ok value => exact ⟨running ▸ ended.1, cache ▸ ended.2.1, reported ▸ ended.2.2⟩

theorem Ended.prepend {result : Except Json.Error (List Message × Cache)} {before : List Message}
    {x : System × List Message} (new : List Message) (later : Ended result (before ++ new) x) :
    Ended (result >>= fun r => return (new ++ r.1, r.2)) before x := by
  cases result with
  | error e => exact later
  | ok value =>
    obtain ⟨running, stored, reported⟩ := later
    exact ⟨running, stored, by simp [reported]⟩

theorem sendTurns_cons (t : Text × Reply) (order : List (Text × Reply)) :
    sendTurns (t :: order) = sendTurns [t] ++ sendTurns order := rfl

def requestsOf (pending : Requests) (order : List (Text × Reply)) : List (Text × AssignRequest × Reply) :=
  order.map (fun t => (t.1, (pending.lookup t.1).getD {}, t.2))

theorem requestsOf_erase {pending : Requests} {callsign : Text} {order : List (Text × Reply)}
    (other : callsign ∉ order.map Prod.fst) :
    requestsOf (pending.erase callsign) order = requestsOf pending order := by
  apply List.map_congr_left
  intro t member
  have differs : t.1 ≠ callsign := fun same => other (same ▸ List.mem_map_of_mem member)
  simp [AList.lookup_erase_ne differs]

section
variable [Secret]

theorem terminated_stays {x : System × List Message} (terminated : x.1.running = false) (actions : List Action) :
    (answering.runFrom x actions).1.running = false := by
  induction actions generalizing x with
  | nil => exact terminated
  | cons a rest ih =>
    apply ih
    rw [answering, Machine.observe_step_fst, step_terminated a terminated]
    exact terminated

theorem send_pair {s : System} (said : List Message) {callsign : Text} (reply : Reply)
    (running : s.running = true) (pc : s.worker.pc = .sending) (member : callsign ∈ s.worker.pending) :
    let x := answering.runFrom (s, said) (sendTurns [(callsign, reply)])
    Ended (sendAssignRequest (fun _ => reply) s.plugin.ssrCache s.worker.userCallsign callsign
      ((s.worker.pending.lookup callsign).getD {})) said x ∧
    (x.1.running = true → x.1.worker.pc = .sending ∧ x.1.worker.pending = s.worker.pending.erase callsign ∧
      x.1.worker.userCallsign = s.worker.userCallsign) := by
  have enabled : s.worker.enabled (.send callsign) = true := by
    simp [WorkerThread.enabled, pc, WorkerAction.pc, member]
  have first : answering.step (s, said) (.worker (.send callsign)) = _ := answering_on running enabled rfl
  intro x
  have ran : x = answering.step (answering.step (s, said) (.worker (.send callsign)))
    (.worker (.assignReplied reply)) := rfl
  clear_value x
  rw [first] at ran
  unfold sendAssignRequest
  by_cases anonymous : s.worker.userCallsign = []
  · have off : (workerEffect s (.send callsign)).worker.enabled (.assignReplied reply) = false := by
      simp [WorkerThread.enabled, workerEffect, anonymous, WorkerAction.pc]
    rw [answering_off (Or.inr off)] at ran
    rw [if_pos anonymous, ran]
    refine ⟨⟨?_, rfl, ?_⟩, fun _ => ⟨?_, rfl, rfl⟩⟩
    · simp [workerEffect, running, anonymous]
    · simp [answered, CentralSquawk.said, anonymous]
    · simp [workerEffect, anonymous]
  rw [if_neg anonymous]
  cases utf8 : (s.worker.requestBody callsign).utf8 with
  | true =>
    have alive : (workerEffect s (.send callsign)).running = true := by
      simp [workerEffect, running, utf8]
    have on : (workerEffect s (.send callsign)).worker.enabled (.assignReplied reply) = true := by
      simp [WorkerThread.enabled, workerEffect, anonymous, WorkerAction.pc]
    rw [answering_on alive on rfl] at ran
    unfold WorkerThread.requestBody at utf8
    rw [ran]
    refine ⟨?_, fun _ => ⟨rfl, rfl, rfl⟩⟩
    simp [Json.dump, utf8, bind, Except.bind, pure, Except.pure, Ended, workerEffect, answered, CentralSquawk.said,
      anonymous, running, WorkerThread.requestBody]
  | false =>
    have ended : (workerEffect s (.send callsign)).running = false := by
      simp [workerEffect, anonymous, utf8]
    rw [answering_off (Or.inl ended)] at ran
    unfold WorkerThread.requestBody at utf8
    rw [ran]
    refine ⟨?_, fun alive => ?_⟩
    · simp [Json.dump, utf8, bind, Except.bind, Ended, ended]
    · simp [ended] at alive

theorem send_all {s : System} (said : List Message) {order : List (Text × Reply)} (running : s.running = true)
    (pc : s.worker.pc = .sending) (once : (order.map Prod.fst).Nodup)
    (members : ∀ t ∈ order, t.1 ∈ s.worker.pending) :
    Ended (sendRequests s.plugin.ssrCache s.worker.userCallsign (requestsOf s.worker.pending order)) said
      (answering.runFrom (s, said) (sendTurns order)) := by
  induction order generalizing s said with
  | nil => exact ⟨running, rfl, by simp [sendTurns, Machine.runFrom]⟩
  | cons t rest ih =>
    obtain ⟨callsign, reply⟩ := t
    obtain ⟨fresh, once⟩ := List.nodup_cons.mp once
    obtain ⟨ended, next⟩ := send_pair said reply running pc (members _ List.mem_cons_self)
    have split : answering.runFrom (s, said) (sendTurns ((callsign, reply) :: rest)) =
        answering.runFrom (answering.runFrom (s, said) (sendTurns [(callsign, reply)])) (sendTurns rest) := by
      rw [sendTurns_cons]
      simp [Machine.runFrom]
    rw [split]
    generalize answering.runFrom (s, said) (sendTurns [(callsign, reply)]) = x at ended next ⊢
    obtain ⟨u, now⟩ := x
    show Ended (sendRequests _ _ ((callsign, _, reply) :: requestsOf s.worker.pending rest)) _ _
    unfold sendRequests
    cases result : sendAssignRequest (fun _ => reply) s.plugin.ssrCache s.worker.userCallsign callsign
        ((s.worker.pending.lookup callsign).getD {}) with
    | error e =>
      rw [result] at ended
      exact terminated_stays ended _
    | ok value =>
      obtain ⟨new, cache⟩ := value
      rw [result] at ended
      obtain ⟨alive, stored, reported⟩ := ended
      obtain ⟨here, left, signed⟩ := next alive
      have others : ∀ t ∈ rest, t.1 ∈ u.worker.pending := by
        intro t member
        have listed : t.1 ∈ rest.map Prod.fst := List.mem_map_of_mem member
        have differs : t.1 ≠ callsign := fun same => fresh (same ▸ listed)
        rw [left, AList.mem_erase]
        exact ⟨differs, members t (List.mem_cons_of_mem _ member)⟩
      have later := ih now alive here once others
      rw [left, requestsOf_erase fresh, signed, stored] at later
      have reported : now = said ++ new := reported
      exact Ended.prepend new (reported ▸ later)

theorem drained_ends {s : System} {rest : List Action} {order : List (Text × Reply)} (running : s.running = true)
    (each : (order.map Prod.fst).Perm s.plugin.pendingAssignRequests.keys)
    (turns : rest.filter Action.isWorker = sendTurns order) :
    Ended (sendRequests s.plugin.ssrCache s.worker.userCallsign (requestsOf s.plugin.pendingAssignRequests order))
      [] (answering.runFrom (workerEffect s .drain, []) rest) := by
  have script : ∀ a ∈ rest, a.isWorker = true → sendTurn a := by
    intro a member mine
    have turn : a ∈ rest.filter Action.isWorker := List.mem_filter.mpr ⟨member, mine⟩
    rw [turns] at turn
    obtain ⟨t, -, pair⟩ := List.mem_flatMap.mp turn
    simp only [List.mem_cons, List.not_mem_nil, or_false] at pair
    rcases pair with rfl | rfl <;> trivial
  have alone := send_shielded.alone (s := (workerEffect s .drain, [])) script trivial trivial rfl
  rw [turns] at alone
  have once : (order.map Prod.fst).Nodup := each.nodup_iff.mpr s.plugin.pendingAssignRequests.nodupKeys
  have members : ∀ t ∈ order, t.1 ∈ s.plugin.pendingAssignRequests := by
    intro t member
    exact AList.mem_keys.mpr (each.mem_iff.mp (List.mem_map_of_mem member))
  have all := send_all (s := workerEffect s .drain) [] running rfl once members
  exact Ended.of_view alone.symm all

theorem answering_drained {past : List Action}
    (drains : plugin.enabled (plugin.run past) (.worker .drain) = true) (rest : List Action) :
    answering.run (past ++ .worker .drain :: rest) =
      answering.runFrom (workerEffect (plugin.run past) .drain, []) rest := by
  obtain ⟨running, -, enabled, lock⟩ := enabled_worker drains
  have state : (answering.run past).1 = plugin.run past := Machine.observe_run_fst past
  have drained : answering.step (answering.run past) (.worker .drain) =
      (workerEffect (plugin.run past) .drain, []) := by
    rw [← state] at running enabled lock ⊢
    exact answering_on running enabled lock
  rw [← drained]
  exact Machine.run_append past (.worker .drain :: rest)

/-- The requests an iteration has drained come out as a loop of `SendAssignRequest` that nothing falls
between: what is said of each, the cache they leave, and whether the process outlives them. -/
theorem requests_atomic {past rest : List Action} {order : List (Text × Reply)}
    (drains : plugin.enabled (plugin.run past) (.worker .drain) = true)
    (each : (order.map Prod.fst).Perm (plugin.run past).plugin.pendingAssignRequests.keys)
    (turns : rest.filter Action.isWorker = sendTurns order) :
    let s := plugin.run past
    Ended (sendRequests s.plugin.ssrCache s.worker.userCallsign (requestsOf s.plugin.pendingAssignRequests order))
      [] (answering.run (past ++ .worker .drain :: rest)) := by
  intro s
  rw [answering_drained drains]
  exact drained_ends (enabled_worker drains).1 each turns

end

/-! ### A run -/

def transferred : Reply :=
  .answered 200 (.json (.object [
    (text "AFR1234", .object [(text "ssr", .string (text "7201")), (text "dupe", .boolean true)]),
    (text "BAW22", .object [(text "ssr", .string (text "4321"))])]))

def reassigned : Reply := .answered 200 (.json (.object [(text "ssr", .string (text "7202"))]))

def requested : List Action :=
  onTimer CONNECTION_TYPE_SWEATBOX tower ++ [.main .servePicture] ++ iteration ++
    [.worker (.fetched transferred),
      .main (.functionCall { functionId := AssignAuto, asel := some { callsign := some (text "AFR1234") } }),
      .worker .loopTop, .worker .loadOverride, .worker .loadConnection, .worker .readCallsign,
      .worker .guardOverride, .worker .guardConnection, .worker .checkController]

def aboutToSweep : List Action :=
  requested ++ [.worker .drain, .worker (.send (text "AFR1234"))] ++
    (onTimer CONNECTION_TYPE_SWEATBOX tower { attach := true, handle := 1, field := 7 }).dropLast

set_option maxRecDepth 100000 in
/-- Between two flights of a sweep, the reply puts another code into the cache for the second one. -/
theorem sweep_atomic_amid_reply :
    let past := aboutToSweep
    let rest : List Action := [.main (.flight { callsign := some (text "BAW22") } {}),
      .worker (.assignReplied reassigned), .main (.flight { callsign := some (text "AFR1234") } {}),
      .main .forgetAbsent]
    let x := (@emitting parisSecret).run (past ++ .main .applyAssignments :: rest)
    x.1.plugin.ssrCache.lookup (text "AFR1234") = some ⟨text "7202", false⟩ ∧
      x.2.squawks = [(text "BAW22", text "4321"), (text "AFR1234", text "7201")] ∧
      x.1.plugin.bridge.published = {text "AFR1234"} := by
  intro past rest x
  obtain ⟨publisher, outputs⟩ := @sweep_atomic parisSecret past rest
    [({ callsign := some (text "BAW22") }, {}), ({ callsign := some (text "AFR1234") }, {})]
    (by decide +kernel) rfl (by decide +kernel)
  refine ⟨by decide +kernel, ?_, ?_⟩
  · rw [show x.2 = _ from outputs]
    decide +kernel
  · rw [show x.1.plugin.bridge = _ from publisher]
    decide +kernel

set_option maxRecDepth 100000 in
/-- A tick of the main thread falls between the first request and its reply, and its sweep between that
reply and the second request. -/
theorem requests_atomic_amid_tick :
    let past := requested ++
      [.main (.functionCall { functionId := AssignAuto, asel := some { callsign := some (text "BAW22") } })]
    let order := [(text "AFR1234", reassigned), (text "BAW22", unreachable)]
    let rest := [Action.worker (.send (text "AFR1234"))] ++ onTimer CONNECTION_TYPE_SWEATBOX tower ++
      [.worker (.assignReplied reassigned), .main (.flight { callsign := some (text "AFR1234") } {}),
        .main .forgetAbsent, .worker (.send (text "BAW22")), .worker (.assignReplied unreachable)]
    let s := (@plugin parisSecret).run past
    s.plugin.pendingAssignRequests.keys = [text "BAW22", text "AFR1234"] ∧
      Ended (@sendRequests parisSecret s.plugin.ssrCache s.worker.userCallsign
        (requestsOf s.plugin.pendingAssignRequests order)) []
        ((@answering parisSecret).run (past ++ .worker .drain :: rest)) := by
  intro past order rest s
  exact ⟨by decide +kernel, @requests_atomic parisSecret past rest order (by decide +kernel) (by decide +kernel) rfl⟩

end CentralSquawk
