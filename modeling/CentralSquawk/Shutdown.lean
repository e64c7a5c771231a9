import CentralSquawk.Library.Progress
import CentralSquawk.Threads.System

/-!
# Shutting down

`Shutdown` raises `m_stop` on the main thread and joins the worker, which may be
anywhere in an iteration, with requests still to be sent. Nothing can be queued
meanwhile, so the worker's turns run out.
-/

namespace CentralSquawk
open Library

/-- The worker has left its loop, or an exception has ended the process. -/
def System.ended (s : System) : Prop := s.worker.pc = .exited ∨ s.running = false

/-- The turns left of an iteration and of the loop condition after it: two for each request, one for
the call and one for its answer. -/
def WorkerThread.remaining (w : WorkerThread) (waiting : Requests) : Nat :=
  match w.pc with
  | .exited => 0
  | .loopTop => 1
  | .goOffline | .fetching => 2
  | .requestPicture | .awaitingPush => 3
  | .pushing => 4
  | .takePicture => 5
  | .sending => 6 + 2 * w.pending.keys.length
  | .awaitingAssign => 7 + 2 * w.pending.keys.length
  | .drain => 7 + 2 * waiting.keys.length
  | .checkController => 8 + 2 * waiting.keys.length
  | .probing => 9 + 2 * waiting.keys.length
  | .guardConnection => 10 + 2 * waiting.keys.length
  | .guardOverride => 11 + 2 * waiting.keys.length
  | .readCallsign => 12 + 2 * waiting.keys.length
  | .loadConnection => 13 + 2 * waiting.keys.length
  | .loadOverride => 14 + 2 * waiting.keys.length

def System.remaining (s : System) : Nat := s.worker.remaining s.plugin.pendingAssignRequests

theorem remaining_le (s : System) :
    s.remaining ≤ 14 + 2 * (s.plugin.pendingAssignRequests.keys.length + s.worker.pending.keys.length) := by
  unfold System.remaining WorkerThread.remaining
  split <;> omega

theorem remaining_at {s : System} {pc : WorkerPc} (here : s.worker.pc = pc) :
    s.remaining = { s.worker with pc }.remaining s.plugin.pendingAssignRequests := by
  subst here
  rfl

/-- A step the worker may take next; which reply it is given does not matter. -/
def WorkerThread.turn (w : WorkerThread) : WorkerAction :=
  match w.pc with
  | .loopTop | .exited => .loopTop
  | .loadOverride => .loadOverride
  | .loadConnection => .loadConnection
  | .goOffline => .goOffline
  | .readCallsign => .readCallsign
  | .guardOverride => .guardOverride
  | .guardConnection => .guardConnection
  | .probing => .probed unreachable
  | .checkController => .checkController
  | .drain => .drain
  | .sending =>
    match w.pending.entries with
    | [] => .allSent
    | first :: _ => .send first.1
  | .awaitingAssign => .assignReplied unreachable
  | .takePicture => .takePicture
  | .pushing => .push
  | .awaitingPush => .pushReplied unreachable
  | .requestPicture => .requestPicture
  | .fetching => .fetched unreachable

theorem WorkerThread.turn_enabled (w : WorkerThread) (inside : w.pc ≠ .exited) : w.enabled w.turn = true := by
  cases pc : w.pc with
  | exited => contradiction
  | sending =>
    cases entries : w.pending.entries with
    | nil => simp [turn, enabled, WorkerAction.pc, pc, entries]
    | cons first rest =>
      have member : first.1 ∈ w.pending := by
        rw [AList.mem_keys, AList.keys, entries]
        exact List.mem_cons_self
      simp [turn, enabled, WorkerAction.pc, pc, entries, member]
  | _ => simp [turn, enabled, WorkerAction.pc, pc]

theorem keys_length_erase {κ : Type*} {ν : κ → Type*} [DecidableEq κ] {k : κ} {m : AList ν} (member : k ∈ m) :
    (m.erase k).keys.length + 1 = m.keys.length := by
  rw [AList.keys_erase]
  exact List.length_erase_add_one (AList.mem_keys.mp member)

theorem remaining_afterFeed (w : WorkerThread) (waiting : Requests) :
    (w.goTo w.afterFeed).remaining waiting ≤ 2 := by
  unfold WorkerThread.afterFeed
  split <;> simp [WorkerThread.goTo, WorkerThread.remaining]

theorem remaining_afterRequests (w : WorkerThread) (waiting : Requests) :
    (w.goTo w.afterRequests).remaining waiting ≤ 5 := by
  unfold WorkerThread.afterRequests
  split
  · simp [WorkerThread.goTo, WorkerThread.remaining]
  · exact (remaining_afterFeed w waiting).trans (by omega)

section
variable [Secret]

/-! ### No turn is without progress -/

theorem remaining_worker {s : System} {a : WorkerAction} (enabled : s.worker.enabled a = true)
    (pc : s.worker.pc = a.pc) (stopped : s.plugin.mStop = true) :
    (workerEffect s a).remaining < s.remaining := by
  rw [remaining_at pc]
  cases a with
  | loopTop => simp [System.remaining, WorkerThread.remaining, workerEffect, WorkerAction.pc, stopped]
  | loadOverride =>
    cases override : s.plugin.modeOverride <;>
      simp [System.remaining, WorkerThread.remaining, workerEffect, WorkerAction.pc, WorkerThread.begin_eq,
        override]
  | loadConnection =>
    simp [System.remaining, WorkerThread.remaining, workerEffect, WorkerAction.pc, WorkerThread.begin_eq]
  | send callsign =>
    have member : callsign ∈ s.worker.pending := by
      simpa [WorkerThread.enabled, pc, WorkerAction.pc] using enabled
    have one := keys_length_erase member
    by_cases anonymous : s.worker.userCallsign = []
    · simp [System.remaining, WorkerThread.remaining, workerEffect, WorkerAction.pc, anonymous, -AList.keys_erase]
      omega
    · simp [System.remaining, WorkerThread.remaining, workerEffect, WorkerAction.pc, anonymous, -AList.keys_erase]
      omega
  | checkController =>
    have few := remaining_afterRequests s.worker s.plugin.pendingAssignRequests
    cases controller : s.plugin.isController with
    | true =>
      simp [System.remaining, WorkerThread.remaining, workerEffect, WorkerAction.pc, controller, WorkerThread.goTo]
    | false =>
      simp only [System.remaining, workerEffect, controller, Bool.false_eq_true, if_false]
      refine lt_of_le_of_lt few ?_
      simp only [WorkerThread.remaining, WorkerAction.pc]
      omega
  | allSent =>
    have few := remaining_afterRequests s.worker s.plugin.pendingAssignRequests
    refine lt_of_le_of_lt few ?_
    simp only [WorkerThread.remaining, WorkerAction.pc]
    omega
  | pushReplied reply =>
    exact lt_of_le_of_lt (remaining_afterFeed _ _) (by simp [WorkerThread.remaining, WorkerAction.pc])
  | requestPicture =>
    exact lt_of_le_of_lt (remaining_afterFeed _ _) (by simp [WorkerThread.remaining, WorkerAction.pc])
  | readCallsign =>
    by_cases anonymous : s.plugin.userCallsign = [] <;>
      simp [System.remaining, WorkerThread.remaining, workerEffect, WorkerAction.pc, anonymous]
  | guardOverride =>
    by_cases auto : s.plugin.modeOverride = .auto <;>
      simp [System.remaining, WorkerThread.remaining, workerEffect, WorkerAction.pc, auto]
  | guardConnection =>
    simp only [System.remaining, workerEffect]
    split <;> simp [WorkerThread.remaining, WorkerAction.pc]
  | takePicture =>
    cases ready : s.plugin.pictureReady <;>
      simp [System.remaining, WorkerThread.remaining, workerEffect, WorkerAction.pc, ready]
  | _ => simp [System.remaining, WorkerThread.remaining, workerEffect, WorkerAction.pc, WorkerThread.goTo]

/-! ### The worker is not stuck -/

omit [Secret] in
theorem MainAction.pc_ne_joining (a : MainAction) : a.pc ≠ .joining := by
  cases a <;> simp [MainAction.pc]

theorem worker_ready (s : System) (free : s.main.locksPicture = false) :
    s.ended ∨ ∃ a, a.isWorker = true ∧ plugin.enabled s a = true := by
  by_cases running : s.running = true
  case neg => exact Or.inl (Or.inr (by simpa using running))
  by_cases inside : s.worker.pc = .exited
  · exact Or.inl (Or.inl inside)
  · have lock : s.mayLock s.worker.turn = true := by
      unfold System.mayLock
      split <;> simp [free]
    refine Or.inr ⟨.worker s.worker.turn, rfl, ?_⟩
    simp [plugin, System.enabled, running, s.worker.turn_enabled inside, lock]

/-! ### The join returns -/

def System.joining (s : System) : Prop := s.plugin.mStop = true ∧ s.main.pc = .joining

theorem main_waits {s : System} (joining : s.joining) (a : MainAction) :
    plugin.enabled s (.main a) = false := by
  by_contra on
  obtain ⟨-, pc⟩ := enabled_main (by simpa using on)
  exact a.pc_ne_joining (pc.symm.trans joining.2)

theorem stopped_joining : plugin.Invariant (fun s => s.plugin.mStop = true → s.joining) := by
  apply Machine.invariant_of_step
  · simp [plugin]
  · intro s a on before stopped
    cases a with
    | elapse duration => exact before stopped
    | worker a =>
      have same : (workerEffect s a).plugin.mStop = s.plugin.mStop := by cases a <;> rfl
      have joining := before (same.symm.trans stopped)
      exact ⟨stopped, (congrArg MainThread.pc (workerEffect_main s a)).trans joining.2⟩
    | main a =>
      obtain ⟨-, pc⟩ := enabled_main on
      cases a with
      | shutdown => exact ⟨rfl, rfl⟩
      | _ => exact absurd (pc.symm.trans (before stopped).2) (MainAction.pc_ne_joining _)

theorem joining_variant : plugin.Variant System.joining Action.isWorker System.remaining where
  stays s a on joining := by
    cases a with
    | elapse duration => exact joining
    | main a => exact absurd on (by simp [main_waits joining a])
    | worker a =>
      have same : (workerEffect s a).plugin.mStop = s.plugin.mStop := by cases a <;> rfl
      exact ⟨same.trans joining.1, (congrArg MainThread.pc (workerEffect_main s a)).trans joining.2⟩
  lowers s a on joining own := by
    cases a with
    | worker a =>
      obtain ⟨-, pc, enabled, -⟩ := enabled_worker on
      exact remaining_worker enabled pc joining.1
    | _ => contradiction
  others s a on joining other := by
    cases a with
    | elapse duration => exact le_rfl
    | main a => exact absurd on (by simp [main_waits joining a])
    | worker a => contradiction

structure Joins (s : System) : Prop where
  /-- However the steps are ordered, the worker takes no more than these. -/
  bounded : ∀ actions, plugin.stepsOf Action.isWorker s actions ≤
    14 + 2 * (s.plugin.pendingAssignRequests.keys.length + s.worker.pending.keys.length)
  live : ∀ actions, (plugin.runFrom s actions).ended ∨
    ∃ a, a.isWorker = true ∧ plugin.enabled (plugin.runFrom s actions) a = true
  alone : ∀ actions a, plugin.enabled (plugin.runFrom s actions) (.main a) = false
  returns : ∀ before, ∃ after, (∀ a ∈ after, a.isWorker = true) ∧
    (plugin.runFrom (plugin.runFrom s before) after).ended

/-- Wherever the worker is when the plugin shuts down, the join returns, unless an exception ends the
process first. -/
theorem shutdown_joins (actions : List Action) (stopped : (plugin.run actions).plugin.mStop = true) :
    Joins (plugin.run actions) := by
  have joining := stopped_joining actions stopped
  have unlocked : ∀ s : System, s.joining → s.main.locksPicture = false := by
    intro s waits
    simp [MainThread.locksPicture, waits.2]
  have kept : ∀ more, (plugin.runFrom (plugin.run actions) more).joining :=
    fun more => Machine.runFrom_keeps joining_variant.stays joining more
  constructor
  · intro more
    have paid := joining_variant.bounded joining more
    have few := remaining_le (plugin.run actions)
    omega
  · exact fun more => worker_ready _ (unlocked _ (kept more))
  · exact fun more a => main_waits (kept more) a
  · exact fun before => joining_variant.finishes (fun s waits => worker_ready s (unlocked s waits)) (kept before)

end

/-! ### A run -/

def stoppedProbing : List Action :=
  onTimer CONNECTION_TYPE_DIRECT tower ++ iteration ++ [.main .shutdown]

theorem stopped_probing_joins :
    ((@plugin parisSecret).run stoppedProbing).worker.pc = .probing ∧
      @Joins parisSecret ((@plugin parisSecret).run stoppedProbing) :=
  ⟨by decide +kernel, @shutdown_joins parisSecret stoppedProbing (by decide +kernel)⟩

end CentralSquawk
