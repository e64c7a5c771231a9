import CentralSquawk.Library.Progress
import CentralSquawk.Wire.Endpoints

/-!
# How long a request waits

Manual requests go first, so that a controller's action is not delayed by up to a
fetch interval. A request may be clicked when its iteration is already past the
drain, and the next one may still be cut short by what was loaded before; it is sent
before the iteration after that.
-/

namespace CentralSquawk.Requests
open Library Wire

/-- The iteration has yet to come to the drain, and will unless it is cut short. -/
def looking : WorkerPc → Bool
  | .loopTop | .loadOverride | .loadConnection | .readCallsign | .guardOverride | .guardConnection
  | .probing | .checkController | .drain | .exited => true
  | _ => false

/-- The request of `callsign` was pending in iteration `n` and has not been sent since. -/
inductive Waiting (callsign : Text) (n : Nat) (s : System) : Prop
  | queued (pending : callsign ∈ s.plugin.pendingAssignRequests)
      (soon : s.worker.counter ≤ n ∨ s.worker.counter = n + 1 ∧ looking s.worker.pc = true)
  | drained (pending : callsign ∈ s.worker.pending)
      (turn : s.worker.pc = .sending ∨ s.worker.pc = .awaitingAssign) (soon : s.worker.counter ≤ n + 1)

def Connected (s : System) : Prop := s.plugin.isController = true ∧ s.plugin.connectionMode ≠ .offline

instance (s : System) : Decidable (Connected s) := inferInstanceAs (Decidable (_ ∧ _))

theorem queued_stays {s : System} {callsign : Text} (a : MainAction)
    (pending : callsign ∈ s.plugin.pendingAssignRequests) :
    callsign ∈ (mainEffect s a).plugin.pendingAssignRequests := by
  cases a with
  | functionCall call =>
    show callsign ∈ storeRequest s.plugin.pendingAssignRequests (s.plugin.onFunctionCall call).queued
    cases (s.plugin.onFunctionCall call).queued with
    | none => exact pending
    | some click => exact (AList.mem_insert _).mpr (Or.inr pending)
  | _ => exact pending

section
variable [Secret]

theorem queued_undrained {s : System} {callsign : Text} {a : WorkerAction} (other : a ≠ .drain)
    (pending : callsign ∈ s.plugin.pendingAssignRequests) :
    callsign ∈ (workerEffect s a).plugin.pendingAssignRequests := by
  cases a with
  | drain => exact absurd rfl other
  | _ => exact pending

theorem looks_on {s : System} {a : WorkerAction} (pc : s.worker.pc = a.pc) (here : looking s.worker.pc = true)
    (connected : Connected s) (other : a ≠ .drain) :
    looking (workerEffect s a).worker.pc = true ∧ (workerEffect s a).worker.counter = s.worker.counter := by
  obtain ⟨controller, online⟩ := connected
  rw [pc] at here
  cases a with
  | loopTop =>
    simp only [workerEffect, if_neg online]
    split <;> simp [looking]
  | loadOverride =>
    simp only [workerEffect, WorkerThread.begin_eq]
    split <;> simp [looking]
  | loadConnection => simp [workerEffect, WorkerThread.begin_eq, looking]
  | readCallsign | guardOverride | guardConnection =>
    simp only [workerEffect]
    split <;> simp [looking]
  | probed reply => exact ⟨rfl, rfl⟩
  | checkController => simp [workerEffect, controller, WorkerThread.goTo, looking]
  | drain => exact absurd rfl other
  | _ => contradiction

theorem waiting_queued {s : System} {callsign : Text} {n : Nat} {a : WorkerAction} (pc : s.worker.pc = a.pc)
    (connected : Connected s) (pending : callsign ∈ s.plugin.pendingAssignRequests)
    (soon : s.worker.counter ≤ n ∨ s.worker.counter = n + 1 ∧ looking s.worker.pc = true) :
    Waiting callsign n (workerEffect s a) := by
  by_cases drains : a = .drain
  · subst drains
    have within : s.worker.counter ≤ n + 1 := by omega
    exact .drained pending (Or.inl rfl) within
  refine .queued (queued_undrained drains pending) ?_
  rcases soon with early | ⟨last, here⟩
  · rcases worker_moves pc with on | finish
    · exact Or.inl (on.counter.le.trans early)
    · have counter := finish.counter
      by_cases done : s.worker.counter + 1 ≤ n
      · exact Or.inl (by omega)
      · exact Or.inr ⟨by omega, by rw [finish.top]; rfl⟩
  · obtain ⟨further, counter⟩ := looks_on pc here connected drains
    exact Or.inr ⟨counter.trans last, further⟩

theorem waiting_drained {s : System} {callsign : Text} {n : Nat} {a : WorkerAction} (pc : s.worker.pc = a.pc)
    (enabled : s.worker.enabled a = true) (other : a ≠ .send callsign) (pending : callsign ∈ s.worker.pending)
    (turn : s.worker.pc = .sending ∨ s.worker.pc = .awaitingAssign) (soon : s.worker.counter ≤ n + 1) :
    Waiting callsign n (workerEffect s a) := by
  rw [pc] at turn
  cases a with
  | send next =>
    have differs : callsign ≠ next := fun same => other (same ▸ rfl)
    refine .drained (AList.mem_erase.mpr ⟨differs, pending⟩) ?_ soon
    simp only [workerEffect]
    split
    · exact Or.inl rfl
    · exact Or.inr rfl
  | assignReplied reply => exact .drained pending (Or.inl rfl) soon
  | allSent =>
    simp only [WorkerThread.enabled, Bool.and_eq_true] at enabled
    have none_left : s.worker.pending.entries = [] := List.isEmpty_iff.mp enabled.2
    rw [AList.mem_keys, AList.keys, none_left] at pending
    contradiction
  | _ => simp [WorkerAction.pc] at turn

theorem waiting_step {s : System} {callsign : Text} {n : Nat} {a : Action} (on : plugin.enabled s a = true)
    (connected : Connected s) (other : a ≠ .worker (.send callsign)) (before : Waiting callsign n s) :
    Waiting callsign n (plugin.effect s a) := by
  cases a with
  | main a =>
    have worker : (mainEffect s a).worker = s.worker := mainEffect_worker s a
    cases before with
    | queued pending soon => exact .queued (queued_stays a pending) (worker.symm ▸ soon)
    | drained pending turn soon => exact .drained (worker.symm ▸ pending) (worker.symm ▸ turn) (worker.symm ▸ soon)
  | elapse duration =>
    cases before with
    | queued pending soon => exact .queued pending soon
    | drained pending turn soon => exact .drained pending turn soon
  | worker a =>
    obtain ⟨-, pc, enabled, -⟩ := enabled_worker on
    cases before with
    | queued pending soon => exact waiting_queued pc connected pending soon
    | drained pending turn soon =>
      exact waiting_drained pc enabled (fun same => other (same ▸ rfl)) pending turn soon

/-- A pending request is sent before the worker has ended two more iterations, provided the user goes on
controlling and stays connected, whatever else is clicked and however long the calls take. -/
theorem sent_within_two_iterations (past after : List Action) (callsign : Text)
    (pending : callsign ∈ (plugin.run past).plugin.pendingAssignRequests)
    (connected : plugin.AlongFrom (fun s _ => Connected s) (plugin.run past) after)
    (passed : (plugin.run past).worker.counter + 2 ≤ (plugin.runFrom (plugin.run past) after).worker.counter) :
    plugin.TakesFrom (fun _ a => a = .worker (.send callsign)) (plugin.run past) after := by
  have start : Waiting callsign (plugin.run past).worker.counter (plugin.run past) :=
    .queued pending (Or.inl (Nat.le_refl _))
  have waits := Machine.waits (fun s a on connected other holds => waiting_step on connected other holds)
    connected start
  refine waits.resolve_right fun still => ?_
  cases still with
  | queued pending soon => omega
  | drained pending turn soon => omega

end

/-! ### A run -/

/-- The flight is clicked when the iteration has passed the drain. -/
def clickedLate : List Action :=
  onTimer CONNECTION_TYPE_SWEATBOX tower ++ [.main .servePicture] ++ iteration ++
    [.main (.functionCall { functionId := AssignAuto, asel := some { callsign := some (text "AFR1234") } })]

def nextIterations : List Action :=
  [.worker (.fetched unreachable)] ++ iteration.take 9 ++
    [.worker (.send (text "AFR1234")), .worker (.assignReplied unreachable)] ++ iteration.drop 9

set_option maxRecDepth 100000 in
theorem sent_within_two_iterations_late :
    (@plugin parisSecret).TakesFrom (fun _ a => a = .worker (.send (text "AFR1234")))
      ((@plugin parisSecret).run clickedLate) nextIterations :=
  @sent_within_two_iterations parisSecret clickedLate nextIterations (text "AFR1234") (by decide +kernel)
    (by decide +kernel) (by decide +kernel)

end CentralSquawk.Requests
