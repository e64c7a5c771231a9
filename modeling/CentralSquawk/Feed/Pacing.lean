import CentralSquawk.Feed.Handover
import CentralSquawk.Library.Spacing
import CentralSquawk.Wire.Endpoints

/-!
# How often a picture is pushed

`nextFeedAttempt` is set from the answer to a push and compared with a counter that
also advances while there is nothing to push, while the plugin is offline and while
it is on the live network. The record keeps every push, newest first, with what
came of it. The spacing is that of a counter that has not wrapped, so of the first
2^32 iterations of a process.
-/

namespace CentralSquawk.Feed
open Library

structure Attempt where
  iteration : Nat
  /-- `none` while the push is under way. -/
  outcome : Option FeedOutcome

/-- The iterations to be passed before the next push. -/
def Attempt.wait (a : Attempt) : Nat := a.outcome.elim 0 (fun outcome => feedWait outcome * 10)

def Attempt.displaced (a : Attempt) : Bool := a.outcome = some .displaced

def attempted (attempts : List Attempt) (s : System) : Action → List Attempt
  | .worker .push => ⟨s.worker.counter, none⟩ :: attempts
  | .worker (.pushReplied reply) =>
    match attempts with
    | [] => []
    | last :: rest => { last with outcome := some (feedReply s.plugin.feeding reply).outcome } :: rest
  | _ => attempts

structure Paced (w : WorkerThread) (attempts : List Attempt) : Prop where
  spaced : Spaced Attempt.iteration Attempt.wait attempts
  settled : ∀ a ∈ attempts.tail, a.outcome ≠ none
  under_way : w.pc = .awaitingPush → attempts.head? = some ⟨w.counter, none⟩
  answered : w.pc ≠ .awaitingPush → ∀ last ∈ attempts.head?,
    last.outcome ≠ none ∧ last.iteration + last.wait = w.nextFeedAttempt

theorem wait_answered {a : Attempt} (answered : a.outcome ≠ none) :
    SIM_PUSH_TIME_INTERVAL * 10 ≤ a.wait := by
  obtain ⟨outcome, same⟩ := Option.ne_none_iff_exists'.mp answered
  rw [Attempt.wait, same]
  cases outcome <;> decide

theorem wait_displaced {a : Attempt} (displaced : a.displaced = true) :
    SIM_FEED_RETRY_INTERVAL * 10 ≤ a.wait := by
  have outcome : a.outcome = some .displaced := by simpa [Attempt.displaced] using displaced
  rw [Attempt.wait, outcome]
  decide

section
variable [Secret]

def pushes : Machine (System × List Attempt) Action := plugin.observe [] attempted

omit [Secret] in
/-- Steps that neither push nor learn what came of a push. -/
theorem Paced.elsewhere {w w' : WorkerThread} {attempts : List Attempt} (before : Paced w attempts)
    (same : w'.nextFeedAttempt = w.nextFeedAttempt) (from_elsewhere : w.pc ≠ .awaitingPush)
    (elsewhere : w'.pc ≠ .awaitingPush) : Paced w' attempts where
  spaced := before.spaced
  settled := before.settled
  under_way here := absurd here elsewhere
  answered _ last member := same ▸ before.answered from_elsewhere last member

theorem paced_worker {s : System} {attempts : List Attempt} {a : WorkerAction} (pc : s.worker.pc = a.pc)
    (due : Wire.Due s.worker) (before : Paced s.worker attempts) :
    Paced (workerEffect s a).worker (attempted attempts s (.worker a)) := by
  cases a with
  | push =>
    have elsewhere : s.worker.pc ≠ .awaitingPush := by simp [pc, WorkerAction.pc]
    have ready : s.worker.nextFeedAttempt ≤ s.worker.counter := by
      have feeds := due.feed (by rw [pc]; rfl)
      simp only [WorkerThread.feeds, Bool.and_eq_true, decide_eq_true_eq] at feeds
      exact feeds.2
    refine ⟨before.spaced.cons ?_, ?_, fun _ => rfl, fun other => absurd rfl other⟩
    · intro last member
      obtain ⟨-, next⟩ := before.answered elsewhere last member
      exact next.le.trans ready
    · intro a member
      cases attempts with
      | nil => contradiction
      | cons last rest =>
        rcases List.mem_cons.mp member with rfl | earlier
        · exact (before.answered elsewhere a rfl).1
        · exact before.settled a earlier
  | pushReplied reply =>
    have under_way := before.under_way pc
    have elsewhere : (workerEffect s (.pushReplied reply)).worker.pc ≠ .awaitingPush :=
      s.worker.afterFeed_ne_awaitingPush
    cases attempts with
    | nil => contradiction
    | cons last rest =>
      obtain rfl : last = ⟨s.worker.counter, none⟩ := Option.some.inj under_way
      refine ⟨before.spaced.replace rfl, before.settled, fun here => absurd here elsewhere, ?_⟩
      intro _ new member
      obtain rfl := Option.some.inj member
      exact ⟨by simp, rfl⟩
  | loadOverride =>
    refine before.elsewhere ?_ (by simp [pc, WorkerAction.pc]) ?_
    all_goals
      simp only [workerEffect, WorkerThread.begin_eq]
      split
    all_goals simp
  | loadConnection =>
    refine before.elsewhere ?_ (by simp [pc, WorkerAction.pc]) ?_
    all_goals simp [workerEffect, WorkerThread.begin_eq]
  | takePicture =>
    refine before.elsewhere rfl (by simp [pc, WorkerAction.pc]) ?_
    simp only [workerEffect]
    split <;> simp
  | requestPicture =>
    exact before.elsewhere rfl (by simp [pc, WorkerAction.pc]) s.worker.afterFeed_ne_awaitingPush
  | _ => exact before.elsewhere rfl (by simp [pc, WorkerAction.pc]) (feeding_after rfl).2

theorem paced : pushes.Invariant (fun x => Paced x.1.worker x.2) := by
  refine Wire.due.observed.strengthen ?_ ?_
  · refine ⟨.nil, ?_, ?_, ?_⟩
    all_goals simp [Machine.observe, plugin]
  · rintro ⟨s, attempts⟩ a on due before
    cases a with
    | main a =>
      have same : (mainEffect s a).worker = s.worker := mainEffect_worker s a
      show Paced (mainEffect s a).worker attempts
      rw [same]
      exact before
    | elapse duration => exact before
    | worker a => exact paced_worker (enabled_worker on).2.1 due before

def pushesWithin (p : Attempt → Bool) (attempts : List Attempt) (first n : Nat) : Nat :=
  attempts.countP (fun a => p a && first ≤ a.iteration && a.iteration < first + n)

/-- In every run and in any `n` iterations of the worker, pushes come no closer than fifty iterations,
and no closer than three hundred to a push that another feeder displaced. -/
theorem pushes_paced (actions : List Action) (first n : Nat) :
    Spaced Attempt.iteration Attempt.wait (pushes.run actions).2 ∧
    SIM_PUSH_TIME_INTERVAL * 10 * pushesWithin (fun _ => true) (pushes.run actions).2 first n <
      n + SIM_PUSH_TIME_INTERVAL * 10 ∧
    SIM_FEED_RETRY_INTERVAL * 10 * pushesWithin Attempt.displaced (pushes.run actions).2 first n <
      n + SIM_FEED_RETRY_INTERVAL * 10 := by
  obtain ⟨spaced, settled, -, -⟩ := paced actions
  refine ⟨spaced, ?_, ?_⟩
  · exact spaced.window (fun _ => true) (fun a member _ => wait_answered (settled a member)) (by decide) first n
  · exact spaced.window Attempt.displaced (fun a _ displaced => wait_displaced displaced) (by decide) first n

end

end CentralSquawk.Feed
