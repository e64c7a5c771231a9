import CentralSquawk.Wire.Endpoints

/-!
# Requests refused without being sent

`SendAssignRequest` refuses a request when the iteration has read no callsign. The
worker reads the callsign before it looks whether the user controls, so requests can
be drained into an iteration that began before the first callsign was stored.
-/

namespace CentralSquawk.Requests
open Library Wire

section
variable [Secret]

def refused (refusals : List Nat) (s : System) : Action → List Nat
  | .worker (.send _) => if s.worker.userCallsign = [] then s.worker.counter :: refusals else refusals
  | _ => refusals

def refusing : Machine (System × List Nat) Action := plugin.observe [] refused

end

def draining : WorkerPc → Bool
  | .drain | .sending | .awaitingAssign => true
  | _ => false

/-- A controller has a callsign, and from the first refusal on the worker reads one. -/
structure Refused (s : System) (refusals : List Nat) : Prop where
  named : s.plugin.isController = true ∨ s.main.controller = true → s.plugin.userCallsign ≠ []
  draining : Requests.draining s.worker.pc = true → s.plugin.userCallsign ≠ []
  stored : refusals ≠ [] → s.plugin.userCallsign ≠ []
  past : ∀ n ∈ refusals, n ≤ s.worker.counter
  signed : hasCallsign s.worker.pc = true → ∀ n ∈ refusals, n < s.worker.counter → s.worker.userCallsign ≠ []
  together : ∀ m ∈ refusals, ∀ n ∈ refusals, m = n

theorem userCallsign_stays {s : System} (a : MainAction) (named : s.plugin.userCallsign ≠ []) :
    (mainEffect s a).plugin.userCallsign ≠ [] := by
  cases a with
  | isController myself =>
    simp only [mainEffect]
    split
    · exact named
    · rename_i long
      rintro empty
      simp [empty] at long
  | _ => exact named

theorem refused_main {s : System} {refusals : List Nat} (a : MainAction) (before : Refused s refusals) :
    Refused (mainEffect s a) refusals := by
  have worker : (mainEffect s a).worker = s.worker := mainEffect_worker s a
  refine ⟨?_, fun here => ?_, fun some => ?_, ?_, ?_, before.together⟩
  · cases a with
    | isController myself =>
      rintro (controller | controller)
      · exact userCallsign_stays _ (before.named (Or.inl controller))
      · have long : ¬ myself.callsign.length < 3 := by
          intro short
          simp [mainEffect, isController, short] at controller
        simp only [mainEffect, if_neg long]
        rintro empty
        simp [empty] at long
    | storeController =>
      rintro (controller | controller)
      · exact before.named (Or.inr controller)
      · exact before.named (Or.inr controller)
    | _ => exact before.named
  · exact userCallsign_stays a (before.draining (worker ▸ here))
  · exact userCallsign_stays a (before.stored some)
  · rw [worker]
    exact before.past
  · rw [worker]
    exact before.signed

/-! ### The worker's iteration -/

/-- The worker stays in its iteration, under the callsign the iteration has read, or is done with it. -/
def Follows (w w' : WorkerThread) : Prop :=
  (w'.counter = w.counter ∧ (hasCallsign w'.pc = true → hasCallsign w.pc = true ∧ w'.userCallsign = w.userCallsign)) ∨
    (w.counter < w'.counter ∧ hasCallsign w'.pc = false)

theorem Follows.goTo {w w' : WorkerThread} {pc : WorkerPc} (counter : w'.counter = w.counter)
    (inside : hasCallsign w.pc = true) (callsign : w'.userCallsign = w.userCallsign) : Follows w (w'.goTo pc) := by
  by_cases last : pc = .loopTop
  · subst last
    exact Or.inr ⟨by simp [WorkerThread.goTo, counter], rfl⟩
  · exact Or.inl ⟨by simp [WorkerThread.goTo, counter, last], fun _ => ⟨inside, callsign⟩⟩

section
variable [Secret]

theorem follows_worker {s : System} {a : WorkerAction} (pc : s.worker.pc = a.pc) (other : a ≠ .readCallsign) :
    Follows s.worker (workerEffect s a).worker := by
  have here : hasCallsign s.worker.pc = hasCallsign a.pc := congrArg hasCallsign pc
  cases a with
  | readCallsign => exact absurd rfl other
  | loopTop =>
    refine Or.inl ⟨rfl, fun later => ?_⟩
    simp only [workerEffect] at later
    repeat' split at later
    all_goals contradiction
  | loadOverride =>
    refine Or.inl ⟨?_, fun later => ?_⟩
    · simp only [workerEffect, WorkerThread.begin_eq]
      split <;> rfl
    · simp only [workerEffect, WorkerThread.begin_eq] at later
      split at later <;> contradiction
  | loadConnection =>
    refine Or.inl ⟨?_, fun later => ?_⟩
    · simp [workerEffect, WorkerThread.begin_eq]
    · simp [workerEffect, WorkerThread.begin_eq, hasCallsign] at later
  | goOffline => exact Or.inr ⟨by simp [workerEffect, WorkerThread.goTo], rfl⟩
  | checkController | allSent | pushReplied reply | requestPicture | fetched reply =>
    exact Follows.goTo rfl here rfl
  | _ => exact Or.inl ⟨rfl, fun _ => ⟨here, rfl⟩⟩

theorem draining_worker {s : System} {a : WorkerAction} (pc : s.worker.pc = a.pc)
    (later : draining (workerEffect s a).worker.pc = true) :
    draining s.worker.pc = true ∨ s.plugin.isController = true := by
  have here : draining s.worker.pc = draining a.pc := congrArg draining pc
  have beyond : draining s.worker.afterRequests = false := by
    unfold WorkerThread.afterRequests WorkerThread.afterFeed
    repeat' split
    all_goals rfl
  have fed : draining s.worker.afterFeed = false := by
    unfold WorkerThread.afterFeed
    split <;> rfl
  cases a with
  | drain | send | assignReplied | allSent => exact Or.inl here
  | checkController =>
    cases controller : s.plugin.isController with
    | true => exact Or.inr rfl
    | false =>
      have elsewhere : draining s.worker.afterRequests = true := by
        simpa [workerEffect, WorkerThread.goTo, controller] using later
      rw [beyond] at elsewhere
      contradiction
  | pushReplied reply | requestPicture =>
    have elsewhere : draining s.worker.afterFeed = true := later
    rw [fed] at elsewhere
    contradiction
  | _ =>
    simp only [workerEffect, WorkerThread.begin_eq] at later
    repeat' split at later
    all_goals contradiction

omit [Secret] in
/-- A refusal belongs to the iteration of those before it: a later one would have read a callsign. -/
theorem Refused.again {s : System} {refusals : List Nat} (before : Refused s refusals)
    (inside : hasCallsign s.worker.pc = true) (anonymous : s.worker.userCallsign = []) :
    ∀ n ∈ refusals, n = s.worker.counter := by
  intro n member
  have past := before.past n member
  by_contra other
  exact before.signed inside n member (by omega) anonymous

theorem refused_send {s : System} {refusals : List Nat} (callsign : Text) (pc : s.worker.pc = .sending)
    (before : Refused s refusals) :
    Refused (workerEffect s (.send callsign)) (refused refusals s (.worker (.send callsign))) := by
  have inside : hasCallsign s.worker.pc = true := by rw [pc]; rfl
  have known : s.plugin.userCallsign ≠ [] := before.draining (by rw [pc]; rfl)
  by_cases anonymous : s.worker.userCallsign = []
  · have same := before.again inside anonymous
    have new : refused refusals s (.worker (.send callsign)) = s.worker.counter :: refusals := if_pos anonymous
    rw [new]
    refine ⟨before.named, fun _ => known, fun _ => known, ?_, fun _ => ?_, ?_⟩
    · intro n member
      rcases List.mem_cons.mp member with rfl | earlier
      · exact le_rfl
      · exact before.past n earlier
    · intro n member less
      rcases List.mem_cons.mp member with rfl | earlier
      · exact absurd less (lt_irrefl _)
      · exact before.signed inside n earlier less
    · have all : ∀ n ∈ s.worker.counter :: refusals, n = s.worker.counter := by
        intro n member
        rcases List.mem_cons.mp member with rfl | earlier
        · rfl
        · exact same n earlier
      intro m left n right
      exact (all m left).trans (all n right).symm
  · have nothing : refused refusals s (.worker (.send callsign)) = refusals := if_neg anonymous
    rw [nothing]
    exact ⟨before.named, fun _ => known, before.stored, before.past, fun _ => before.signed inside, before.together⟩

theorem refused_worker {s : System} {refusals : List Nat} {a : WorkerAction} (pc : s.worker.pc = a.pc)
    (before : Refused s refusals) :
    Refused (workerEffect s a) refusals := by
  have main : (workerEffect s a).main = s.main := workerEffect_main s a
  have userCallsign := workerEffect_userCallsign s a
  have controller : (workerEffect s a).plugin.isController = s.plugin.isController := by
    cases a <;> rfl
  have named := before.named
  refine ⟨?_, fun later => ?_, ?_, ?_, ?_, before.together⟩
  · rw [main, userCallsign, controller]
    exact named
  · rw [userCallsign]
    rcases draining_worker pc later with already | controls
    · exact before.draining already
    · exact named (Or.inl controls)
  · rw [userCallsign]
    exact before.stored
  all_goals
    by_cases reads : a = .readCallsign
  · subst reads
    exact before.past
  · intro n member
    have past := before.past n member
    rcases follows_worker pc reads with ⟨counter, -⟩ | ⟨counter, -⟩ <;> omega
  · subst reads
    intro _ n member _
    exact before.stored (List.ne_nil_of_mem member)
  · intro inside n member less
    rcases follows_worker pc reads with ⟨counter, further⟩ | ⟨-, outside⟩
    · obtain ⟨already, same⟩ := further inside
      rw [same]
      exact before.signed already n member (by omega)
    · rw [inside] at outside
      contradiction

theorem refused_step : refusing.Invariant (fun x => Refused x.1 x.2) := by
  apply Machine.invariant_of_step
  · constructor <;> simp [refusing, Machine.observe, plugin, draining]
  · rintro ⟨s, refusals⟩ a on before
    cases a with
    | main a => exact refused_main a before
    | elapse duration =>
      exact ⟨before.named, before.draining, before.stored, before.past, before.signed, before.together⟩
    | worker a =>
      obtain ⟨-, pc, -⟩ := enabled_worker on
      cases a with
      | send callsign => exact refused_send callsign pc before
      | _ => exact refused_worker pc before

/-- In every run all requests refused for want of a callsign are refused in one iteration of the
worker, whatever the controller does. -/
theorem refused_in_one_iteration (actions : List Action) : ∃ n, ∀ m ∈ (refusing.run actions).2, m = n := by
  have together := (refused_step actions).together
  cases refusals : (refusing.run actions).2 with
  | nil => exact ⟨0, by simp⟩
  | cons n rest =>
    rw [refusals] at together
    exact ⟨n, fun m member => together m member n List.mem_cons_self⟩

end

/-- The callsign is read before the first tick stores it, and the request is drained after it. -/
example : (@Machine.run _ _ (@refusing parisSecret)
    ([.main (.timer CONNECTION_TYPE_SWEATBOX), .worker .loopTop, .worker .loadOverride, .worker .loadConnection,
        .worker .readCallsign] ++
      onTimer CONNECTION_TYPE_SWEATBOX tower ++
      [.main .servePicture,
        .main (.functionCall { functionId := AssignAuto, asel := some { callsign := some (text "AFR1234") } }),
        .worker .checkController, .worker .drain, .worker (.send (text "AFR1234"))])).2 = [0] := by
  decide +kernel

end CentralSquawk.Requests
