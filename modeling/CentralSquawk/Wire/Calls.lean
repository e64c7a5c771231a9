import CentralSquawk.Requests.Routing

/-!
# The calls on the wire

Each iteration of `WorkerThread` resolves a mode once and may then ask the network,
send the drained requests, push the picture and fetch the snapshot, while the main
thread changes everything those decisions read. The log keeps what every iteration
resolved and every call that was made.
-/

namespace CentralSquawk.Wire
open Library Requests

/-- `GET /api/network`, `POST /api/assign`, `POST /api/feed` and `GET /api/squawks`. -/
inductive Path where
  | network
  | assign
  | feed
  | squawks
  deriving DecidableEq

/-- Where an iteration comes to a path. -/
def Path.place : Path → Nat
  | .network => 0
  | .assign => 1
  | .feed => 2
  | .squawks => 3

structure Call where
  path : Path
  iteration : Nat
  endpoint : Option Text
  deriving DecidableEq

structure Log where
  modes : List NetworkMode := []
  calls : List Call := []

/-- Of one iteration, a call comes before those of later places; only requests share theirs. -/
def Call.before (c later : Call) : Prop :=
  c.iteration < later.iteration ∨
    c.iteration = later.iteration ∧
      (c.path.place < later.path.place ∨ c.path = .assign ∧ later.path = .assign)

section
variable [Secret]

def made (s : System) : WorkerAction → List Call
  -- `liveCli` is pinned to the live server.
  | .probed _ => [⟨.network, s.worker.counter, some liveEndpoint⟩]
  | .send callsign =>
    if isPosted s callsign then [⟨.assign, s.worker.counter, s.worker.builtFor⟩] else []
  | .push =>
    if s.worker.pictureBody.utf8 then [⟨.feed, s.worker.counter, s.worker.builtFor⟩] else []
  | .fetched _ => [⟨.squawks, s.worker.counter, s.worker.builtFor⟩]
  | _ => []

def resolved (s : System) : WorkerAction → List NetworkMode
  | .goOffline => [.offline]
  | .readCallsign => [s.worker.mode]
  | _ => []

def Log.next (h : Log) (s : System) : Action → Log
  | .worker a => { modes := h.modes ++ resolved s a, calls := h.calls ++ made s a }
  | _ => h

def wired : Machine (System × Log) Action := plugin.observe {} Log.next

end

/-! ### How far an iteration has come -/

def reached : WorkerPc → Nat
  | .checkController | .drain => 1
  | .sending | .awaitingAssign | .takePicture | .pushing | .requestPicture => 2
  | .awaitingPush | .fetching => 3
  | _ => 0

structure GoesOn (w w' : WorkerThread) (calls : List Call) : Prop where
  counter : w'.counter = w.counter
  reached : reached w.pc ≤ reached w'.pc
  calls : ∀ c ∈ calls, c.iteration = w.counter ∧ c.path.place < Wire.reached w'.pc ∧
    (Wire.reached w.pc ≤ c.path.place ∨ c.path = .assign ∧ Wire.reached w.pc = 2)

structure Ends (w w' : WorkerThread) (calls : List Call) : Prop where
  counter : w'.counter = w.counter + 1
  top : w'.pc = .loopTop
  calls : ∀ c ∈ calls, c.iteration = w.counter ∧ Wire.reached w.pc ≤ c.path.place

theorem reached_afterFeed (w : WorkerThread) (later : w.afterFeed ≠ .loopTop) : reached w.afterFeed = 3 := by
  unfold WorkerThread.afterFeed at later ⊢
  split at later
  · rename_i due
    rw [if_pos due]
    rfl
  · contradiction

theorem reached_afterRequests (w : WorkerThread) (later : w.afterRequests ≠ .loopTop) :
    2 ≤ reached w.afterRequests := by
  unfold WorkerThread.afterRequests at later ⊢
  split at later
  · rename_i feeds
    rw [if_pos feeds]
    exact le_rfl
  · rename_i quiet
    rw [if_neg quiet, reached_afterFeed w later]
    exact Nat.le_succ 2

theorem quietly {w w' : WorkerThread} (counter : w'.counter = w.counter)
    (later : reached w.pc ≤ reached w'.pc) : GoesOn w w' [] ∨ Ends w w' [] :=
  Or.inl ⟨counter, later, by simp⟩

theorem goTo_moves {w w' : WorkerThread} {pc : WorkerPc} (same : w'.counter = w.counter)
    (later : pc ≠ .loopTop → reached w.pc ≤ reached pc) :
    GoesOn w (w'.goTo pc) [] ∨ Ends w (w'.goTo pc) [] := by
  by_cases last : pc = .loopTop
  · subst last
    exact Or.inr ⟨by simp [WorkerThread.goTo, same], rfl, by simp⟩
  · exact quietly (by simp [WorkerThread.goTo, last, same]) (later last)

section
variable [Secret]

/-- A step of the worker goes on with its iteration or ends it, and its calls are of that iteration. -/
theorem worker_moves {s : System} {a : WorkerAction} (pc : s.worker.pc = a.pc) :
    GoesOn s.worker (workerEffect s a).worker (made s a) ∨
      Ends s.worker (workerEffect s a).worker (made s a) := by
  have here : reached s.worker.pc = reached a.pc := congrArg reached pc
  cases a with
  | loopTop | readCallsign | guardOverride | guardConnection =>
    have start : reached s.worker.pc = 0 := here
    exact quietly rfl (start ▸ Nat.zero_le _)
  | loadOverride =>
    have start : reached s.worker.pc = 0 := here
    refine quietly ?_ (start ▸ Nat.zero_le _)
    simp only [workerEffect, WorkerThread.begin_eq]
    split <;> rfl
  | loadConnection =>
    have start : reached s.worker.pc = 0 := here
    refine quietly ?_ (start ▸ Nat.zero_le _)
    simp [workerEffect, WorkerThread.begin_eq]
  | goOffline => exact goTo_moves rfl (fun other => absurd rfl other)
  | probed reply =>
    have start : reached s.worker.pc = 0 := here
    refine Or.inl ⟨rfl, start ▸ Nat.zero_le _, ?_⟩
    intro c member
    obtain rfl := List.mem_singleton.mp member
    exact ⟨rfl, Nat.zero_lt_one, Or.inl start.le⟩
  | checkController =>
    have start : reached s.worker.pc = 1 := here
    refine goTo_moves rfl (fun other => ?_)
    rw [start]
    split
    · exact le_rfl
    · rename_i observer
      rw [if_neg observer] at other
      exact (Nat.le_succ 1).trans (reached_afterRequests s.worker other)
  | drain =>
    have start : reached s.worker.pc = 1 := here
    exact quietly rfl (start ▸ Nat.le_succ 1)
  | send callsign =>
    have start : reached s.worker.pc = 2 := here
    have after : reached (workerEffect s (.send callsign)).worker.pc = 2 := by
      simp only [workerEffect]
      split <;> rfl
    refine Or.inl ⟨rfl, start.le.trans after.ge, ?_⟩
    intro c member
    rw [made] at member
    split at member
    · obtain rfl := List.mem_singleton.mp member
      exact ⟨rfl, by simp [after, Path.place], Or.inr ⟨rfl, start⟩⟩
    · contradiction
  | assignReplied reply =>
    have start : reached s.worker.pc = 2 := here
    exact quietly rfl (start ▸ le_rfl)
  | allSent =>
    have start : reached s.worker.pc = 2 := here
    exact goTo_moves rfl (fun other => start ▸ reached_afterRequests s.worker other)
  | takePicture =>
    have start : reached s.worker.pc = 2 := here
    refine quietly rfl (start.le.trans ?_)
    simp only [workerEffect]
    split <;> exact le_rfl
  | push =>
    have start : reached s.worker.pc = 2 := here
    refine Or.inl ⟨rfl, start ▸ Nat.le_succ 2, ?_⟩
    intro c member
    rw [made] at member
    split at member
    · obtain rfl := List.mem_singleton.mp member
      exact ⟨rfl, Nat.lt_succ_self 2, Or.inl start.le⟩
    · contradiction
  | pushReplied reply =>
    have start : reached s.worker.pc = 3 := here
    exact goTo_moves rfl (fun other => start ▸ (reached_afterFeed s.worker other).ge)
  | requestPicture =>
    have start : reached s.worker.pc = 2 := here
    refine goTo_moves rfl (fun other => ?_)
    rw [start, reached_afterFeed s.worker other]
    exact Nat.le_succ 2
  | fetched reply =>
    have start : reached s.worker.pc = 3 := here
    refine Or.inr ⟨rfl, rfl, ?_⟩
    simp [made, start, Path.place]

theorem made_length (s : System) (a : WorkerAction) : (made s a).length ≤ 1 := by
  unfold made
  repeat' split
  all_goals simp

end

/-! ### The calls are in order -/

structure InOrder (w : WorkerThread) (calls : List Call) : Prop where
  past : ∀ c ∈ calls, c.iteration < w.counter ∨ c.iteration = w.counter ∧ c.path.place < reached w.pc
  ordered : calls.Pairwise Call.before

theorem Call.before_new {w : WorkerThread} {c new : Call} (iteration : new.iteration = w.counter)
    (place : reached w.pc ≤ new.path.place ∨ new.path = .assign ∧ reached w.pc = 2)
    (past : c.iteration < w.counter ∨ c.iteration = w.counter ∧ c.path.place < reached w.pc) :
    c.before new := by
  rcases past with earlier | ⟨this, behind⟩
  · exact Or.inl (by omega)
  refine Or.inr ⟨this.trans iteration.symm, ?_⟩
  rcases place with ahead | ⟨assign, two⟩
  · exact Or.inl (by omega)
  rw [two] at behind
  cases path : c.path with
  | network => exact Or.inl (by simp [assign, Path.place])
  | assign => exact Or.inr ⟨rfl, assign⟩
  | feed => simp [path, Path.place] at behind
  | squawks => simp [path, Path.place] at behind

theorem InOrder.append {w w' : WorkerThread} {calls new : List Call} (before : InOrder w calls)
    (single : new.length ≤ 1)
    (next : ∀ c ∈ new, c.iteration = w.counter ∧
      (reached w.pc ≤ c.path.place ∨ c.path = .assign ∧ reached w.pc = 2))
    (past : ∀ c ∈ calls ++ new, c.iteration < w'.counter ∨
      c.iteration = w'.counter ∧ c.path.place < reached w'.pc) : InOrder w' (calls ++ new) := by
  refine ⟨past, List.pairwise_append.mpr ⟨before.ordered, ?_, ?_⟩⟩
  · match new, single with
    | [], _ => exact .nil
    | [c], _ => exact List.pairwise_singleton _ _
  · intro c member later made
    obtain ⟨iteration, place⟩ := next later made
    exact Call.before_new iteration place (before.past c member)

section
variable [Secret]

theorem inOrder_worker {s : System} {h : Log} {a : WorkerAction} (pc : s.worker.pc = a.pc)
    (before : InOrder s.worker h.calls) :
    InOrder (workerEffect s a).worker (h.next s (.worker a)).calls := by
  have single := made_length s a
  rcases worker_moves pc with ⟨counter, further, calls⟩ | ⟨counter, -, calls⟩
  · refine before.append single (fun c made => ⟨(calls c made).1, (calls c made).2.2⟩) ?_
    intro c member
    rcases List.mem_append.mp member with earlier | made
    · rcases before.past c earlier with past | ⟨this, behind⟩
      · exact Or.inl (by omega)
      · exact Or.inr ⟨by omega, by omega⟩
    · obtain ⟨iteration, behind, -⟩ := calls c made
      exact Or.inr ⟨by omega, behind⟩
  · refine before.append single (fun c made => ⟨(calls c made).1, Or.inl (calls c made).2⟩) ?_
    intro c member
    left
    rcases List.mem_append.mp member with earlier | made
    · rcases before.past c earlier with past | ⟨this, -⟩
      · omega
      · omega
    · obtain ⟨iteration, -⟩ := calls c made
      omega

theorem inOrder : wired.Invariant (fun x => InOrder x.1.worker x.2.calls) := by
  apply Machine.invariant_of_step
  · exact ⟨by simp [wired, Machine.observe], .nil⟩
  · rintro ⟨s, h⟩ a on before
    cases a with
    | main a =>
      have same : (mainEffect s a).worker = s.worker := mainEffect_worker s a
      show InOrder (mainEffect s a).worker h.calls
      rw [same]
      exact before
    | elapse duration => exact before
    | worker a => exact inOrder_worker (enabled_worker on).2.1 before

/-- In every run the calls of an iteration are at most one probe, then the requests, then at most one
push, then at most one fetch, and the iterations follow one another. -/
theorem calls_in_order (actions : List Action) : (wired.run actions).2.calls.Pairwise Call.before :=
  (inOrder actions).ordered

end

end CentralSquawk.Wire
