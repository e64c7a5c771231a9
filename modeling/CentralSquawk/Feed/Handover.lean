import CentralSquawk.Library.LatestWins
import CentralSquawk.Threads.System

/-!
# Handing the picture over

The main thread captures, publishes and clears the request; the worker takes,
pushes and asks again. The record below follows every capture through the buffer
as a ledger with a single slot, beside the lists actually posted.
-/

namespace CentralSquawk.Feed
open Library

abbrev Picture := List FlightObservation

structure Pictures where
  captured : List Picture := []
  ledger : LatestWins Unit Picture := {}
  posted : List (List Json) := []
  asked : Bool := false

def postedObservations (body : Json) : List Json :=
  match body.find (text "observations") with
  | some (.array elements) => elements
  | _ => []

section
variable [Secret]

theorem postedObservations_feedBody (userCallsign : Text) (picture : Picture) :
    postedObservations (feedBody userCallsign picture) = observations picture := by
  rfl

def Pictures.next (h : Pictures) (s : System) : Action → Pictures
  | .main (.capture targets) => { h with captured := h.captured ++ [capturePicture targets] }
  | .main .storePicture => { h with ledger := h.ledger.queue () s.main.picture }
  | .worker .takePicture =>
    if s.plugin.pictureReady then { h with ledger := h.ledger.drain, asked := false } else h
  | .worker .push =>
    { h with
      ledger := h.ledger.hand ()
      -- `PushSimFeed` posts unless `dump()` throws.
      posted := h.posted ++
        if s.worker.pictureBody.utf8 then [postedObservations s.worker.pictureBody] else [] }
  | .worker .requestPicture => { h with asked := true }
  | _ => h

def fed : Machine (System × Pictures) Action := plugin.observe {} Pictures.next

end

/-! ### Where a picture is -/

def inMainHand (s : System) : List Picture := if s.main.pc = .storePicture then [s.main.picture] else []

def inBuffer (s : System) : List Picture :=
  if s.plugin.pictureReady = true ∨ s.main.pc = .storeReady then [s.plugin.picture] else []

def inWorkerHand (s : System) : List Picture := if s.worker.pc = .pushing then [s.worker.picture] else []

/-- What a faithful hand-over comes to. -/
structure HandedOver (s : System) (h : Pictures) : Prop where
  /-- Each posted list is the whole of one capture, and no capture is posted twice. -/
  posted : h.posted.Sublist (h.captured.map (List.map observationJson))
  /-- Every capture is in the main thread's hands, or a ticket of the ledger. -/
  captured : h.captured = h.ledger.queued.map Ticket.item ++ inMainHand s
  /-- Every ticket is pending, taken, handed over, or superseded by a later one while it was pending. -/
  balanced : h.ledger.Balanced
  pending : h.ledger.pending.map Ticket.item = inBuffer s
  taken : h.ledger.drained.map Ticket.item = inWorkerHand s
  /-- What is handed over is posted; only an exception keeps the last one back. -/
  pushed : h.posted <+: h.ledger.handed.map (fun t => t.item.map observationJson) ∧
    (s.running = true → h.posted = h.ledger.handed.map (fun t => t.item.map observationJson))
  asked : h.asked = true → s.plugin.pictureRequested = true ∨ s.plugin.pictureReady = true

/-! ### Steps elsewhere -/

structure Untouched (s t : System) : Prop where
  mainHand : inMainHand t = inMainHand s
  buffer : inBuffer t = inBuffer s
  workerHand : inWorkerHand t = inWorkerHand s
  requested : t.plugin.pictureRequested = s.plugin.pictureRequested
  ready : t.plugin.pictureReady = s.plugin.pictureReady
  running : t.running = true → s.running = true
  capturing : t.main.pc = .capture → s.main.pc = .capture ∨ s.plugin.pictureRequested = true
  storing : t.main.pc = .storePicture → s.main.pc = .storePicture
  readying : t.main.pc = .storeReady → s.main.pc = .storeReady
  serving : t.main.pc = .storeServed → s.main.pc = .storeServed
  pushing : t.worker.pc = .pushing → s.worker.pc = .pushing
  awaiting : t.worker.pc = .awaitingPush → s.worker.pc = .awaitingPush

def publishing : MainPc → Bool
  | .storePicture | .storeReady | .storeServed => true
  | _ => false

def publishes : MainAction → Bool
  | .capture _ | .storePicture | .storeReady | .storeServed => true
  | _ => false

def exchanges : WorkerAction → Bool
  | .takePicture | .push | .requestPicture => true
  | _ => false

theorem not_publishing {pc : MainPc} (quiet : publishing pc = false) :
    pc ≠ .storePicture ∧ pc ≠ .storeReady ∧ pc ≠ .storeServed := by
  refine ⟨?_, ?_, ?_⟩ <;> (rintro rfl; contradiction)

theorem capture_requested {s : System} {a : MainAction} (pc : s.main.pc = a.pc)
    (later : (mainEffect s a).main.pc = .capture) :
    s.main.pc = .capture ∨ s.plugin.pictureRequested = true := by
  cases a with
  | applyAssignments =>
    simp only [mainEffect, MainThread.afterSweep] at later
    repeat' split at later
    all_goals contradiction
  | forgetAbsent =>
    simp only [mainEffect, MainThread.afterSweep] at later
    split at later <;> contradiction
  | servePicture =>
    simp only [mainEffect] at later
    split at later
    · rename_i requested
      exact Or.inr requested
    · contradiction
  | _ => first | exact Or.inl later | contradiction

theorem untouched_main {s : System} {a : MainAction} (pc : s.main.pc = a.pc)
    (other : publishes a = false) : Untouched s (mainEffect s a) := by
  have before : publishing s.main.pc = false := by
    rw [pc]
    cases a <;> first | rfl | contradiction
  have after : publishing (mainEffect s a).main.pc = false := by
    cases a with
    | applyAssignments =>
      simp only [mainEffect, MainThread.afterSweep]
      repeat' split
      all_goals rfl
    | forgetAbsent =>
      simp only [mainEffect, MainThread.afterSweep]
      split <;> rfl
    | servePicture =>
      simp only [mainEffect]
      split <;> rfl
    | flight fp answer => exact before
    | compileCommand line => exact before
    | functionCall call => exact before
    | _ => first | rfl | contradiction
  have fields : (mainEffect s a).plugin.pictureRequested = s.plugin.pictureRequested ∧
      (mainEffect s a).plugin.pictureReady = s.plugin.pictureReady ∧
      (mainEffect s a).plugin.picture = s.plugin.picture ∧
      (mainEffect s a).worker = s.worker ∧ (mainEffect s a).running = s.running := by
    cases a <;> first | exact ⟨rfl, rfl, rfl, rfl, rfl⟩ | contradiction
  obtain ⟨requested, ready, picture, worker, running⟩ := fields
  have capturing := capture_requested pc
  generalize mainEffect s a = t at *
  obtain ⟨hand, buffer, -⟩ := not_publishing before
  obtain ⟨hand', buffer', serving'⟩ := not_publishing after
  exact {
    mainHand := by simp [inMainHand, hand, hand']
    buffer := by simp [inBuffer, buffer, buffer', ready, picture]
    workerHand := by simp [inWorkerHand, worker]
    requested
    ready
    running := by simp [running]
    capturing
    storing := fun now => absurd now hand'
    readying := fun now => absurd now buffer'
    serving := fun now => absurd now serving'
    pushing := by simp [worker]
    awaiting := by simp [worker] }

/-- Only `takePicture` leads to a push, and only the push to its answer. -/
theorem feeding_after [Secret] {s : System} {a : WorkerAction} (other : exchanges a = false) :
    (workerEffect s a).worker.pc ≠ .pushing ∧ (workerEffect s a).worker.pc ≠ .awaitingPush := by
  cases a with
  | loopTop =>
    simp only [workerEffect]
    repeat' split
    all_goals simp
  | loadOverride =>
    simp only [workerEffect]
    split <;> simp [WorkerThread.begin_eq]
  | loadConnection => simp [workerEffect, WorkerThread.begin_eq]
  | readCallsign | guardOverride | guardConnection | send =>
    simp only [workerEffect]
    split <;> simp
  | checkController | allSent | pushReplied =>
    simp only [workerEffect, WorkerThread.goTo, WorkerThread.afterRequests, WorkerThread.afterFeed]
    repeat' split
    all_goals simp
  | takePicture | push | requestPicture => contradiction
  | _ => simp [workerEffect, WorkerThread.goTo]

theorem untouched_worker [Secret] {s : System} {a : WorkerAction} (pc : s.worker.pc = a.pc)
    (other : exchanges a = false) : Untouched s (workerEffect s a) := by
  have before : s.worker.pc ≠ .pushing := by
    rw [pc]
    cases a <;> (intro same; contradiction)
  obtain ⟨after, idle⟩ := feeding_after other
  have fields : (workerEffect s a).plugin.pictureRequested = s.plugin.pictureRequested ∧
      (workerEffect s a).plugin.pictureReady = s.plugin.pictureReady ∧
      (workerEffect s a).plugin.picture = s.plugin.picture := by
    cases a <;> first | exact ⟨rfl, rfl, rfl⟩ | contradiction
  have running : (workerEffect s a).running = true → s.running = true := by
    cases a with
    | send callsign => exact fun both => (Bool.and_eq_true _ _ ▸ both).1
    | push => contradiction
    | _ => exact id
  have main : (workerEffect s a).main = s.main := workerEffect_main s a
  obtain ⟨requested, ready, picture⟩ := fields
  generalize workerEffect s a = t at *
  exact {
    mainHand := by simp [inMainHand, main]
    buffer := by simp [inBuffer, main, ready, picture]
    workerHand := by simp [inWorkerHand, before, after]
    requested
    ready
    running
    capturing := fun now => Or.inl (main ▸ now)
    storing := by simp [main]
    readying := by simp [main]
    serving := by simp [main]
    pushing := fun now => absurd now after
    awaiting := fun now => absurd now idle }

theorem untouched_elapse (s : System) (duration : Nat) :
    Untouched s { s with clock := s.clock + duration } :=
  ⟨rfl, rfl, rfl, rfl, rfl, id, Or.inl, id, id, id, id, id⟩

/-! ### The hand-over keeps its record -/

structure Kept (s : System) (h : Pictures) : Prop where
  captured : h.captured = h.ledger.queued.map Ticket.item ++ inMainHand s
  balanced : h.ledger.Balanced
  pending : h.ledger.pending.map Ticket.item = inBuffer s
  taken : h.ledger.drained.map Ticket.item = inWorkerHand s
  pushed : h.posted <+: h.ledger.handed.map (fun t => t.item.map observationJson) ∧
    (s.running = true → h.posted = h.ledger.handed.map (fun t => t.item.map observationJson))
  asked : h.asked = true → s.plugin.pictureRequested = true ∨ s.plugin.pictureReady = true
  whole : ∀ picture ∈ h.captured, ∀ obs ∈ picture, sendable obs = true
  served : s.main.pc = .storeServed → s.plugin.pictureReady = true

theorem Kept.untouched {s t : System} {h : Pictures} (kept : Kept s h) (untouched : Untouched s t) :
    Kept t h := by
  obtain ⟨captured, balanced, pending, taken, ⟨sent, all⟩, asked, whole, served⟩ := kept
  refine ⟨by rw [untouched.mainHand]; exact captured, balanced, by rw [untouched.buffer]; exact pending,
    by rw [untouched.workerHand]; exact taken, ⟨sent, fun on => all (untouched.running on)⟩, ?_, whole, ?_⟩
  · rw [untouched.requested, untouched.ready]
    exact asked
  · rw [untouched.ready]
    exact fun now => served (untouched.serving now)

theorem Kept.worker_whole {s : System} {h : Pictures} (kept : Kept s h) (pc : s.worker.pc = .pushing) :
    ∀ obs ∈ s.worker.picture, sendable obs = true := by
  have one : h.ledger.drained.map Ticket.item = [s.worker.picture] := by
    simpa [inWorkerHand, pc] using kept.taken
  obtain ⟨t, only, item⟩ := List.map_eq_singleton_iff.mp one
  have queued : t ∈ h.ledger.queued := by
    rw [← Multiset.mem_coe, ← kept.balanced.accounted]
    simp [only]
  have captured : s.worker.picture ∈ h.captured := by
    rw [kept.captured, ← item]
    exact List.mem_append_left _ (List.mem_map_of_mem queued)
  exact kept.whole _ captured

theorem kept_main {s : System} {h : Pictures} {a : MainAction} (pc : s.main.pc = a.pc) (kept : Kept s h)
    [Secret] : Kept (mainEffect s a) (h.next s (.main a)) := by
  cases a with
  | capture targets =>
    obtain ⟨captured, balanced, pending, taken, pushed, asked, whole, served⟩ := kept
    refine ⟨?_, balanced, ?_, taken, pushed, asked, ?_, by simp [mainEffect]⟩
    · simp [Pictures.next, inMainHand, mainEffect, captured, pc, MainAction.pc]
    · rw [Pictures.next, pending]
      simp [inBuffer, mainEffect, pc, MainAction.pc]
    · intro picture member
      rcases List.mem_append.mp member with earlier | this
      · exact whole picture earlier
      · obtain rfl := List.mem_singleton.mp this
        exact capturePicture_sendable
  | storePicture =>
    obtain ⟨captured, balanced, pending, taken, pushed, asked, whole, served⟩ := kept
    refine ⟨?_, balanced.queue _ _, ?_, taken, pushed, asked, whole, by simp [mainEffect]⟩
    · simpa [Pictures.next, inMainHand, mainEffect, pc, MainAction.pc, LatestWins.queue,
        LatestWins.nextTicket] using captured
    · simp [Pictures.next, LatestWins.pending_queue_unit, inBuffer, mainEffect]
  | storeReady =>
    obtain ⟨captured, balanced, pending, taken, pushed, asked, whole, served⟩ := kept
    refine ⟨?_, balanced, ?_, taken, pushed, fun _ => Or.inr rfl, whole, fun _ => rfl⟩
    · simpa [Pictures.next, inMainHand, mainEffect, pc, MainAction.pc] using captured
    · simpa [Pictures.next, inBuffer, mainEffect, pc, MainAction.pc] using pending
  | storeServed =>
    obtain ⟨captured, balanced, pending, taken, pushed, asked, whole, served⟩ := kept
    have ready := served pc
    refine ⟨?_, balanced, ?_, taken, pushed, fun _ => Or.inr ready, whole, by simp [mainEffect]⟩
    · simpa [Pictures.next, inMainHand, mainEffect, pc, MainAction.pc] using captured
    · simpa [Pictures.next, inBuffer, mainEffect, ready] using pending
  | _ => exact kept.untouched (untouched_main pc rfl)

theorem kept_takePicture [Secret] {s : System} {h : Pictures} (pc : s.worker.pc = .takePicture)
    (lock : s.main.locksPicture = false) (kept : Kept s h) :
    Kept (workerEffect s .takePicture) (h.next s (.worker .takePicture)) := by
  obtain ⟨captured, balanced, pending, taken, pushed, asked, whole, served⟩ := kept
  have free : s.main.pc ≠ .storeReady ∧ s.main.pc ≠ .storeServed := by
    simpa [MainThread.locksPicture] using lock
  have hand : h.ledger.drained = [] := by simpa [inWorkerHand, pc] using taken
  cases ready : s.plugin.pictureReady with
  | false =>
    have same : h.next s (.worker .takePicture) = h := by simp [Pictures.next, ready]
    rw [same]
    refine ⟨captured, balanced, ?_, ?_, pushed, ?_, whole, fun now => absurd now free.2⟩
    · simpa [inBuffer, workerEffect, ready] using pending
    · simp [inWorkerHand, workerEffect, ready, hand]
    · simpa [workerEffect, ready] using asked
  | true =>
    have drained : h.next s (.worker .takePicture) =
        { h with ledger := h.ledger.drain, asked := false } := by simp [Pictures.next, ready]
    rw [drained]
    refine ⟨captured, balanced.drain, ?_, ?_, pushed, by simp, whole, fun now => absurd now free.2⟩
    · simp [LatestWins.drain, inBuffer, workerEffect, free.1]
    · simpa [LatestWins.drain, hand, inWorkerHand, workerEffect, ready, inBuffer] using pending

theorem kept_push [Secret] {s : System} {h : Pictures} (pc : s.worker.pc = .pushing)
    (running : s.running = true) (kept : Kept s h) :
    Kept (workerEffect s .push) (h.next s (.worker .push)) := by
  have whole := kept.worker_whole pc
  obtain ⟨captured, balanced, pending, taken, ⟨sent, all⟩, asked, wholes, served⟩ := kept
  obtain ⟨empty, handed⟩ := LatestWins.hand_unit (x := s.worker.picture)
    (by simpa [inWorkerHand, pc] using taken)
  have handedBodies : (h.ledger.hand ()).handed.map (fun t => t.item.map observationJson) =
      h.posted ++ [s.worker.picture.map observationJson] := by
    have each := congrArg (List.map (List.map observationJson)) handed
    simpa [all running, Function.comp_def] using each
  have body : postedObservations s.worker.pictureBody = s.worker.picture.map observationJson := by
    rw [WorkerThread.pictureBody, postedObservations_feedBody, observations_eq_map whole]
  refine ⟨captured, balanced.hand (), pending, ?_, ?_, asked, wholes, served⟩
  · simp [Pictures.next, empty, inWorkerHand, workerEffect]
  · simp only [Pictures.next, handedBodies, body]
    constructor
    · split
      · exact List.prefix_refl _
      · simp
    · intro survives
      have utf8 : s.worker.pictureBody.utf8 = true := (Bool.and_eq_true _ _ ▸ survives).2
      simp [utf8]

theorem kept_worker [Secret] {s : System} {h : Pictures} {a : WorkerAction}
    (on : plugin.enabled s (.worker a) = true) (kept : Kept s h) :
    Kept (workerEffect s a) (h.next s (.worker a)) := by
  obtain ⟨running, pc, -, lock⟩ := enabled_worker on
  cases a with
  | takePicture => exact kept_takePicture pc (by simpa [System.mayLock] using lock) kept
  | push => exact kept_push pc running kept
  | requestPicture =>
    obtain ⟨captured, balanced, pending, taken, pushed, asked, whole, served⟩ := kept
    refine ⟨captured, balanced, pending, ?_, pushed, fun _ => Or.inl rfl, whole, served⟩
    have before : inWorkerHand s = [] := by simp [inWorkerHand, pc, WorkerAction.pc]
    have after : inWorkerHand (workerEffect s .requestPicture) = [] :=
      if_neg (s.worker.afterFeed_ne_pushing)
    rw [after, ← before]
    exact taken
  | _ => exact kept.untouched (untouched_worker pc rfl)

theorem kept [Secret] : fed.Invariant (fun x => Kept x.1 x.2) := by
  refine Machine.invariant_of_step ?_ ?_
  · refine ⟨?_, LatestWins.balanced_empty, ?_, ?_, ?_, ?_, ?_, ?_⟩
    all_goals simp [fed, Machine.observe, plugin, inMainHand, inBuffer, inWorkerHand]
  · rintro ⟨s, h⟩ a on before
    cases a with
    | main a => exact kept_main (enabled_main on).2 before
    | worker a => exact kept_worker on before
    | elapse duration =>
      exact before.untouched (untouched_elapse s duration)

/-- Whatever the threads do, pictures reach the server whole, once, and in order. -/
theorem pictures_handed_over [Secret] (actions : List Action) :
    HandedOver (fed.run actions).1 (fed.run actions).2 := by
  obtain ⟨captured, balanced, pending, taken, pushed, asked, -, -⟩ := kept actions
  refine ⟨?_, captured, balanced, pending, taken, pushed, asked⟩
  have inOrder := balanced.handed_sublist_unit.map (fun t => t.item.map observationJson)
  refine pushed.1.sublist.trans (inOrder.trans ?_)
  rw [captured, List.map_append, List.map_map]
  exact List.sublist_append_left _ _

end CentralSquawk.Feed
