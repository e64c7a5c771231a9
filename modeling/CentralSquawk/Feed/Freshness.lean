import CentralSquawk.Feed.Handover

/-!
# How old a pushed picture is

Request flag, ready flag and buffer are separate, and nothing is cleared when the
mode leaves the simulator, so a picture can wait. The record below counts steps
and dates every capture, every return of `PushSimFeed` and every turn to the
simulator.
-/

namespace CentralSquawk.Feed
open Library

structure Push where
  capturedAt : Nat
  returned : Nat
  sweatboxSince : Nat

structure Times where
  now : Nat := 1
  mainAt : Nat := 0
  bufferAt : Nat := 0
  workerAt : Nat := 0
  returned : Nat := 0
  sweatboxSince : Nat := 0
  pushes : List Push := []

def Push.fresh (p : Push) : Prop := p.returned < p.capturedAt ∧ p.sweatboxSince < p.capturedAt

instance (p : Push) : Decidable p.fresh := inferInstanceAs (Decidable (_ ∧ _))

def Idle (s : System) : Prop :=
  s.plugin.pictureReady = false ∧ s.main.pc ≠ .storePicture ∧ s.main.pc ≠ .storeReady ∧
    s.worker.pc ≠ .pushing

section
variable [Secret]

def becomesSweatbox (s : System) (a : Action) : Bool :=
  s.plugin.resolveMode ≠ .sweatbox && (plugin.effect s a).plugin.resolveMode = .sweatbox

def Times.stamp (h : Times) (s : System) : Action → Times
  | .main (.capture _) => { h with mainAt := h.now }
  | .main .storePicture => { h with bufferAt := h.mainAt }
  | .worker .takePicture => if s.plugin.pictureReady then { h with workerAt := h.bufferAt } else h
  | .worker .push => { h with pushes := ⟨h.workerAt, h.returned, h.sweatboxSince⟩ :: h.pushes }
  | .worker (.pushReplied _) => { h with returned := h.now }
  | _ => h

def Times.next (h : Times) (s : System) (a : Action) : Times :=
  { h.stamp s a with
    now := h.now + 1
    sweatboxSince := if becomesSweatbox s a then h.now else h.sweatboxSince }

def timed : Machine (System × Times) Action := plugin.observe {} Times.next

/-- The worker asks only when no picture is waiting, and the mode turns to the simulator only when
no picture is under way. -/
def OnePicture (s : System) (a : Action) : Prop :=
  (match a with
    | .worker .requestPicture => s.plugin.pictureReady = true → s.main.pc = .storeServed
    | _ => True) ∧
  (becomesSweatbox s a = true → Idle s)

instance (s : System) (a : Action) : Decidable (OnePicture s a) := by
  unfold OnePicture Idle
  split <;> infer_instance

end

def Times.since (h : Times) (time : Nat) : Prop := h.returned < time ∧ h.sweatboxSince < time

structure Fresh (s : System) (h : Times) : Prop where
  serving : s.main.pc = .capture ∨ publishing s.main.pc = true → s.plugin.pictureRequested = true
  /-- No request is open beside a picture that waits. -/
  single : s.plugin.pictureRequested = true → s.plugin.pictureReady = true → s.main.pc = .storeServed
  quiet : s.worker.pc = .pushing ∨ s.worker.pc = .awaitingPush →
    s.plugin.pictureRequested = false ∧ s.plugin.pictureReady = false
  past : h.since h.now
  mainHand : s.main.pc = .storePicture → h.since h.mainAt
  buffer : s.plugin.pictureReady = true ∨ s.main.pc = .storeReady → h.since h.bufferAt
  workerHand : s.worker.pc = .pushing → h.since h.workerAt
  pushes : ∀ p ∈ h.pushes, p.fresh

/-! ### Steps that leave the hand-over alone -/

theorem publishing_iff {pc : MainPc} :
    publishing pc = true ↔ pc = .storePicture ∨ pc = .storeReady ∨ pc = .storeServed := by
  cases pc <;> simp [publishing]

theorem Fresh.serving_untouched {s t : System} {h : Times} (fresh : Fresh s h) (untouched : Untouched s t) :
    t.main.pc = .capture ∨ publishing t.main.pc = true → t.plugin.pictureRequested = true := by
  rw [untouched.requested]
  rintro (capturing | publishes)
  · rcases untouched.capturing capturing with before | requested
    · exact fresh.serving (Or.inl before)
    · exact requested
  · refine fresh.serving (Or.inr (publishing_iff.mpr ?_))
    exact (publishing_iff.mp publishes).imp untouched.storing (Or.imp untouched.readying untouched.serving)

theorem Fresh.single_untouched {s t : System} {h : Times} (fresh : Fresh s h) (untouched : Untouched s t)
    (stays : s.main.pc = .storeServed → t.main.pc = .storeServed) :
    t.plugin.pictureRequested = true → t.plugin.pictureReady = true → t.main.pc = .storeServed := by
  rw [untouched.requested, untouched.ready]
  exact fun requested ready => stays (fresh.single requested ready)

theorem Fresh.quiet_untouched {s t : System} {h : Times} (fresh : Fresh s h) (untouched : Untouched s t) :
    t.worker.pc = .pushing ∨ t.worker.pc = .awaitingPush →
      t.plugin.pictureRequested = false ∧ t.plugin.pictureReady = false := by
  rw [untouched.requested, untouched.ready]
  exact fun pushing => fresh.quiet (pushing.imp untouched.pushing untouched.awaiting)

theorem Fresh.elapsed {s : System} {h : Times} (fresh : Fresh s h) : h.since (h.now + 1) := by
  obtain ⟨returned, turned⟩ := fresh.past
  constructor
  · omega
  · omega

theorem Fresh.tick {s t : System} {h : Times} (fresh : Fresh s h) (untouched : Untouched s t)
    (stays : s.main.pc = .storeServed → t.main.pc = .storeServed) :
    Fresh t { h with now := h.now + 1 } where
  serving := fresh.serving_untouched untouched
  single := fresh.single_untouched untouched stays
  quiet := fresh.quiet_untouched untouched
  past := fresh.elapsed
  mainHand storing := fresh.mainHand (untouched.storing storing)
  buffer full := fresh.buffer (full.imp (fun ready => untouched.ready ▸ ready) untouched.readying)
  workerHand pushing := fresh.workerHand (untouched.pushing pushing)
  pushes := fresh.pushes

/-- With nothing under way, either date may move to the present. -/
theorem Fresh.renew {s t : System} {h : Times} {returned sweatboxSince : Nat} (fresh : Fresh s h)
    (untouched : Untouched s t) (stays : s.main.pc = .storeServed → t.main.pc = .storeServed)
    (idle : Idle s) (soFar : returned ≤ h.now) (turned : sweatboxSince ≤ h.now) :
    Fresh t { h with now := h.now + 1, returned, sweatboxSince } := by
  obtain ⟨empty, notStoring, notReadying, notPushing⟩ := idle
  exact {
    serving := fresh.serving_untouched untouched
    single := fresh.single_untouched untouched stays
    quiet := fresh.quiet_untouched untouched
    past := ⟨Nat.lt_succ_of_le soFar, Nat.lt_succ_of_le turned⟩
    mainHand := fun storing => absurd (untouched.storing storing) notStoring
    buffer := by
      rintro (ready | readying)
      · rw [untouched.ready, empty] at ready
        contradiction
      · exact absurd (untouched.readying readying) notReadying
    workerHand := fun pushing => absurd (untouched.pushing pushing) notPushing
    pushes := fresh.pushes }

/-! ### The steps of the hand-over -/

section
variable [Secret]

theorem next_same_mode {s : System} {a : Action} (h : Times)
    (same : (plugin.effect s a).plugin.resolveMode = s.plugin.resolveMode) :
    h.next s a = { h.stamp s a with now := h.now + 1, sweatboxSince := h.sweatboxSince } := by
  have stays : becomesSweatbox s a = false := by
    simp [becomesSweatbox, same]
  simp [Times.next, stays]

theorem fresh_untouched {s : System} {h : Times} {a : Action} (fresh : Fresh s h)
    (one : OnePicture s a) (untouched : Untouched s (plugin.effect s a))
    (stays : s.main.pc = .storeServed → (plugin.effect s a).main.pc = .storeServed)
    (unstamped : h.stamp s a = h) : Fresh (plugin.effect s a) (h.next s a) := by
  cases turn : becomesSweatbox s a with
  | true =>
    have next : h.next s a = { h with now := h.now + 1, returned := h.returned, sweatboxSince := h.now } := by
      simp [Times.next, turn, unstamped]
    rw [next]
    exact fresh.renew untouched stays (one.2 turn) fresh.past.1.le le_rfl
  | false =>
    have next : h.next s a = { h with now := h.now + 1 } := by simp [Times.next, turn, unstamped]
    rw [next]
    exact fresh.tick untouched stays

theorem fresh_main {s : System} {h : Times} {a : MainAction} (pc : s.main.pc = a.pc)
    (one : OnePicture s (.main a)) (fresh : Fresh s h) :
    Fresh (plugin.effect s (.main a)) (h.next s (.main a)) := by
  have past := fresh.elapsed
  cases a with
  | capture targets =>
    have requested := fresh.serving (Or.inl pc)
    have elsewhere : s.main.pc ≠ .storeServed := by simp [pc, MainAction.pc]
    rw [next_same_mode h rfl]
    exact {
      serving := fun _ => requested
      single := fun requested ready => absurd (fresh.single requested ready) elsewhere
      quiet := fresh.quiet
      past
      mainHand := fun _ => fresh.past
      buffer := fun full => fresh.buffer (full.imp id (fun other => absurd other (by simp [mainEffect])))
      workerHand := fresh.workerHand
      pushes := fresh.pushes }
  | storePicture =>
    have requested := fresh.serving (Or.inr (publishing_iff.mpr (Or.inl pc)))
    have elsewhere : s.main.pc ≠ .storeServed := by simp [pc, MainAction.pc]
    rw [next_same_mode h rfl]
    exact {
      serving := fun _ => requested
      single := fun requested ready => absurd (fresh.single requested ready) elsewhere
      quiet := fresh.quiet
      past
      mainHand := fun other => absurd other (by simp [mainEffect])
      buffer := fun _ => fresh.mainHand pc
      workerHand := fresh.workerHand
      pushes := fresh.pushes }
  | storeReady =>
    have requested := fresh.serving (Or.inr (publishing_iff.mpr (Or.inr (Or.inl pc))))
    rw [next_same_mode h rfl]
    exact {
      serving := fun _ => requested
      single := fun _ _ => rfl
      quiet := fun pushing => absurd requested (by simp [(fresh.quiet pushing).1])
      past
      mainHand := fun other => absurd other (by simp [mainEffect])
      buffer := fun _ => fresh.buffer (Or.inr pc)
      workerHand := fresh.workerHand
      pushes := fresh.pushes }
  | storeServed =>
    rw [next_same_mode h rfl]
    exact {
      serving := fun other => absurd other (by simp [mainEffect, publishing])
      single := fun other => absurd other (by simp [mainEffect])
      quiet := fun pushing => ⟨rfl, (fresh.quiet pushing).2⟩
      past
      mainHand := fun other => absurd other (by simp [mainEffect])
      buffer := fun full => fresh.buffer (full.imp id (fun other => absurd other (by simp [mainEffect])))
      workerHand := fresh.workerHand
      pushes := fresh.pushes }
  | _ =>
    refine fresh_untouched fresh one (untouched_main pc rfl) (fun serving => ?_) rfl
    exact absurd (pc.symm.trans serving) (by simp [MainAction.pc])

theorem fresh_takePicture {s : System} {h : Times} (lock : s.main.locksPicture = false) (fresh : Fresh s h) :
    Fresh (plugin.effect s (.worker .takePicture)) (h.next s (.worker .takePicture)) := by
  have free : s.main.pc ≠ .storeReady ∧ s.main.pc ≠ .storeServed := by
    simpa [MainThread.locksPicture] using lock
  have past := fresh.elapsed
  rw [next_same_mode h rfl]
  cases ready : s.plugin.pictureReady with
  | false =>
    have unstamped : h.stamp s (.worker .takePicture) = h := by simp [Times.stamp, ready]
    rw [unstamped]
    exact {
      serving := fresh.serving
      single := fun requested other => absurd other (by simp [workerEffect])
      quiet := fun pushing => absurd pushing (by simp [workerEffect, ready])
      past
      mainHand := fresh.mainHand
      buffer := fun full => absurd full (by simp [workerEffect, free.1])
      workerHand := fun pushing => absurd pushing (by simp [workerEffect, ready])
      pushes := fresh.pushes }
  | true =>
    have taken : h.stamp s (.worker .takePicture) = { h with workerAt := h.bufferAt } := by
      simp [Times.stamp, ready]
    -- An open request would mean that the main thread is still publishing.
    have unrequested : s.plugin.pictureRequested = false := by
      by_contra requested
      exact free.2 (fresh.single (by simpa using requested) ready)
    rw [taken]
    exact {
      serving := fresh.serving
      single := fun requested other => absurd other (by simp [workerEffect])
      quiet := fun _ => ⟨unrequested, rfl⟩
      past
      mainHand := fresh.mainHand
      buffer := fun full => absurd full (by simp [workerEffect, free.1])
      workerHand := fun _ => fresh.buffer (Or.inl ready)
      pushes := fresh.pushes }

theorem fresh_worker {s : System} {h : Times} {a : WorkerAction}
    (on : plugin.enabled s (.worker a) = true) (one : OnePicture s (.worker a)) (fresh : Fresh s h) :
    Fresh (plugin.effect s (.worker a)) (h.next s (.worker a)) := by
  obtain ⟨-, pc, -, lock⟩ := enabled_worker on
  have past := fresh.elapsed
  cases a with
  | takePicture => exact fresh_takePicture (by simpa [System.mayLock] using lock) fresh
  | push =>
    have empty := fresh.quiet (Or.inl pc)
    rw [next_same_mode h rfl]
    exact {
      serving := fresh.serving
      single := fresh.single
      quiet := fun _ => empty
      past
      mainHand := fresh.mainHand
      buffer := fresh.buffer
      workerHand := fun other => absurd other (by simp [workerEffect])
      pushes := by
        intro p member
        rcases List.mem_cons.mp member with rfl | earlier
        · exact fresh.workerHand pc
        · exact fresh.pushes p earlier }
  | pushReplied reply =>
    -- The push has returned; nothing was captured while it was under way.
    obtain ⟨unrequested, empty⟩ := fresh.quiet (Or.inr pc)
    have unserved : ¬ (s.main.pc = .capture ∨ publishing s.main.pc = true) := by
      intro serving
      exact absurd (fresh.serving serving) (by simp [unrequested])
    have idle : Idle s := by
      refine ⟨empty, ?_, ?_, by simp [pc, WorkerAction.pc]⟩
      · exact fun storing => unserved (Or.inr (publishing_iff.mpr (Or.inl storing)))
      · exact fun readying => unserved (Or.inr (publishing_iff.mpr (Or.inr (Or.inl readying))))
    rw [next_same_mode h rfl]
    exact fresh.renew (untouched_worker pc rfl) id idle le_rfl fresh.past.2.le
  | requestPicture =>
    rw [next_same_mode h rfl]
    exact {
      serving := fun _ => rfl
      single := fun _ ready => one.1 ready
      quiet := by
        rintro (pushing | awaiting)
        · exact absurd pushing s.worker.afterFeed_ne_pushing
        · exact absurd awaiting s.worker.afterFeed_ne_awaitingPush
      past
      mainHand := fresh.mainHand
      buffer := fresh.buffer
      workerHand := fun pushing => absurd pushing s.worker.afterFeed_ne_pushing
      pushes := fresh.pushes }
  | _ =>
    refine fresh_untouched fresh one (untouched_worker pc rfl) (fun serving => ?_) rfl
    rw [effect_worker, workerEffect_main]
    exact serving

theorem fresh_step {s : System} {h : Times} {a : Action} (on : plugin.enabled s a = true)
    (one : OnePicture s a) (fresh : Fresh s h) : Fresh (plugin.effect s a) (h.next s a) := by
  cases a with
  | main a => exact fresh_main (enabled_main on).2 one fresh
  | worker a => exact fresh_worker on one fresh
  | elapse duration => exact fresh_untouched fresh one (untouched_elapse s duration) id rfl

/-- While only one picture is under way at a time, every picture pushed is fresh. -/
theorem pushed_pictures_fresh (actions : List Action) (one : plugin.Along OnePicture actions) :
    ∀ p ∈ (timed.run actions).2.pushes, p.fresh := by
  have start : Fresh plugin.init {} := by
    refine ⟨?_, ?_, ?_, ⟨Nat.zero_lt_one, Nat.zero_lt_one⟩, ?_, ?_, ?_, ?_⟩
    all_goals simp [plugin, publishing]
  have all := Machine.Invariant.alongObserved (J := fun _ => True) (P := fun x => Fresh x.1 x.2)
    (fun _ => trivial) start (fun s h a on here _ before => fresh_step on here before) actions one
  exact all.pushes

end

/-! ### Runs in a simulator session -/

def inSimulator : List Action := onTimer CONNECTION_TYPE_SWEATBOX tower ++ [.main .servePicture]

def publish : List Action := [.main .storePicture, .main .storeReady, .main .storeServed]

def firstPicture : List Action :=
  inSimulator ++ iterations 1 unreachable ++ inSimulator ++ [.main (.capture [])] ++ publish

def push : List Action := iteration ++ [.worker .push]

/-- The session ends before the picture is taken, and another one begins. -/
def betweenSessions : List Action :=
  firstPicture ++ onTimer CONNECTION_TYPE_DIRECT tower ++ inSimulator ++ push

/-- The worker finds the buffer empty while the main thread is about to fill it, and asks again once
it is full. The second request is served during the push. -/
def askedTwice : List Action :=
  inSimulator ++ iterations 1 unreachable ++ inSimulator ++ [.main (.capture [])] ++
    iteration.dropLast ++ publish ++ [.worker .requestPicture] ++ push ++
    inSimulator ++ [.main (.capture [])] ++ publish ++ [.worker (.pushReplied (.answered 200 .empty))] ++
    iterations 50 unreachable ++ push

set_option maxRecDepth 100000 in
/-- A picture can be older than the session, and older than the previous push. -/
theorem stale_pictures_pushed :
    (¬ ∀ (secret : Secret) (actions : List Action), ∀ p ∈ ((@timed secret).run actions).2.pushes,
      p.sweatboxSince < p.capturedAt) ∧
    ¬ ∀ (secret : Secret) (actions : List Action), ∀ p ∈ ((@timed secret).run actions).2.pushes,
      p.returned < p.capturedAt := by
  constructor
  · intro all
    have stale : ¬ ∀ p ∈ ((@timed parisSecret).run betweenSessions).2.pushes,
        p.sweatboxSince < p.capturedAt := by decide +kernel
    exact stale (all parisSecret betweenSessions)
  · intro all
    have stale : ¬ ∀ p ∈ ((@timed parisSecret).run askedTwice).2.pushes, p.returned < p.capturedAt := by
      decide +kernel
    exact stale (all parisSecret askedTwice)

/-- The next picture is asked for once the push of the first one has returned. -/
def pushedTwice : List Action :=
  firstPicture ++ push ++ [.worker (.pushReplied (.answered 200 .empty))] ++ iterations 50 unreachable ++
    inSimulator ++ [.main (.capture [])] ++ publish ++ push

set_option maxRecDepth 100000 in
theorem pushed_pictures_fresh_twice :
    ((@timed parisSecret).run pushedTwice).2.pushes.map (fun p => decide (0 < p.returned)) = [true, false] ∧
      ∀ p ∈ ((@timed parisSecret).run pushedTwice).2.pushes, p.fresh :=
  ⟨by decide +kernel, @pushed_pictures_fresh parisSecret pushedTwice (by decide +kernel)⟩

end CentralSquawk.Feed
