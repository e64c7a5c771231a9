import CentralSquawk.Feed.Handover
import CentralSquawk.Inference.Sessions
import CentralSquawk.Wire.Pinned

/-!
# The hand-over does not get stuck

The worker asks for a picture and looks for it in its next iteration; `OnTimer`
serves the request in between. The request is a flag that both threads write, and the
picture is taken under a lock that neither holds while it asks. A request that has
been made is lost in no interleaving: it is pending, being served, or served.
-/

namespace CentralSquawk.Feed
open Library Requests Wire

variable {c : NetworkMode} {o : ModeOverride}

def seeking : WorkerPc → Bool
  | .loopTop | .loadOverride | .loadConnection | .readCallsign | .guardOverride | .guardConnection | .probing
  | .checkController | .drain | .sending | .awaitingAssign | .takePicture | .exited => true
  | _ => false

/-- An iteration of a simulator session, on its way to look for a picture. -/
structure Seeking (c : NetworkMode) (o : ModeOverride) (w : WorkerThread) : Prop where
  keeps : Keeps c o .sweatbox w
  named : hasCallsign w.pc = true → w.userCallsign ≠ []
  place : seeking w.pc = true

/-- The user has a callsign, and the mode is Sweatbox: by the connection, the override or the inference. -/
def InSession (c : NetworkMode) (o : ModeOverride) (s : System) : Prop :=
  Holds c o .sweatbox s ∧ s.plugin.userCallsign ≠ []

instance (s : System) : Decidable (InSession c o s) := inferInstanceAs (Decidable (_ ∧ _))

structure PushDue (s : System) : Prop where
  due : s.worker.nextFeedAttempt ≤ s.worker.counter
  free : s.worker.pc ≠ .awaitingPush
  served : s.main.pc = .storeServed → s.plugin.pictureReady = true

/-! ### A request on its way -/

def Ready (s : System) : Prop := s.plugin.pictureReady = true ∨ s.worker.pc = .pushing

def Asked (s : System) : Prop := s.plugin.pictureRequested = true ∨ Ready s

def capturing : MainPc → Bool
  | .capture | .storePicture | .storeReady => true
  | _ => false

def Coming (s : System) : Prop := capturing s.main.pc = true ∨ Ready s

theorem ready_main {s : System} (a : MainAction) (ready : Ready s) : Ready (mainEffect s a) := by
  unfold Ready
  rw [mainEffect_worker]
  refine ready.imp_left fun ready => ?_
  cases a with
  | storeReady => rfl
  | _ => exact ready

theorem asked_main {s : System} (a : MainAction) (pc : s.main.pc = a.pc) (due : PushDue s) (asked : Asked s) :
    Asked (mainEffect s a) := by
  rcases asked with requested | ready
  · cases a with
    | storeServed => exact Or.inr (ready_main _ (Or.inl (due.served pc)))
    | _ => exact Or.inl requested
  · exact Or.inr (ready_main a ready)

theorem coming_main {s : System} {a : MainAction} (pc : s.main.pc = a.pc) (coming : Coming s) :
    Coming (mainEffect s a) := by
  rcases coming with capture | ready
  · rw [pc] at capture
    cases a with
    | capture targets | storePicture => exact Or.inl rfl
    | storeReady => exact Or.inr (Or.inl rfl)
    | _ => contradiction
  · exact Or.inr (ready_main a ready)

theorem coming_served {s : System} (asked : Asked s) : Coming (mainEffect s .servePicture) := by
  rcases asked with requested | ready
  · exact Or.inl (by simp [mainEffect, requested, capturing])
  · exact Or.inr (ready_main _ ready)

theorem pushDue_main {s : System} (a : MainAction) (pc : s.main.pc = a.pc) (before : PushDue s) :
    PushDue (mainEffect s a) := by
  obtain ⟨due, free, served⟩ := before
  refine ⟨?_, ?_, fun publishing => ?_⟩
  · rw [mainEffect_worker]
    exact due
  · rw [mainEffect_worker]
    exact free
  · cases a with
    | storeReady => rfl
    | compileCommand line | functionCall call | flight fp answer => exact served publishing
    | applyAssignments =>
      simp only [mainEffect, MainThread.afterSweep] at publishing
      repeat' split at publishing
      all_goals contradiction
    | forgetAbsent =>
      simp only [mainEffect, MainThread.afterSweep] at publishing
      split at publishing <;> contradiction
    | servePicture =>
      simp only [mainEffect] at publishing
      split at publishing <;> contradiction
    | _ => contradiction

section
variable [Secret]

theorem ready_worker {s : System} {a : WorkerAction} (pc : s.worker.pc = a.pc) (other : a ≠ .push)
    (ready : Ready s) : Ready (workerEffect s a) := by
  have ready : s.plugin.pictureReady = true := by
    refine ready.resolve_right fun pushing => ?_
    rw [pc] at pushing
    cases a <;> contradiction
  cases a with
  | takePicture => exact Or.inr (by simp [workerEffect, ready])
  | _ => exact Or.inl ready

theorem asked_worker {s : System} {a : WorkerAction} (pc : s.worker.pc = a.pc) (other : a ≠ .push)
    (asked : Asked s) : Asked (workerEffect s a) := by
  rcases asked with requested | ready
  · cases a with
    | requestPicture => exact Or.inl rfl
    | _ => exact Or.inl requested
  · exact Or.inr (ready_worker pc other ready)

theorem pushDue_worker {s : System} {a : WorkerAction} (pc : s.worker.pc = a.pc) (lock : s.mayLock a = true)
    (other : a ≠ .push) (before : PushDue s) : PushDue (workerEffect s a) := by
  have counted : s.worker.counter ≤ (workerEffect s a).worker.counter := by
    rcases worker_moves pc with on | finish
    · exact on.counter.ge
    · exact finish.counter ▸ Nat.le_succ _
  constructor
  · have same : (workerEffect s a).worker.nextFeedAttempt = s.worker.nextFeedAttempt := by
      cases a with
      | pushReplied reply => exact absurd pc before.free
      | loadOverride =>
        simp only [workerEffect, WorkerThread.begin_eq]
        split <;> rfl
      | loadConnection => simp [workerEffect, WorkerThread.begin_eq]
      | _ => rfl
    exact same ▸ before.due.trans counted
  · cases a with
    | push => exact absurd rfl other
    | takePicture =>
      simp only [workerEffect]
      split <;> simp
    | requestPicture => exact s.worker.afterFeed_ne_awaitingPush
    | _ => exact (feeding_after rfl).2
  · rw [workerEffect_main]
    intro publishing
    have ready := before.served publishing
    cases a with
    | takePicture =>
      simp [System.mayLock, MainThread.locksPicture, publishing] at lock
    | _ => exact ready

theorem pushDue_step {s : System} {a : Action} (on : plugin.enabled s a = true) (other : a ≠ .worker .push)
    (before : PushDue s) : PushDue (plugin.effect s a) := by
  cases a with
  | main a => exact pushDue_main a (enabled_main on).2 before
  | elapse duration => exact ⟨before.due, before.free, before.served⟩
  | worker a =>
    obtain ⟨-, pc, -, lock⟩ := enabled_worker on
    exact pushDue_worker pc lock (fun same => other (same ▸ rfl)) before

theorem asked_step {s : System} {a : Action} (on : plugin.enabled s a = true) (other : a ≠ .worker .push)
    (due : PushDue s) (before : Asked s) : Asked (plugin.effect s a) := by
  cases a with
  | main a => exact asked_main a (enabled_main on).2 due before
  | elapse duration => exact before
  | worker a => exact asked_worker (enabled_worker on).2.1 (fun same => other (same ▸ rfl)) before

theorem coming_step {s : System} {a : Action} (on : plugin.enabled s a = true) (other : a ≠ .worker .push)
    (before : Coming s) : Coming (plugin.effect s a) := by
  cases a with
  | main a => exact coming_main (enabled_main on).2 before
  | elapse duration => exact before
  | worker a =>
    rcases before with capture | ready
    · refine Or.inl ?_
      rw [effect_worker, workerEffect_main]
      exact capture
    · exact Or.inr (ready_worker (enabled_worker on).2.1 (fun same => other (same ▸ rfl)) ready)

/-! ### An iteration that looks for a picture -/

omit [Secret] in
theorem Seeking.fresh {w : WorkerThread} (top : w.pc = .loopTop) : Seeking c o w :=
  ⟨Keeps.fresh (Or.inl top), by simp [top, hasCallsign, hasMode], by simp [top, seeking]⟩

omit [Secret] in
theorem Seeking.takes {w : WorkerThread} (before : Seeking c o w) (has : hasCallsign w.pc = true)
    (due : w.nextFeedAttempt ≤ w.counter) : w.afterRequests = .takePicture := by
  have mode : w.mode = .sweatbox := before.keeps.mode (by cases h : w.pc <;> simp_all [hasCallsign, hasMode])
  simp [WorkerThread.afterRequests, WorkerThread.feeds, mode, before.named has, due]

/-- An iteration of the session comes to look for a picture before it ends. -/
theorem seeks {s : System} {a : WorkerAction} (pc : s.worker.pc = a.pc) (session : InSession c o s)
    (due : s.worker.nextFeedAttempt ≤ s.worker.counter)
    (before : Seeking c o s.worker) (other : a ≠ .takePicture) :
    Seeking c o (workerEffect s a).worker ∧ (workerEffect s a).worker.counter = s.worker.counter := by
  obtain ⟨holds, named⟩ := session
  have keeps := keeps_worker pc holds before.keeps
  have place := before.place
  have signed : hasCallsign a.pc = true → s.worker.userCallsign ≠ [] := fun has => before.named (pc ▸ has)
  have online : s.plugin.connectionMode ≠ .offline := by
    intro offline
    have resolved : s.plugin.resolveMode = .sweatbox := holds.2
    simp [Plugin.resolveMode, resolveMode, offline] at resolved
  rw [pc] at place
  cases a with
  | loopTop =>
    refine ⟨⟨keeps, ?_, ?_⟩, rfl⟩
    all_goals
      simp only [workerEffect, if_neg online]
      split <;> simp [hasCallsign, hasMode, seeking]
  | loadOverride =>
    simp only [workerEffect, WorkerThread.begin_eq] at keeps ⊢
    refine ⟨⟨keeps, ?_, ?_⟩, ?_⟩
    all_goals split <;> simp [hasCallsign, hasMode, seeking]
  | loadConnection =>
    simp only [workerEffect, WorkerThread.begin_eq] at keeps ⊢
    exact ⟨⟨keeps, by simp [hasCallsign], rfl⟩, trivial⟩
  | readCallsign =>
    refine ⟨⟨keeps, fun _ => named, ?_⟩, rfl⟩
    simp [workerEffect, named, seeking]
  | guardOverride | guardConnection =>
    refine ⟨⟨keeps, fun _ => signed rfl, ?_⟩, rfl⟩
    simp only [workerEffect]
    split <;> rfl
  | probed reply => exact ⟨⟨keeps, fun _ => signed rfl, rfl⟩, rfl⟩
  | checkController =>
    have takes := before.takes (by rw [pc]; rfl) due
    refine ⟨⟨keeps, fun _ => signed rfl, ?_⟩, ?_⟩
    all_goals
      simp only [workerEffect, takes, WorkerThread.goTo]
      split <;> simp [seeking]
  | drain => exact ⟨⟨keeps, fun _ => signed rfl, rfl⟩, rfl⟩
  | send callsign =>
    refine ⟨⟨keeps, fun _ => signed rfl, ?_⟩, rfl⟩
    simp only [workerEffect]
    split <;> rfl
  | assignReplied reply => exact ⟨⟨keeps, fun _ => signed rfl, rfl⟩, rfl⟩
  | allSent =>
    have takes := before.takes (by rw [pc]; rfl) due
    refine ⟨⟨keeps, fun _ => signed rfl, ?_⟩, ?_⟩
    all_goals simp [workerEffect, takes, WorkerThread.goTo, seeking]
  | takePicture => exact absurd rfl other
  | _ => contradiction

/-- Iteration `n` goes on, or the one after is still to look for a picture. -/
def Sought (c : NetworkMode) (o : ModeOverride) (n : Nat) (w : WorkerThread) : Prop :=
  w.counter ≤ n ∨ w.counter = n + 1 ∧ Seeking c o w

theorem sought_worker {s : System} {a : WorkerAction} {n : Nat} (pc : s.worker.pc = a.pc)
    (session : InSession c o s)
    (due : s.worker.nextFeedAttempt ≤ s.worker.counter) (before : Sought c o n s.worker) :
    Sought c o n (workerEffect s a).worker ∨ a = .takePicture ∧ (workerEffect s a).worker.counter ≤ n + 1 := by
  rcases before with early | ⟨last, seeking⟩
  · refine Or.inl ?_
    rcases worker_moves pc with on | finish
    · exact Or.inl (on.counter.le.trans early)
    · have counter := finish.counter
      by_cases done : s.worker.counter + 1 ≤ n
      · exact Or.inl (by omega)
      · exact Or.inr ⟨by omega, Seeking.fresh finish.top⟩
  · by_cases takes : a = .takePicture
    · subst takes
      exact Or.inr ⟨rfl, last.le⟩
    · obtain ⟨still, counter⟩ := seeks pc session due seeking takes
      exact Or.inl (Or.inr ⟨counter.trans last, still⟩)

/-! ### Asking, and being served -/

/-- Until the second end of an iteration, unless the picture has been asked for. -/
def Asking (c : NetworkMode) (o : ModeOverride) (n : Nat) (s : System) : Prop :=
  Asked s ∨ Sought c o n s.worker ∨ s.worker.pc = .requestPicture ∧ s.worker.counter ≤ n + 1

theorem asking_step {s : System} {a : Action} {n : Nat} (on : plugin.enabled s a = true)
    (session : InSession c o s) (other : a ≠ .worker .push) (due : PushDue s)
    (before : Asking c o n s) : Asking c o n (plugin.effect s a) := by
  rcases before with asked | before
  · exact Or.inl (asked_step on other due asked)
  cases a with
  | main a =>
    refine Or.inr ?_
    rw [effect_main, mainEffect_worker]
    exact before
  | elapse duration => exact Or.inr before
  | worker a =>
    have pc := (enabled_worker on).2.1
    rcases before with sought | ⟨here, within⟩
    · rcases sought_worker pc session due.due sought with still | ⟨rfl, within⟩
      · exact Or.inr (Or.inl still)
      · cases ready : s.plugin.pictureReady with
        | true => exact Or.inl (Or.inr (Or.inr (by simp [workerEffect, ready])))
        | false => exact Or.inr (Or.inr ⟨by simp [workerEffect, ready], within⟩)
    · rw [pc] at here
      cases a with
      | requestPicture => exact Or.inl (Or.inl rfl)
      | _ => contradiction

/-- Until the second end of an iteration, with a picture to take. -/
def Taking (c : NetworkMode) (o : ModeOverride) (n : Nat) (s : System) : Prop :=
  Ready s ∧ Sought c o n s.worker ∨ s.worker.pc = .pushing ∧ s.worker.counter ≤ n + 1

theorem taking_step {s : System} {a : Action} {n : Nat} (on : plugin.enabled s a = true)
    (session : InSession c o s) (other : a ≠ .worker .push) (due : PushDue s)
    (before : Taking c o n s) : Taking c o n (plugin.effect s a) := by
  cases a with
  | main a =>
    have worker : (mainEffect s a).worker = s.worker := mainEffect_worker s a
    rcases before with ⟨ready, sought⟩ | pushing
    · exact Or.inl ⟨ready_main a ready, worker.symm ▸ sought⟩
    · exact Or.inr (worker.symm ▸ pushing)
  | elapse duration => exact before
  | worker a =>
    have pc := (enabled_worker on).2.1
    have unpushed : a ≠ .push := fun same => other (same ▸ rfl)
    rcases before with ⟨ready, sought⟩ | ⟨pushing, -⟩
    · rcases sought_worker pc session due.due sought with still | ⟨rfl, within⟩
      · exact Or.inl ⟨ready_worker pc unpushed ready, still⟩
      · have there : s.plugin.pictureReady = true := by
          refine ready.resolve_right fun pushing => ?_
          rw [pc] at pushing
          contradiction
        exact Or.inr ⟨by simp [workerEffect, there], within⟩
    · rw [pc] at pushing
      cases a <;> contradiction

theorem asked_by {s : System} {actions : List Action} (due : PushDue s)
    (session : plugin.AlongFrom (fun s _ => InSession c o s) s actions)
    (passed : s.worker.counter + 2 ≤ (plugin.runFrom s actions).worker.counter) :
    plugin.TakesFrom (fun _ a => a = .worker .push) s actions ∨
      PushDue (plugin.runFrom s actions) ∧ Asked (plugin.runFrom s actions) := by
  have start : PushDue s ∧ Asking c o s.worker.counter s := ⟨due, Or.inr (Or.inl (Or.inl (Nat.le_refl _)))⟩
  have waits := Machine.waits (m := plugin) (P := fun s' => PushDue s' ∧ Asking c o s.worker.counter s')
    (fun s' a on session other holds =>
      ⟨pushDue_step on other holds.1, asking_step on session other holds.1 holds.2⟩) session start
  refine waits.imp_right fun ⟨due, asking⟩ => ⟨due, asking.resolve_right ?_⟩
  rintro ((early | ⟨last, -⟩) | ⟨-, within⟩) <;> omega

theorem ready_by {s : System} {actions : List Action} (due : PushDue s) (asked : Asked s)
    (serves : plugin.TakesFrom (fun _ a => a = .main .servePicture) s actions)
    (returns : (plugin.runFrom s actions).main.pc = .idle) :
    plugin.TakesFrom (fun _ a => a = .worker .push) s actions ∨
      PushDue (plugin.runFrom s actions) ∧ Ready (plugin.runFrom s actions) := by
  have waits := Machine.waits_through (m := plugin) (C := fun _ _ => True) (E := fun _ a => a = .worker .push)
    (F := fun _ a => a = .main .servePicture) (P := fun s => PushDue s ∧ Asked s)
    (Q := fun s => PushDue s ∧ Coming s)
    (fun s a on _ other holds => ⟨pushDue_step on other holds.1, asked_step on other holds.1 holds.2⟩)
    (fun s a on _ other serves holds => by
      obtain rfl := serves
      exact ⟨pushDue_step on other holds.1, coming_served holds.2⟩)
    (fun s a on _ other holds => ⟨pushDue_step on other holds.1, coming_step on other holds.2⟩)
    (Machine.alongFrom_true s actions) ⟨due, asked⟩ serves
  refine waits.imp_right fun ⟨due, coming⟩ => ⟨due, coming.resolve_left ?_⟩
  simp [returns, capturing]

theorem taken_by {s : System} {actions : List Action} (due : PushDue s)
    (ready : Ready s) (session : plugin.AlongFrom (fun s _ => InSession c o s) s actions)
    (passed : s.worker.counter + 2 ≤ (plugin.runFrom s actions).worker.counter) :
    plugin.TakesFrom (fun _ a => a = .worker .push) s actions := by
  have start : PushDue s ∧ Taking c o s.worker.counter s := ⟨due, Or.inl ⟨ready, Or.inl (Nat.le_refl _)⟩⟩
  have waits := Machine.waits (m := plugin) (P := fun s' => PushDue s' ∧ Taking c o s.worker.counter s')
    (fun s' a on session other holds =>
      ⟨pushDue_step on other holds.1, taking_step on session other holds.1 holds.2⟩) session start
  refine waits.resolve_right fun ⟨_, taking⟩ => ?_
  rcases taking with ⟨-, early | ⟨last, -⟩⟩ | ⟨-, within⟩ <;> omega

/-- While the mode is Sweatbox, by whatever input, and a push is due, two ends of an iteration, one
`OnTimer` that serves and two further ends of an iteration bring it, however the steps of the two threads
interleave. -/
theorem picture_pushed (c : NetworkMode) (o : ModeOverride)
    (past asking serving taking : List Action)
    (due : (plugin.run past).worker.nextFeedAttempt ≤ (plugin.run past).worker.counter)
    (free : (plugin.run past).worker.pc ≠ .awaitingPush)
    (session : plugin.AlongFrom (fun s _ => InSession c o s) (plugin.run past) (asking ++ (serving ++ taking)))
    (asks : (plugin.run past).worker.counter + 2 ≤ (plugin.run (past ++ asking)).worker.counter)
    (serves : plugin.TakesFrom (fun _ a => a = .main .servePicture) (plugin.run (past ++ asking)) serving)
    (returns : (plugin.run (past ++ asking ++ serving)).main.pc = .idle)
    (takes : (plugin.run (past ++ asking ++ serving)).worker.counter + 2 ≤
      (plugin.run (past ++ asking ++ serving ++ taking)).worker.counter) :
    plugin.TakesFrom (fun _ a => a = .worker .push) (plugin.run past) (asking ++ (serving ++ taking)) := by
  have served : (plugin.run past).main.pc = .storeServed → (plugin.run past).plugin.pictureReady = true := by
    have known := (kept past).served
    rwa [fed, Machine.observe_run_fst] at known
  obtain ⟨first, later⟩ := Machine.alongFrom_append.mp session
  obtain ⟨-, last⟩ := Machine.alongFrom_append.mp later
  simp only [Machine.run_append] at *
  rw [Machine.takesFrom_append, Machine.takesFrom_append]
  rcases asked_by ⟨due, free, served⟩ first asks with pushed | ⟨due, asked⟩
  · exact Or.inl pushed
  rcases ready_by due asked serves returns with pushed | ⟨due, ready⟩
  · exact Or.inr (Or.inl pushed)
  · exact Or.inr (Or.inr (taken_by due ready last takes))

end

/-! ### A run -/

/-- On an ordinary connection, the live server has denied the callsign until the simulator is inferred. -/
def inferred : List Action := Inference.firstDenial ++ Inference.secondDenial

def twoIterations : List Action := iterations 2 unreachable

def servingTick : List Action :=
  onTimer CONNECTION_TYPE_DIRECT tower ++ [.main .servePicture, .main (.capture []), .main .storePicture,
    .main .storeReady, .main .storeServed]

/-- The picture is pushed and the push answered in the first of two iterations. -/
def pushingIterations : List Action :=
  iteration ++ [.worker .push, .worker (.pushReplied unreachable)] ++ twoIterations

set_option maxRecDepth 100000 in
theorem picture_pushed_inferred :
    (@plugin parisSecret).TakesFrom (fun _ a => a = .worker .push) ((@plugin parisSecret).run inferred)
      (twoIterations ++ (servingTick ++ pushingIterations)) :=
  @picture_pushed parisSecret .live .auto inferred twoIterations servingTick pushingIterations
    (by decide +kernel) (by decide +kernel) (by decide +kernel) (by decide +kernel)
    (Machine.takesFrom_append.mpr (Or.inr (Or.inl ⟨by decide +kernel, rfl⟩))) (by decide +kernel)
    (by decide +kernel)

end CentralSquawk.Feed
