import CentralSquawk.Library.Progress
import CentralSquawk.Wire.Endpoints

/-!
# A mode that is settled

An override, a simulator connection or no connection at all settles the mode
whatever the live server answers. From the iteration after, the worker keeps to it:
its loads are separate, but all of them see the same two values.
-/

namespace CentralSquawk.Wire
open Library Requests

def Stored (connectionMode : NetworkMode) (modeOverride : ModeOverride) (s : System) : Prop :=
  s.plugin.connectionMode = connectionMode ∧ s.plugin.modeOverride = modeOverride

instance (c : NetworkMode) (o : ModeOverride) (s : System) : Decidable (Stored c o s) :=
  inferInstanceAs (Decidable (_ ∧ _))

def Settles (connectionMode : NetworkMode) (modeOverride : ModeOverride) (mode : NetworkMode) : Prop :=
  ∀ inferredSim, resolveMode connectionMode modeOverride inferredSim = mode

instance (c : NetworkMode) (o : ModeOverride) (m : NetworkMode) : Decidable (Settles c o m) :=
  inferInstanceAs (Decidable (∀ _, _))

/-- The two values are stored, and `ResolveMode` makes the mode of them. -/
def Holds (connectionMode : NetworkMode) (modeOverride : ModeOverride) (mode : NetworkMode) (s : System) : Prop :=
  Stored connectionMode modeOverride s ∧ s.plugin.resolveMode = mode

instance (c : NetworkMode) (o : ModeOverride) (m : NetworkMode) (s : System) : Decidable (Holds c o m s) :=
  inferInstanceAs (Decidable (_ ∧ _))

/-- Where an iteration that has only seen the two values may be. -/
structure Keeps (connectionMode : NetworkMode) (modeOverride : ModeOverride) (mode : NetworkMode)
    (w : WorkerThread) : Prop where
  offline : w.pc = .goOffline → connectionMode = .offline
  online : resolving w.pc → connectionMode ≠ .offline
  auto : w.pc = .loadConnection ∨ w.pc = .guardConnection → modeOverride = .auto
  mode : hasMode w.pc = true → w.mode = mode

variable {c : NetworkMode} {o : ModeOverride} {m : NetworkMode}

theorem Keeps.fresh {w : WorkerThread} (pc : w.pc = .loopTop ∨ w.pc = .exited) : Keeps c o m w := by
  rcases pc with pc | pc <;> constructor <;> simp [pc, resolving, hasMode]

theorem Settles.offline (settles : Settles .offline o m) : m = .offline := (settles false).symm

theorem Settles.holds {s : System} (settles : Settles c o m) (stored : Stored c o s) : Holds c o m s := by
  refine ⟨stored, ?_⟩
  rw [Plugin.resolveMode, stored.1, stored.2]
  exact settles s.plugin.inferredSim

theorem Settles.not_live (settles : Settles c .auto m) : c ≠ .live := by
  rintro rfl
  have no := settles false
  have yes := settles true
  simp only [resolveMode] at no yes
  rw [← no] at yes
  simp at yes

theorem Keeps.further {w w' : WorkerThread} (before : Keeps c o m w) (has : hasMode w.pc = true)
    (same : w'.mode = w.mode) (on : hasMode w'.pc = true) (unguarded : w'.pc ≠ .guardConnection) :
    Keeps c o m w' where
  offline here := by simp [here, hasMode] at on
  online here := by rcases here with here | here <;> simp [here, hasMode] at on
  auto here := by
    rcases here with here | here
    · simp [here, hasMode] at on
    · exact absurd here unguarded
  mode _ := same.trans (before.mode has)

theorem Keeps.goTo {w w' : WorkerThread} {pc : WorkerPc} (before : Keeps c o m w) (has : hasMode w.pc = true)
    (same : w'.mode = w.mode) (later : pc = .loopTop ∨ 0 < reached pc) : Keeps c o m (w'.goTo pc) := by
  by_cases last : pc = .loopTop
  · exact Keeps.fresh (Or.inl last)
  · have on := later.resolve_left last
    refine before.further has (by simp [WorkerThread.goTo, same]) ?_ ?_
    · show hasMode pc = true
      cases pc <;> first | rfl | simp [reached] at on
    · rintro here
      have : pc = .guardConnection := here
      simp [this, reached] at on

theorem afterFeed_later (w : WorkerThread) : w.afterFeed = .loopTop ∨ 0 < reached w.afterFeed := by
  by_cases last : w.afterFeed = .loopTop
  · exact Or.inl last
  · exact Or.inr (by rw [reached_afterFeed w last]; exact Nat.succ_pos 2)

theorem afterRequests_later (w : WorkerThread) : w.afterRequests = .loopTop ∨ 0 < reached w.afterRequests := by
  by_cases last : w.afterRequests = .loopTop
  · exact Or.inl last
  · exact Or.inr (Nat.lt_of_lt_of_le Nat.zero_lt_two (reached_afterRequests w last))

section
variable [Secret]

theorem keeps_loads {s : System} {a : WorkerAction} (pc : s.worker.pc = a.pc) (holds : Holds c o m s)
    (before : Keeps c o m s.worker) (loads : a = .loopTop ∨ a = .loadOverride ∨ a = .loadConnection) :
    Keeps c o m (workerEffect s a).worker := by
  obtain ⟨⟨connection, override⟩, resolved⟩ := holds
  rw [Plugin.resolveMode, connection, override] at resolved
  have begun : ∀ mode, mode = m → Keeps c o m (s.worker.begin mode) := by
    intro mode same
    rw [WorkerThread.begin_eq]
    exact ⟨by simp, by simp [resolving], by simp, fun _ => same⟩
  rcases loads with rfl | rfl | rfl
  · simp only [workerEffect, connection]
    split
    · exact Keeps.fresh (Or.inr rfl)
    split
    · rename_i offline
      exact ⟨fun _ => offline, by simp [resolving], by simp, by simp [hasMode]⟩
    · rename_i online
      exact ⟨by simp, fun _ => online, by simp, by simp [hasMode]⟩
  · have online := before.online (Or.inl pc)
    rw [resolveMode.eq_def, if_neg online] at resolved
    simp only [workerEffect, override]
    cases o with
    | forceSim => exact begun .sweatbox resolved
    | forceLive => exact begun .live resolved
    | auto => exact ⟨by simp, fun _ => online, fun _ => rfl, by simp [hasMode]⟩
  · have online := before.online (Or.inr pc)
    obtain rfl := before.auto (Or.inl pc)
    rw [resolveMode, if_neg online] at resolved
    refine begun s.plugin.autoMode ?_
    rw [Plugin.autoMode, connection]
    exact resolved

theorem keeps_worker {s : System} {a : WorkerAction} (pc : s.worker.pc = a.pc) (holds : Holds c o m s)
    (before : Keeps c o m s.worker) : Keeps c o m (workerEffect s a).worker := by
  have has : hasMode s.worker.pc = hasMode a.pc := congrArg hasMode pc
  cases a with
  | loopTop | loadOverride | loadConnection => exact keeps_loads pc holds before (by simp)
  | goOffline => exact Keeps.fresh (Or.inl rfl)
  | readCallsign | guardConnection | send callsign | takePicture =>
    refine before.further has rfl ?_ ?_
    all_goals
      simp only [workerEffect]
      split
    all_goals first | rfl | simp
  | guardOverride =>
    simp only [workerEffect]
    split
    · rename_i auto
      exact ⟨by simp, by simp [resolving], fun _ => holds.1.2.symm.trans auto, fun _ => before.mode has⟩
    · exact before.further has rfl rfl (by simp)
  | checkController =>
    refine before.goTo has rfl ?_
    split
    · exact Or.inr Nat.zero_lt_one
    · exact afterRequests_later s.worker
  | allSent => exact before.goTo has rfl (afterRequests_later s.worker)
  | pushReplied reply | requestPicture => exact before.goTo has rfl (afterFeed_later s.worker)
  | fetched reply => exact Keeps.fresh (Or.inl rfl)
  | probed reply | drain | assignReplied | push => exact before.further has rfl rfl (by simp [workerEffect])

theorem unasked_worker {s : System} {a : WorkerAction} (pc : s.worker.pc = a.pc) (stored : Stored c o s)
    (settles : Settles c o m) (before : Keeps c o m s.worker) : (workerEffect s a).worker.pc ≠ .probing := by
  intro under
  obtain ⟨rfl, live, -⟩ := probing_after under
  obtain rfl := before.auto (Or.inr pc)
  exact settles.not_live (stored.1.symm.trans live)

/-! ### Runs in which the two values stay -/

/-- The number of the first iteration that has not begun. -/
def upcoming (w : WorkerThread) : Nat := if w.pc = .loopTop then w.counter else w.counter + 1

/-- From iteration `k` on, everything logged is of the settled mode. -/
structure Kept (c : NetworkMode) (o : ModeOverride) (m : NetworkMode) (k : Nat) (s : System) (h : Log) :
    Prop where
  stored : Stored c o s
  resolved : Resolved s.worker h.modes
  keeps : k ≤ s.worker.counter → Keeps c o m s.worker ∧ s.worker.pc ≠ .probing
  modes : ∀ n mode, k ≤ n → h.modes[n]? = some mode → mode = m
  unasked : ∀ call ∈ h.calls, k ≤ call.iteration → call.path ≠ .network

omit [Secret] in
theorem Kept.resolves {s : System} {h : Log} {k n : Nat} {a : WorkerAction} {mode : NetworkMode}
    (before : Kept c o m k s h) (settles : Settles c o m) (pc : s.worker.pc = a.pc) (past : k ≤ n)
    (there : (h.modes ++ Wire.resolved s a)[n]? = some mode) : mode = m := by
  by_cases old : n < h.modes.length
  · rw [List.getElem?_append_left old] at there
    exact before.modes n mode past there
  rw [List.getElem?_append_right (Nat.le_of_not_lt old)] at there
  have new := List.mem_of_getElem? there
  obtain ⟨index, -⟩ := List.getElem?_eq_some_iff.mp there
  have length := before.resolved.length
  cases a with
  | goOffline =>
    have this : n = s.worker.counter := by
      simp [pc, WorkerAction.pc, hasCallsign, hasMode, Wire.resolved] at length index
      omega
    obtain rfl := (before.keeps (this ▸ past)).1.offline pc
    rw [settles.offline]
    exact List.mem_singleton.mp new
  | readCallsign =>
    have this : n = s.worker.counter := by
      simp [pc, WorkerAction.pc, hasCallsign, Wire.resolved] at length index
      omega
    rw [← (before.keeps (this ▸ past)).1.mode (by rw [pc]; rfl)]
    exact List.mem_singleton.mp new
  | _ => contradiction

theorem kept_worker {s : System} {h : Log} {k : Nat} {a : WorkerAction} (pc : s.worker.pc = a.pc)
    (settles : Settles c o m) (stored : Stored c o (workerEffect s a)) (before : Kept c o m k s h) :
    Kept c o m k (workerEffect s a) (h.next s (.worker a)) := by
  refine ⟨stored, resolved_worker pc before.resolved, fun past => ?_, ?_, ?_⟩
  · rcases worker_moves pc with on | finish
    · have keeps := (before.keeps (on.counter ▸ past)).1
      exact ⟨keeps_worker pc (settles.holds before.stored) keeps, unasked_worker pc before.stored settles keeps⟩
    · exact ⟨Keeps.fresh (Or.inl finish.top), by simp [finish.top]⟩
  · exact fun n mode past there => before.resolves settles pc past there
  · intro call member past asked
    rcases List.mem_append.mp member with old | new
    · exact before.unasked call old past asked
    · cases a with
      | probed reply =>
        obtain rfl := List.mem_singleton.mp new
        exact (before.keeps past).2 pc
      | send callsign | push =>
        rw [made] at new
        split at new
        · obtain rfl := List.mem_singleton.mp new
          contradiction
        · contradiction
      | fetched reply =>
        obtain rfl := List.mem_singleton.mp new
        contradiction
      | _ => contradiction

theorem kept_step {s : System} {h : Log} {k : Nat} {a : Action} (on : plugin.enabled s a = true)
    (settles : Settles c o m) (stored : Stored c o (plugin.effect s a)) (before : Kept c o m k s h) :
    Kept c o m k (plugin.effect s a) (h.next s a) := by
  cases a with
  | worker a => exact kept_worker (enabled_worker on).2.1 settles stored before
  | elapse duration => exact ⟨stored, before.resolved, before.keeps, before.modes, before.unasked⟩
  | main a =>
    have same : (mainEffect s a).worker = s.worker := mainEffect_worker s a
    exact ⟨stored, same ▸ before.resolved, same ▸ before.keeps, before.modes, before.unasked⟩

omit [Secret] in
theorem kept_upcoming {s : System} {h : Log} (stored : Stored c o s) (resolved : Resolved s.worker h.modes)
    (inOrder : InOrder s.worker h.calls) : Kept c o m (upcoming s.worker) s h := by
  have length := resolved.length
  by_cases top : s.worker.pc = .loopTop
  · rw [upcoming, if_pos top]
    refine ⟨stored, resolved, fun _ => ⟨Keeps.fresh (Or.inl top), by simp [top]⟩, ?_, ?_⟩
    · intro n mode past there
      obtain ⟨within, -⟩ := List.getElem?_eq_some_iff.mp there
      simp [top, hasCallsign, hasMode] at length
      omega
    · intro call member past
      rcases inOrder.past call member with earlier | ⟨-, behind⟩
      · omega
      · simp [top, reached] at behind
  · rw [upcoming, if_neg top]
    refine ⟨stored, resolved, fun past => absurd past (Nat.not_succ_le_self _), ?_, ?_⟩
    · intro n mode past there
      obtain ⟨within, -⟩ := List.getElem?_eq_some_iff.mp there
      split at length <;> omega
    · intro call member past
      rcases inOrder.past call member with earlier | ⟨this, -⟩
      · omega
      · omega

structure OnlyOf (mode : NetworkMode) (k : Nat) (h : Log) : Prop where
  modes : ∀ n resolved, k ≤ n → h.modes[n]? = some resolved → resolved = mode
  calls : ∀ call ∈ h.calls, k ≤ call.iteration → mode ≠ .offline ∧ call.path ≠ .network ∧
    call.endpoint = some (endpointFor mode) ∧ (call.path = .feed → mode = .sweatbox)

/-- While the connection and the override stay what settles a mode, whatever the server answers, every
iteration begun since resolves that mode and calls its server alone, or nobody while offline. -/
theorem settled_mode_is_kept (c : NetworkMode) (o : ModeOverride) (m : NetworkMode) (settles : Settles c o m)
    (before after : List Action) (start : Stored c o (plugin.run before))
    (steady : plugin.AlongFrom (fun s a => Stored c o (plugin.effect s a)) (plugin.run before) after) :
    OnlyOf m (upcoming (plugin.run before).worker) (wired.run (before ++ after)).2 := by
  have same : (wired.run before).1 = plugin.run before := Machine.observe_run_fst before
  have along : wired.AlongFrom (fun x a => Stored c o (plugin.effect x.1 a)) (wired.run before) after :=
    (Machine.alongFrom_observe (m := plugin) (C := fun s a => Stored c o (plugin.effect s a))).mpr
      (same ▸ steady)
  rw [← same] at start ⊢
  have first : Kept c o m (upcoming (wired.run before).1.worker) (wired.run before).1 (wired.run before).2 :=
    kept_upcoming start (modes_resolved before) (inOrder before)
  have kept : Kept c o m (upcoming (wired.run before).1.worker) (wired.run (before ++ after)).1
      (wired.run (before ++ after)).2 := by
    rw [Machine.run_append]
    exact Machine.alongFrom_keeps (m := wired)
      (P := fun x => Kept c o m (upcoming (wired.run before).1.worker) x.1 x.2)
      (fun x a on stored holds => kept_step on settles stored holds) along first
  refine ⟨kept.modes, fun call member past => ?_⟩
  obtain ⟨mode, there, routed⟩ := all_routed (before ++ after) call member
  obtain rfl := kept.modes call.iteration mode past there
  have unasked := kept.unasked call member past
  exact ⟨routed.online, unasked, by simpa [unasked] using routed.endpoint, routed.feed⟩

end

/-! ### A run -/

/-- The command `.centralsquawk mode sim` on an ordinary connection. -/
def forcedSimulator : List Action :=
  onTimer CONNECTION_TYPE_DIRECT tower ++
    [.main (.compileCommand (some (text ".centralsquawk mode sim")))]

/-- An iteration that asks for a picture, the `OnTimer` that serves it, and one that pushes it. -/
def forcedFeed : List Action :=
  iteration ++ [.worker (.fetched unreachable)] ++ onTimer CONNECTION_TYPE_DIRECT tower ++
    [.main .servePicture, .main (.capture []), .main .storePicture, .main .storeReady,
      .main .storeServed] ++ iteration ++ [.worker .push]

set_option maxRecDepth 100000 in
theorem forced_simulator_is_kept :
    (∃ call ∈ ((@wired parisSecret).run (forcedSimulator ++ forcedFeed)).2.calls,
      call.path = .feed) ∧
    (∃ call ∈ ((@wired parisSecret).run (forcedSimulator ++ forcedFeed)).2.calls,
      call.path = .squawks ∧ call.iteration = upcoming ((@plugin parisSecret).run forcedSimulator).worker) ∧
    OnlyOf .sweatbox (upcoming ((@plugin parisSecret).run forcedSimulator).worker)
      ((@wired parisSecret).run (forcedSimulator ++ forcedFeed)).2 :=
  ⟨by decide +kernel, by decide +kernel, @settled_mode_is_kept parisSecret .live .forceSim .sweatbox (by decide)
    forcedSimulator forcedFeed (by decide +kernel) (by decide +kernel)⟩

end CentralSquawk.Wire
