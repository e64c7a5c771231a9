import CentralSquawk.Wire.Calls

/-!
# Where the calls go

An iteration works through one client, chosen for the mode it resolved at its top,
and makes each call only when that call is due.
-/

namespace CentralSquawk.Wire
open Library Requests

/-! ### What is due -/

def feedStage : WorkerPc → Bool
  | .takePicture | .pushing | .awaitingPush | .requestPicture => true
  | _ => false

/-- The worker is only where the counter, its mode and its callsign have let it come. -/
structure Due (w : WorkerThread) : Prop where
  probe : probeStage w.pc = true → w.userCallsign ≠ []
  probing : w.pc = .probing → w.counter % (NETWORK_PROBE_INTERVAL * 10) = 0
  feed : feedStage w.pc = true → w.feeds = true
  fetching : w.pc = .fetching → w.counter % (PERIODIC_FETCH_TIME_INTERVAL * 10) = 0

theorem Due.early {w : WorkerThread} (probe : probeStage w.pc = false) (feed : feedStage w.pc = false)
    (fetching : w.pc ≠ .fetching) : Due w := by
  refine ⟨by simp [probe], fun probing => ?_, by simp [feed], fun here => absurd here fetching⟩
  rw [probing] at probe
  contradiction

theorem due_afterFeed {w w' : WorkerThread} (same : w'.counter = w.counter) :
    Due (w'.goTo w.afterFeed) := by
  unfold WorkerThread.afterFeed
  split
  · rename_i due
    refine ⟨?_, ?_, ?_, fun _ => same ▸ due⟩
    all_goals
      intro other
      contradiction
  · exact Due.early rfl rfl (by simp [WorkerThread.goTo])

theorem due_afterRequests (w : WorkerThread) : Due (w.goTo w.afterRequests) := by
  unfold WorkerThread.afterRequests
  split
  · rename_i feeds
    refine ⟨?_, ?_, fun _ => feeds, ?_⟩
    all_goals
      intro other
      contradiction
  · exact due_afterFeed rfl

section
variable [Secret]

theorem due_worker {s : System} {a : WorkerAction} (pc : s.worker.pc = a.pc) (before : Due s.worker) :
    Due (workerEffect s a).worker := by
  cases a with
  | loopTop =>
    apply Due.early
    all_goals
      simp only [workerEffect]
      repeat' split
    all_goals first | rfl | simp
  | loadOverride =>
    apply Due.early
    all_goals
      simp only [workerEffect, WorkerThread.begin_eq]
      split
    all_goals first | rfl | simp
  | loadConnection => exact Due.early rfl rfl (by simp [workerEffect, WorkerThread.begin_eq])
  | readCallsign =>
    by_cases anonymous : s.plugin.userCallsign = []
    · exact Due.early (by simp [workerEffect, anonymous, probeStage]) (by simp [workerEffect, anonymous, feedStage])
        (by simp [workerEffect, anonymous])
    · refine ⟨fun _ => anonymous, ?_, ?_, ?_⟩
      all_goals simp [workerEffect, anonymous, feedStage]
  | guardOverride =>
    have named := before.probe (by rw [pc]; rfl)
    refine ⟨fun _ => named, ?_, ?_, ?_⟩
    all_goals
      simp only [workerEffect]
      split
    all_goals simp [feedStage]
  | guardConnection =>
    have named := before.probe (by rw [pc]; rfl)
    refine ⟨fun _ => named, fun probing => ?_, ?_, ?_⟩
    · simp only [workerEffect] at probing
      split at probing
      · rename_i asks
        exact asks.2
      · contradiction
    all_goals
      simp only [workerEffect]
      split
    all_goals simp [feedStage]
  | checkController =>
    simp only [workerEffect]
    split
    · exact Due.early rfl rfl (by simp [WorkerThread.goTo])
    · exact due_afterRequests s.worker
  | send callsign =>
    apply Due.early
    all_goals
      simp only [workerEffect]
      split
    all_goals first | rfl | simp
  | allSent => exact due_afterRequests s.worker
  | takePicture | push =>
    have feeds := before.feed (by rw [pc]; rfl)
    refine ⟨?_, ?_, fun _ => feeds, ?_⟩
    all_goals
      simp only [workerEffect]
      try split
    all_goals simp [probeStage]
  | pushReplied reply | requestPicture => exact due_afterFeed rfl
  | _ => exact Due.early rfl rfl (by simp [workerEffect, WorkerThread.goTo])

theorem due : plugin.Invariant (fun s => Due s.worker) := by
  apply Machine.invariant_of_step
  · exact Due.early rfl rfl (by simp [plugin])
  · intro s a on before
    cases a with
    | main a =>
      rw [effect_main, mainEffect_worker]
      exact before
    | elapse duration => exact before
    | worker a => exact due_worker (enabled_worker on).2.1 before

/-! ### The modes of the iterations -/

omit [Secret] in
theorem hasMode_of_hasCallsign {pc : WorkerPc} (has : hasCallsign pc = true) : hasMode pc = true := by
  cases pc <;> first | rfl | contradiction

/-- One mode for each iteration so far, this one's included once it has begun. -/
structure Resolved (w : WorkerThread) (modes : List NetworkMode) : Prop where
  length : modes.length = w.counter + if hasCallsign w.pc then 1 else 0
  current : hasCallsign w.pc = true → modes[w.counter]? = some w.mode

omit [Secret] in
theorem Resolved.outside {w : WorkerThread} {modes : List NetworkMode} (pc : hasCallsign w.pc = false)
    (length : modes.length = w.counter) : Resolved w modes :=
  ⟨by simp [pc, length], by simp [pc]⟩

omit [Secret] in
/-- Inside an iteration, a step goes on or leaves by the end of the loop body. -/
theorem Resolved.goTo {w w' : WorkerThread} {modes : List NetworkMode} {pc : WorkerPc}
    (before : Resolved w modes) (inside : hasCallsign w.pc = true) (counter : w'.counter = w.counter)
    (mode : w'.mode = w.mode) (later : pc = .loopTop ∨ hasCallsign pc = true) :
    Resolved (w'.goTo pc) modes := by
  have length : modes.length = w.counter + 1 := by simpa [inside] using before.length
  by_cases last : pc = .loopTop
  · subst last
    exact Resolved.outside rfl (by simp [WorkerThread.goTo, counter, length])
  · have on : hasCallsign pc = true := later.resolve_left last
    refine ⟨by simp [WorkerThread.goTo, last, on, counter, length], fun _ => ?_⟩
    simpa [WorkerThread.goTo, last, counter, mode] using before.current inside

omit [Secret] in
theorem afterFeed_within (w : WorkerThread) : w.afterFeed = .loopTop ∨ hasCallsign w.afterFeed = true := by
  unfold WorkerThread.afterFeed
  split
  · exact Or.inr rfl
  · exact Or.inl rfl

omit [Secret] in
theorem afterRequests_within (w : WorkerThread) :
    w.afterRequests = .loopTop ∨ hasCallsign w.afterRequests = true := by
  unfold WorkerThread.afterRequests
  split
  · exact Or.inr rfl
  · exact afterFeed_within w

omit [Secret] in
theorem Resolved.within {w w' : WorkerThread} {modes : List NetworkMode} (before : Resolved w modes)
    (inside : hasCallsign w.pc = true) (counter : w'.counter = w.counter) (mode : w'.mode = w.mode)
    (on : hasCallsign w'.pc = true) : Resolved w' modes := by
  have length : modes.length = w.counter + 1 := by simpa [inside] using before.length
  refine ⟨by simp [on, counter, length], fun _ => ?_⟩
  rw [counter, mode]
  exact before.current inside

theorem resolved_worker_other {s : System} {modes : List NetworkMode} {a : WorkerAction}
    (pc : s.worker.pc = a.pc) (before : Resolved s.worker modes) (other : resolved s a = []) :
    Resolved (workerEffect s a).worker modes := by
  have here : hasCallsign s.worker.pc = hasCallsign a.pc := congrArg hasCallsign pc
  have early : hasCallsign s.worker.pc = false → modes.length = s.worker.counter := by
    intro outside
    simpa [outside] using before.length
  cases a with
  | goOffline | readCallsign => contradiction
  | loopTop =>
    refine Resolved.outside ?_ (early here)
    simp only [workerEffect]
    repeat' split
    all_goals rfl
  | loadOverride =>
    simp only [workerEffect, WorkerThread.begin_eq]
    split
    all_goals exact Resolved.outside rfl (early here)
  | loadConnection =>
    simp only [workerEffect, WorkerThread.begin_eq]
    exact Resolved.outside rfl (early here)
  | checkController =>
    refine before.goTo here rfl rfl ?_
    split
    · exact Or.inr rfl
    · exact afterRequests_within s.worker
  | allSent => exact before.goTo here rfl rfl (afterRequests_within s.worker)
  | pushReplied reply | requestPicture => exact before.goTo here rfl rfl (afterFeed_within s.worker)
  | fetched reply => exact before.goTo here rfl rfl (Or.inl rfl)
  | guardOverride | guardConnection | send | takePicture =>
    refine before.within here rfl rfl ?_
    simp only [workerEffect]
    split <;> rfl
  | probed | drain | assignReplied | push => exact before.within here rfl rfl rfl

theorem resolved_worker {s : System} {h : Log} {a : WorkerAction} (pc : s.worker.pc = a.pc)
    (before : Resolved s.worker h.modes) :
    Resolved (workerEffect s a).worker (h.next s (.worker a)).modes := by
  have early : hasCallsign a.pc = false → h.modes.length = s.worker.counter := by
    intro outside
    simpa [pc, outside] using before.length
  cases a with
  | goOffline =>
    have length := early rfl
    exact Resolved.outside rfl (by simp [Log.next, resolved, workerEffect, WorkerThread.goTo, length])
  | readCallsign =>
    have length := early rfl
    have after : hasCallsign (workerEffect s .readCallsign).worker.pc = true := by
      simp only [workerEffect]
      split <;> rfl
    refine ⟨?_, fun _ => ?_⟩
    · rw [after]
      simp [Log.next, resolved, length, workerEffect]
    · simp [Log.next, resolved, workerEffect, ← length]
  | _ =>
    show Resolved _ (h.modes ++ [])
    rw [List.append_nil]
    exact resolved_worker_other pc before rfl

theorem modes_resolved : wired.Invariant (fun x => Resolved x.1.worker x.2.modes) := by
  apply Machine.invariant_of_step
  · exact Resolved.outside rfl rfl
  · rintro ⟨s, h⟩ a on before
    cases a with
    | main a =>
      have same : (mainEffect s a).worker = s.worker := mainEffect_worker s a
      show Resolved (mainEffect s a).worker h.modes
      rw [same]
      exact before
    | elapse duration => exact before
    | worker a => exact resolved_worker (enabled_worker on).2.1 before

/-! ### The calls -/

structure Routed (c : Call) (mode : NetworkMode) : Prop where
  online : mode ≠ .offline
  endpoint : c.endpoint = some (if c.path = .network then liveEndpoint else endpointFor mode)
  feed : c.path = .feed → mode = .sweatbox
  probe : c.path = .network → c.iteration % (NETWORK_PROBE_INTERVAL * 10) = 0
  fetch : c.path = .squawks → c.iteration % (PERIODIC_FETCH_TIME_INTERVAL * 10) = 0

theorem made_inside {s : System} {a : WorkerAction} {c : Call} (pc : s.worker.pc = a.pc)
    (member : c ∈ made s a) : hasCallsign s.worker.pc = true := by
  rw [pc]
  cases a <;> first | rfl | contradiction

theorem made_routed {s : System} {a : WorkerAction} {c : Call} (pc : s.worker.pc = a.pc)
    (due : Due s.worker)
    (client : s.worker.builtFor = some (endpointFor s.worker.mode) ∧ s.worker.mode ≠ .offline)
    (member : c ∈ made s a) : Routed c s.worker.mode ∧ c.iteration = s.worker.counter := by
  obtain ⟨built, online⟩ := client
  cases a with
  | probed reply =>
    obtain rfl := List.mem_singleton.mp member
    have asked := due.probing pc
    exact ⟨⟨online, by simp, by simp, fun _ => asked, by simp⟩, rfl⟩
  | send callsign =>
    rw [made] at member
    split at member
    · obtain rfl := List.mem_singleton.mp member
      exact ⟨⟨online, by simp [built], by simp, by simp, by simp⟩, rfl⟩
    · contradiction
  | push =>
    rw [made] at member
    split at member
    · obtain rfl := List.mem_singleton.mp member
      have feeds := due.feed (by rw [pc]; rfl)
      have sweatbox : s.worker.mode = .sweatbox := by
        simp only [WorkerThread.feeds, Bool.and_eq_true, decide_eq_true_eq] at feeds
        exact feeds.1.1
      exact ⟨⟨online, by simp [built], fun _ => sweatbox, by simp, by simp⟩, rfl⟩
    · contradiction
  | fetched reply =>
    obtain rfl := List.mem_singleton.mp member
    have asked := due.fetching pc
    exact ⟨⟨online, by simp [built], by simp, by simp, fun _ => asked⟩, rfl⟩
  | _ => contradiction

theorem all_routed : wired.Invariant (fun x =>
    ∀ c ∈ x.2.calls, ∃ mode, x.2.modes[c.iteration]? = some mode ∧ Routed c mode) := by
  have known : wired.Invariant (fun x => (Due x.1.worker ∧ (hasMode x.1.worker.pc = true →
      x.1.worker.builtFor = some (endpointFor x.1.worker.mode) ∧ x.1.worker.mode ≠ .offline)) ∧
      Resolved x.1.worker x.2.modes) := (due.and client).observed.and modes_resolved
  refine known.strengthen ?_ ?_
  · simp [wired, Machine.observe]
  · rintro ⟨s, h⟩ a on ⟨⟨due, client⟩, modes⟩ before c member
    cases a with
    | main a => exact before c member
    | elapse duration => exact before c member
    | worker a =>
      have pc := (enabled_worker on).2.1
      have kept : ∀ mode, h.modes[c.iteration]? = some mode →
          (h.modes ++ resolved s a)[c.iteration]? = some mode := by
        intro mode there
        obtain ⟨within, -⟩ := List.getElem?_eq_some_iff.mp there
        exact (List.getElem?_append_left within).trans there
      rcases List.mem_append.mp member with old | new
      · obtain ⟨mode, there, routed⟩ := before c old
        exact ⟨mode, kept mode there, routed⟩
      · have inside := made_inside pc new
        obtain ⟨routed, iteration⟩ := made_routed pc due (client (hasMode_of_hasCallsign inside)) new
        exact ⟨s.worker.mode, kept _ (iteration ▸ modes.current inside), routed⟩

/-- In every run each call is made when it is due, by an iteration that was online, to the server of
the mode the iteration resolved; only the probe goes to the live server in either world. -/
theorem calls_routed (actions : List Action) : ∀ c ∈ (wired.run actions).2.calls,
    ∃ mode, (wired.run actions).2.modes[c.iteration]? = some mode ∧ Routed c mode :=
  all_routed actions

end

/-- The first iteration of a simulator session fetches from the simulator server. -/
theorem first_fetch_routed :
    let actions := onTimer CONNECTION_TYPE_SWEATBOX tower ++ iteration ++ [.worker (.fetched unreachable)]
    ∃ mode, ((@wired parisSecret).run actions).2.modes[0]? = some mode ∧
      Routed ⟨.squawks, 0, some (endpointFor .sweatbox)⟩ mode := by
  intro actions
  have fetches : Call.mk .squawks 0 (some (endpointFor .sweatbox)) ∈ ((@wired parisSecret).run actions).2.calls := by
    decide +kernel
  exact @calls_routed parisSecret actions _ fetches

end CentralSquawk.Wire
