import CentralSquawk.Library.Spacing
import CentralSquawk.Wire.Endpoints

/-!
# When the server is polled

The snapshot is due on every fiftieth iteration, at the end of the loop body, and
the probe on some of every hundred and fiftieth. An iteration may be skipped as
offline, or spend its time on requests and a push; none of it moves the polling.
The multiples are those of a counter that has not wrapped: 2^32 is not one of fifty.
-/

namespace CentralSquawk.Wire
open Library Requests

def Call.fetches (c : Call) (n : Nat) : Bool := c.path = .squawks && c.iteration = n

def Log.fetches (h : Log) (n : Nat) : Nat := h.calls.countP (fun c => c.fetches n)

/-- Iteration `n` is over, it was not skipped, and the snapshot was due. -/
def Log.fetchDue (h : Log) (counter n : Nat) : Prop :=
  n < counter ∧ n % (PERIODIC_FETCH_TIME_INTERVAL * 10) = 0 ∧ h.modes[n]? ≠ some .offline

instance (h : Log) (counter n : Nat) : Decidable (h.fetchDue counter n) :=
  inferInstanceAs (Decidable (_ ∧ _))

/-! ### The end of an iteration -/

theorem goTo_ends {w w' : WorkerThread} {pc : WorkerPc} (same : w'.counter = w.counter)
    (ended : (w'.goTo pc).counter = w.counter + 1) : pc = .loopTop := by
  by_contra inside
  simp [WorkerThread.goTo, inside, same] at ended

theorem afterFeed_loopTop {w : WorkerThread} (last : w.afterFeed = .loopTop) :
    w.counter % (PERIODIC_FETCH_TIME_INTERVAL * 10) ≠ 0 := by
  unfold WorkerThread.afterFeed at last
  split at last
  · contradiction
  · assumption

theorem afterRequests_loopTop {w : WorkerThread} (last : w.afterRequests = .loopTop) :
    w.counter % (PERIODIC_FETCH_TIME_INTERVAL * 10) ≠ 0 := by
  unfold WorkerThread.afterRequests at last
  split at last
  · contradiction
  · exact afterFeed_loopTop last

section
variable [Secret]

/-- An iteration ends offline, with a fetch, or when no fetch is due. -/
theorem ends_cases {s : System} {a : WorkerAction}
    (ended : (workerEffect s a).worker.counter = s.worker.counter + 1) :
    a = .goOffline ∨ (∃ reply, a = .fetched reply) ∨
      (s.worker.counter % (PERIODIC_FETCH_TIME_INTERVAL * 10) ≠ 0 ∧ made s a = [] ∧ resolved s a = []) := by
  have stays : (workerEffect s a).worker.counter ≠ s.worker.counter := by omega
  cases a with
  | goOffline => exact Or.inl rfl
  | fetched reply => exact Or.inr (Or.inl ⟨reply, rfl⟩)
  | checkController =>
    have last := goTo_ends rfl ended
    split at last
    · contradiction
    · exact Or.inr (Or.inr ⟨afterRequests_loopTop last, rfl, rfl⟩)
  | allSent => exact Or.inr (Or.inr ⟨afterRequests_loopTop (goTo_ends rfl ended), rfl, rfl⟩)
  | pushReplied reply | requestPicture =>
    exact Or.inr (Or.inr ⟨afterFeed_loopTop (goTo_ends rfl ended), rfl, rfl⟩)
  | loadOverride =>
    refine absurd ?_ stays
    simp only [workerEffect, WorkerThread.begin_eq]
    split <;> rfl
  | loadConnection =>
    refine absurd ?_ stays
    simp [workerEffect, WorkerThread.begin_eq]
  | _ => exact absurd rfl stays

theorem fetches_next (h : Log) (s : System) (a : WorkerAction) (n : Nat) :
    (h.next s (.worker a)).fetches n = h.fetches n + (made s a).countP (fun c => c.fetches n) :=
  List.countP_append

theorem fetches_goesOn {s : System} {a : WorkerAction} {w : WorkerThread} (on : GoesOn s.worker w (made s a))
    (n : Nat) : (made s a).countP (fun c => c.fetches n) = 0 := by
  rw [List.countP_eq_zero]
  intro c member fetched
  have behind := (on.calls c member).2.1
  have most : reached w.pc ≤ 3 := by
    unfold reached
    split <;> omega
  have squawks : c.path = .squawks := by
    simp only [Call.fetches, Bool.and_eq_true, decide_eq_true_eq] at fetched
    exact fetched.1
  rw [squawks] at behind
  simp only [Path.place] at behind
  omega

/-! ### Each fetch in its iteration -/

omit [Secret] in
theorem fetchDue_same {h h' : Log} {counter n : Nat} {new : List NetworkMode}
    (modes : h'.modes = h.modes ++ new) (logged : counter ≤ h.modes.length) (past : n < counter) :
    h'.fetchDue counter n ↔ h.fetchDue counter n := by
  have same : h'.modes[n]? = h.modes[n]? := by
    rw [modes]
    exact List.getElem?_append_left (by omega)
  simp only [Log.fetchDue, same]

omit [Secret] in
theorem fetchDue_succ {h h' : Log} {counter n : Nat} {new : List NetworkMode}
    (modes : h'.modes = h.modes ++ new) (logged : counter ≤ h.modes.length) :
    h'.fetchDue (counter + 1) n ↔ h.fetchDue counter n ∨
      n = counter ∧ n % (PERIODIC_FETCH_TIME_INTERVAL * 10) = 0 ∧ h'.modes[n]? ≠ some .offline := by
  rcases Nat.lt_trichotomy n counter with past | this | future
  · rw [← fetchDue_same modes logged past]
    have before : n < counter + 1 := by omega
    have other : n ≠ counter := by omega
    simp [Log.fetchDue, past, before, other]
  · simp [Log.fetchDue, this]
  · have after : ¬ n < counter + 1 := by omega
    have other : n ≠ counter := by omega
    simp [Log.fetchDue, after, other]
    omega

def Fetched (w : WorkerThread) (h : Log) : Prop :=
  ∀ n, h.fetches n = if h.fetchDue w.counter n then 1 else 0

omit [Secret] in
theorem Fetched.none_yet {w : WorkerThread} {h : Log} (before : Fetched w h) : h.fetches w.counter = 0 := by
  rw [before w.counter, if_neg]
  exact fun due => absurd due.1 (Nat.lt_irrefl _)

theorem fetched_worker {s : System} {h : Log} {a : WorkerAction} (pc : s.worker.pc = a.pc)
    (due : Due s.worker) (online : hasMode s.worker.pc = true → s.worker.mode ≠ .offline)
    (modes : Resolved s.worker h.modes) (before : Fetched s.worker h) :
    Fetched (workerEffect s a).worker (h.next s (.worker a)) := by
  have logged : s.worker.counter ≤ h.modes.length := by
    have length := modes.length
    omega
  have grown : (h.next s (.worker a)).modes = h.modes ++ resolved s a := rfl
  intro n
  rw [fetches_next]
  rcases worker_moves pc with on | finish
  · rw [fetches_goesOn on, before n, on.counter, Nat.add_zero]
    by_cases past : n < s.worker.counter
    · simp only [fetchDue_same grown logged past]
    · have not_over : ∀ h' : Log, ¬ h'.fetchDue s.worker.counter n := fun h' due => past due.1
      rw [if_neg (not_over h), if_neg (not_over _)]
  · rw [finish.counter, before n]
    rcases ends_cases finish.counter with rfl | ⟨reply, rfl⟩ | ⟨undue, quiet, unresolved⟩
    · -- The iteration is logged as offline.
      have skipped : n = s.worker.counter → (h.next s (.worker .goOffline)).modes[n]? = some .offline := by
        rintro rfl
        have length : h.modes.length = s.worker.counter := by
          simpa [pc, WorkerAction.pc, hasCallsign, hasMode] using modes.length
        simp [Log.next, resolved, ← length]
      have same : (h.next s (.worker .goOffline)).fetchDue (s.worker.counter + 1) n ↔
          h.fetchDue s.worker.counter n := by
        rw [fetchDue_succ grown logged]
        exact ⟨fun either => either.resolve_right (fun this => this.2.2 (skipped this.1)), Or.inl⟩
      simp [same, made]
    · have current := modes.current (by rw [pc]; rfl)
      have not_offline := online (by rw [pc]; rfl)
      have same : (h.next s (.worker (.fetched reply))).fetchDue (s.worker.counter + 1) n ↔
          h.fetchDue s.worker.counter n ∨ n = s.worker.counter := by
        rw [fetchDue_succ grown logged]
        refine or_congr_right ⟨fun this => this.1, ?_⟩
        rintro rfl
        refine ⟨rfl, due.fetching pc, ?_⟩
        simpa [Log.next, resolved, current] using not_offline
      by_cases this : n = s.worker.counter
      · have not_over : ¬ h.fetchDue s.worker.counter n := fun due => by
          have past := due.1
          omega
        rw [if_neg not_over, if_pos (same.mpr (Or.inr this))]
        simp [this, made, Call.fetches]
      · have other : ¬ s.worker.counter = n := fun equal => this equal.symm
        simp [same, this, other, made, Call.fetches]
    · have same : (h.next s (.worker a)).fetchDue (s.worker.counter + 1) n ↔
          h.fetchDue s.worker.counter n := by
        rw [fetchDue_succ grown logged]
        exact ⟨fun either => either.resolve_right (fun this => undue (this.1 ▸ this.2.1)), Or.inl⟩
      simp [same, quiet]

theorem fetched : wired.Invariant (fun x => Fetched x.1.worker x.2) := by
  have known : wired.Invariant (fun x => (Due x.1.worker ∧ (hasMode x.1.worker.pc = true →
      x.1.worker.builtFor = some (endpointFor x.1.worker.mode) ∧ x.1.worker.mode ≠ .offline)) ∧
      Resolved x.1.worker x.2.modes) := (due.and client).observed.and modes_resolved
  refine known.strengthen ?_ ?_
  · intro n
    simp [wired, Machine.observe, plugin, Log.fetches, Log.fetchDue]
  · rintro ⟨s, h⟩ a on ⟨⟨due, client⟩, modes⟩ before
    cases a with
    | main a =>
      have same : (mainEffect s a).worker = s.worker := mainEffect_worker s a
      show Fetched (mainEffect s a).worker h
      rw [same]
      exact before
    | elapse duration => exact before
    | worker a =>
      exact fetched_worker (enabled_worker on).2.1 due (fun has => (client has).2) modes before

/-- In every run, each iteration that is over has fetched the snapshot once if it was online and its
number is a multiple of fifty, and not at all otherwise. -/
theorem fetched_when_due (actions : List Action) (n : Nat) : (wired.run actions).2.fetches n =
    if (wired.run actions).2.fetchDue (wired.run actions).1.worker.counter n then 1 else 0 :=
  fetched actions n

/-! ### How much is polled -/

omit [Secret] in
theorem multiples_apart {gap a b : Nat} (first : a % gap = 0) (second : b % gap = 0) (lt : a < b) :
    a + gap ≤ b := by
  obtain ⟨x, rfl⟩ := Nat.dvd_of_mod_eq_zero first
  obtain ⟨y, rfl⟩ := Nat.dvd_of_mod_eq_zero second
  have less : x + 1 ≤ y := Nat.lt_of_mul_lt_mul_left lt
  calc gap * x + gap = gap * (x + 1) := (Nat.mul_succ gap x).symm
    _ ≤ gap * y := Nat.mul_le_mul_left gap less

def Log.within (h : Log) (path : Path) (first n : Nat) : Nat :=
  h.calls.countP (fun c => c.path = path && first ≤ c.iteration && c.iteration < first + n)

omit [Secret] in
/-- Calls to a path that is due on the multiples of `gap` are that far apart. -/
theorem within_lt {w : WorkerThread} {h : Log} {path : Path} {gap : Nat} (order : InOrder w h.calls)
    (other : path ≠ .assign) (positive : 0 < gap)
    (due : ∀ c ∈ h.calls, c.path = path → c.iteration % gap = 0) (first n : Nat) :
    gap * h.within path first n < n + gap := by
  have spaced : Spaced Call.iteration (fun _ => gap) (h.calls.filter (fun c => c.path = path)).reverse := by
    apply List.pairwise_reverse.mpr
    refine (List.Pairwise.filter _ order.ordered).imp_of_mem ?_
    intro c later chosen chosen' before
    obtain ⟨member, same⟩ := List.mem_filter.mp chosen
    obtain ⟨member', same'⟩ := List.mem_filter.mp chosen'
    simp only [decide_eq_true_eq] at same same'
    have earlier : c.iteration < later.iteration := by
      rcases before with earlier | ⟨-, lower | ⟨assign, -⟩⟩
      · exact earlier
      · rw [same, same'] at lower
        exact absurd lower (Nat.lt_irrefl _)
      · exact absurd (same.symm.trans assign) other
    exact multiples_apart (due c member same) (due later member' same') earlier
  have few := spaced.window (fun _ => true) (fun _ _ _ => le_rfl) positive first n
  rw [List.countP_reverse, List.countP_filter] at few
  have same : h.within path first n = h.calls.countP (fun c =>
      (true && first ≤ c.iteration && c.iteration < first + n) && decide (c.path = path)) := by
    apply List.countP_congr
    intro c _
    simp only [Bool.and_eq_true, decide_eq_true_eq, true_and]
    tauto
  rw [same]
  exact few

/-- In every run and in any `n` iterations of the worker, the snapshot is fetched once for every fifty
iterations begun at most, and the network asked once for every hundred and fifty. -/
theorem polling_bounded (actions : List Action) (first n : Nat) :
    PERIODIC_FETCH_TIME_INTERVAL * 10 * (wired.run actions).2.within .squawks first n <
      n + PERIODIC_FETCH_TIME_INTERVAL * 10 ∧
    NETWORK_PROBE_INTERVAL * 10 * (wired.run actions).2.within .network first n <
      n + NETWORK_PROBE_INTERVAL * 10 := by
  have order := inOrder actions
  have routed := all_routed actions
  constructor
  · apply within_lt order (by decide) (by decide)
    intro c member path
    obtain ⟨mode, -, routed⟩ := routed c member
    exact routed.fetch path
  · apply within_lt order (by decide) (by decide)
    intro c member path
    obtain ⟨mode, -, routed⟩ := routed c member
    exact routed.probe path

end

end CentralSquawk.Wire
