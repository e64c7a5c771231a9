import CentralSquawk.Threads.System

/-!
# Evidence needed to leave the live network

The worker publishes `inferredSim_` from a window held in its own locals. The
diary below records every verdict it handles, every iteration that saw the mode
offline, and every time the inference is switched on, so that the window can be
compared with the evidence it stands for.
-/

namespace CentralSquawk.Inference
open Library

inductive Note where
  | verdict (v : NetworkVerdict) (time : Nat)
  | sawOffline
  | switched (time : Nat)

def Note.resets : Note → Bool
  | .verdict .online _ => true
  | .sawOffline => true
  | _ => false

def Note.isSwitch : Note → Bool
  | .switched _ => true
  | _ => false

structure Diary where
  notes : List Note := []
  announced : Nat := 0

section
variable [Secret]

def noted (s : System) : Action → List Note
  | .worker (.probed reply) => [.verdict (probeNetwork reply) s.clock]
  | .worker .goOffline => [.sawOffline]
  | _ => []

def switches (s t : System) : Bool := !s.plugin.inferredSim && t.plugin.inferredSim

def queuedBetween (s t : System) : Nat :=
  t.plugin.messageQueue.count switchingMessage - s.plugin.messageQueue.count switchingMessage

def Diary.next (d : Diary) (s : System) (a : Action) : Diary :=
  let t := plugin.effect s a
  { notes := (if switches s t then [.switched s.clock] else []) ++ (noted s a ++ d.notes)
    announced := d.announced + queuedBetween s t }

def watched : Machine (System × Diary) Action := plugin.observe {} Diary.next

/-- An earlier denial opened a window that nothing has closed. -/
def OpenedAt (notes : List Note) (since : Nat) : Prop :=
  ∃ between before, notes = between ++ .verdict .offline since :: before ∧
    ∀ n ∈ between, n.resets = false

/-- A switch at `time` was made while handling a denial, sixty seconds or more into a window. -/
def BackedBy (notes : List Note) (time : Nat) : Prop :=
  ∃ since rest, notes = .verdict .offline time :: rest ∧ OpenedAt rest since ∧
    OFF_NETWORK_CONFIRM ≤ heldSeconds time since

structure Evidence (s : System) (d : Diary) : Prop where
  switched : ∀ later time earlier, d.notes = later ++ .switched time :: earlier →
    BackedBy earlier time
  standing : s.worker.pc = .loopTop → s.plugin.inferredSim = true → s.worker.offNetwork = true
  reset : ∀ n rest, d.notes = n :: rest → n.resets = true →
    s.plugin.inferredSim = false ∧ s.worker.offNetwork = false
  /-- After a reset, a switch needs a window of its own. -/
  renewed : ∀ later time recent n older,
    d.notes = later ++ .switched time :: (recent ++ n :: older) → n.resets = true →
    BackedBy recent time
  unknown : ∀ reply, probeNetwork reply = .unknown →
    (workerEffect s (.probed reply)).plugin.inferredSim = s.plugin.inferredSim ∧
      (workerEffect s (.probed reply)).worker.offNetwork = s.worker.offNetwork ∧
      (workerEffect s (.probed reply)).worker.offNetworkSince = s.worker.offNetworkSince
  announced : d.announced = d.notes.countP Note.isSwitch

/-! ### Which steps speak -/

omit [Secret] in
theorem not_switching {said : List Message}
    (others : ∀ m ∈ said, m.isError = true ∨ m ∈ [reconnectedMessage, displacedMessage, feedingMessage]) :
    switchingMessage ∉ said := by
  intro member
  rcases others _ member with error | other
  · exact absurd error (by decide)
  · exact absurd other (by decide)

/-- What a step leaves in the message queue: nothing, or the queue with what the step adds. -/
theorem queue_step (s : System) (a : Action) (quiet : ∀ reply, a ≠ .worker (.probed reply)) :
    (plugin.effect s a).plugin.messageQueue = [] ∨ ∃ said, switchingMessage ∉ said ∧
      (plugin.effect s a).plugin.messageQueue = s.plugin.messageQueue ++ said := by
  cases a with
  | elapse => exact Or.inr ⟨[], by simp, by simp⟩
  | main a =>
    cases a with
    | announce =>
      refine Or.inr ⟨_, ?_, rfl⟩
      split
      · decide
      · simp
    | display => exact Or.inl rfl
    | functionCall call =>
      exact Or.inr ⟨_, not_switching (fun m member => Or.inl (onFunctionCall_said m member)), rfl⟩
    | _ => exact Or.inr ⟨[], by simp, (List.append_nil _).symm⟩
  | worker a =>
    cases a with
    | probed reply => exact absurd rfl (quiet reply)
    | send callsign =>
      refine Or.inr ⟨_, ?_, rfl⟩
      split
      · decide
      · simp
    | assignReplied reply =>
      exact Or.inr ⟨_, not_switching (fun m member => Or.inl (applyAssignReply_said m member)), rfl⟩
    | pushReplied reply =>
      refine Or.inr ⟨_, not_switching (fun m member => ?_), rfl⟩
      simpa using (feedReply_said m member).imp id Or.inr
    | fetched reply =>
      refine Or.inr ⟨_, not_switching (fun m member => ?_), rfl⟩
      exact (fetchAssignedSSR_said m member).imp id (fun same => by simp [same])
    | _ => exact Or.inr ⟨[], by simp, (List.append_nil _).symm⟩

theorem queuedBetween_quiet (s : System) (a : Action) (quiet : ∀ reply, a ≠ .worker (.probed reply)) :
    queuedBetween s (plugin.effect s a) = 0 := by
  rcases queue_step s a quiet with emptied | ⟨said, absent, added⟩
  · simp [queuedBetween, emptied]
  · simp [queuedBetween, added, List.count_eq_zero_of_not_mem absent]

/-! ### The window and the diary -/

def Unrelated (a : Action) : Prop := a ≠ .worker .goOffline ∧ ∀ reply, a ≠ .worker (.probed reply)

theorem unrelated_window (s : System) (a : Action) (unrelated : Unrelated a) :
    (plugin.effect s a).plugin.inferredSim = s.plugin.inferredSim ∧
      (plugin.effect s a).worker.offNetwork = s.worker.offNetwork ∧
      (plugin.effect s a).worker.offNetworkSince = s.worker.offNetworkSince := by
  cases a with
  | elapse => exact ⟨rfl, rfl, rfl⟩
  | main a => simp
  | worker a =>
    cases a with
    | goOffline => exact absurd rfl unrelated.1
    | probed reply => exact absurd rfl (unrelated.2 reply)
    | loadOverride =>
      simp only [effect_worker, workerEffect]
      split <;> simp [WorkerThread.begin_eq]
    | loadConnection => simp [workerEffect, WorkerThread.begin_eq]
    | _ => exact ⟨rfl, rfl, rfl⟩

theorem unrelated_next (d : Diary) (s : System) (a : Action) (unrelated : Unrelated a) :
    d.next s a = d := by
  obtain ⟨inferred, -, -⟩ := unrelated_window s a unrelated
  have still : switches s (plugin.effect s a) = false := by
    simp [switches, inferred]
  have nothing : noted s a = [] := by
    cases a with
    | worker a =>
      cases a with
      | goOffline => exact absurd rfl unrelated.1
      | probed reply => exact absurd rfl (unrelated.2 reply)
      | _ => rfl
    | _ => rfl
  simp [Diary.next, still, nothing, queuedBetween_quiet s a unrelated.2]

omit [Secret] in
theorem OpenedAt.cons {notes : List Note} {since : Nat} (opened : OpenedAt notes since) {n : Note}
    (open' : n.resets = false) : OpenedAt (n :: notes) since := by
  obtain ⟨between, before, rfl, unbroken⟩ := opened
  exact ⟨n :: between, before, rfl, by simpa [open'] using unbroken⟩

omit [Secret] in
theorem OpenedAt.fresh (notes : List Note) (time : Nat) :
    OpenedAt (.verdict .offline time :: notes) time :=
  ⟨[], notes, rfl, by simp⟩

omit [Secret] in
theorem OpenedAt.above {recent older : List Note} {n : Note} {since : Nat}
    (opened : OpenedAt (recent ++ n :: older) since) (ends : n.resets = true) :
    OpenedAt recent since := by
  obtain ⟨between, before, split, unbroken⟩ := opened
  rcases List.append_eq_append_iff.mp split with ⟨c, rfl, tail⟩ | ⟨c, rfl, tail⟩
  · cases c with
    | nil =>
      obtain ⟨rfl, -⟩ := List.cons.inj tail
      contradiction
    | cons m c =>
      obtain ⟨rfl, -⟩ := List.cons.inj tail
      have member := unbroken n (by simp)
      rw [ends] at member
      contradiction
  · cases c with
    | nil =>
      obtain ⟨rfl, -⟩ := List.cons.inj tail
      contradiction
    | cons m c =>
      obtain ⟨rfl, -⟩ := List.cons.inj tail
      exact ⟨between, c, rfl, unbroken⟩

def Backed (notes : List Note) : Prop :=
  ∀ later time earlier, notes = later ++ .switched time :: earlier → BackedBy earlier time

omit [Secret] in
theorem Backed.cons {notes : List Note} (backed : Backed notes) {n : Note} (other : n.isSwitch = false) :
    Backed (n :: notes) := by
  intro later time earlier split
  cases later with
  | nil =>
    obtain ⟨rfl, -⟩ := List.cons.inj split
    contradiction
  | cons m later =>
    obtain ⟨-, rest⟩ := List.cons.inj split
    exact backed later time earlier rest

omit [Secret] in
theorem Backed.switch {notes : List Note} {time : Nat} (backed : Backed notes)
    (by_denial : BackedBy notes time) : Backed (.switched time :: notes) := by
  intro later time' earlier split
  cases later with
  | nil =>
    obtain ⟨same, rfl⟩ := List.cons.inj split
    obtain rfl := Note.switched.inj same
    exact by_denial
  | cons m later =>
    obtain ⟨-, rest⟩ := List.cons.inj split
    exact backed later time' earlier rest

/-- The window's locals stand for what the diary says. -/
structure Kept (s : System) (d : Diary) : Prop where
  standing : s.plugin.inferredSim = true → s.worker.offNetwork = true
  opened : s.worker.offNetwork = true → OpenedAt d.notes s.worker.offNetworkSince
  backed : Backed d.notes
  reset : ∀ n rest, d.notes = n :: rest → n.resets = true → s.worker.offNetwork = false
  announced : d.announced = d.notes.countP Note.isSwitch

theorem kept_goOffline {s : System} {d : Diary} (kept : Kept s d) :
    Kept (plugin.effect s (.worker .goOffline)) (d.next s (.worker .goOffline)) := by
  have notes : (d.next s (.worker .goOffline)).notes = .sawOffline :: d.notes := by
    simp [Diary.next, switches, noted, workerEffect]
  have announced : (d.next s (.worker .goOffline)).announced = d.announced := by
    show d.announced + queuedBetween s _ = d.announced
    rw [queuedBetween_quiet s _ (by simp), Nat.add_zero]
  refine ⟨by simp [workerEffect], by simp [workerEffect, WorkerThread.goTo], ?_, ?_, ?_⟩
  · rw [notes]
    exact kept.backed.cons rfl
  · intro _ _ _ _
    rfl
  · rw [notes, announced, kept.announced]
    rfl

omit [Secret] in
theorem unreset {d : Diary} {n : Note} {rest : List Note} {window : Bool} (notes : d.notes = n :: rest)
    (keeps : n.resets = false) : ∀ m rest, d.notes = m :: rest → m.resets = true → window = false := by
  intro m earlier split ends
  rw [notes] at split
  obtain ⟨rfl, -⟩ := List.cons.inj split
  rw [keeps] at ends
  contradiction

theorem next_probed_notes (d : Diary) (s : System) (reply : Reply) :
    (d.next s (.worker (.probed reply))).notes =
      (if !s.plugin.inferredSim && (s.judge reply).inferredSim then [.switched s.clock] else []) ++
        .verdict (probeNetwork reply) s.clock :: d.notes := rfl

theorem next_probed_announced (d : Diary) (s : System) (reply : Reply) :
    (d.next s (.worker (.probed reply))).announced =
      d.announced + (s.judge reply).said.count switchingMessage := by
  simp [Diary.next, queuedBetween, workerEffect]

theorem kept_probed {s : System} {d : Diary} (kept : Kept s d) (reply : Reply) :
    Kept (plugin.effect s (.worker (.probed reply))) (d.next s (.worker (.probed reply))) := by
  obtain ⟨standing, opened, backed, reset, announced⟩ := kept
  have notes := next_probed_notes d s reply
  have queued := next_probed_announced d s reply
  have inferred : (plugin.effect s (.worker (.probed reply))).plugin.inferredSim =
      (s.judge reply).inferredSim := rfl
  have window : (plugin.effect s (.worker (.probed reply))).worker.offNetwork =
      (s.judge reply).offNetwork := rfl
  have since : (plugin.effect s (.worker (.probed reply))).worker.offNetworkSince =
      (s.judge reply).offNetworkSince := rfl
  generalize plugin.effect s (.worker (.probed reply)) = t at *
  generalize d.next s (.worker (.probed reply)) = e at *
  rcases judge_cases s.worker.offNetwork s.worker.offNetworkSince s.plugin.inferredSim s.clock
      (probeNetwork reply) (s.judge reply) rfl with
    ⟨online, j⟩ | ⟨denied, closed, j⟩ | ⟨denied, on, off, held, j⟩ | ⟨notOnline, on, j⟩
  · -- Online: the window closes and the inference with it.
    simp only [j, online, Bool.and_false, Bool.false_eq_true, if_false, List.nil_append,
      List.count_nil, Nat.add_zero] at notes queued inferred window
    refine ⟨by simp [inferred], by simp [window], ?_, fun _ _ _ _ => window, ?_⟩
    · rw [notes]
      exact backed.cons rfl
    · rw [notes, queued, announced]
      rfl
  · -- The first denial opens the window.
    have still : (!s.plugin.inferredSim && s.plugin.inferredSim) = false := by simp
    simp only [j, denied, still, Bool.false_eq_true, if_false, List.nil_append,
      List.count_nil, Nat.add_zero] at notes queued inferred window since
    refine ⟨fun _ => window, fun _ => ?_, ?_, unreset notes rfl, ?_⟩
    · rw [notes, since]
      exact OpenedAt.fresh _ _
    · rw [notes]
      exact backed.cons rfl
    · rw [notes, queued, announced]
      rfl
  · -- A denial that has held long enough switches.
    simp only [j, denied, off, Bool.not_false, Bool.and_true, if_true, List.singleton_append,
      List.count_singleton_self] at notes queued inferred window since
    have stillOpen := (opened on).cons (n := .verdict .offline s.clock) rfl
    refine ⟨fun _ => window.trans on, fun _ => ?_, ?_, unreset notes rfl, ?_⟩
    · rw [notes, since]
      exact stillOpen.cons rfl
    · rw [notes]
      exact (backed.cons rfl).switch ⟨_, _, rfl, opened on, held⟩
    · rw [notes, queued, announced]
      simp [List.countP_cons, Note.isSwitch]
  · -- Anything else leaves the window as it was.
    have still : (!s.plugin.inferredSim && s.plugin.inferredSim) = false := by simp
    simp only [j, still, Bool.false_eq_true, if_false, List.nil_append,
      List.count_nil, Nat.add_zero] at notes queued inferred window since
    have keeps : (Note.verdict (probeNetwork reply) s.clock).resets = false := by
      cases v : probeNetwork reply <;> simp_all [Note.resets]
    refine ⟨by rw [inferred, window]; exact standing, ?_, ?_, unreset notes keeps, ?_⟩
    · rw [notes, window, since]
      exact fun on => (opened on).cons keeps
    · rw [notes]
      exact backed.cons rfl
    · rw [notes, queued, announced]
      rfl

theorem kept : watched.Invariant (fun x => Kept x.1 x.2) := by
  refine Machine.invariant_of_step ⟨by simp [watched, Machine.observe, plugin], ?_, ?_, ?_, rfl⟩ ?_
  · intro on
    exact absurd on (by simp [watched, Machine.observe, plugin])
  · intro later time earlier split
    simp [watched, Machine.observe] at split
  · intro n rest split
    simp [watched, Machine.observe] at split
  · rintro ⟨s, d⟩ a - before
    by_cases offline : a = .worker .goOffline
    · subst offline
      exact kept_goOffline before
    by_cases probed : ∃ reply, a = .worker (.probed reply)
    · obtain ⟨reply, rfl⟩ := probed
      exact kept_probed before reply
    have unrelated : Unrelated a := ⟨offline, fun reply same => probed ⟨reply, same⟩⟩
    obtain ⟨inferred, window, since⟩ := unrelated_window s a unrelated
    show Kept (plugin.effect s a) (d.next s a)
    rw [unrelated_next d s a unrelated]
    exact ⟨by rw [inferred, window]; exact before.standing,
      by rw [window, since]; exact before.opened, before.backed,
      by rw [window]; exact before.reset, before.announced⟩

/-- The inference is switched on by evidence, and by nothing else. -/
theorem inference_needs_evidence (actions : List Action) :
    Evidence (watched.run actions).1 (watched.run actions).2 := by
  obtain ⟨standing, opened, backed, reset, announced⟩ := kept actions
  refine ⟨backed, fun _ => standing, ?_, ?_, ?_, announced⟩
  · intro n rest split ends
    have closed := reset n rest split ends
    refine ⟨?_, closed⟩
    by_contra on
    exact absurd (standing (by simpa using on)) (by simp [closed])
  · intro later time recent n older split ends
    obtain ⟨since, rest, first, window, held⟩ := backed later time _ split
    cases recent with
    | nil =>
      obtain ⟨rfl, -⟩ := List.cons.inj first
      contradiction
    | cons m recent =>
      obtain ⟨rfl, rfl⟩ := List.cons.inj first
      exact ⟨since, recent, rfl, window.above ends, held⟩
  · intro reply unknown
    simp [workerEffect, System.judge, unknown, judge]

end

end CentralSquawk.Inference
