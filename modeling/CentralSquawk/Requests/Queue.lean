import CentralSquawk.Library.LatestWins
import CentralSquawk.Threads.System

/-!
# The manual requests under way

A click queues a request under its callsign; the worker drains all of them and
hands each to `SendAssignRequest`. The record follows every click as a ticket of
a ledger. It also counts how often the inputs of the mode and the own callsign
have changed, for what is asked about a request on its way.
-/

namespace CentralSquawk.Requests
open Library

/-- A click that queued a request, and what was current when it did. -/
structure Click where
  call : FunctionCall
  request : AssignRequest
  mode : NetworkMode
  userCallsign : Text
  modeVersion : Nat
  callsignVersion : Nat

/-- The request is about the flight that was clicked: its callsign, its seed, its code. -/
def Click.own (click : Click) (callsign : Text) : Prop :=
  ∃ fp, click.call.asel = some fp ∧ (nonEmpty fp.callsign).map toUpper = some callsign ∧
    click.request.seed = captureSeed callsign fp ∧
    (click.request.kind = .setCode → codeSource click.call fp = some click.request.code)

def modeInputs (p : Plugin) : NetworkMode × ModeOverride × Bool :=
  (p.connectionMode, p.modeOverride, p.inferredSim)

structure Record where
  ledger : LatestWins Text Click := {}
  sent : List (Text × AssignRequest) := []
  modeVersion : Nat := 0
  callsignVersion : Nat := 0

def handedOver (t : Ticket Text Click) : Text × AssignRequest := (t.key, t.item.request)

section
variable [Secret]

def Record.move (r : Record) (s : System) : Action → Record
  | .main (.functionCall call) =>
    match (s.plugin.onFunctionCall call).queued with
    | some (callsign, request) =>
      { r with
        ledger := r.ledger.queue callsign
          ⟨call, request, s.plugin.resolveMode, s.plugin.userCallsign, r.modeVersion, r.callsignVersion⟩ }
    | none => r
  | .worker .drain => { r with ledger := r.ledger.drain }
  | .worker (.send callsign) =>
    { r with
      ledger := r.ledger.hand callsign
      sent := r.sent ++ [(callsign, (s.worker.pending.lookup callsign).getD {})] }
  | _ => r

def Record.next (r : Record) (s : System) (a : Action) : Record :=
  let t := plugin.effect s a
  { r.move s a with
    modeVersion :=
      if modeInputs t.plugin = modeInputs s.plugin then r.modeVersion else r.modeVersion + 1
    callsignVersion :=
      if t.plugin.userCallsign = s.plugin.userCallsign then r.callsignVersion
      else r.callsignVersion + 1 }

def recorded : Machine (System × Record) Action := plugin.observe {} Record.next

end

/-- No request is lost, duplicated or reordered. -/
structure Conserved (s : System) (r : Record) : Prop where
  /-- Every click is pending, superseded by a later one of its callsign, drained, or handed over. -/
  balanced : r.ledger.Balanced
  distinct : r.ledger.queued.Nodup
  pending : LatestWins.Stores Click.request s.plugin.pendingAssignRequests r.ledger.pending
  drained : LatestWins.Stores Click.request s.worker.pending r.ledger.drained
  sent : r.sent = r.ledger.handed.map handedOver
  inOrder : ∀ callsign, (LatestWins.of callsign r.ledger.handed).Sublist
    (LatestWins.of callsign r.ledger.queued)
  /-- With nothing under way, the last request of a callsign was the last one handed over. -/
  latest : ∀ callsign, callsign ∉ s.plugin.pendingAssignRequests → callsign ∉ s.worker.pending →
    (LatestWins.of callsign r.ledger.handed).getLast? = (LatestWins.of callsign r.ledger.queued).getLast?
  own : ∀ t ∈ r.ledger.queued, t.item.own t.key

/-! ### One step -/

structure Kept (s : System) (r : Record) : Prop where
  balanced : r.ledger.Balanced
  pending : LatestWins.Stores Click.request s.plugin.pendingAssignRequests r.ledger.pending
  drained : LatestWins.Stores Click.request s.worker.pending r.ledger.drained
  sent : r.sent = r.ledger.handed.map handedOver
  own : ∀ t ∈ r.ledger.queued, t.item.own t.key
  finished : s.worker.pc = .sending ∨ s.worker.pc = .awaitingAssign ∨ s.worker.pending.entries = []

theorem Kept.of_same {s t : System} {r r' : Record} (kept : Kept s r) (ledger : r'.ledger = r.ledger)
    (sent : r'.sent = r.sent) (pending : t.plugin.pendingAssignRequests = s.plugin.pendingAssignRequests)
    (drained : t.worker.pending = s.worker.pending)
    (finished : t.worker.pc = .sending ∨ t.worker.pc = .awaitingAssign ∨ t.worker.pending.entries = []) :
    Kept t r' :=
  ⟨ledger ▸ kept.balanced, by rw [pending, ledger]; exact kept.pending,
    by rw [drained, ledger]; exact kept.drained, by rw [sent, ledger]; exact kept.sent,
    by rw [ledger]; exact kept.own, finished⟩

section
variable [Secret]

@[simp] theorem next_ledger (r : Record) (s : System) (a : Action) :
    (r.next s a).ledger = (r.move s a).ledger := rfl

@[simp] theorem next_sent (r : Record) (s : System) (a : Action) :
    (r.next s a).sent = (r.move s a).sent := rfl

theorem kept_functionCall {s : System} {r : Record} {call : FunctionCall} (kept : Kept s r) :
    Kept (plugin.effect s (.main (.functionCall call))) (r.next s (.main (.functionCall call))) := by
  have stored : (plugin.effect s (.main (.functionCall call))).plugin.pendingAssignRequests =
      storeRequest s.plugin.pendingAssignRequests (s.plugin.onFunctionCall call).queued := rfl
  cases queued : (s.plugin.onFunctionCall call).queued with
  | none =>
    have same : r.move s (.main (.functionCall call)) = r := by simp [Record.move, queued]
    rw [queued] at stored
    exact kept.of_same (by rw [next_ledger, same]) (by rw [next_sent, same]) stored rfl kept.finished
  | some entry =>
    obtain ⟨callsign, request⟩ := entry
    rw [queued] at stored
    have moved : r.move s (.main (.functionCall call)) =
        { r with
          ledger := r.ledger.queue callsign
            ⟨call, request, s.plugin.resolveMode, s.plugin.userCallsign, r.modeVersion,
              r.callsignVersion⟩ } := by simp [Record.move, queued]
    obtain ⟨balanced, pending, drained, sent, own, finished⟩ := kept
    refine ⟨?_, ?_, ?_, ?_, ?_, finished⟩
    · rw [next_ledger, moved]
      exact balanced.queue _ _
    · rw [next_ledger, moved, stored]
      exact pending.queue _ _
    · rw [next_ledger, moved]
      exact drained
    · rw [next_ledger, next_sent, moved]
      exact sent
    · rw [next_ledger, moved]
      intro t member
      rcases List.mem_append.mp member with earlier | this
      · exact own t earlier
      · obtain rfl := List.mem_singleton.mp this
        obtain ⟨fp, selected, named, seed, code⟩ := onFunctionCall_queued queued
        exact ⟨fp, selected, named, seed, fun set => (code set).1⟩

theorem kept_drain {s : System} {r : Record} (pc : s.worker.pc = .drain) (kept : Kept s r) :
    Kept (plugin.effect s (.worker .drain)) (r.next s (.worker .drain)) := by
  obtain ⟨balanced, pending, drained, sent, own, finished⟩ := kept
  have idle : r.ledger.drained = [] := by
    rcases finished with sending | awaiting | empty
    · exact absurd (pc.symm.trans sending) (by simp)
    · exact absurd (pc.symm.trans awaiting) (by simp)
    · exact drained.of_empty empty
  exact ⟨balanced.drain, LatestWins.stores_nil, pending.drain idle, sent, own, Or.inl rfl⟩

theorem kept_send {s : System} {r : Record} {callsign : Text} (member : callsign ∈ s.worker.pending)
    (kept : Kept s r) :
    Kept (plugin.effect s (.worker (.send callsign))) (r.next s (.worker (.send callsign))) := by
  obtain ⟨balanced, pending, drained, sent, own, -⟩ := kept
  obtain ⟨request, stored⟩ := Option.isSome_iff_exists.mp (AList.lookup_isSome.mpr member)
  obtain ⟨t, -, key, item, handed⟩ := drained.handed stored
  refine ⟨balanced.hand _, pending, drained.hand callsign, ?_, own, ?_⟩
  · rw [next_sent, next_ledger]
    simp only [Record.move, handed, List.map_append, sent, stored, Option.getD_some]
    simp [handedOver, key, item]
  · by_cases anonymous : s.worker.userCallsign = []
    · exact Or.inl (if_pos anonymous)
    · exact Or.inr (Or.inl (if_neg anonymous))

omit [Secret] in
theorem Kept.between {s : System} {r : Record} (kept : Kept s r) (notSending : s.worker.pc ≠ .sending)
    (notAwaiting : s.worker.pc ≠ .awaitingAssign) : s.worker.pending.entries = [] := by
  rcases kept.finished with sending | awaiting | empty
  · exact absurd sending notSending
  · exact absurd awaiting notAwaiting
  · exact empty

theorem kept_worker {s : System} {r : Record} {a : WorkerAction}
    (on : plugin.enabled s (.worker a) = true) (kept : Kept s r) :
    Kept (plugin.effect s (.worker a)) (r.next s (.worker a)) := by
  obtain ⟨-, pc, enabled, -⟩ := enabled_worker on
  cases a with
  | drain => exact kept_drain pc kept
  | send callsign =>
    have member : callsign ∈ s.worker.pending := by
      simpa [WorkerThread.enabled, pc, WorkerAction.pc] using enabled
    exact kept_send member kept
  | assignReplied reply => exact kept.of_same rfl rfl rfl rfl (Or.inl rfl)
  | allSent =>
    have empty : s.worker.pending.entries = [] := by
      simpa [WorkerThread.enabled, pc, WorkerAction.pc] using enabled
    exact kept.of_same rfl rfl rfl rfl (Or.inr (Or.inr empty))
  | loadOverride =>
    have empty := kept.between (by simp [pc, WorkerAction.pc]) (by simp [pc, WorkerAction.pc])
    have same : (workerEffect s .loadOverride).worker.pending = s.worker.pending := by
      simp only [workerEffect]
      split <;> simp [WorkerThread.begin_eq]
    exact kept.of_same rfl rfl rfl same (Or.inr (Or.inr (by rw [effect_worker, same]; exact empty)))
  | loadConnection =>
    have empty := kept.between (by simp [pc, WorkerAction.pc]) (by simp [pc, WorkerAction.pc])
    have same : (workerEffect s .loadConnection).worker.pending = s.worker.pending := by
      simp [workerEffect, WorkerThread.begin_eq]
    exact kept.of_same rfl rfl rfl same (Or.inr (Or.inr (by rw [effect_worker, same]; exact empty)))
  | _ =>
    have empty := kept.between (by simp [pc, WorkerAction.pc]) (by simp [pc, WorkerAction.pc])
    exact kept.of_same rfl rfl rfl rfl (Or.inr (Or.inr empty))

theorem kept : recorded.Invariant (fun x => Kept x.1 x.2) := by
  refine Machine.invariant_of_step ?_ ?_
  · refine ⟨LatestWins.balanced_empty, LatestWins.stores_nil, LatestWins.stores_nil, rfl, ?_,
      Or.inr (Or.inr rfl)⟩
    simp [recorded, Machine.observe]
  · rintro ⟨s, r⟩ a on before
    cases a with
    | main a =>
      cases a with
      | functionCall call => exact kept_functionCall before
      | _ => exact before.of_same rfl rfl rfl rfl before.finished
    | worker a => exact kept_worker on before
    | elapse duration => exact before.of_same rfl rfl rfl rfl before.finished

/-- Every request queued is conserved, in order, up to its hand-over. -/
theorem requests_conserved (actions : List Action) :
    Conserved (recorded.run actions).1 (recorded.run actions).2 := by
  obtain ⟨balanced, pending, drained, sent, own, -⟩ := kept actions
  refine ⟨balanced, balanced.nodup, pending, drained, sent, balanced.handed_sublist, ?_, own⟩
  intro callsign notPending notDrained
  refine balanced.handed_latest (List.append_eq_nil_iff.mpr ⟨?_, ?_⟩)
  · exact drained.of_absent notDrained
  · exact pending.of_absent notPending

end

end CentralSquawk.Requests
