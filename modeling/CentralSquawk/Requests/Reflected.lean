import CentralSquawk.Interleaving
import CentralSquawk.Library.Progress
import CentralSquawk.Requests.Outcome

/-!
# From a reply to the aircraft

A granted code is put into the cache at once rather than left to the next snapshot, so
that it reaches the aircraft on the next `OnTimer`. Between the reply and that sweep
the worker may fetch and send on, and it goes on while the sweep walks the flights. A
snapshot from before the grant takes the code away again.
-/

namespace CentralSquawk.Requests
open Library

/-- The step stores a snapshot without the callsign's entry, or another entry for the callsign. -/
def replaces (callsign : Text) (info : SsrInfo) (s : System) : Action → Bool
  | .worker (.fetched reply) =>
    (fetchAssignedSSR s.plugin.printError reply).parsed.any (fun snapshot => snapshot.lookup callsign ≠ some info)
  | .worker (.assignReplied reply) =>
    match assignReply s.worker.sending reply with
    | .ok other => s.worker.sending = callsign ∧ other ≠ info
    | .error _ => false
  | _ => false

/-! ### The squawks of a sweep -/

theorem mem_flights_squawks {snapshot : Cache} {plans : List (FlightPlan × BridgePublisher.Answer)} {sweep : Sweep}
    {callsign code : Text} :
    (callsign, code) ∈ (sweep.flights snapshot plans).squawks ↔ (callsign, code) ∈ sweep.squawks ∨
      ∃ fp ∈ plans, fp.1.key = some callsign ∧ squawkFor snapshot fp.1 callsign = some code := by
  induction plans generalizing sweep with
  | nil => simp [Sweep.flights]
  | cons fp rest ih =>
    have first : (callsign, code) ∈ (sweep.flight snapshot fp).squawks ↔ (callsign, code) ∈ sweep.squawks ∨
        fp.1.key = some callsign ∧ squawkFor snapshot fp.1 callsign = some code := by
      have passed : (applyFlight snapshot sweep.publisher fp.1 fp.2).squawk = some (callsign, code) ↔ _ :=
        applyFlight_squawk_eq_some
      simp [Sweep.flight, ← passed]
    show _ ∈ ((sweep.flight snapshot fp).flights snapshot rest).squawks ↔ _
    rw [ih, first, or_assoc]
    simp

theorem mem_applyAssignments_squawks {online controller : Bool} {cache : Cache} {publisher : BridgePublisher}
    {plans : List (FlightPlan × BridgePublisher.Answer)} {callsign code : Text} {info : SsrInfo}
    (sweeps : (online && controller) = true) (cached : cache.lookup callsign = some info) :
    (callsign, code) ∈ (applyAssignments online controller cache publisher plans).squawks ↔
      code = info.ssr ∧ isWellFormedSquawk info.ssr = true ∧
        ∃ fp ∈ plans, fp.1.key = some callsign ∧ fp.1.mayWrite = true ∧ fp.1.squawk ≠ some info.ssr := by
  have filled : cache.isEmpty = false := by
    by_contra empty
    rw [Cache.lookup_of_isEmpty (by simpa using empty)] at cached
    contradiction
  obtain ⟨on, controls⟩ := Bool.and_eq_true_iff.mp sweeps
  have full : applyAssignments online controller cache publisher plans = fullSweep cache publisher plans := by
    simp [applyAssignments, on, controls, idleSweep, filled]
  rw [full]
  show _ ∈ (Sweep.flights cache { publisher } plans).squawks ↔ _
  rw [mem_flights_squawks]
  simp only [squawkFor_eq_some, cached, List.not_mem_nil, false_or, Option.some.injEq]
  constructor
  · rintro ⟨fp, listed, named, may, _, rfl, formed, differs, rfl⟩
    exact ⟨rfl, formed, fp, listed, named, may, differs⟩
  · rintro ⟨rfl, formed, fp, listed, named, may, differs⟩
    exact ⟨fp, listed, named, may, info, rfl, formed, differs, rfl⟩

/-! ### The entry between the reply and the sweep -/

section
variable [Secret]

theorem entry_kept {s : System} {a : Action} {callsign : Text} {info : SsrInfo}
    (same : replaces callsign info s a = false) (cached : s.plugin.ssrCache.lookup callsign = some info) :
    (plugin.effect s a).plugin.ssrCache.lookup callsign = some info := by
  cases a with
  | main a =>
    rw [effect_main, mainEffect_ssrCache]
    exact cached
  | elapse duration => exact cached
  | worker a =>
    cases a with
    | fetched reply =>
      cases parsed : (fetchAssignedSSR s.plugin.printError reply).parsed with
      | none => simpa [workerEffect, parsed] using cached
      | some snapshot => simpa [workerEffect, replaces, parsed] using same
    | assignReplied reply =>
      cases answered : assignReply s.worker.sending reply with
      | error message => simpa [workerEffect, applyAssignReply, answered] using cached
      | ok other =>
        simp only [effect_worker, workerEffect, applyAssignReply, answered]
        by_cases own : s.worker.sending = callsign
        · subst own
          have granted : other = info := by simpa [replaces, answered] using same
          rw [granted, AList.lookup_insert]
        · rw [AList.lookup_insert_ne (Ne.symm own)]
          exact cached
    | _ => exact cached

theorem entry_stored {s : System} {reply : Reply} {info : SsrInfo} (granted : Grants reply info) :
    (workerEffect s (.assignReplied reply)).plugin.ssrCache.lookup s.worker.sending = some info := by
  simp [workerEffect, applyAssignReply, assignReply_eq_ok.mpr granted]

/-- The next sweep that a controller's `OnTimer` makes after a code was granted sets that code, and no
other, on the flight's plans: on each that is tracked by the user or by nobody and has another code. The
worker may run between the steps of the sweep; up to its copy it must not have stored another entry for
the callsign, nor a snapshot without this one. -/
theorem code_reaches_aircraft {past between rest : List Action} {reply : Reply} {info : SsrInfo}
    {plans : List (FlightPlan × BridgePublisher.Answer)}
    (replied : plugin.enabled (plugin.run past) (.worker (.assignReplied reply)) = true)
    (granted : Grants reply info)
    (kept : plugin.AlongFrom (fun s a => replaces (plugin.run past).worker.sending info s a = false)
      (plugin.run (past ++ [.worker (.assignReplied reply)])) between)
    (starts : plugin.enabled (plugin.run (past ++ [.worker (.assignReplied reply)] ++ between))
      (.main .applyAssignments) = true)
    (sweeps : ((plugin.run (past ++ [.worker (.assignReplied reply)] ++ between)).plugin.isOnline &&
      (plugin.run (past ++ [.worker (.assignReplied reply)] ++ between)).plugin.isController) = true)
    (turns : rest.filter Action.isMain =
      plans.map (fun fp => Action.main (.flight fp.1 fp.2)) ++ [.main .forgetAbsent])
    (running : (plugin.run (past ++ [.worker (.assignReplied reply)] ++ between ++
      .main .applyAssignments :: rest)).running = true) (code : Text) :
    let callsign := (plugin.run past).worker.sending
    (callsign, code) ∈ (emitting.run (past ++ [.worker (.assignReplied reply)] ++ between ++
      .main .applyAssignments :: rest)).2.squawks ↔
        code = info.ssr ∧ isWellFormedSquawk info.ssr = true ∧
          ∃ fp ∈ plans, fp.1.key = some callsign ∧ fp.1.mayWrite = true ∧ fp.1.squawk ≠ some info.ssr := by
  intro callsign
  have stored : (plugin.run (past ++ [.worker (.assignReplied reply)])).plugin.ssrCache.lookup callsign =
      some info := by
    rw [Machine.run_snoc, Machine.step_on replied]
    exact entry_stored granted
  have cached : (plugin.run (past ++ [.worker (.assignReplied reply)] ++ between)).plugin.ssrCache.lookup callsign =
      some info := by
    rw [Machine.run_append]
    exact Machine.alongFrom_keeps (m := plugin) (P := fun s => s.plugin.ssrCache.lookup callsign = some info)
      (fun s a _ same holds => entry_kept same holds) kept stored
  have same : (emitting.run (past ++ [.worker (.assignReplied reply)] ++ between ++
      .main .applyAssignments :: rest)).1 = plugin.run (past ++ [.worker (.assignReplied reply)] ++ between ++
      .main .applyAssignments :: rest) := Machine.observe_run_fst _
  rw [← same, emitting_swept starts] at running
  obtain ⟨-, outputs⟩ := swept_ends (enabled_main starts).1 turns running
  rw [emitting_swept starts, outputs]
  exact mem_applyAssignments_squawks sweeps cached

end

/-! ### A run -/

def awaitingReply : List Action := requested ++ [.worker .drain, .worker (.send (text "AFR1234"))]

def confirmed : Reply :=
  .answered 200 (.json (.object [(text "AFR1234", .object [(text "ssr", .string (text "7202"))])]))

set_option maxRecDepth 100000 in
/-- The snapshot fetched before the sweep has the code as well. -/
theorem code_reaches_aircraft_next :
    let past := awaitingReply
    let between := iteration.drop 9 ++ [Action.worker (.fetched confirmed)] ++
      (onTimer CONNECTION_TYPE_SWEATBOX tower).dropLast
    let rest := [Action.worker .loopTop, .main (.flight { callsign := some (text "afr1234") } {}),
      .worker .loadOverride, .main .forgetAbsent]
    (text "AFR1234", text "7202") ∈ ((@emitting parisSecret).run (past ++ [.worker (.assignReplied reassigned)] ++
      between ++ .main .applyAssignments :: rest)).2.squawks := by
  intro past between rest
  have sending : ((@plugin parisSecret).run past).worker.sending = text "AFR1234" := by decide +kernel
  have granted : Grants reassigned ⟨text "7202", false⟩ := by
    have stored : assignReply [] reassigned = .ok ⟨text "7202", false⟩ := rfl
    exact assignReply_eq_ok.mp stored
  have reaches := @code_reaches_aircraft parisSecret past between rest reassigned ⟨text "7202", false⟩
    [({ callsign := some (text "afr1234") }, {})] (by decide +kernel) granted (by decide +kernel)
    (by decide +kernel) (by decide +kernel) rfl (by decide +kernel) (text "7202")
  rw [sending] at reaches
  exact reaches.mpr (by decide)

end CentralSquawk.Requests
