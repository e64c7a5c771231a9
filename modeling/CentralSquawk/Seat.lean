import CentralSquawk.Threads.System

/-!
# Who the plugin acts for

`OnTimer` stores the connection type and whether the user controls; everything that
leaves the main thread is gated on what was stored. The record keeps what EuroScope
last reported of the user, and under which report each act was taken.
-/

namespace CentralSquawk
open Library

/-- What EuroScope last reported of the user. -/
structure Seat where
  connectionType : Int := CONNECTION_TYPE_NO
  myself : Myself := ⟨[], 0⟩

structure Act where
  seat : Seat
  userCallsign : Text

structure ActRecord where
  seat : Seat := {}
  acts : List Act := []
  captures : List Seat := []

/-- The main thread calls the bridge, sets a squawk or queues a request. -/
def acted (s : System) : MainAction → Bool
  | .bridgeTimer registration => !(s.onBridgeTimer registration).calls.isEmpty
  | .flight fp answer =>
    !(applyFlight s.main.snapshot s.plugin.bridge fp answer).calls.isEmpty ||
      (applyFlight s.main.snapshot s.plugin.bridge fp answer).squawk.isSome
  | .functionCall call => (s.plugin.onFunctionCall call).queued.isSome
  | _ => false

def Seat.next (seat : Seat) : MainAction → Seat
  | .timer connectionType => { seat with connectionType }
  | .isController myself => { seat with myself }
  | _ => seat

def ActRecord.next (r : ActRecord) (s : System) : Action → ActRecord
  | .main a =>
    { seat := r.seat.next a
      acts := if acted s a then ⟨r.seat, s.plugin.userCallsign⟩ :: r.acts else r.acts
      captures :=
        match a with
        | .capture _ => r.seat :: r.captures
        | _ => r.captures }
  | _ => r

def Seat.connected (seat : Seat) : Prop :=
  seat.connectionType ∈ [CONNECTION_TYPE_DIRECT, CONNECTION_TYPE_VIA_PROXY, CONNECTION_TYPE_SIMULATOR_SERVER,
    CONNECTION_TYPE_SIMULATOR_CLIENT, CONNECTION_TYPE_SWEATBOX]

/-- A callsign and a facility an observer does not have. -/
structure Controls (myself : Myself) : Prop where
  named : 3 ≤ myself.callsign.length
  observes : ¬ text "OBS" <:+ myself.callsign
  facility : myself.facility ≠ 0

theorem connected_iff {seat : Seat} :
    seat.connected ↔ detectConnectionMode seat.connectionType ≠ .offline := by
  unfold Seat.connected detectConnectionMode
  split
  · rename_i live
    rcases live with live | live <;> simp [live]
  · rename_i other
    push Not at other
    split
    · rename_i simulator
      rcases simulator with simulator | simulator | simulator <;> simp [simulator]
    · rename_i neither
      push Not at neither
      simp [other, neither]

theorem isController_iff {myself : Myself} : isController myself = true ↔ Controls myself := by
  unfold isController
  split
  · rename_i short
    exact ⟨by simp, fun controls => absurd controls.named (by omega)⟩
  · rename_i long
    have observes : text "OBS" <:+ myself.callsign ↔
        myself.callsign.drop (myself.callsign.length - 3) = text "OBS" := by
      rw [List.suffix_iff_eq_drop]
      exact eq_comm
    constructor
    · intro controller
      simp only [Bool.not_eq_true', Bool.or_eq_false_iff, decide_eq_false_iff_not] at controller
      exact ⟨by omega, fun suffix => controller.1 (observes.mp suffix), controller.2⟩
    · rintro ⟨-, other, facility⟩
      have differs := mt observes.mpr other
      simp [differs, facility]

theorem isOnline_iff {p : Plugin} : p.isOnline = true ↔ p.connectionMode ≠ .offline := by
  unfold Plugin.isOnline Plugin.resolveMode CentralSquawk.resolveMode
  split
  · rename_i offline
    simp [offline]
  · rename_i online
    simp only [online, ne_eq, not_false_eq_true, iff_true, decide_eq_true_eq]
    repeat' split
    all_goals simp

/-- What the main thread knows of the user is what EuroScope last reported. -/
structure Seated (s : System) (seat : Seat) : Prop where
  connection : s.plugin.connectionMode = detectConnectionMode seat.connectionType
  controller : s.main.controller = isController seat.myself
  stored : s.main.pc ≠ .storeController → s.plugin.isController = s.main.controller
  callsign : isController seat.myself = true → s.plugin.userCallsign = seat.myself.callsign
  resolved : s.main.pc ≠ .resolveMode → s.main.mode ≠ .offline → s.plugin.connectionMode ≠ .offline
  sweeping : s.main.pc = .sweeping → s.plugin.connectionMode ≠ .offline ∧ s.plugin.isController = true
  serving : s.main.pc ∈ [.servePicture, .capture] → s.main.mode = .sweatbox

theorem afterSweep_serving {m : MainThread} (serving : m.afterSweep ∈ [MainPc.servePicture, .capture]) :
    m.mode = .sweatbox := by
  unfold MainThread.afterSweep at serving
  split at serving
  · assumption
  · simp at serving

theorem seated_main {s : System} {seat : Seat} {a : MainAction} (pc : s.main.pc = a.pc)
    (before : Seated s seat) : Seated (mainEffect s a) (seat.next a) := by
  obtain ⟨connection, controller, stored, callsign, resolved, sweeping, serving⟩ := before
  cases a with
  | timer connectionType =>
    refine ⟨rfl, controller, fun _ => ?_, callsign, fun other => absurd rfl other, by simp [mainEffect],
      by simp [mainEffect]⟩
    exact stored (by simp [pc, MainAction.pc])
  | resolveMode =>
    refine ⟨connection, controller, fun _ => ?_, callsign, fun _ online => ?_, by simp [mainEffect],
      by simp [mainEffect]⟩
    · exact stored (by simp [pc, MainAction.pc])
    · have online : s.plugin.resolveMode ≠ .offline := online
      have connected : s.plugin.isOnline = true := decide_eq_true online
      exact isOnline_iff.mp connected
  | isController myself =>
    refine ⟨connection, rfl, fun other => absurd rfl other, fun accepted => ?_, fun _ => ?_,
      by simp [mainEffect], by simp [mainEffect]⟩
    · have named : 3 ≤ myself.callsign.length := (isController_iff.mp accepted).named
      exact if_neg (by omega)
    · exact resolved (by simp [pc, MainAction.pc])
  | storeController =>
    refine ⟨connection, controller, fun _ => rfl, callsign, fun _ => ?_, by simp [mainEffect],
      by simp [mainEffect]⟩
    exact resolved (by simp [pc, MainAction.pc])
  | applyAssignments =>
    have known := stored (by simp [pc, MainAction.pc])
    have online := resolved (by simp [pc, MainAction.pc])
    refine ⟨connection, controller, fun _ => known, callsign, fun _ => online, fun here => ?_, fun here => ?_⟩
    · cases sweeps : s.plugin.sweeps with
      | true =>
        simp only [Plugin.sweeps, Bool.and_eq_true] at sweeps
        exact ⟨isOnline_iff.mp sweeps.1.1, sweeps.1.2⟩
      | false =>
        have after : s.main.afterSweep = .sweeping := by simpa [mainEffect, sweeps] using here
        exact absurd after s.main.afterSweep_ne_sweeping
    · cases sweeps : s.plugin.sweeps with
      | true => simp [mainEffect, sweeps] at here
      | false =>
        have after : s.main.afterSweep ∈ [MainPc.servePicture, .capture] := by
          simpa [mainEffect, sweeps] using here
        exact afterSweep_serving after
  | flight fp answer =>
    exact ⟨connection, controller, stored, callsign, resolved, sweeping, serving⟩
  | forgetAbsent =>
    have known := stored (by simp [pc, MainAction.pc])
    have online := resolved (by simp [pc, MainAction.pc])
    refine ⟨connection, controller, fun _ => known, callsign, fun _ => online, fun here => ?_, fun here => ?_⟩
    · exact absurd here s.main.afterSweep_ne_sweeping
    · exact afterSweep_serving here
  | servePicture =>
    have known := stored (by simp [pc, MainAction.pc])
    have online := resolved (by simp [pc, MainAction.pc])
    have mode := serving (by simp [pc, MainAction.pc])
    refine ⟨connection, controller, fun _ => known, callsign, fun _ => online, fun here => ?_, fun _ => mode⟩
    simp only [mainEffect] at here
    split at here <;> contradiction
  | _ =>
    have known := stored (by simp [pc, MainAction.pc])
    have online := resolved (by simp [pc, MainAction.pc])
    exact ⟨connection, controller, fun _ => known, callsign, fun _ => online, by simp [mainEffect, pc, MainAction.pc],
      by simp [mainEffect, pc, MainAction.pc]⟩

section
variable [Secret]

def acting : Machine (System × ActRecord) Action := plugin.observe {} ActRecord.next

theorem seated_worker {s : System} {seat : Seat} (a : WorkerAction) (before : Seated s seat) :
    Seated (workerEffect s a) seat := by
  have main : (workerEffect s a).main = s.main := workerEffect_main s a
  have connectionMode := workerEffect_connectionMode s a
  have userCallsign := workerEffect_userCallsign s a
  have controller : (workerEffect s a).plugin.isController = s.plugin.isController := by
    cases a <;> rfl
  refine ⟨?_, ?_, ?_, ?_, ?_, ?_, ?_⟩
  all_goals simp only [main, connectionMode, userCallsign, controller]
  · exact before.connection
  · exact before.controller
  · exact before.stored
  · exact before.callsign
  · exact before.resolved
  · exact before.sweeping
  · exact before.serving

theorem seated : acting.Invariant (fun x => Seated x.1 x.2.seat) := by
  apply Machine.invariant_of_step
  · constructor <;> simp [acting, Machine.observe, plugin, detectConnectionMode, isController,
      CONNECTION_TYPE_NO, CONNECTION_TYPE_DIRECT, CONNECTION_TYPE_VIA_PROXY, CONNECTION_TYPE_SWEATBOX,
      CONNECTION_TYPE_SIMULATOR_SERVER, CONNECTION_TYPE_SIMULATOR_CLIENT]
  · rintro ⟨s, r⟩ a on before
    cases a with
    | main a => exact seated_main (enabled_main on).2 before
    | worker a => exact seated_worker a before
    | elapse duration =>
      exact ⟨before.connection, before.controller, before.stored, before.callsign, before.resolved,
        before.sweeping, before.serving⟩

end

/-! ### Acts -/

structure Act.Proper (act : Act) : Prop where
  connected : act.seat.connected
  controls : Controls act.seat.myself
  callsign : act.userCallsign = act.seat.myself.callsign

structure ActRecord.Proper (r : ActRecord) : Prop where
  acts : ∀ act ∈ r.acts, act.Proper
  captures : ∀ seat ∈ r.captures, seat.connected

theorem acted_gates {s : System} {seat : Seat} {a : MainAction} (pc : s.main.pc = a.pc)
    (seated : Seated s seat) (act : acted s a = true) :
    s.plugin.connectionMode ≠ .offline ∧ isController seat.myself = true := by
  cases a with
  | bridgeTimer registration =>
    simp only [acted, System.onBridgeTimer] at act
    split at act
    · rename_i gate
      simp only [Bool.and_eq_true, decide_eq_true_eq] at gate
      exact ⟨seated.resolved (by simp [pc, MainAction.pc]) gate.1, seated.controller ▸ gate.2⟩
    · contradiction
  | flight fp answer =>
    obtain ⟨online, controller⟩ := seated.sweeping pc
    rw [seated.stored (by simp [pc, MainAction.pc]), seated.controller] at controller
    exact ⟨online, controller⟩
  | functionCall call =>
    simp only [acted, Plugin.onFunctionCall, onFunctionCall] at act
    split at act
    · contradiction
    rename_i online
    split at act
    · contradiction
    rename_i controller
    have controller : s.plugin.isController = true := by simpa using controller
    rw [seated.stored (by simp [pc, MainAction.pc]), seated.controller] at controller
    exact ⟨isOnline_iff.mp (by simpa using online), controller⟩
  | _ => contradiction

theorem proper_main {s : System} {r : ActRecord} {a : MainAction} (pc : s.main.pc = a.pc)
    (seated : Seated s r.seat) (before : r.Proper) : (r.next s (.main a)).Proper := by
  obtain ⟨acts, captures⟩ := before
  constructor
  · show ∀ act ∈ (if acted s a then ⟨r.seat, s.plugin.userCallsign⟩ :: r.acts else r.acts), act.Proper
    split
    · rename_i act
      obtain ⟨online, controller⟩ := acted_gates pc seated act
      intro new member
      rcases List.mem_cons.mp member with rfl | earlier
      · exact ⟨connected_iff.mpr (seated.connection ▸ online), isController_iff.mp controller,
          seated.callsign controller⟩
      · exact acts new earlier
    · exact acts
  · cases a with
    | capture targets =>
      have mode := seated.serving (by simp [pc, MainAction.pc])
      have online := seated.resolved (by simp [pc, MainAction.pc]) (by simp [mode])
      intro new member
      rcases List.mem_cons.mp member with rfl | earlier
      · exact connected_iff.mpr (seated.connection ▸ online)
      · exact captures new earlier
    | _ => exact captures

section
variable [Secret]

/-- In every run the main thread calls the bridge, sets a squawk and queues a request only while
EuroScope's last reports are of a connection and of a controller, whose callsign is the one the plugin
signs with; and it captures a picture only while connected. -/
theorem acts_only_as_controller (actions : List Action) : (acting.run actions).2.Proper := by
  have invariant : acting.Invariant (fun x => x.2.Proper) := by
    refine seated.strengthen ?_ ?_
    · exact ⟨by simp [acting, Machine.observe], by simp [acting, Machine.observe]⟩
    · rintro ⟨s, r⟩ a on seated before
      cases a with
      | main a => exact proper_main (enabled_main on).2 seated before
      | worker a => exact before
      | elapse duration => exact before
  exact invariant actions

end

end CentralSquawk
