import CentralSquawk.Dupe.Publisher
import CentralSquawk.Library.Simulation
import CentralSquawk.Threads.System

/-!
# The publisher as the plugin uses it

The life of the publisher is written for uses in any order. Here the two threads are
shown to be such a life, whatever they do to each other, and what is safe in every
life is read off their runs.
-/

namespace CentralSquawk.Dupe
open Library

/-- What the publisher does for a step of the main thread: its calls and the errors it displays. -/
def served (outs : List Output) (s : System) : Action → List Output
  | .main (.bridgeTimer registration) =>
    outs ++ ((s.onBridgeTimer registration).calls.map .called ++
      (s.onBridgeTimer registration).displayed.map .displayed)
  | .main (.flight fp answer) =>
    outs ++ (applyFlight s.main.snapshot s.plugin.bridge fp answer).calls.map .called
  | _ => outs

def serving [Secret] : Machine (System × List Output) Action := plugin.observe [] served

def Use.alive : Use → Prop
  | .destroy _ => False
  | _ => True

structure Same (x : System × List Output) (y : Life × History) : Prop where
  life : y.1 = { publisher := x.1.plugin.bridge }
  outputs : y.2.outputs = x.2

theorem lived_step {l : Life} {h : History} (alive : l.alive = true) (u : Use) :
    lived.step (l, h) u = (lifetime.effect l u, h.next l u) := Machine.step_on alive

theorem answered_by {x : System × List Output} {y : Life × History} (before : Same x y) (u : Use)
    {p : BridgePublisher} {outs : List Output} (allowed : u.alive)
    (publisher : lifetime.effect { publisher := x.1.plugin.bridge } u = { publisher := p })
    (outputs : outs = x.2 ++ Dupe.outputs x.1.plugin.bridge u) {s : System} (bridge : s.plugin.bridge = p) :
    ∃ uses, (∀ u ∈ uses, Use.alive u) ∧ Same (s, outs) (lived.runFrom y uses) := by
  obtain ⟨l, h⟩ := y
  obtain ⟨life, so_far⟩ := before
  have life : l = { publisher := x.1.plugin.bridge } := life
  subst life
  refine ⟨[u], by simpa using allowed, ?_⟩
  show Same (s, outs) (lived.step ({ publisher := x.1.plugin.bridge }, h) u)
  rw [lived_step rfl, publisher]
  exact ⟨by rw [bridge], by rw [outputs, ← so_far]; rfl⟩

theorem served_quietly {s t : System} {outs : List Output} {y : Life × History} (before : Same (s, outs) y)
    (bridge : t.plugin.bridge = s.plugin.bridge) :
    ∃ uses, (∀ u ∈ uses, Use.alive u) ∧ Same (t, outs) (lived.runFrom y uses) := by
  refine ⟨[], by simp, ?_, before.outputs⟩
  show y.1 = { publisher := t.plugin.bridge }
  rw [bridge]
  exact before.life

theorem served_main {s : System} {outs : List Output} {y : Life × History} (a : MainAction)
    (before : Same (s, outs) y) : ∃ uses, (∀ u ∈ uses, Use.alive u) ∧
      Same (mainEffect s a, served outs s (.main a)) (lived.runFrom y uses) := by
  cases a with
  | bridgeTimer registration =>
    by_cases gated : (s.main.mode ≠ .offline && s.main.controller) = true
    · have turn : s.onBridgeTimer registration = s.plugin.bridge.onTimer registration := if_pos gated
      refine answered_by before (.onTimer registration) trivial rfl ?_ ?_
      · rw [served, turn]
        rfl
      · rw [mainEffect, turn]
    · have idle : s.onBridgeTimer registration = { publisher := s.plugin.bridge } := if_neg gated
      have quiet : served outs s (.main (.bridgeTimer registration)) = outs := by simp [served, idle]
      rw [quiet]
      exact served_quietly before (by rw [mainEffect, idle])
  | flight fp answer =>
    cases named : fp.key with
    | none =>
      have quiet : served outs s (.main (.flight fp answer)) = outs := by
        simp [served, applyFlight, named]
      rw [quiet]
      exact served_quietly before (by simp [mainEffect, applyFlight, named])
    | some callsign =>
      refine answered_by before (.publishDupe callsign (dupeOf s.main.snapshot callsign) answer) trivial rfl ?_ ?_
      · simp [served, applyFlight, named, Dupe.outputs]
      · simp [mainEffect, applyFlight, named]
  | forgetAbsent =>
    refine answered_by before (.forgetAbsent s.main.seen) trivial rfl ?_ rfl
    simp [served, Dupe.outputs]
  | _ => exact served_quietly before rfl

/-- What the publisher may show for a run of the plugin. -/
structure Orderly (outs : List Output) : Prop where
  attached : ∀ call, .called call ∈ outs → call.api = true
  writes : ∀ call, .called call ∈ outs → ∀ provider field,
    writesThrough call.function = some (provider, field) → provider ≠ none ∧ field ≠ ESB_FIELD_NONE
  missing : outs.count (.displayed ESB_MISSING_MESSAGE) ≤ 1
  conflict : outs.count (.displayed BridgePublisher.conflictMessage) ≤ 1
  dropped : outs.Pairwise (fun o later => o = .displayed BridgePublisher.conflictMessage → later.registers = false)

theorem lived_orderly : lived.Invariant (fun y => Orderly y.2.outputs) := by
  intro uses
  have sound := calls_sound uses
  obtain ⟨⟨waiting, reported⟩, conflict, dropped⟩ := notices uses
  exact {
    attached := fun call member => (sound call member).attached
    writes := fun call member => (sound call member).writes
    missing := by
      cases flag : (lived.run uses).1.publisher.missingReported with
      | true =>
        obtain ⟨-, once⟩ := reported flag
        exact once.le
      | false =>
        obtain ⟨-, -, none_yet⟩ := waiting flag
        rw [none_yet]
        exact Nat.zero_le 1
    conflict := by
      rw [conflict]
      split <;> omega
    dropped }

section
variable [Secret]

theorem plugin_simulates : Simulates serving lived Use.alive Same where
  start := ⟨rfl, rfl⟩
  answers := by
    rintro ⟨s, outs⟩ a y - before
    cases a with
    | main a => exact served_main a before
    | worker a => exact served_quietly before (workerEffect_bridge s a)
    | elapse duration => exact served_quietly before rfl

/-- Every run of the two threads is a life of the publisher that does not end, with the same calls and
notices in the same order; so in every run the bridge is called only once it is attached, written to
only under a provider and a field, and each of the two notices is given at most once. -/
theorem plugin_lives (actions : List Action) :
    (∃ uses, (∀ u ∈ uses, Use.alive u) ∧ Same (serving.run actions) (lived.run uses)) ∧
      Orderly (serving.run actions).2 := by
  refine ⟨plugin_simulates.run actions, ?_⟩
  exact plugin_simulates.transfer lived_orderly (fun x y same orderly => same.outputs ▸ orderly) actions

end

end CentralSquawk.Dupe
