import CentralSquawk.Threads.System

/-!
# The plugin and the bridge it publishes to

The plugin's steps, with aircraft joining and leaving the network between any two
of them. The bridge answers a sweep's calls; the log keeps what each sweep that
ran to its end had asked for and what the bridge held when it ended.
-/

namespace CentralSquawk.Dupe
open Library

structure World where
  system : System
  bridge : Bridge

inductive Event where
  | plugin (action : Action)
  | join (callsign : Text)
  | leave (callsign : Text)

def bridgeCalls (s : System) : Action → List BridgeCall
  | .main (.bridgeTimer registration) => (s.onBridgeTimer registration).calls
  | .main (.flight fp answer) => (applyFlight s.main.snapshot s.plugin.bridge fp answer).calls
  | _ => []

/-- A lookup fails only for a callsign that is not on the network. -/
def answersFor (b : Bridge) : Action → Bool
  | .main (.flight fp answer) =>
    fp.key.all (fun callsign => callsign ∉ b.network || answer.aircraft = ESB_OK)
  | _ => true

def World.enabled (w : World) : Event → Bool
  | .plugin a => w.system.enabled a && answersFor w.bridge a
  | _ => true

def World.effect [Secret] (w : World) : Event → World
  | .plugin a => ⟨w.system.effect a, w.bridge.performAll (bridgeCalls w.system a)⟩
  | .join callsign => { w with bridge := w.bridge.join callsign }
  | .leave callsign => { w with bridge := w.bridge.leave callsign }

def published [Secret] : Machine World Event where
  init := ⟨{}, .empty⟩
  enabled := World.enabled
  effect := World.effect

/-! ### The sweeps that ran to their end -/

def aircraftOf : BridgeFunction → Option Text
  | .aircraft callsign | .setAc _ callsign _ | .clearAc _ callsign _ => some callsign
  | _ => none

/-- The call succeeded, or its aircraft is not on the network. -/
def landed (b : Bridge) (call : BridgeCall) : Bool :=
  call.status = ESB_OK || (aircraftOf call.function).all (fun callsign => callsign ∉ b.network)

/-- The call is not a `clear_ac` that failed. -/
def notStuck (call : BridgeCall) : Bool :=
  call.status = ESB_OK ||
    match call.function with
    | .clearAc _ _ _ => false
    | _ => true

structure Ended where
  snapshot : Cache
  listed : Finset Text
  dupeField : EsbFieldId
  landed : Bool
  cleared : Bool
  bridge : Bridge

structure Log where
  landed : Bool := true
  cleared : Bool := true
  ended : List Ended := []

def Log.next (l : Log) (w : World) : Event → Log
  | .plugin (.main .applyAssignments) => { l with landed := true, cleared := true }
  | .plugin (.main (.flight fp answer)) =>
    let calls := bridgeCalls w.system (.main (.flight fp answer))
    { l with
      landed := l.landed && calls.all (Dupe.landed w.bridge)
      cleared := l.cleared && calls.all notStuck }
  | .plugin (.main .forgetAbsent) =>
    let e : Ended :=
      { snapshot := w.system.main.snapshot
        listed := w.system.main.seen
        dupeField := w.system.plugin.bridge.dupeField
        landed := l.landed
        cleared := l.cleared
        bridge := w.bridge }
    { l with ended := e :: l.ended }
  | _ => l

def logged [Secret] : Machine (World × Log) Event := published.observe {} Log.next

/-- No DUPE is missed: every listed flight on the network that the snapshot marks is flagged. -/
def Ended.complete (e : Ended) : Prop :=
  e.dupeField ≠ ESB_FIELD_NONE → e.landed = true →
    ∀ callsign ∈ e.listed, callsign ∈ e.bridge.network → dupeOf e.snapshot callsign = true →
      callsign ∈ e.bridge.flagged

/-- No DUPE is stale: no listed flight that the snapshot does not mark is flagged. -/
def Ended.retracted (e : Ended) : Prop :=
  e.cleared = true →
    ∀ callsign ∈ e.listed, dupeOf e.snapshot callsign = false → callsign ∉ e.bridge.flagged

instance (e : Ended) : Decidable e.complete := by
  unfold Ended.complete
  infer_instance

instance (e : Ended) : Decidable e.retracted := by
  unfold Ended.retracted
  infer_instance

/-! ### What one `PublishDupe` does to both sides -/

section
variable {p : BridgePublisher} {b : Bridge} {callsign other : Text} {dupe : Bool}
  {answer : BridgePublisher.Answer}

theorem publishDupe_network :
    (b.performAll (p.publishDupe callsign dupe answer).calls).network = b.network := by
  rcases BridgePublisher.publishDupe_cases p b callsign dupe answer with
    ⟨-, quiet, -⟩ | ⟨-, -, -, quiet⟩ | ⟨-, -, -, set⟩ | ⟨-, -, clear⟩
  · rw [quiet]
  · rw [quiet]
  · rw [set, Bridge.setFlag_network]
  · rw [clear]
    rfl

theorem publishDupe_dupeField : (p.publishDupe callsign dupe answer).publisher.dupeField = p.dupeField := by
  rcases BridgePublisher.publishDupe_cases p .empty callsign dupe answer with
    ⟨same, -⟩ | ⟨-, -, erased, -⟩ | ⟨-, -, inserted, -⟩ | ⟨-, erased, -⟩
  · rw [same]
  · rw [erased]
  · rw [inserted]
  · rw [erased]

theorem publishDupe_other_flag (different : other ≠ callsign) :
    other ∈ (b.performAll (p.publishDupe callsign dupe answer).calls).flagged ↔ other ∈ b.flagged := by
  rcases BridgePublisher.publishDupe_cases p b callsign dupe answer with
    ⟨-, quiet, -⟩ | ⟨-, -, -, quiet⟩ | ⟨-, -, -, set⟩ | ⟨-, -, clear⟩
  · rw [quiet]
  · rw [quiet]
  · rw [set, Bridge.mem_setFlag]
    simp [different]
  · rw [clear]
    simp [Bridge.clearFlag, different]

theorem publishDupe_other_record (different : other ≠ callsign) :
    other ∈ (p.publishDupe callsign dupe answer).publisher.published ↔ other ∈ p.published := by
  rcases BridgePublisher.publishDupe_cases p .empty callsign dupe answer with
    ⟨same, -⟩ | ⟨-, -, erased, -⟩ | ⟨-, -, inserted, -⟩ | ⟨-, erased, -⟩
  · rw [same]
  · rw [erased]
    simp [different]
  · rw [inserted]
    simp [different]
  · rw [erased]
    simp [different]

theorem publishDupe_covered (covered : b.flagged ⊆ p.published)
    (unknown : answer.aircraft ≠ ESB_OK → callsign ∉ b.flagged) :
    (b.performAll (p.publishDupe callsign dupe answer).calls).flagged ⊆
      (p.publishDupe callsign dupe answer).publisher.published := by
  intro other flagged
  by_cases this : other = callsign
  · subst this
    rcases BridgePublisher.publishDupe_cases p b other dupe answer with
      ⟨same, quiet, -⟩ | ⟨-, failed, -, quiet⟩ | ⟨-, -, inserted, -⟩ | ⟨-, -, clear⟩
    · rw [quiet] at flagged
      rw [same]
      exact covered flagged
    · rw [quiet] at flagged
      exact absurd flagged (unknown failed)
    · rw [inserted]
      exact Finset.mem_insert_self _ _
    · rw [clear] at flagged
      exact absurd flagged (Finset.notMem_erase _ _)
  · rw [publishDupe_other_flag this] at flagged
    rw [publishDupe_other_record this]
    exact covered flagged

/-- Asked to lower a flag, `PublishDupe` leaves it up only when its `clear_ac` fails. -/
theorem publishDupe_retracted (registered : p.Registered) (covered : b.flagged ⊆ p.published)
    (unknown : answer.aircraft ≠ ESB_OK → callsign ∉ b.flagged) (named : callsign ≠ [])
    (flagged : callsign ∈ (b.performAll (p.publishDupe callsign false answer).calls).flagged) :
    (p.publishDupe callsign false answer).calls.all notStuck = false := by
  rcases BridgePublisher.publishDupe_cases p b callsign false answer with
    ⟨-, quiet, why⟩ | ⟨-, failed, -, quiet⟩ | ⟨wanted, -⟩ | ⟨-, -, clear⟩
  · rw [quiet] at flagged
    have remembered := covered flagged
    rcases why with none | nil | already | ⟨wanted, -⟩ | ⟨refused, called⟩
    · rw [registered.field none] at remembered
      exact absurd remembered (Finset.notMem_empty _)
    · exact absurd nil named
    · exact absurd remembered (by simpa using already)
    · contradiction
    · have stuck : notStuck ⟨p.api, p.writeDupe callsign false, answer.write⟩ = false := by
        simp [notStuck, BridgePublisher.writeDupe, refused]
      apply List.all_eq_false.mpr
      exact ⟨_, called, by simp [stuck]⟩
  · rw [quiet] at flagged
    exact absurd flagged (unknown failed)
  · contradiction
  · rw [clear] at flagged
    exact absurd flagged (Finset.notMem_erase _ _)

/-- What is recorded for an aircraft on the network goes on being up. -/
theorem publishDupe_trusted
    (trusted : ∀ other ∈ p.published, other ∈ b.network → other ∈ b.flagged) :
    ∀ other ∈ (p.publishDupe callsign dupe answer).publisher.published, other ∈ b.network →
      other ∈ (b.performAll (p.publishDupe callsign dupe answer).calls).flagged := by
  intro other member connected
  by_cases this : other = callsign
  · subst this
    rcases BridgePublisher.publishDupe_cases p b other dupe answer with
      ⟨same, quiet, -⟩ | ⟨-, -, erased, -⟩ | ⟨-, -, -, set⟩ | ⟨-, erased, -⟩
    · rw [same] at member
      rw [quiet]
      exact trusted other member connected
    · rw [erased] at member
      exact absurd member (Finset.notMem_erase _ _)
    · rw [set]
      exact Bridge.mem_setFlag.mpr (Or.inr ⟨rfl, connected⟩)
    · rw [erased] at member
      exact absurd member (Finset.notMem_erase _ _)
  · rw [publishDupe_other_record this] at member
    rw [publishDupe_other_flag this]
    exact trusted other member connected

/-- Asked to raise a flag, `PublishDupe` leaves it down only when a call fails. -/
theorem publishDupe_flagged
    (trusted : ∀ other ∈ p.published, other ∈ b.network → other ∈ b.flagged)
    (field : p.dupeField ≠ ESB_FIELD_NONE) (named : callsign ≠ []) (connected : callsign ∈ b.network)
    (found : answer.aircraft = ESB_OK)
    (all : (p.publishDupe callsign true answer).calls.all (landed b) = true) :
    callsign ∈ (b.performAll (p.publishDupe callsign true answer).calls).flagged := by
  rcases BridgePublisher.publishDupe_cases p b callsign true answer with
    ⟨-, quiet, why⟩ | ⟨unwanted, -⟩ | ⟨-, -, -, set⟩ | ⟨unwanted, -⟩
  · rw [quiet]
    rcases why with none | nil | already | ⟨-, failed⟩ | ⟨refused, called⟩
    · exact absurd none field
    · exact absurd nil named
    · exact trusted callsign (by simpa using already) connected
    · exact absurd found failed
    · have failed : landed b ⟨p.api, p.writeDupe callsign true, answer.write⟩ = false := by
        simp [landed, BridgePublisher.writeDupe, aircraftOf, refused, connected]
      have every := List.all_eq_true.mp all _ called
      rw [failed] at every
      contradiction
  · contradiction
  · rw [set]
    exact Bridge.mem_setFlag.mpr (Or.inr ⟨rfl, connected⟩)
  · contradiction

end

/-! ### What the steps of `OnTimer` do to both sides -/

section
variable [Secret]

theorem effect_timer_bridge (w : World) (registration : BridgePublisher.Registration) :
    (published.effect w (.plugin (.main (.bridgeTimer registration)))).bridge = w.bridge := by
  show w.bridge.performAll (bridgeCalls w.system _) = w.bridge
  simp only [bridgeCalls, System.onBridgeTimer]
  split
  · exact BridgePublisher.performAll_onTimer _ _ _
  · rfl

theorem effect_timer_publisher (w : World) (registration : BridgePublisher.Registration) :
    (published.effect w (.plugin (.main (.bridgeTimer registration)))).system.plugin.bridge =
        (w.system.plugin.bridge.onTimer registration).publisher ∨
      (published.effect w (.plugin (.main (.bridgeTimer registration)))).system.plugin.bridge =
        w.system.plugin.bridge := by
  show (w.system.onBridgeTimer registration).publisher = _ ∨ (w.system.onBridgeTimer registration).publisher = _
  unfold System.onBridgeTimer
  split
  · exact Or.inl rfl
  · exact Or.inr rfl

variable (w : World) (l : Log) {fp : FlightPlan} (answer : BridgePublisher.Answer) {callsign : Text}

theorem effect_flight_skipped (skipped : fp.key = none) :
    (published.effect w (.plugin (.main (.flight fp answer)))).bridge = w.bridge ∧
      (published.effect w (.plugin (.main (.flight fp answer)))).system.plugin.bridge =
        w.system.plugin.bridge ∧
      (published.effect w (.plugin (.main (.flight fp answer)))).system.main.seen =
        w.system.main.seen ∧
      l.next w (.plugin (.main (.flight fp answer))) = l := by
  have applied : applyFlight w.system.main.snapshot w.system.plugin.bridge fp answer =
      { publisher := w.system.plugin.bridge } := by simp [applyFlight, skipped]
  have calls : bridgeCalls w.system (.main (.flight fp answer)) = [] := by simp [bridgeCalls, applied]
  refine ⟨?_, ?_, ?_, by simp [Log.next, calls]⟩
  · show w.bridge.performAll (bridgeCalls w.system _) = w.bridge
    rw [calls]
    rfl
  · show (applyFlight _ _ fp answer).publisher = _
    rw [applied]
  · show w.system.main.seen ∪ (applyFlight _ _ fp answer).seen = _
    rw [applied]
    exact Finset.union_empty _

theorem effect_flight_named (named : fp.key = some callsign) :
    let publish := w.system.plugin.bridge.publishDupe callsign
      (dupeOf w.system.main.snapshot callsign) answer
    (published.effect w (.plugin (.main (.flight fp answer)))).bridge =
        w.bridge.performAll publish.calls ∧
      (published.effect w (.plugin (.main (.flight fp answer)))).system.plugin.bridge =
        publish.publisher ∧
      (published.effect w (.plugin (.main (.flight fp answer)))).system.main.seen =
        w.system.main.seen ∪ {callsign} ∧
      l.next w (.plugin (.main (.flight fp answer))) =
        { l with
          landed := l.landed && publish.calls.all (landed w.bridge)
          cleared := l.cleared && publish.calls.all notStuck } := by
  intro publish
  refine ⟨?_, ?_, ?_, ?_⟩
  · show w.bridge.performAll (bridgeCalls w.system _) = _
    simp [bridgeCalls, applyFlight, named, publish]
  · show (applyFlight _ _ fp answer).publisher = _
    simp [applyFlight, named, publish]
  · show w.system.main.seen ∪ (applyFlight _ _ fp answer).seen = _
    simp [applyFlight, named]
  · simp [Log.next, bridgeCalls, applyFlight, named, publish]

variable {w answer}

theorem aircraft_found (on : published.enabled w (.plugin (.main (.flight fp answer))) = true)
    (named : fp.key = some callsign) (connected : callsign ∈ w.bridge.network) :
    answer.aircraft = ESB_OK := by
  have both : w.system.enabled (.main (.flight fp answer)) = true ∧
      answersFor w.bridge (.main (.flight fp answer)) = true := by
    simpa [published, World.enabled] using on
  simpa [answersFor, named, connected] using both.2

end

end CentralSquawk.Dupe
