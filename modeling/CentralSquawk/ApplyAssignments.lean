import CentralSquawk.BridgePublisher
import CentralSquawk.Types

/-!
# Applying the assignments

`CentralSquawk::ApplyAssignments` (`src/CentralSquawk.cpp`): one sweep over
EuroScope's flight plans. The body of its loop is a definition of its own, since
the worker thread may run between two flights.
-/

namespace CentralSquawk

/-- What a sweep reads of one EuroScope flight plan. -/
structure FlightPlan where
  callsign : Option Text
  trackingControllerCallsign : Option Text := none
  trackingControllerIsMe : Bool := false
  squawk : Option Text := none
  deriving DecidableEq

namespace FlightPlan

/-- The callsign as every lookup spells it; `none` when the flight is skipped. -/
def key (fp : FlightPlan) : Option Text := (nonEmpty fp.callsign).map toUpper

def untracked (fp : FlightPlan) : Bool := (nonEmpty fp.trackingControllerCallsign).isNone

/-- A flight tracked by someone else is theirs to set. -/
def mayWrite (fp : FlightPlan) : Bool := fp.trackingControllerIsMe || fp.untracked

theorem key_ne_nil {fp : FlightPlan} {callsign : Text} (h : fp.key = some callsign) : callsign ≠ [] := by
  obtain ⟨raw, read, rfl⟩ := Option.map_eq_some_iff.mp h
  simpa using nonEmpty_ne_nil read

end FlightPlan

def Cache.isEmpty (cache : Cache) : Bool := cache.entries.isEmpty

def dupeOf (snapshot : Cache) (callsign : Text) : Bool :=
  match snapshot.lookup callsign with
  | some info => info.dupe
  | none => false

def squawkFor (snapshot : Cache) (fp : FlightPlan) (callsign : Text) : Option Text :=
  if !fp.mayWrite then none
  else
    match snapshot.lookup callsign with
    | none => none
    | some info =>
      if !isWellFormedSquawk info.ssr then none
      else if fp.squawk = some info.ssr then none
      else some info.ssr

structure Applied where
  publisher : BridgePublisher
  seen : Finset Text := ∅
  calls : List BridgeCall := []
  dupe : Option (Text × Bool) := none
  squawk : Option (Text × Text) := none

def applyFlight (snapshot : Cache) (publisher : BridgePublisher) (fp : FlightPlan)
    (answer : BridgePublisher.Answer) : Applied :=
  match fp.key with
  | none => { publisher }
  | some callsign =>
    let published := publisher.publishDupe callsign (dupeOf snapshot callsign) answer
    { publisher := published.publisher
      seen := {callsign}
      calls := published.calls
      dupe := some (callsign, dupeOf snapshot callsign)
      squawk := (squawkFor snapshot fp callsign).map (fun code => (callsign, code)) }

theorem squawkFor_eq_some {snapshot : Cache} {fp : FlightPlan} {callsign code : Text} :
    squawkFor snapshot fp callsign = some code ↔ fp.mayWrite = true ∧
      ∃ info, snapshot.lookup callsign = some info ∧ isWellFormedSquawk info.ssr = true ∧
        fp.squawk ≠ some info.ssr ∧ info.ssr = code := by
  unfold squawkFor
  cases fp.mayWrite with
  | false => simp
  | true =>
    cases snapshot.lookup callsign with
    | none => simp
    | some info =>
      cases well : isWellFormedSquawk info.ssr with
      | false => simp [well]
      | true => simp [well]

theorem applyFlight_squawk (snapshot : Cache) (publisher : BridgePublisher) (fp : FlightPlan)
    (answer : BridgePublisher.Answer) :
    (applyFlight snapshot publisher fp answer).squawk = fp.key.bind (fun callsign =>
      (squawkFor snapshot fp callsign).map (fun code => (callsign, code))) := by
  unfold applyFlight
  cases fp.key <;> rfl

theorem applyFlight_squawk_eq_some {snapshot : Cache} {publisher : BridgePublisher} {fp : FlightPlan}
    {answer : BridgePublisher.Answer} {callsign code : Text} :
    (applyFlight snapshot publisher fp answer).squawk = some (callsign, code) ↔
      fp.key = some callsign ∧ squawkFor snapshot fp callsign = some code := by
  rw [applyFlight_squawk]
  constructor
  · intro passed
    obtain ⟨key, named, chosen⟩ := Option.bind_eq_some_iff.mp passed
    obtain ⟨wanted, wants, same⟩ := Option.map_eq_some_iff.mp chosen
    obtain ⟨rfl, rfl⟩ := Prod.mk.inj same
    exact ⟨named, wants⟩
  · rintro ⟨named, wants⟩
    simp [named, wants]

theorem applyFlight_dupe_eq_some {snapshot : Cache} {publisher : BridgePublisher} {fp : FlightPlan}
    {answer : BridgePublisher.Answer} {callsign : Text} {dupe : Bool} :
    (applyFlight snapshot publisher fp answer).dupe = some (callsign, dupe) ↔
      fp.key = some callsign ∧ dupeOf snapshot callsign = dupe := by
  unfold applyFlight
  cases fp.key with
  | none => simp
  | some key =>
    simp only [Option.some.injEq, Prod.mk.injEq]
    constructor
    · rintro ⟨rfl, same⟩
      exact ⟨rfl, same⟩
    · rintro ⟨rfl, same⟩
      exact ⟨rfl, same⟩

structure Sweep where
  publisher : BridgePublisher
  seen : Finset Text := ∅
  calls : List BridgeCall := []
  squawks : List (Text × Text) := []

namespace Sweep

def flight (snapshot : Cache) (sweep : Sweep) (fp : FlightPlan × BridgePublisher.Answer) : Sweep :=
  let applied := applyFlight snapshot sweep.publisher fp.1 fp.2
  { publisher := applied.publisher
    seen := sweep.seen ∪ applied.seen
    calls := sweep.calls ++ applied.calls
    squawks := sweep.squawks ++ applied.squawk.toList }

def flights (snapshot : Cache) (sweep : Sweep) (plans : List (FlightPlan × BridgePublisher.Answer)) :
    Sweep :=
  plans.foldl (flight snapshot) sweep

def finish (sweep : Sweep) : Sweep :=
  { sweep with publisher := sweep.publisher.forgetAbsent sweep.seen }

end Sweep

def fullSweep (snapshot : Cache) (publisher : BridgePublisher)
    (plans : List (FlightPlan × BridgePublisher.Answer)) : Sweep :=
  (Sweep.flights snapshot { publisher } plans).finish

/-- The early return: an empty snapshot and no flag to retract. -/
def idleSweep (snapshot : Cache) (publisher : BridgePublisher) : Bool :=
  snapshot.isEmpty && !publisher.hasPublished

def applyAssignments (online controller : Bool) (cache : Cache) (publisher : BridgePublisher)
    (plans : List (FlightPlan × BridgePublisher.Answer)) : Sweep :=
  if !online || !controller || idleSweep cache publisher then { publisher }
  else fullSweep cache publisher plans

/-! ### Sweeping with an empty snapshot -/

theorem Cache.lookup_of_isEmpty {snapshot : Cache} (empty : snapshot.isEmpty = true) (callsign : Text) :
    snapshot.lookup callsign = none := by
  rw [AList.lookup_eq_none, AList.mem_keys]
  simp only [Cache.isEmpty, List.isEmpty_iff] at empty
  simp [AList.keys, empty]

theorem idleSweep_iff {snapshot : Cache} {publisher : BridgePublisher} :
    idleSweep snapshot publisher = true ↔ snapshot.isEmpty = true ∧ publisher.published = ∅ := by
  simp [idleSweep, BridgePublisher.hasPublished]

theorem squawkFor_of_isEmpty {snapshot : Cache} (empty : snapshot.isEmpty = true) (fp : FlightPlan)
    (callsign : Text) : squawkFor snapshot fp callsign = none := by
  simp [squawkFor, Cache.lookup_of_isEmpty empty]

variable {snapshot : Cache} {publisher : BridgePublisher}

/-- With nothing assigned and nothing published, a flight's turn has no effect. -/
theorem applyFlight_of_idle (idle : idleSweep snapshot publisher = true) (fp : FlightPlan)
    (answer : BridgePublisher.Answer) :
    (applyFlight snapshot publisher fp answer).publisher = publisher ∧
      (applyFlight snapshot publisher fp answer).calls = [] ∧
      (applyFlight snapshot publisher fp answer).squawk = none := by
  obtain ⟨empty, published⟩ := idleSweep_iff.mp idle
  unfold applyFlight
  cases fp.key with
  | none => exact ⟨rfl, rfl, rfl⟩
  | some callsign =>
    have unmarked : dupeOf snapshot callsign = false := by simp [dupeOf, Cache.lookup_of_isEmpty empty]
    -- The value is the one published, so `PublishDupe` returns at once.
    have quiet : publisher.publishDupe callsign false answer = { publisher := publisher } := by
      simp [BridgePublisher.publishDupe, published]
    simp [unmarked, quiet, squawkFor_of_isEmpty empty]

theorem flights_of_idle (plans : List (FlightPlan × BridgePublisher.Answer)) (sweep : Sweep)
    (idle : idleSweep snapshot sweep.publisher = true) :
    ∃ seen, sweep.flights snapshot plans = { sweep with seen } := by
  induction plans generalizing sweep with
  | nil => exact ⟨sweep.seen, rfl⟩
  | cons fp rest ih =>
    obtain ⟨publisher, calls, squawk⟩ := applyFlight_of_idle idle fp.1 fp.2
    have turn : sweep.flight snapshot fp = { sweep with
        seen := sweep.seen ∪ (applyFlight snapshot sweep.publisher fp.1 fp.2).seen } := by
      simp [Sweep.flight, publisher, calls, squawk]
    show ∃ seen, (sweep.flight snapshot fp).flights snapshot rest = _
    rw [turn]
    exact ih _ idle

/-- The early return skips a sweep that changes nothing. -/
theorem fullSweep_of_idle (idle : idleSweep snapshot publisher = true)
    (plans : List (FlightPlan × BridgePublisher.Answer)) :
    ∃ seen, fullSweep snapshot publisher plans = { publisher, seen } := by
  obtain ⟨seen, swept⟩ := flights_of_idle plans { publisher } idle
  obtain ⟨-, published⟩ := idleSweep_iff.mp idle
  refine ⟨seen, ?_⟩
  simp [fullSweep, swept, Sweep.finish, BridgePublisher.forgetAbsent, published]

end CentralSquawk
