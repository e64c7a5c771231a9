import CentralSquawk.ApplyAssignments
import CentralSquawk.Library.Machine
import CentralSquawk.Library.Overwrite
import Mathlib.Data.List.Forall2

/-!
# Many controllers sweeping the same flights

The assigned squawk of a flight is shared by every EuroScope that shows it. Each
controlling instance of the plugin sweeps the flights from its own copy of the
same snapshot, and every `SetSquawk` is there for the next sweep to see.
-/

namespace CentralSquawk.Sweeps
open Library

/-- A flight as EuroScope shares it; only the squawk changes. -/
structure Flight (Instance : Type) where
  callsign : Option Text
  trackingControllerCallsign : Option Text
  /-- `GetTrackingControllerIsMe`, as each instance is told. -/
  trackedBy : Instance → Bool
  squawk : Option Text

/-- A sweep by one instance: its publisher, and what the bridge answers for the flight at each place. -/
structure Visit (Instance : Type) where
  controller : Instance
  publisher : BridgePublisher
  answers : Nat → BridgePublisher.Answer

/-- A flight after its turn, and the code passed to `SetSquawk` for it. -/
structure Turn (Instance : Type) where
  flight : Flight Instance
  set : Option Text

structure Swept (Instance : Type) where
  sweep : Sweep
  turns : List (Turn Instance) := []

variable {Instance : Type}

namespace Flight

def plan (f : Flight Instance) (i : Instance) : FlightPlan :=
  ⟨f.callsign, f.trackingControllerCallsign, f.trackedBy i, f.squawk⟩

def take (f : Flight Instance) (squawk : Option (Text × Text)) : Turn Instance :=
  match squawk with
  | some (_, code) => ⟨{ f with squawk := some code }, some code⟩
  | none => ⟨f, none⟩

end Flight

def visitFlight (snapshot : Cache) (i : Instance) (swept : Swept Instance)
    (f : Flight Instance × BridgePublisher.Answer) : Swept Instance :=
  { sweep := swept.sweep.flight snapshot (f.1.plan i, f.2)
    turns := swept.turns ++
      [f.1.take (applyFlight snapshot swept.sweep.publisher (f.1.plan i) f.2).squawk] }

def visits (v : Visit Instance) (flights : List (Flight Instance)) :
    List (Flight Instance × BridgePublisher.Answer) :=
  flights.zipIdx.map (fun f => (f.1, v.answers f.2))

/-- `ApplyAssignments` by an instance that is online and controlling. -/
def sweepBy (snapshot : Cache) (flights : List (Flight Instance)) (v : Visit Instance) : Swept Instance :=
  if idleSweep snapshot v.publisher then
    { sweep := { publisher := v.publisher }, turns := flights.map (fun f => ⟨f, none⟩) }
  else
    let swept := (visits v flights).foldl (visitFlight snapshot v.controller) { sweep := { publisher := v.publisher } }
    { swept with sweep := swept.sweep.finish }

/-- Sweeps in any order, all from the same snapshot. -/
def sweeping (snapshot : Cache) (flights : List (Flight Instance)) :
    Machine (List (Flight Instance)) (Visit Instance) where
  init := flights
  enabled _ _ := true
  effect now v := (sweepBy snapshot now v).turns.map Turn.flight

/-- The flight has a well-formed code in the snapshot, and is tracked by the instance or by nobody. -/
structure Entitled (snapshot : Cache) (i : Instance) (f : Flight Instance) (code : Text) : Prop where
  assigned : ∃ callsign info, (nonEmpty f.callsign).map toUpper = some callsign ∧
    snapshot.lookup callsign = some info ∧ info.ssr = code
  formed : FourOctalDigits code
  tracking : f.trackedBy i = true ∨ nonEmpty f.trackingControllerCallsign = none

structure Touches (snapshot : Cache) (i : Instance) (f : Flight Instance) (t : Turn Instance) : Prop where
  set : ∀ code, t.set = some code → Entitled snapshot i f code
  entitled : ∀ code, Entitled snapshot i f code → t.flight = { f with squawk := some code }
  others : (∀ code, ¬ Entitled snapshot i f code) → t.flight = f

structure Converges (snapshot : Cache) (flights : List (Flight Instance)) : Prop where
  touches : ∀ before v, List.Forall₂ (Touches snapshot v.controller) ((sweeping snapshot flights).run before)
    (sweepBy snapshot ((sweeping snapshot flights).run before) v).turns
  order : ∀ sweeps sweeps', sweeps.Perm sweeps' →
    (sweeping snapshot flights).run sweeps = (sweeping snapshot flights).run sweeps'
  /-- After a sweep by an entitled instance no sweep writes to the flight again. -/
  settled : ∀ (n : Nat) before v between w f code, ((sweeping snapshot flights).run before)[n]? = some f →
    Entitled snapshot v.controller f code →
      ((sweepBy snapshot ((sweeping snapshot flights).run (before ++ v :: between)) w).turns[n]?).map
        Turn.set = some none

/-! ### The sweep is `ApplyAssignments` -/

theorem visitFlight_foldl_sweep (snapshot : Cache) (i : Instance)
    (l : List (Flight Instance × BridgePublisher.Answer)) (swept : Swept Instance) :
    (l.foldl (visitFlight snapshot i) swept).sweep =
      swept.sweep.flights snapshot (l.map (fun f => (f.1.plan i, f.2))) := by
  induction l generalizing swept with
  | nil => rfl
  | cons f rest ih => exact ih (visitFlight snapshot i swept f)

theorem sweepBy_sweep (snapshot : Cache) (flights : List (Flight Instance)) (v : Visit Instance) :
    (sweepBy snapshot flights v).sweep = applyAssignments true true snapshot v.publisher
      ((visits v flights).map (fun f => (f.1.plan v.controller, f.2))) := by
  unfold sweepBy applyAssignments
  cases idle : idleSweep snapshot v.publisher with
  | true => simp
  | false => simp [fullSweep, visitFlight_foldl_sweep]

/-! ### One turn -/

def wanted (snapshot : Cache) (f : Flight Instance) : Option Text :=
  (((nonEmpty f.callsign).map toUpper).bind (fun callsign => snapshot.lookup callsign)).bind
    (fun info => if isWellFormedSquawk info.ssr then some info.ssr else none)

def turn (snapshot : Cache) (i : Instance) (f : Flight Instance) : Turn Instance :=
  f.take ((f.plan i).key.bind (fun callsign =>
    (squawkFor snapshot (f.plan i) callsign).map (fun code => (callsign, code))))

theorem visitFlight_foldl_turns (snapshot : Cache) (i : Instance)
    (l : List (Flight Instance × BridgePublisher.Answer)) (swept : Swept Instance) :
    (l.foldl (visitFlight snapshot i) swept).turns =
      swept.turns ++ l.map (fun f => turn snapshot i f.1) := by
  induction l generalizing swept with
  | nil => simp
  | cons f rest ih =>
    rw [List.foldl_cons, ih, List.map_cons]
    simp [visitFlight, turn, applyFlight_squawk]

theorem turn_of_empty {snapshot : Cache} (empty : snapshot.isEmpty = true) (i : Instance)
    (f : Flight Instance) : turn snapshot i f = ⟨f, none⟩ := by
  simp [turn, squawkFor_of_isEmpty empty, Flight.take]

theorem sweepBy_turns (snapshot : Cache) (flights : List (Flight Instance)) (v : Visit Instance) :
    (sweepBy snapshot flights v).turns = flights.map (turn snapshot v.controller) := by
  unfold sweepBy
  cases idle : idleSweep snapshot v.publisher with
  | true =>
    obtain ⟨empty, -⟩ := idleSweep_iff.mp idle
    simp [turn_of_empty empty]
  | false =>
    simp only [visitFlight_foldl_turns, visits, Bool.false_eq_true, if_false, List.nil_append,
      List.map_map]
    show List.map (turn snapshot v.controller ∘ Prod.fst) flights.zipIdx = _
    rw [← List.map_map, List.zipIdx_map_fst]

theorem take_set (f : Flight Instance) (squawk : Option (Text × Text)) :
    (f.take squawk).set = squawk.map Prod.snd := by
  cases squawk <;> rfl

theorem visitFlight_foldl_squawks (snapshot : Cache) (i : Instance)
    (l : List (Flight Instance × BridgePublisher.Answer)) (swept : Swept Instance)
    (same : swept.sweep.squawks.map Prod.snd = swept.turns.filterMap Turn.set) :
    (l.foldl (visitFlight snapshot i) swept).sweep.squawks.map Prod.snd =
      (l.foldl (visitFlight snapshot i) swept).turns.filterMap Turn.set := by
  induction l generalizing swept with
  | nil => exact same
  | cons f rest ih =>
    apply ih
    simp only [visitFlight, Sweep.flight, List.map_append, List.filterMap_append, same]
    congr 1
    rw [List.filterMap_cons, take_set]
    cases (applyFlight snapshot swept.sweep.publisher (f.1.plan i) f.2).squawk <;> rfl

theorem sweepBy_squawks (snapshot : Cache) (flights : List (Flight Instance)) (v : Visit Instance) :
    (sweepBy snapshot flights v).sweep.squawks.map Prod.snd =
      (sweepBy snapshot flights v).turns.filterMap Turn.set := by
  unfold sweepBy
  split
  · simp
  · exact visitFlight_foldl_squawks snapshot v.controller _ _ rfl

/-! ### What is written is the same for everybody -/

@[simp] theorem wanted_squawk (snapshot : Cache) (f : Flight Instance) (squawk : Option Text) :
    wanted snapshot { f with squawk } = wanted snapshot f := rfl

def mayWrite (snapshot : Cache) (i : Instance) (f : Flight Instance) : Bool :=
  (f.plan i).mayWrite && (wanted snapshot f).isSome

def corrected (snapshot : Cache) (f : Flight Instance) : Flight Instance :=
  match wanted snapshot f with
  | some code => { f with squawk := some code }
  | none => f

theorem corrected_of_wanted {snapshot : Cache} {f : Flight Instance} {code : Text}
    (code_wanted : wanted snapshot f = some code) : corrected snapshot f = { f with squawk := some code } := by
  simp [corrected, code_wanted]

@[simp] theorem wanted_corrected (snapshot : Cache) (f : Flight Instance) :
    wanted snapshot (corrected snapshot f) = wanted snapshot f := by
  unfold corrected
  split <;> rfl

def agreeing (snapshot : Cache) : Overwrite Instance (Flight Instance) where
  may := mayWrite snapshot
  target := corrected snapshot
  may_target i f := by
    have plan : ((corrected snapshot f).plan i).mayWrite = (f.plan i).mayWrite := by
      unfold corrected
      split <;> rfl
    simp [mayWrite, plan]
  target_target f := by
    cases wanting : wanted snapshot f with
    | none => simp [corrected, wanting]
    | some code => simp [corrected, wanting]

theorem entitled_iff {snapshot : Cache} {i : Instance} {f : Flight Instance} {code : Text} :
    Entitled snapshot i f code ↔ mayWrite snapshot i f = true ∧ wanted snapshot f = some code := by
  have tracking : (f.plan i).mayWrite = true ↔
      f.trackedBy i = true ∨ nonEmpty f.trackingControllerCallsign = none := by
    simp [FlightPlan.mayWrite, FlightPlan.untracked, Flight.plan]
  have formed : ∀ info : SsrInfo, (if isWellFormedSquawk info.ssr then some info.ssr else none) = some code ↔
      info.ssr = code ∧ FourOctalDigits code := by
    intro info
    rw [← isWellFormedSquawk_iff]
    constructor
    · intro kept
      split at kept
      · rename_i well
        obtain rfl := Option.some.inj kept
        exact ⟨rfl, well⟩
      · contradiction
    · rintro ⟨rfl, well⟩
      exact if_pos well
  constructor
  · rintro ⟨⟨callsign, info, named, stored, same⟩, well, owner⟩
    have code_wanted : wanted snapshot f = some code := by
      simp only [wanted, named, stored, Option.bind_some]
      exact (formed info).mpr ⟨same, well⟩
    refine ⟨?_, code_wanted⟩
    rw [mayWrite, tracking.mpr owner, code_wanted]
    rfl
  · rintro ⟨may, code_wanted⟩
    obtain ⟨owner, -⟩ := Bool.and_eq_true_iff.mp may
    obtain ⟨info, found, kept⟩ := Option.bind_eq_some_iff.mp code_wanted
    obtain ⟨callsign, named, stored⟩ := Option.bind_eq_some_iff.mp found
    obtain ⟨same, well⟩ := (formed info).mp kept
    exact ⟨⟨callsign, info, named, stored, same⟩, well, tracking.mp owner⟩

theorem turn_eq (snapshot : Cache) (i : Instance) (f : Flight Instance) :
    turn snapshot i f =
      if mayWrite snapshot i f = true ∧ f.squawk ≠ wanted snapshot f then
        ⟨corrected snapshot f, wanted snapshot f⟩
      else ⟨f, none⟩ := by
  have key : (f.plan i).key = (nonEmpty f.callsign).map toUpper := rfl
  have squawk : (f.plan i).squawk = f.squawk := rfl
  unfold turn
  rw [key]
  cases named : (nonEmpty f.callsign).map toUpper with
  | none => simp [mayWrite, wanted, named, Flight.take]
  | some callsign =>
    have looked : wanted snapshot f = (snapshot.lookup callsign).bind
        (fun info => if isWellFormedSquawk info.ssr then some info.ssr else none) := by
      rw [wanted, named, Option.bind_some]
    rw [Option.bind_some, squawkFor, squawk, mayWrite, corrected, looked]
    cases (f.plan i).mayWrite with
    | false => simp [Flight.take]
    | true =>
      cases snapshot.lookup callsign with
      | none => simp [Flight.take]
      | some info =>
        cases well : isWellFormedSquawk info.ssr with
        | false => simp [Flight.take, well]
        | true => by_cases same : f.squawk = some info.ssr <;> simp [Flight.take, well, same]

theorem turn_flight (snapshot : Cache) (i : Instance) (f : Flight Instance) :
    (turn snapshot i f).flight = (agreeing snapshot).write i f := by
  rw [turn_eq, Overwrite.write]
  show _ = if mayWrite snapshot i f = true then corrected snapshot f else f
  by_cases may : mayWrite snapshot i f = true
  · by_cases same : f.squawk = wanted snapshot f
    · -- Nothing is passed to `SetSquawk`, and nothing had to be.
      obtain ⟨code, code_wanted⟩ := Option.isSome_iff_exists.mp (Bool.and_eq_true_iff.mp may).2
      rw [if_neg (fun both => both.2 same), if_pos may, corrected_of_wanted code_wanted]
      rw [code_wanted] at same
      rw [← same]
    · rw [if_pos ⟨may, same⟩, if_pos may]
  · rw [if_neg (fun both => may both.1), if_neg may]

theorem touches_turn (snapshot : Cache) (i : Instance) (f : Flight Instance) :
    Touches snapshot i f (turn snapshot i f) where
  set code passed := by
    rw [turn_eq] at passed
    split at passed
    · rename_i both
      exact entitled_iff.mpr ⟨both.1, passed⟩
    · contradiction
  entitled code entitled := by
    obtain ⟨may, code_wanted⟩ := entitled_iff.mp entitled
    rw [turn_flight, ← corrected_of_wanted code_wanted]
    exact if_pos may
  others nobody := by
    rw [turn_flight]
    refine if_neg (fun may : mayWrite snapshot i f = true => ?_)
    obtain ⟨code, code_wanted⟩ := Option.isSome_iff_exists.mp (Bool.and_eq_true_iff.mp may).2
    exact nobody code (entitled_iff.mpr ⟨may, code_wanted⟩)

theorem turn_settled {snapshot : Cache} {f : Flight Instance} (settled : corrected snapshot f = f)
    (i : Instance) : (turn snapshot i f).set = none := by
  rw [turn_eq]
  split
  · rename_i both
    obtain ⟨code, code_wanted⟩ := Option.isSome_iff_exists.mp (Bool.and_eq_true_iff.mp both.1).2
    rw [corrected_of_wanted code_wanted] at settled
    exact absurd ((congrArg Flight.squawk settled).symm.trans code_wanted.symm) both.2
  · rfl

/-! ### Every run of sweeps -/

theorem run_sweeping (snapshot : Cache) (flights : List (Flight Instance)) (sweeps : List (Visit Instance)) :
    (sweeping snapshot flights).run sweeps =
      flights.map ((agreeing snapshot).writeAll (sweeps.map Visit.controller)) := by
  induction sweeps using List.reverseRecOn with
  | nil => exact (List.map_id flights).symm
  | append_singleton sweeps v ih =>
    rw [Machine.run_snoc, Machine.step_on rfl, ih]
    show (sweepBy snapshot _ v).turns.map Turn.flight = _
    rw [sweepBy_turns, List.map_map, List.map_map]
    apply List.map_congr_left
    intro f _
    simp [turn_flight, Overwrite.writeAll]

/-- Sweeps touch only what they may, commute, and settle every flight that one of them may write. -/
theorem sweeps_converge (snapshot : Cache) (flights : List (Flight Instance)) :
    Converges snapshot flights where
  touches before v := by
    rw [sweepBy_turns, List.forall₂_map_right_iff, List.forall₂_same]
    exact fun f _ => touches_turn snapshot v.controller f
  order sweeps sweeps' perm := by
    rw [run_sweeping, run_sweeping]
    apply List.map_congr_left
    exact fun f _ => (agreeing snapshot).writeAll_perm (perm.map Visit.controller) f
  settled n before v between w f code found entitled := by
    rw [run_sweeping, List.getElem?_map] at found
    obtain ⟨first, placed, rfl⟩ := Option.map_eq_some_iff.mp found
    have may : (agreeing snapshot).may v.controller first = true := by
      rw [← Overwrite.may_writeAll (agreeing snapshot) (before.map Visit.controller)]
      exact (entitled_iff.mp entitled).1
    have swept : v.controller ∈ (before ++ v :: between).map Visit.controller := by simp
    have last := (agreeing snapshot).writeAll_of_may swept may
    rw [sweepBy_turns, run_sweeping, List.getElem?_map, List.getElem?_map, placed, Option.map_some,
      Option.map_some, Option.map_some, last]
    exact congrArg some (turn_settled ((agreeing snapshot).target_target first) w.controller)

end CentralSquawk.Sweeps
