import CentralSquawk.Server

/-!
# Capturing the simulator picture

`CentralSquawk::CapturePicture` (`src/CentralSquawk.cpp`): every radar target as
the datafeed would have described it.
-/

namespace CentralSquawk

/-- The flight plan fields a seed or an observation copies, as the SDK getters return them. -/
structure FlightPlanData where
  planType : Option Text := none
  origin : Option Text := none
  destination : Option Text := none
  aircraftInfo : Option Text := none
  route : Option Text := none
  deriving DecidableEq

structure RadarPosition where
  latitude : UInt64 := 0
  longitude : UInt64 := 0
  pressureAltitude : Int := 0
  squawk : Option Text := none
  deriving DecidableEq

structure RadarTarget where
  callsign : Option Text
  position : Option RadarPosition := none
  gs : Int := 0
  /-- The received data of a valid correlated flight plan. -/
  flightPlanData : Option FlightPlanData := none
  deriving DecidableEq

def FlightObservation.file (obs : FlightObservation) (data : FlightPlanData) : FlightObservation :=
  { obs with
    flightRules := toUpper (safeString data.planType)
    departure := toUpper (safeString data.origin)
    arrival := toUpper (safeString data.destination)
    equipment := toUpper (safeString data.aircraftInfo)
    route := toUpper (safeString data.route) }

def RadarTarget.observe (rt : RadarTarget) (position : RadarPosition) : FlightObservation :=
  let obs : FlightObservation :=
    { valid := true
      callsign := toUpper (safeString rt.callsign)
      latitude := position.latitude
      longitude := position.longitude
      altitude := position.pressureAltitude
      groundspeed := rt.gs
      transponder := safeString position.squawk }
  rt.flightPlanData.elim obs obs.file

def captureTarget (rt : RadarTarget) : Option FlightObservation :=
  if (toUpper (safeString rt.callsign)).isEmpty then none else rt.position.map rt.observe

def capturePicture (targets : List RadarTarget) : List FlightObservation :=
  targets.filterMap captureTarget

theorem captureTarget_sendable {rt : RadarTarget} {obs : FlightObservation}
    (h : captureTarget rt = some obs) : sendable obs = true := by
  unfold captureTarget at h
  split at h
  · contradiction
  · rename_i named
    obtain ⟨position, _, rfl⟩ := Option.map_eq_some_iff.mp h
    cases data : rt.flightPlanData <;>
      simpa [sendable, RadarTarget.observe, FlightObservation.file, data] using named

theorem capturePicture_sendable {targets : List RadarTarget} :
    ∀ obs ∈ capturePicture targets, sendable obs = true := by
  intro obs member
  obtain ⟨rt, _, captured⟩ := List.mem_filterMap.mp member
  exact captureTarget_sendable captured

/-- A push of a whole capture filters nothing out. -/
theorem observations_eq_map {picture : List FlightObservation}
    (whole : ∀ obs ∈ picture, sendable obs = true) :
    observations picture = picture.map observationJson := by
  rw [observations, List.filter_eq_self.mpr whole]

end CentralSquawk
