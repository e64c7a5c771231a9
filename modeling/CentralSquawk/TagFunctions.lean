import CentralSquawk.CapturePicture

/-!
# Tag functions

`CentralSquawk::OnFunctionCall` (`src/core/TagFunctions.h`): what a click on the
squawk menu queues for the worker thread.
-/

namespace CentralSquawk

/-! ### `TagActionID` -/

def AssignAuto : Int := 1
def AssignCode : Int := 2
def AssignCurrent : Int := 3
def AssignDiscrete : Int := 4

def SET_CODE_LABEL : Text := text "SET..."

structure TrackPosition where
  latitude : UInt64 := 0
  longitude : UInt64 := 0
  pressureAltitude : Int := 0
  reportedGS : Int := 0
  deriving DecidableEq

/-- The selected flight plan: `data` when it is received, `track` when its position is valid. -/
structure SelectedFlight where
  callsign : Option Text
  data : Option FlightPlanData := none
  track : Option TrackPosition := none
  radarSquawk : Option Text := none
  deriving DecidableEq

/-- One invocation of `OnFunctionCall`; `asel` is `none` when no valid flight plan is selected. -/
structure FunctionCall where
  functionId : Int
  itemString : Option Text := none
  asel : Option SelectedFlight
  deriving DecidableEq

/-- The datafeed-shaped view of the selected flight, incomplete when nothing is filed or it has no
position. -/
def captureSeed (callsign : Text) (fp : SelectedFlight) : FlightObservation :=
  match fp.data, fp.track with
  | some data, some track =>
    FlightObservation.file
      { valid := true
        callsign
        latitude := track.latitude
        longitude := track.longitude
        altitude := track.pressureAltitude
        groundspeed := track.reportedGS } data
  | _, _ => { callsign }

structure FunctionResult where
  queued : Option (Text × AssignRequest) := none
  said : List Message := []
  displayed : List Text := []

def queueRequest (callsign : Text) (fp : SelectedFlight) (kind : Kind) (code : Text := []) :
    FunctionResult :=
  { queued := some (callsign, { kind, code, seed := captureSeed callsign fp }) }

def assignCurrent (callsign : Text) (fp : SelectedFlight) : FunctionResult :=
  match fp.radarSquawk with
  | none =>
    { said := [queueError (text "No radar target for " ++ callsign ++
        text ", cannot read its squawk.")] }
  | some current =>
    if isWellFormedSquawk current then queueRequest callsign fp .setCode current
    else
      { displayed := [callsign ++ text " is not squawking a usable code (" ++ current ++ text ")."] }

/-- `AssignCode`: the menu entry that opens the editor, or the editor handing back what was typed. -/
def assignCode (callsign : Text) (fp : SelectedFlight) (itemString : Option Text) : FunctionResult :=
  match nonEmpty itemString with
  | none => {}
  | some typed =>
    if typed = SET_CODE_LABEL then {}
    else if isWellFormedSquawk (toUpper typed) then queueRequest callsign fp .setCode (toUpper typed)
    else
      { said := [queueError (text "\"" ++ toUpper typed ++
          text "\" is not a squawk code (four digits, 0-7).")] }

def onFunctionCall (online controller : Bool) (call : FunctionCall) : FunctionResult :=
  if !online then {}
  else if !controller then
    { said := [queueError (text "Only controllers may request a squawk assignment.")] }
  else
    match call.asel with
    | none => {}
    | some fp =>
      match (nonEmpty fp.callsign).map toUpper with
      | none => {}
      | some callsign =>
        if call.functionId = AssignAuto then queueRequest callsign fp .auto
        else if call.functionId = AssignDiscrete then queueRequest callsign fp .discrete
        else if call.functionId = AssignCurrent then assignCurrent callsign fp
        else if call.functionId = AssignCode then assignCode callsign fp call.itemString
        -- `OpenMENU` only opens the popup; every other id is ignored.
        else {}

theorem onFunctionCall_said {online controller : Bool} {call : FunctionCall} :
    ∀ m ∈ (onFunctionCall online controller call).said, m.isError = true := by
  unfold onFunctionCall assignCurrent assignCode queueRequest
  repeat' split
  all_goals simp [queueError]

/-- A code is queued as it was observed, if it is one. -/
theorem assignCurrent_queued {callsign : Text} {fp : SelectedFlight} {entry : Text × AssignRequest}
    (queued : (assignCurrent callsign fp).queued = some entry) :
    ∃ code, fp.radarSquawk = some code ∧ isWellFormedSquawk code = true ∧
      (queueRequest callsign fp .setCode code).queued = some entry := by
  unfold assignCurrent at queued
  split at queued
  · contradiction
  rename_i code observed
  split at queued
  · rename_i formed
    exact ⟨code, observed, formed, queued⟩
  · contradiction

theorem assignCode_queued {callsign : Text} {fp : SelectedFlight} {itemString : Option Text}
    {entry : Text × AssignRequest} (queued : (assignCode callsign fp itemString).queued = some entry) :
    ∃ typed, nonEmpty itemString = some typed ∧ isWellFormedSquawk (toUpper typed) = true ∧
      (queueRequest callsign fp .setCode (toUpper typed)).queued = some entry := by
  unfold assignCode at queued
  split at queued
  · contradiction
  rename_i typed given
  split at queued
  · contradiction
  split at queued
  · rename_i formed
    exact ⟨typed, given, formed, queued⟩
  · contradiction

def codeSource (call : FunctionCall) (fp : SelectedFlight) : Option Text :=
  if call.functionId = AssignCurrent then fp.radarSquawk else (nonEmpty call.itemString).map toUpper

/-- What a click queues is about the selected flight alone: its callsign, its seed, its code. -/
theorem onFunctionCall_queued {online controller : Bool} {call : FunctionCall} {callsign : Text}
    {request : AssignRequest}
    (h : (onFunctionCall online controller call).queued = some (callsign, request)) :
    ∃ fp, call.asel = some fp ∧ (nonEmpty fp.callsign).map toUpper = some callsign ∧
      request.seed = captureSeed callsign fp ∧
      (request.kind = .setCode → codeSource call fp = some request.code ∧
        isWellFormedSquawk request.code = true) := by
  unfold onFunctionCall at h
  split at h
  · contradiction
  split at h
  · contradiction
  split at h
  · contradiction
  rename_i fp selected
  split at h
  · contradiction
  rename_i key named
  split at h
  · cases h
    exact ⟨fp, selected, named, rfl, by simp⟩
  split at h
  · cases h
    exact ⟨fp, selected, named, rfl, by simp⟩
  split at h
  · rename_i current
    obtain ⟨code, observed, formed, queued⟩ := assignCurrent_queued h
    cases queued
    exact ⟨fp, selected, named, rfl, fun _ => ⟨by simp [codeSource, current, observed], formed⟩⟩
  rename_i notCurrent
  split at h
  · obtain ⟨typed, given, formed, queued⟩ := assignCode_queued h
    cases queued
    exact ⟨fp, selected, named, rfl, fun _ => ⟨by simp [codeSource, notCurrent, given], formed⟩⟩
  · contradiction

end CentralSquawk
