import CentralSquawk.Json
import Mathlib.Data.List.AList

/-!
# The plugin's data

`src/CentralSquawk.h`: modes, assignments, requests and observations, and how
the network mode is resolved.
-/

namespace CentralSquawk

structure SsrInfo where
  ssr : Text
  dupe : Bool := false
  deriving DecidableEq

/-- `SSRCache_`: callsign to central assignment. -/
abbrev Cache := AList (fun _ : Text => SsrInfo)

inductive NetworkMode where
  | offline | live | sweatbox
  deriving DecidableEq

inductive ModeOverride where
  | auto | forceLive | forceSim
  deriving DecidableEq

/-- One aircraft as the VATSIM datafeed would have described it. Coordinates are kept as bits. -/
structure FlightObservation where
  valid : Bool := false
  callsign : Text := []
  latitude : UInt64 := 0
  longitude : UInt64 := 0
  altitude : Int := 0
  groundspeed : Int := 0
  transponder : Text := []
  flightRules : Text := []
  departure : Text := []
  arrival : Text := []
  equipment : Text := []
  route : Text := []
  deriving DecidableEq

inductive Kind where
  | auto | discrete | setCode
  deriving DecidableEq

structure AssignRequest where
  kind : Kind := .auto
  code : Text := []
  seed : FlightObservation := {}
  deriving DecidableEq

/-- `pendingAssignRequests_`: callsign to the request waiting under it. -/
abbrev Requests := AList (fun _ : Text => AssignRequest)

inductive FeedOutcome where
  | fed | displaced | failed
  deriving DecidableEq

inductive NetworkVerdict where
  | online | offline | unknown
  deriving DecidableEq

structure Message where
  text : Text
  isError : Bool
  deriving DecidableEq

def queueMessage (message : Text) : Message := ⟨message, false⟩

def queueError (message : Text) : Message := ⟨message, true⟩

/-! ### Intervals, in seconds -/

def PERIODIC_FETCH_TIME_INTERVAL : Nat := 5
def SIM_PUSH_TIME_INTERVAL : Nat := 5
def SIM_FEED_RETRY_INTERVAL : Nat := 30
def NETWORK_PROBE_INTERVAL : Nat := 15
def OFF_NETWORK_CONFIRM : Nat := 60

/-! ### Endpoints -/

def API_URL : Text := text "squawk.vatsim.fr"
def SIM_API_URL : Text := text "sweatbox.squawk.vatsim.fr"

def liveEndpoint : Text := text "https://" ++ API_URL

def endpointFor (mode : NetworkMode) : Text :=
  if mode ≠ .sweatbox then liveEndpoint else text "https://" ++ SIM_API_URL

/-! ### Connection types (`EuroScopePlugIn.h`) -/

def CONNECTION_TYPE_NO : Int := 0
def CONNECTION_TYPE_DIRECT : Int := 1
def CONNECTION_TYPE_VIA_PROXY : Int := 2
def CONNECTION_TYPE_SIMULATOR_SERVER : Int := 3
def CONNECTION_TYPE_PLAYBACK : Int := 4
def CONNECTION_TYPE_SIMULATOR_CLIENT : Int := 5
def CONNECTION_TYPE_SWEATBOX : Int := 6

def detectConnectionMode (connectionType : Int) : NetworkMode :=
  if connectionType = CONNECTION_TYPE_DIRECT ∨ connectionType = CONNECTION_TYPE_VIA_PROXY then .live
  else if connectionType = CONNECTION_TYPE_SWEATBOX ∨
      connectionType = CONNECTION_TYPE_SIMULATOR_SERVER ∨
      connectionType = CONNECTION_TYPE_SIMULATOR_CLIENT then .sweatbox
  else .offline

/-- `ResolveMode` on one value of each of the three atomics it loads. -/
def resolveMode (connectionMode : NetworkMode) (modeOverride : ModeOverride) (inferredSim : Bool) :
    NetworkMode :=
  if connectionMode = .offline then .offline
  else
    match modeOverride with
    | .forceSim => .sweatbox
    | .forceLive => .live
    | .auto =>
      if connectionMode = .sweatbox then .sweatbox
      else if inferredSim then .sweatbox else .live

end CentralSquawk
