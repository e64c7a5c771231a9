import CentralSquawk.Types

/-!
# Talking to the server

`src/CentralSquawk.cpp`: the bodies the plugin posts and what it makes of every
reply. A reply's body is seen through `nlohmann::json::parse`.
-/

namespace CentralSquawk

/-- What `Secret.h` and OpenSSL supply to `GenerateToken`. -/
class Secret where
  authSecret : Text
  sha256 : Text → Vector UInt8 32

inductive Body where
  | empty
  /-- Text that `parse` rejects, with what the exception says. -/
  | malformed (what : Text)
  | json (value : Json)

/-- An `httplib::Result`. -/
inductive Reply where
  | failed (error : Text)
  | answered (status : Int) (body : Body)

def toText (n : Int) : Text := text (toString n)

def refusedStatus (status : Int) : Bool := status < 200 || status ≥ 300

/-! ### `GenerateToken` -/

def hexDigit (n : UInt8) : UInt8 := if n < 10 then 0x30 + n else 0x57 + n

def hexByte (b : UInt8) : Text := [hexDigit (b / 16), hexDigit (b % 16)]

def generateToken [Secret] (callsign : Text) : Text :=
  (Secret.sha256 (Secret.authSecret ++ callsign)).toList.flatMap hexByte

/-! ### `FetchAssignedSSR` -/

/-- One turn of the snapshot loop: the entry it would store, if any. -/
def readEntry (entry : Json) : Option SsrInfo :=
  match Json.getString (entry.find (text "ssr")) with
  | none => none
  | some ssr =>
    if isWellFormedSquawk ssr then
      some { ssr, dupe := (Json.getBoolean (entry.find (text "dupe"))).getD false }
    else none

/-- `emplace`: an entry already stored under the key stays. -/
def emplace (parsed : Cache) (callsign : Text) (info : SsrInfo) : Cache :=
  if callsign ∈ parsed then parsed else parsed.insert callsign info

def parseSnapshot (members : List (Text × Json)) : Cache :=
  members.foldl (fun parsed m =>
    match readEntry m.2 with
    | some info => emplace parsed (toUpper m.1) info
    | none => parsed) ∅

structure Fetched where
  printError : Bool
  said : List Message := []
  /-- The map that replaces `SSRCache_`; `none` leaves it as it was. -/
  parsed : Option Cache := none

def fetchFault (printError : Bool) (message : Text) : Fetched :=
  if printError then { printError := false, said := [queueError message] } else { printError := false }

def reconnectedMessage : Message := queueMessage (text "Reconnected to the Central Squawk server.")

def fetchAssignedSSR (printError : Bool) : Reply → Fetched
  | .failed error => fetchFault printError (text "Cannot reach the Central Squawk server: " ++ error)
  | .answered status body =>
    -- 503 until the server's first sweep completes: not a fault.
    if status = 503 then { printError }
    else if refusedStatus status then
      fetchFault printError (text "Central Squawk server returned HTTP " ++ toText status)
    else
      let said := if printError then [] else [reconnectedMessage]
      match body with
      | .empty =>
        { printError := true
          said := said ++
            [queueError (text "Received an empty snapshot from the Central Squawk server.")] }
      | .malformed what =>
        { printError := true
          said := said ++
            [queueError (text "Failed to parse the Central Squawk snapshot: " ++ what)] }
      | .json (.object members) => { printError := true, said, parsed := some (parseSnapshot members) }
      | .json _ =>
        { printError := true
          said := said ++ [queueError (text "Malformed snapshot: expected a JSON object.")] }

theorem fetchAssignedSSR_said {printError : Bool} {reply : Reply} :
    ∀ m ∈ (fetchAssignedSSR printError reply).said, m.isError = true ∨ m = reconnectedMessage := by
  unfold fetchAssignedSSR fetchFault
  dsimp only
  repeat' split
  all_goals simp [queueError]

/-! ### `SendAssignRequest` -/

def explainRejection (error : Text) : Text :=
  if error = text "unknown_callsign" then text "the server does not know this flight yet"
  else if error = text "pool_exhausted" then text "every code range serving that destination is full"
  else if error = text "excluded_code" then text "that code is reserved and cannot be assigned"
  else if error = text "malformed_code" then text "that is not a valid squawk code"
  else if error = text "not_authorised" then text "not authorised"
  else if error = text "seed_malformed" then
    text "the flight plan is too incomplete to place this flight"
  else if error = text "seed_out_of_scope" then text "this flight is outside the managed area"
  else if error = text "seed_limit" then
    text "too many flights still awaiting the datafeed, try again shortly"
  else if error = text "not_on_network" then
    text "this callsign is not logged on to that network. If you have " ++
      text "just connected, try again in a moment; if this is a training " ++
      text "session, run .centralsquawk status"
  else error

def seedJson (seed : FlightObservation) : Json :=
  .object [
    (text "latitude", .double seed.latitude),
    (text "longitude", .double seed.longitude),
    (text "altitude", .integer seed.altitude),
    (text "groundspeed", .integer seed.groundspeed),
    (text "flightRules", .string seed.flightRules),
    (text "departure", .string seed.departure),
    (text "arrival", .string seed.arrival),
    (text "equipment", .string seed.equipment),
    (text "route", .string seed.route)]

/-- "code" wins over "mode": present means "set exactly this". -/
def kindMember (request : AssignRequest) : Text × Json :=
  match request.kind with
  | .setCode => (text "code", .string request.code)
  | .discrete => (text "mode", .string (text "discrete"))
  | .auto => (text "mode", .string (text "auto"))

def assignBody [Secret] (userCallsign callsign : Text) (request : AssignRequest) : Json :=
  .object ([
    (text "callsign", .string callsign),
    (text "controller", .string userCallsign),
    (text "token", .string (generateToken userCallsign)),
    kindMember request] ++
    if request.seed.valid then [(text "flight", seedJson request.seed)] else [])

/-- The parsed response, null for an empty body; `none` when `parse` throws. -/
def Body.response : Body → Option Json
  | .empty => some .null
  | .malformed _ => none
  | .json value => some value

def rejection (status : Int) (response : Json) : Text :=
  match Json.getString (response.find (text "error")) with
  | some error => explainRejection error
  | none => text "HTTP " ++ toText status

def assignReply (callsign : Text) : Reply → Except Message SsrInfo
  | .failed error =>
    .error (queueError (text "Assignment request for " ++ callsign ++ text " failed: " ++ error))
  | .answered status body =>
    match body.response with
    | none =>
      .error (queueError
        (text "Malformed response to the assignment request for " ++ callsign ++ text "."))
    | some response =>
      if refusedStatus status then
        .error (queueError
          (text "Assignment refused for " ++ callsign ++ text ": " ++ rejection status response))
      else
        match Json.getString (response.find (text "ssr")) with
        | none =>
          .error (queueError
            (text "Assignment response for " ++ callsign ++ text " carried no code."))
        | some ssr =>
          .ok { ssr, dupe := (Json.getBoolean (response.find (text "dupe"))).getD false }

theorem assignReply_error {callsign : Text} {reply : Reply} {m : Message}
    (h : assignReply callsign reply = .error m) : m.isError = true := by
  unfold assignReply at h
  repeat' split at h
  all_goals first
    | (cases h; rfl)
    | contradiction

def applyAssignReply (cache : Cache) (callsign : Text) (reply : Reply) : List Message × Cache :=
  match assignReply callsign reply with
  | .error message => ([message], cache)
  | .ok info => ([], cache.insert callsign info)

theorem applyAssignReply_said {cache : Cache} {callsign : Text} {reply : Reply} :
    ∀ m ∈ (applyAssignReply cache callsign reply).1, m.isError = true := by
  unfold applyAssignReply
  split
  · rename_i failed
    simpa using assignReply_error failed
  · simp

def notConnected : Message :=
  queueError (text "Not connected as a controller, cannot request an assignment.")

def sendAssignRequest [Secret] (post : Json → Reply) (cache : Cache) (userCallsign callsign : Text)
    (request : AssignRequest) : Except Json.Error (List Message × Cache) :=
  if userCallsign = [] then .ok ([notConnected], cache)
  else do
    let body ← (assignBody userCallsign callsign request).dump
    return applyAssignReply cache callsign (post body)

/-! ### `PushSimFeed` -/

def observationJson (obs : FlightObservation) : Json :=
  .object [
    (text "callsign", .string obs.callsign),
    (text "latitude", .double obs.latitude),
    (text "longitude", .double obs.longitude),
    (text "altitude", .integer obs.altitude),
    (text "groundspeed", .integer obs.groundspeed),
    (text "transponder", .string obs.transponder),
    (text "flightRules", .string obs.flightRules),
    (text "departure", .string obs.departure),
    (text "arrival", .string obs.arrival),
    (text "equipment", .string obs.equipment),
    (text "route", .string obs.route)]

def sendable (obs : FlightObservation) : Bool := obs.valid && !obs.callsign.isEmpty

def observations (picture : List FlightObservation) : List Json :=
  (picture.filter sendable).map observationJson

def feedBody [Secret] (userCallsign : Text) (picture : List FlightObservation) : Json :=
  .object [
    (text "controller", .string userCallsign),
    (text "token", .string (generateToken userCallsign)),
    (text "observations", .array (observations picture))]

structure Fed where
  outcome : FeedOutcome
  feeding : Bool
  said : List Message

/-- `announce`: said once per change of `feeding_`. -/
def announce (feeding nowFeeding : Bool) (message : Message) : List Message :=
  if feeding = nowFeeding then [] else [message]

def displacedMessage : Message :=
  queueMessage (text "Another controller is feeding the simulator session.")

def feedingMessage : Message :=
  queueMessage (text "Feeding the simulator squawk server with this session's traffic.")

def feedReply (feeding : Bool) : Reply → Fed
  | .failed error =>
    { outcome := .failed
      feeding := false
      said := announce feeding false
        (queueError (text "Lost contact with the simulator squawk server: " ++ error)) }
  | .answered status _ =>
    if status = 409 then
      { outcome := .displaced
        feeding := false
        said := announce feeding false displacedMessage }
    else if refusedStatus status then
      { outcome := .failed
        feeding := false
        said := announce feeding false (queueError
          (text "The simulator squawk server refused the feed: HTTP " ++ toText status)) }
    else
      { outcome := .fed
        feeding := true
        said := announce feeding true feedingMessage }

theorem feedReply_said {feeding : Bool} {reply : Reply} :
    ∀ m ∈ (feedReply feeding reply).said,
      m.isError = true ∨ m = displacedMessage ∨ m = feedingMessage := by
  unfold feedReply announce
  repeat' split
  all_goals simp [queueError]

def pushSimFeed [Secret] (post : Json → Reply) (feeding : Bool) (userCallsign : Text)
    (picture : List FlightObservation) : Except Json.Error Fed := do
  let body ← (feedBody userCallsign picture).dump
  return feedReply feeding (post body)

/-! ### `ProbeNetwork` -/

/-- Not knowing is not evidence of anything, so every failure path is silent. -/
def probeNetwork : Reply → NetworkVerdict
  | .failed _ => .unknown
  | .answered status body =>
    if refusedStatus status then .unknown
    else
      match body with
      | .json value =>
        match Json.getBoolean (value.find (text "onNetwork")) with
        | some true => .online
        | some false => .offline
        | none => .unknown
      | _ => .unknown

end CentralSquawk
