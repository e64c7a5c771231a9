import CentralSquawk.Feed.Handover
import CentralSquawk.Wire.Endpoints

/-!
# What the server can read back

Nothing else of a click or of a captured picture reaches the server than the body
that is posted. The bodies of every run are read back here, member by member, and
the token is decoded, so that what a body leaves out is seen.
-/

namespace CentralSquawk
open Library

/-! ### Tokens -/

def hexValue (c : UInt8) : UInt8 := if c < 0x3A then c - 0x30 else c - 0x57

def unhex : Text → List UInt8
  | high :: low :: rest => (16 * hexValue high + hexValue low) :: unhex rest
  | _ => []

def lowerHex (c : UInt8) : Bool := (0x30 ≤ c && c ≤ 0x39) || (0x61 ≤ c && c ≤ 0x66)

theorem hexByte_read (b : UInt8) : ∃ high low, hexByte b = [high, low] ∧
    16 * hexValue high + hexValue low = b ∧ lowerHex high = true ∧ lowerHex low = true := by
  have all : ∀ f : Fin 256, 16 * hexValue (hexDigit (UInt8.ofFin f / 16)) + hexValue (hexDigit (UInt8.ofFin f % 16)) =
      UInt8.ofFin f ∧ lowerHex (hexDigit (UInt8.ofFin f / 16)) = true ∧
        lowerHex (hexDigit (UInt8.ofFin f % 16)) = true := by decide +kernel
  exact ⟨_, _, rfl, all b.toFin⟩

theorem unhex_flatMap (bytes : List UInt8) : unhex (bytes.flatMap hexByte) = bytes := by
  induction bytes with
  | nil => rfl
  | cons b rest ih =>
    obtain ⟨high, low, digits, value, -⟩ := hexByte_read b
    rw [List.flatMap_cons, digits]
    show (16 * hexValue high + hexValue low) :: unhex (rest.flatMap hexByte) = b :: rest
    rw [value, ih]

theorem flatMap_lowerHex (bytes : List UInt8) : ∀ c ∈ bytes.flatMap hexByte, lowerHex c = true := by
  intro c member
  obtain ⟨b, -, digit⟩ := List.mem_flatMap.mp member
  obtain ⟨high, low, digits, -, left, right⟩ := hexByte_read b
  rw [digits] at digit
  simp only [List.mem_cons, List.not_mem_nil, or_false] at digit
  rcases digit with rfl | rfl
  · exact left
  · exact right

theorem flatMap_hexByte_length (bytes : List UInt8) : (bytes.flatMap hexByte).length = 2 * bytes.length := by
  induction bytes with
  | nil => rfl
  | cons b rest ih =>
    rw [List.flatMap_cons, List.length_append, ih, List.length_cons]
    simp only [hexByte, List.length_cons, List.length_nil]
    omega

/-- A token spells the digest of the secret and the callsign in 64 lower case hexadecimal digits. -/
structure Token [Secret] (callsign token : Text) : Prop where
  length : token.length = 64
  digits : ∀ c ∈ token, lowerHex c = true
  digest : unhex token = (Secret.sha256 (Secret.authSecret ++ callsign)).toList

theorem generateToken_token [Secret] (callsign : Text) : Token callsign (generateToken callsign) where
  length := by
    rw [generateToken, flatMap_hexByte_length]
    simp
  digits := flatMap_lowerHex _
  digest := unhex_flatMap _

/-! ### Reading a body -/

namespace Json

def getDouble : Option Json → Option UInt64
  | some (.double bits) => some bits
  | _ => none

def getInteger : Option Json → Option Int
  | some (.integer i) => some i
  | _ => none

end Json

def readFlight (callsign transponder : Text) (flight : Json) : Option FlightObservation := do
  let latitude ← Json.getDouble (flight.find (text "latitude"))
  let longitude ← Json.getDouble (flight.find (text "longitude"))
  let altitude ← Json.getInteger (flight.find (text "altitude"))
  let groundspeed ← Json.getInteger (flight.find (text "groundspeed"))
  let flightRules ← Json.getString (flight.find (text "flightRules"))
  let departure ← Json.getString (flight.find (text "departure"))
  let arrival ← Json.getString (flight.find (text "arrival"))
  let equipment ← Json.getString (flight.find (text "equipment"))
  let route ← Json.getString (flight.find (text "route"))
  return {
    valid := true
    callsign
    latitude
    longitude
    altitude
    groundspeed
    transponder
    flightRules
    departure
    arrival
    equipment
    route }

def readObservation (observation : Json) : Option FlightObservation := do
  let callsign ← Json.getString (observation.find (text "callsign"))
  let transponder ← Json.getString (observation.find (text "transponder"))
  readFlight callsign transponder observation

def readPicture (body : Json) : Option (List FlightObservation) :=
  match body.find (text "observations") with
  | some (.array observations) => observations.mapM readObservation
  | _ => none

def readKind (body : Json) : Option (Kind × Text) :=
  match body.find (text "code") with
  | some code => (Json.getString (some code)).map (fun code => (.setCode, code))
  | none =>
    match Json.getString (body.find (text "mode")) with
    | some mode =>
      if mode = text "discrete" then some (.discrete, [])
      else if mode = text "auto" then some (.auto, [])
      else none
    | none => none

/-- A request without a flight carries the seed of one that could not be placed. -/
def readRequest (body : Json) : Option (Text × AssignRequest) := do
  let callsign ← Json.getString (body.find (text "callsign"))
  let (kind, code) ← readKind body
  let seed ← match body.find (text "flight") with
    | some flight => readFlight callsign [] flight
    | none => some { callsign }
  return (callsign, { kind, code, seed })

/-- A request as a click makes it: a code only where it is set, and a seed of its own flight. -/
structure Clicked (callsign : Text) (request : AssignRequest) : Prop where
  code : request.kind ≠ .setCode → request.code = []
  flight : request.seed.callsign = callsign
  transponder : request.seed.transponder = []
  unplaced : request.seed.valid = false → request.seed = { callsign }

theorem readFlight_seedJson {seed : FlightObservation} (valid : seed.valid = true) (silent : seed.transponder = []) :
    readFlight seed.callsign [] (seedJson seed) = some seed := by
  obtain ⟨_, callsign, latitude, longitude, altitude, groundspeed, _, flightRules, departure, arrival, equipment,
    route⟩ := seed
  obtain rfl : _ = true := valid
  obtain rfl : _ = [] := silent
  rfl

theorem readObservation_observationJson {obs : FlightObservation} (valid : obs.valid = true) :
    readObservation (observationJson obs) = some obs := by
  obtain ⟨_, callsign, latitude, longitude, altitude, groundspeed, transponder, flightRules, departure, arrival,
    equipment, route⟩ := obs
  obtain rfl : _ = true := valid
  rfl

theorem readPicture_feedBody [Secret] {userCallsign : Text} {picture : List FlightObservation}
    (whole : ∀ obs ∈ picture, sendable obs = true) :
    readPicture (feedBody userCallsign picture) = some picture := by
  show (observations picture).mapM readObservation = some picture
  rw [observations_eq_map whole]
  induction picture with
  | nil => rfl
  | cons obs rest ih =>
    have valid : obs.valid = true := by
      have here := whole obs List.mem_cons_self
      simp only [sendable, Bool.and_eq_true] at here
      exact here.1
    have others := ih (fun o member => whole o (List.mem_cons_of_mem obs member))
    rw [List.map_cons, List.mapM_cons, readObservation_observationJson valid, others]
    rfl

theorem assignBody_flight [Secret] (userCallsign callsign : Text) (request : AssignRequest) :
    (assignBody userCallsign callsign request).find (text "flight") =
      if request.seed.valid then some (seedJson request.seed) else none := by
  obtain ⟨kind, code, seed⟩ := request
  cases valid : seed.valid
  all_goals
    simp only [assignBody, valid, Bool.false_eq_true, if_true, if_false]
    cases kind <;> rfl

theorem readKind_assignBody [Secret] {userCallsign callsign : Text} {request : AssignRequest}
    (uncoded : request.kind ≠ .setCode → request.code = []) :
    readKind (assignBody userCallsign callsign request) = some (request.kind, request.code) := by
  obtain ⟨kind, code, seed⟩ := request
  cases kind with
  | setCode => rfl
  | auto | discrete =>
    obtain rfl : code = [] := uncoded (by simp)
    cases valid : seed.valid
    all_goals
      simp only [assignBody, valid, Bool.false_eq_true, if_true, if_false]
      rfl

theorem readRequest_assignBody [Secret] {userCallsign callsign : Text} {request : AssignRequest}
    (clicked : Clicked callsign request) :
    readRequest (assignBody userCallsign callsign request) = some (callsign, request) := by
  have named : (assignBody userCallsign callsign request).find (text "callsign") = some (.string callsign) := rfl
  have kind : readKind (assignBody userCallsign callsign request) = some (request.kind, request.code) :=
    readKind_assignBody clicked.code
  have flight := assignBody_flight userCallsign callsign request
  unfold readRequest
  rw [named, kind, flight]
  cases valid : request.seed.valid with
  | true =>
    have seed := readFlight_seedJson valid clicked.transponder
    rw [clicked.flight] at seed
    simp [Json.getString, seed]
  | false =>
    simp [Json.getString, ← clicked.unplaced valid]

/-! ### What a click and a capture make -/

theorem captureSeed_clicked (callsign : Text) (fp : SelectedFlight) :
    (captureSeed callsign fp).callsign = callsign ∧ (captureSeed callsign fp).transponder = [] ∧
      ((captureSeed callsign fp).valid = false → captureSeed callsign fp = { callsign }) := by
  unfold captureSeed
  split
  · exact ⟨rfl, rfl, fun unplaced => by simp [FlightObservation.file] at unplaced⟩
  · exact ⟨rfl, rfl, fun _ => rfl⟩

theorem queueRequest_clicked {callsign K code : Text} {fp : SelectedFlight} {kind : Kind} {request : AssignRequest}
    (uncoded : kind ≠ .setCode → code = [])
    (queued : (queueRequest callsign fp kind code).queued = some (K, request)) : Clicked K request := by
  cases queued
  obtain ⟨flight, silent, unplaced⟩ := captureSeed_clicked callsign fp
  exact ⟨uncoded, flight, silent, unplaced⟩

theorem onFunctionCall_clicked {online controller : Bool} {call : FunctionCall} {callsign : Text}
    {request : AssignRequest} (queued : (onFunctionCall online controller call).queued = some (callsign, request)) :
    Clicked callsign request := by
  unfold onFunctionCall at queued
  split at queued
  · contradiction
  split at queued
  · contradiction
  split at queued
  · contradiction
  split at queued
  · contradiction
  split at queued
  · exact queueRequest_clicked (fun _ => rfl) queued
  split at queued
  · exact queueRequest_clicked (fun _ => rfl) queued
  split at queued
  · obtain ⟨code, -, -, current⟩ := assignCurrent_queued queued
    exact queueRequest_clicked (fun other => absurd rfl other) current
  split at queued
  · obtain ⟨typed, -, -, set⟩ := assignCode_queued queued
    exact queueRequest_clicked (fun other => absurd rfl other) set
  · contradiction

/-! ### The bodies of a run -/

/-- What has gone in and what has been posted, beside the pictures of the hand-over. -/
structure Mail where
  /-- The callsigns stored in `userCallsign_`. -/
  callsigns : List Text := []
  clicks : List (Text × AssignRequest) := []
  /-- The bodies posted to `/api/assign` and to `/api/feed`. -/
  requests : List Json := []
  feeds : List Json := []

section
variable [Secret]

def Mail.next (m : Mail) (s : System) : Action → Mail
  | .main (.isController myself) =>
    if myself.callsign.length < 3 then m else { m with callsigns := myself.callsign :: m.callsigns }
  | .main (.functionCall call) => { m with clicks := (s.plugin.onFunctionCall call).queued.toList ++ m.clicks }
  | .worker (.send callsign) =>
    if Requests.isPosted s callsign then { m with requests := s.worker.requestBody callsign :: m.requests } else m
  | .worker .push =>
    if s.worker.pictureBody.utf8 then { m with feeds := s.worker.pictureBody :: m.feeds } else m
  | _ => m

def mailing : Machine ((System × Feed.Pictures) × Mail) Action :=
  Feed.fed.observe {} (fun m x a => m.next x.1 a)

/-- Signed under a callsign that EuroScope gave. -/
structure Signed (callsigns : List Text) (body : Json) (callsign token : Text) : Prop where
  known : callsign ∈ callsigns
  controller : Json.getString (body.find (text "controller")) = some callsign
  signature : Json.getString (body.find (text "token")) = some token
  token : Token callsign token

/-- What reads back from a body is a whole click, or a whole capture. -/
structure Mail.Faithful (m : Mail) (captured : List (List FlightObservation)) : Prop where
  requests : ∀ body ∈ m.requests, (∃ click ∈ m.clicks, readRequest body = some click) ∧
    ∃ callsign token, Signed m.callsigns body callsign token
  feeds : ∀ body ∈ m.feeds, (∃ picture ∈ captured, readPicture body = some picture) ∧
    ∃ callsign token, Signed m.callsigns body callsign token

/-! What has gone in stays -/

structure Mail.Within (m later : Mail) : Prop where
  callsigns : m.callsigns ⊆ later.callsigns
  clicks : m.clicks ⊆ later.clicks

omit [Secret] in
theorem Mail.Within.refl (m : Mail) : m.Within m := ⟨List.Subset.refl _, List.Subset.refl _⟩

theorem within_next (m : Mail) (s : System) (a : Action) : m.Within (m.next s a) := by
  unfold Mail.next
  split
  · split
    · exact .refl m
    · exact ⟨List.subset_cons_self _ _, List.Subset.refl _⟩
  · exact ⟨List.Subset.refl _, List.subset_append_right _ _⟩
  · split <;> exact ⟨List.Subset.refl _, List.Subset.refl _⟩
  · split <;> exact ⟨List.Subset.refl _, List.Subset.refl _⟩
  · exact .refl m

theorem Signed.within {m later : Mail} {body : Json} {callsign token : Text}
    (signed : Signed m.callsigns body callsign token) (within : m.Within later) :
    Signed later.callsigns body callsign token :=
  ⟨within.callsigns signed.known, signed.controller, signed.signature, signed.token⟩

/-! The callsign -/

/-- `userCallsign_` and the copy the worker works under were given, or are still empty. -/
structure Named (s : System) (m : Mail) : Prop where
  plugin : s.plugin.userCallsign = [] ∨ s.plugin.userCallsign ∈ m.callsigns
  worker : s.worker.userCallsign = [] ∨ s.worker.userCallsign ∈ m.callsigns

theorem workerEffect_worker_userCallsign (s : System) {a : WorkerAction} (other : a ≠ .readCallsign) :
    (workerEffect s a).worker.userCallsign = s.worker.userCallsign := by
  cases a with
  | readCallsign => exact absurd rfl other
  | loadOverride =>
    simp only [workerEffect, WorkerThread.begin_eq]
    split <;> rfl
  | loadConnection => simp [workerEffect, WorkerThread.begin_eq]
  | _ => rfl

theorem named_step {s : System} {m : Mail} (a : Action) (before : Named s m) :
    Named (plugin.effect s a) (m.next s a) := by
  have within := (within_next m s a).callsigns
  have stays : s.plugin.userCallsign = [] ∨ s.plugin.userCallsign ∈ (m.next s a).callsigns :=
    before.plugin.imp_right (fun known => within known)
  have copied : s.worker.userCallsign = [] ∨ s.worker.userCallsign ∈ (m.next s a).callsigns :=
    before.worker.imp_right (fun known => within known)
  cases a with
  | elapse duration => exact ⟨stays, copied⟩
  | main a =>
    have worker : (mainEffect s a).worker = s.worker := mainEffect_worker s a
    refine ⟨?_, by rw [effect_main, worker]; exact copied⟩
    cases a with
    | isController myself =>
      by_cases short : myself.callsign.length < 3
      · simpa [mainEffect, short] using stays
      · refine Or.inr ?_
        simp [mainEffect, Mail.next, short]
    | _ => exact stays
  | worker a =>
    refine ⟨by rw [effect_worker, workerEffect_userCallsign]; exact stays, ?_⟩
    by_cases reads : a = .readCallsign
    · subst reads
      exact stays
    · rw [effect_worker, workerEffect_worker_userCallsign s reads]
      exact copied

theorem named : mailing.Invariant (fun x => Named x.1.1 x.2) := by
  apply Machine.invariant_of_step
  · exact ⟨Or.inl rfl, Or.inl rfl⟩
  · rintro ⟨⟨s, h⟩, m⟩ a - before
    exact named_step a before

/-! The requests -/

structure Queued (s : System) (m : Mail) : Prop where
  clicks : ∀ click ∈ m.clicks, Clicked click.1 click.2
  waiting : ∀ K request, s.plugin.pendingAssignRequests.lookup K = some request → (K, request) ∈ m.clicks
  pending : ∀ K request, s.worker.pending.lookup K = some request → (K, request) ∈ m.clicks

theorem queued_functionCall {s : System} {m : Mail} (call : FunctionCall) (before : Queued s m) :
    Queued (mainEffect s (.functionCall call)) (m.next s (.main (.functionCall call))) := by
  have clicked : (m.next s (.main (.functionCall call))).clicks =
    (s.plugin.onFunctionCall call).queued.toList ++ m.clicks := rfl
  have pending : (mainEffect s (.functionCall call)).plugin.pendingAssignRequests =
    storeRequest s.plugin.pendingAssignRequests (s.plugin.onFunctionCall call).queued := rfl
  have more : m.clicks ⊆ (m.next s (.main (.functionCall call))).clicks := by
    rw [clicked]
    exact List.subset_append_right _ _
  refine ⟨fun click member => ?_, fun K request stored => ?_,
    fun K request stored => more (before.pending K request stored)⟩
  · rw [clicked] at member
    rcases List.mem_append.mp member with new | earlier
    · exact onFunctionCall_clicked (Option.mem_toList.mp new)
    · exact before.clicks click earlier
  · rw [pending] at stored
    rcases storeRequest_lookup stored with new | earlier
    · rw [clicked, new]
      exact List.mem_cons_self
    · exact more (before.waiting K request earlier)

omit [Secret] in
theorem Queued.of_same {s t : System} {m later : Mail} (before : Queued s m) (clicks : later.clicks = m.clicks)
    (waiting : t.plugin.pendingAssignRequests = s.plugin.pendingAssignRequests)
    (pending : t.worker.pending = s.worker.pending) : Queued t later := by
  refine ⟨?_, ?_, ?_⟩
  · rw [clicks]
    exact before.clicks
  · rw [clicks, waiting]
    exact before.waiting
  · rw [clicks, pending]
    exact before.pending

theorem queued_step {s : System} {m : Mail} (a : Action) (before : Queued s m) :
    Queued (plugin.effect s a) (m.next s a) := by
  cases a with
  | elapse duration => exact before.of_same rfl rfl rfl
  | main a =>
    cases a with
    | functionCall call => exact queued_functionCall call before
    | isController myself =>
      refine before.of_same ?_ rfl rfl
      unfold Mail.next
      dsimp only
      split <;> rfl
    | _ => exact before.of_same rfl rfl rfl
  | worker a =>
    cases a with
    | drain => exact ⟨before.clicks, by simp [workerEffect], before.waiting⟩
    | send callsign =>
      have clicks : (m.next s (.worker (.send callsign))).clicks = m.clicks := by
        unfold Mail.next
        dsimp only
        split <;> rfl
      refine ⟨?_, ?_, fun K request stored => ?_⟩
      · rw [clicks]
        exact before.clicks
      · rw [clicks]
        exact before.waiting
      · rw [clicks]
        have left : (s.worker.pending.erase callsign).lookup K = some request := stored
        exact before.pending K request (erase_lookup left)
    | push =>
      refine before.of_same ?_ rfl rfl
      unfold Mail.next
      dsimp only
      split <;> rfl
    | loadOverride =>
      refine before.of_same rfl rfl ?_
      simp only [effect_worker, workerEffect, WorkerThread.begin_eq]
      split <;> rfl
    | loadConnection =>
      refine before.of_same rfl rfl ?_
      simp [workerEffect, WorkerThread.begin_eq]
    | _ => exact before.of_same rfl rfl rfl

theorem queued : mailing.Invariant (fun x => Queued x.1.1 x.2) := by
  apply Machine.invariant_of_step
  · constructor <;> simp [mailing, Feed.fed, Machine.observe, plugin]
  · rintro ⟨⟨s, h⟩, m⟩ a - before
    exact queued_step a before

/-! ### What is posted -/

omit [Secret] in
theorem worker_captured {s : System} {h : Feed.Pictures} (kept : Feed.Kept s h) (pc : s.worker.pc = .pushing) :
    s.worker.picture ∈ h.captured := by
  have one : h.ledger.drained.map Ticket.item = [s.worker.picture] := by
    simpa [Feed.inWorkerHand, pc] using kept.taken
  obtain ⟨t, only, item⟩ := List.map_eq_singleton_iff.mp one
  have queued : t ∈ h.ledger.queued := by
    rw [← Multiset.mem_coe, ← kept.balanced.accounted]
    simp [only]
  rw [kept.captured, ← item]
  exact List.mem_append_left _ (List.mem_map_of_mem queued)

theorem captured_next (h : Feed.Pictures) (s : System) (a : Action) : h.captured ⊆ (h.next s a).captured := by
  unfold Feed.Pictures.next
  split
  · exact List.subset_append_left _ _
  · exact List.Subset.refl _
  · split <;> exact List.Subset.refl _
  · exact List.Subset.refl _
  · exact List.Subset.refl _
  · exact List.Subset.refl _

/-- Both bodies carry the callsign of the iteration and its token. -/
theorem signed_under {s : System} {m : Mail} {body : Json} (named : Named s m) (signs : s.worker.userCallsign ≠ [])
    (controller : body.find (text "controller") = some (.string s.worker.userCallsign))
    (token : body.find (text "token") = some (.string (generateToken s.worker.userCallsign))) :
    ∃ callsign token, Signed m.callsigns body callsign token := by
  refine ⟨_, _, named.worker.resolve_left signs, ?_, ?_, generateToken_token _⟩
  · rw [controller]
    rfl
  · rw [token]
    rfl

theorem Mail.Faithful.later {m later : Mail} {captured captured' : List (List FlightObservation)}
    (before : m.Faithful captured) (within : m.Within later) (more : captured ⊆ captured')
    (requests : later.requests = m.requests) (feeds : later.feeds = m.feeds) : later.Faithful captured' := by
  constructor
  · rw [requests]
    intro body member
    obtain ⟨⟨click, clicked, read⟩, callsign, token, signed⟩ := before.requests body member
    exact ⟨⟨click, within.clicks clicked, read⟩, callsign, token, signed.within within⟩
  · rw [feeds]
    intro body member
    obtain ⟨⟨picture, taken, read⟩, callsign, token, signed⟩ := before.feeds body member
    exact ⟨⟨picture, more taken, read⟩, callsign, token, signed.within within⟩

theorem faithful_send {s : System} {m : Mail} {captured : List (List FlightObservation)} {callsign : Text}
    (member : callsign ∈ s.worker.pending) (named : Named s m) (queued : Queued s m)
    (before : m.Faithful captured) : (m.next s (.worker (.send callsign))).Faithful captured := by
  by_cases posted : Requests.isPosted s callsign = true
  · have next : m.next s (.worker (.send callsign)) =
        { m with requests := s.worker.requestBody callsign :: m.requests } := if_pos posted
    rw [next]
    refine ⟨fun body new => ?_, before.feeds⟩
    rcases List.mem_cons.mp new with rfl | earlier
    · obtain ⟨request, stored⟩ := Option.isSome_iff_exists.mp (AList.lookup_isSome.mpr member)
      have click := queued.pending callsign request stored
      have made : s.worker.requestBody callsign = assignBody s.worker.userCallsign callsign request := by
        simp [WorkerThread.requestBody, stored]
      have signs : s.worker.userCallsign ≠ [] := by
        simp only [Requests.isPosted, Bool.and_eq_true, decide_eq_true_eq] at posted
        exact posted.1
      have signed : ∃ u token, Signed m.callsigns (s.worker.requestBody callsign) u token :=
        signed_under named signs rfl rfl
      refine ⟨⟨_, click, ?_⟩, signed⟩
      rw [made]
      exact readRequest_assignBody (queued.clicks _ click)
    · exact before.requests body earlier
  · have next : m.next s (.worker (.send callsign)) = m := if_neg posted
    rw [next]
    exact before

theorem faithful_push {s : System} {h : Feed.Pictures} {m : Mail} (pc : s.worker.pc = .pushing)
    (named : Named s m) (due : Wire.Due s.worker) (kept : Feed.Kept s h) (before : m.Faithful h.captured) :
    (m.next s (.worker .push)).Faithful h.captured := by
  by_cases utf8 : s.worker.pictureBody.utf8 = true
  · have next : m.next s (.worker .push) = { m with feeds := s.worker.pictureBody :: m.feeds } := if_pos utf8
    rw [next]
    refine ⟨before.requests, fun body new => ?_⟩
    rcases List.mem_cons.mp new with rfl | earlier
    · have signs : s.worker.userCallsign ≠ [] := by
        have feeds := due.feed (by rw [pc]; rfl)
        simp only [WorkerThread.feeds, Bool.and_eq_true, decide_eq_true_eq] at feeds
        exact feeds.1.2
      have signed : ∃ u token, Signed m.callsigns s.worker.pictureBody u token :=
        signed_under named signs rfl rfl
      exact ⟨⟨_, worker_captured kept pc, readPicture_feedBody (kept.worker_whole pc)⟩, signed⟩
    · exact before.feeds body earlier
  · have next : m.next s (.worker .push) = m := if_neg utf8
    rw [next]
    exact before

/-- In every run each body posted to `/api/assign` reads back as one of the requests that were
clicked, and each body posted to `/api/feed` as the whole of one capture; both are signed under a
callsign EuroScope gave, with the digest of the secret and that callsign. -/
theorem bodies_read_back (actions : List Action) :
    (mailing.run actions).2.Faithful (mailing.run actions).1.2.captured := by
  have invariant : mailing.Invariant (fun x => x.2.Faithful x.1.2.captured) := by
    refine (named.and (queued.and (Feed.kept.observed.and Wire.due.observed.observed))).strengthen ?_ ?_
    · exact ⟨by simp [mailing, Machine.observe], by simp [mailing, Machine.observe]⟩
    · rintro ⟨⟨s, h⟩, m⟩ a on ⟨named, queued, kept, due⟩ before
      have within := within_next m s a
      have more := captured_next h s a
      show (m.next s a).Faithful (h.next s a).captured
      cases a with
      | elapse duration => exact before
      | main a =>
        cases a with
        | isController myself =>
          refine before.later within more ?_ ?_
          all_goals
            simp only [Mail.next]
            split <;> rfl
        | _ => exact before.later within more rfl rfl
      | worker a =>
        obtain ⟨-, pc, enabled, -⟩ := enabled_worker on
        cases a with
        | send callsign =>
          simp only [WorkerThread.enabled, Bool.and_eq_true, decide_eq_true_eq] at enabled
          exact faithful_send enabled.2 named queued before
        | push =>
          show (m.next s (.worker .push)).Faithful h.captured
          exact faithful_push pc named due kept before
        | _ => exact before.later within more rfl rfl
  exact invariant actions

end

end CentralSquawk
