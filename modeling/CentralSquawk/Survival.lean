import CentralSquawk.Threads.System

/-!
# What the worker survives

`dump()` throws on text that is not UTF-8, and both bodies are dumped outside any
`try` block, on a thread nothing catches for. So the worker lives exactly as long
as the strings it is given are UTF-8.
-/

namespace CentralSquawk
open Library

/-! ### The bodies -/

/-- The filed fields of an observation, which a body carries as EuroScope returned them. -/
def FlightObservation.utf8Plan (obs : FlightObservation) : Bool :=
  Utf8.valid obs.flightRules && Utf8.valid obs.departure && Utf8.valid obs.arrival &&
    Utf8.valid obs.equipment && Utf8.valid obs.route

def AssignRequest.utf8 (userCallsign callsign : Text) (request : AssignRequest) : Bool :=
  Utf8.valid callsign && Utf8.valid userCallsign &&
    (request.kind ≠ .setCode || Utf8.valid request.code) &&
    (!request.seed.valid || request.seed.utf8Plan)

def utf8Picture (userCallsign : Text) (picture : List FlightObservation) : Bool :=
  Utf8.valid userCallsign && picture.all (fun obs =>
    !sendable obs || (Utf8.valid obs.callsign && Utf8.valid obs.transponder && obs.utf8Plan))

theorem hexDigit_ascii {n : UInt8} (digit : n < 16) : hexDigit n ≤ 0x7F := by
  have all : ∀ m : Fin 16, hexDigit (UInt8.ofNat m) ≤ 0x7F := by decide
  have this := all ⟨n.toNat, digit⟩
  simpa using this

theorem generateToken_utf8 [Secret] (callsign : Text) : Utf8.valid (generateToken callsign) = true := by
  refine Utf8.valid_ascii ?_
  intro c member
  obtain ⟨b, -, digits⟩ := List.mem_flatMap.mp member
  have high : b / 16 < 16 := by
    rw [UInt8.lt_iff_toNat_lt, UInt8.toNat_div]
    have bound := b.toNat_lt
    simp
    omega
  have low : b % 16 < 16 := by
    rw [UInt8.lt_iff_toNat_lt, UInt8.toNat_mod]
    simp
    omega
  rcases List.mem_cons.mp digits with rfl | rest
  · exact hexDigit_ascii high
  · obtain rfl := List.mem_singleton.mp rest
    exact hexDigit_ascii low

def memberNames : List String :=
  ["callsign", "controller", "token", "code", "mode", "flight", "observations", "latitude", "longitude",
    "altitude", "groundspeed", "transponder", "flightRules", "departure", "arrival", "equipment", "route"]

theorem memberNames_utf8 : ∀ name ∈ memberNames, Utf8.valid (text name) = true := by decide

theorem kindMember_utf8 (request : AssignRequest) :
    Utf8.valid (kindMember request).1 = true ∧
      (kindMember request).2.utf8 = (request.kind ≠ .setCode || Utf8.valid request.code) := by
  have words : Utf8.valid (text "mode") = true ∧ Utf8.valid (text "code") = true ∧
      Utf8.valid (text "discrete") = true ∧ Utf8.valid (text "auto") = true := by decide
  unfold kindMember
  cases request.kind <;> simp [words, Json.utf8]

theorem seedJson_utf8 (seed : FlightObservation) : (seedJson seed).utf8 = seed.utf8Plan := by
  have names := memberNames_utf8
  simp only [memberNames, List.forall_mem_cons] at names
  simp [names, seedJson, Json.utf8, Json.utf8Members, FlightObservation.utf8Plan, Bool.and_assoc]

theorem assignBody_utf8 [Secret] (userCallsign callsign : Text) (request : AssignRequest) :
    (assignBody userCallsign callsign request).utf8 = request.utf8 userCallsign callsign := by
  have token := generateToken_utf8 userCallsign
  have names := memberNames_utf8
  simp only [memberNames, List.forall_mem_cons] at names
  obtain ⟨name, value⟩ := kindMember_utf8 request
  simp only [assignBody, Json.utf8, Json.utf8Members_append, Json.utf8Members, token, names, name, value,
    AssignRequest.utf8]
  cases request.seed.valid with
  | false => simp [Json.utf8Members, Bool.and_assoc]
  | true => simp [names, Json.utf8Members, seedJson_utf8, Bool.and_assoc]

theorem observationJson_utf8 (obs : FlightObservation) :
    (observationJson obs).utf8 =
      (Utf8.valid obs.callsign && Utf8.valid obs.transponder && obs.utf8Plan) := by
  have names := memberNames_utf8
  simp only [memberNames, List.forall_mem_cons] at names
  simp [names, observationJson, Json.utf8, Json.utf8Members, FlightObservation.utf8Plan, Bool.and_assoc]

theorem feedBody_utf8 [Secret] (userCallsign : Text) (picture : List FlightObservation) :
    (feedBody userCallsign picture).utf8 = utf8Picture userCallsign picture := by
  have token := generateToken_utf8 userCallsign
  have elements : Json.utf8Elements (observations picture) = picture.all (fun obs =>
      !sendable obs || (Utf8.valid obs.callsign && Utf8.valid obs.transponder && obs.utf8Plan)) := by
    rw [Bool.eq_iff_iff, Json.utf8Elements_iff]
    simp only [observations, List.forall_mem_map, List.mem_filter, observationJson_utf8, List.all_eq_true]
    refine forall_congr' (fun obs => ?_)
    cases sendable obs <;> simp
  have names := memberNames_utf8
  simp only [memberNames, List.forall_mem_cons] at names
  simp [names, feedBody, Json.utf8, Json.utf8Members, token, elements, utf8Picture]

/-! ### The two functions -/

section
variable [Secret]

theorem sendAssignRequest_returns_iff (post : Json → Reply) (cache : Cache) (userCallsign callsign : Text)
    (request : AssignRequest) :
    (∃ result, sendAssignRequest post cache userCallsign callsign request = .ok result) ↔
      userCallsign = [] ∨ request.utf8 userCallsign callsign = true := by
  unfold sendAssignRequest
  by_cases anonymous : userCallsign = []
  · simp [anonymous]
  · rw [if_neg anonymous, ← assignBody_utf8]
    cases utf8 : (assignBody userCallsign callsign request).utf8 <;>
      simp [Json.dump, utf8, anonymous, bind, Except.bind, pure, Except.pure]

theorem pushSimFeed_returns_iff (post : Json → Reply) (feeding : Bool) (userCallsign : Text)
    (picture : List FlightObservation) :
    (∃ fed, pushSimFeed post feeding userCallsign picture = .ok fed) ↔
      utf8Picture userCallsign picture = true := by
  unfold pushSimFeed
  rw [← feedBody_utf8]
  cases utf8 : (feedBody userCallsign picture).utf8 <;>
    simp [Json.dump, utf8, bind, Except.bind, pure, Except.pure]

/-! ### The worker -/

def Encodable (s : System) : Action → Prop
  | .worker (.send callsign) =>
    s.worker.userCallsign = [] ∨
      ((s.worker.pending.lookup callsign).getD {}).utf8 s.worker.userCallsign callsign = true
  | .worker .push => utf8Picture s.worker.userCallsign s.worker.picture = true
  | _ => True

/-- A step ends the process exactly when it dumps text that is not UTF-8. -/
theorem effect_running (s : System) (a : Action) :
    (plugin.effect s a).running = true ↔ s.running = true ∧ Encodable s a := by
  cases a with
  | elapse duration => simp [Encodable]
  | main a =>
    have same : (mainEffect s a).running = s.running := by cases a <;> rfl
    simp [Encodable, same]
  | worker a =>
    cases a with
    | send callsign =>
      simp [workerEffect, Encodable, WorkerThread.requestBody, assignBody_utf8]
    | push => simp [workerEffect, Encodable, WorkerThread.pictureBody, feedBody_utf8]
    | _ => simp [workerEffect, Encodable]

theorem running_iff_encodable (actions : List Action) :
    (plugin.run actions).running = true ↔ plugin.Along Encodable actions :=
  Machine.run_iff_along (P := fun s => s.running = true) rfl (fun s a _ => effect_running s a) actions

/-- Both functions return, and the worker lives on, exactly when what they are given is UTF-8. -/
theorem worker_survives_iff_utf8 :
    (∀ (post : Json → Reply) (cache : Cache) (userCallsign callsign : Text) (request : AssignRequest),
      (∃ result, sendAssignRequest post cache userCallsign callsign request = .ok result) ↔
        userCallsign = [] ∨ request.utf8 userCallsign callsign = true) ∧
    (∀ (post : Json → Reply) (feeding : Bool) (userCallsign : Text) (picture : List FlightObservation),
      (∃ fed, pushSimFeed post feeding userCallsign picture = .ok fed) ↔
        utf8Picture userCallsign picture = true) ∧
    ∀ actions : List Action, (plugin.run actions).running = true ↔ plugin.Along Encodable actions :=
  ⟨sendAssignRequest_returns_iff, pushSimFeed_returns_iff, running_iff_encodable⟩

end

/-! ### A run -/

/-- A click on a flight whose route names a place in Latin-1. -/
def latinClick : FunctionCall where
  functionId := AssignAuto
  asel := some {
    callsign := some (text "AFR1234")
    data := some { route := some (text "ORL" ++ [0xE9] ++ text "ANS") }
    track := some {} }

def latinRequest : List Action :=
  onTimer CONNECTION_TYPE_DIRECT tower ++ [.main (.functionCall latinClick)] ++ iteration ++
    [.worker (.probed unreachable), .worker .checkController, .worker .drain,
      .worker (.send (text "AFR1234"))]

set_option maxRecDepth 100000 in
/-- One click ends the process. -/
theorem worker_terminated :
    ¬ ∀ (secret : Secret) (actions : List Action), ((@plugin secret).run actions).running = true := by
  intro all
  have ended : ((@plugin parisSecret).run latinRequest).running = false := by decide +kernel
  rw [all parisSecret latinRequest] at ended
  contradiction

end CentralSquawk
