import CentralSquawk.Survival

/-!
# What EuroScope has to return

Whatever the worker dumps was returned by EuroScope on the main thread, put into upper
case, and handed across in a request, in a picture or as the own callsign. Upper case
in the C locale leaves a character of several octets alone, and a code that was checked
is ASCII, so it is enough that what EuroScope returns is UTF-8.
-/

namespace CentralSquawk
open Library

/-! ### Inputs -/

def utf8Field (str : Option Text) : Bool := Utf8.valid (safeString str)

def FlightPlanData.utf8 (data : FlightPlanData) : Bool :=
  utf8Field data.planType && utf8Field data.origin && utf8Field data.destination &&
    utf8Field data.aircraftInfo && utf8Field data.route

def SelectedFlight.utf8 (fp : SelectedFlight) : Bool :=
  utf8Field fp.callsign && fp.data.all FlightPlanData.utf8

def RadarTarget.utf8 (rt : RadarTarget) : Bool :=
  utf8Field rt.callsign && rt.position.all (fun position => utf8Field position.squawk) &&
    rt.flightPlanData.all FlightPlanData.utf8

/-- The strings EuroScope returns that may reach a body. A squawk to be set is checked before it does. -/
def utf8Input : Action → Bool
  | .main (.isController myself) => Utf8.valid myself.callsign
  | .main (.functionCall call) => call.asel.all SelectedFlight.utf8
  | .main (.capture targets) => targets.all RadarTarget.utf8
  | _ => true

/-! ### Upper case -/

theorem toupper_ascii {c : UInt8} (ascii : c ≤ 0x7F) : toupper c ≤ 0x7F := by
  by_cases lower : 0x61 ≤ c ∧ c ≤ 0x7A
  · have moved := toNat_sub_case lower
    rw [toupper, if_pos lower]
    simp only [UInt8.le_iff_toNat_le, moved] at ascii ⊢
    simp at ascii ⊢
    omega
  · rw [toupper, if_neg lower]
    exact ascii

theorem toupper_other {c : UInt8} (other : ¬ c ≤ 0x7F) : toupper c = c := by
  have upper : ¬ (0x61 ≤ c ∧ c ≤ 0x7A) := by
    rintro ⟨-, below⟩
    simp only [UInt8.le_iff_toNat_le] at other below
    simp at other below
    omega
  rw [toupper, if_neg upper]

theorem toUpper_utf8 (str : Text) : Utf8.valid (toUpper str) = Utf8.valid str :=
  Utf8.valid_map (fun _ => toupper_ascii) (fun _ => toupper_other) str

theorem wellFormed_utf8 {code : Text} (formed : isWellFormedSquawk code = true) : Utf8.valid code = true := by
  obtain ⟨-, digits⟩ := isWellFormedSquawk_iff.mp formed
  apply Utf8.valid_ascii
  intro c member
  have digit := (digits c member).2
  simp only [UInt8.le_iff_toNat_le] at digit ⊢
  simp at digit ⊢
  omega

/-! ### What is handed across -/

theorem file_utf8 (obs : FlightObservation) (data : FlightPlanData) : (obs.file data).utf8Plan = data.utf8 := by
  simp [FlightObservation.file, FlightObservation.utf8Plan, FlightPlanData.utf8, utf8Field, toUpper_utf8]

theorem captureSeed_utf8 {callsign : Text} {fp : SelectedFlight} (utf8 : fp.utf8 = true)
    (valid : (captureSeed callsign fp).valid = true) : (captureSeed callsign fp).utf8Plan = true := by
  unfold SelectedFlight.utf8 at utf8
  unfold captureSeed at valid ⊢
  split at valid
  · rename_i data track filed placed
    rw [file_utf8]
    simp only [filed, Option.all_some, Bool.and_eq_true] at utf8
    exact utf8.2
  · contradiction

theorem onFunctionCall_utf8 {online controller : Bool} {call : FunctionCall} {callsign : Text}
    {request : AssignRequest} (utf8 : utf8Input (.main (.functionCall call)) = true)
    (queued : (onFunctionCall online controller call).queued = some (callsign, request)) :
    request.utf8 [] callsign = true := by
  obtain ⟨fp, selected, named, seed, code⟩ := onFunctionCall_queued queued
  have utf8 : fp.utf8 = true := by simpa [utf8Input, selected] using utf8
  obtain ⟨raw, given, rfl⟩ := Option.map_eq_some_iff.mp named
  have key : Utf8.valid (toUpper raw) = true := by
    obtain ⟨given, -⟩ := Option.filter_eq_some_iff.mp given
    simp only [SelectedFlight.utf8, utf8Field, given, safeString, Option.getD_some, Bool.and_eq_true] at utf8
    rw [toUpper_utf8]
    exact utf8.1
  simp only [AssignRequest.utf8, Bool.and_eq_true]
  refine ⟨⟨⟨key, rfl⟩, ?_⟩, ?_⟩
  · by_cases set : request.kind = .setCode
    · simp [wellFormed_utf8 (code set).2]
    · simp [set]
  · cases valid : request.seed.valid with
    | false => rfl
    | true =>
      rw [seed] at valid ⊢
      exact captureSeed_utf8 utf8 valid

theorem captureTarget_utf8 {rt : RadarTarget} {obs : FlightObservation} (utf8 : rt.utf8 = true)
    (captured : captureTarget rt = some obs) :
    (Utf8.valid obs.callsign && Utf8.valid obs.transponder && obs.utf8Plan) = true := by
  unfold captureTarget at captured
  split at captured
  · contradiction
  obtain ⟨position, placed, rfl⟩ := Option.map_eq_some_iff.mp captured
  unfold RadarTarget.utf8 at utf8
  simp only [placed, Option.all_some, Bool.and_eq_true, utf8Field] at utf8
  obtain ⟨⟨callsign, transponder⟩, filed⟩ := utf8
  unfold RadarTarget.observe
  cases data : rt.flightPlanData with
  | none =>
    have unfiled : Utf8.valid ([] : Text) = true := rfl
    simp [toUpper_utf8, callsign, transponder, FlightObservation.utf8Plan, unfiled]
  | some data' =>
    rw [data] at filed
    have plan := file_utf8 { valid := true, callsign := toUpper (safeString rt.callsign) } data'
    simpa [toUpper_utf8, callsign, transponder, FlightObservation.utf8Plan, FlightObservation.file] using
      plan.trans filed

theorem capturePicture_utf8 {targets : List RadarTarget} (utf8 : targets.all RadarTarget.utf8 = true) :
    utf8Picture [] (capturePicture targets) = true := by
  have each : ∀ obs ∈ capturePicture targets,
      (Utf8.valid obs.callsign && Utf8.valid obs.transponder && obs.utf8Plan) = true := by
    intro obs member
    obtain ⟨rt, listed, captured⟩ := List.mem_filterMap.mp member
    exact captureTarget_utf8 (List.all_eq_true.mp utf8 rt listed) captured
  unfold utf8Picture
  rw [Bool.and_eq_true, List.all_eq_true]
  refine ⟨rfl, fun obs member => ?_⟩
  rw [each obs member, Bool.or_true]

/-! ### Every step -/

/-- All that the worker may come to dump is UTF-8. -/
structure Clean (s : System) : Prop where
  userCallsign : Utf8.valid s.plugin.userCallsign = true
  signing : Utf8.valid s.worker.userCallsign = true
  waiting : ∀ K request, s.plugin.pendingAssignRequests.lookup K = some request → request.utf8 [] K = true
  drained : ∀ K request, s.worker.pending.lookup K = some request → request.utf8 [] K = true
  captured : utf8Picture [] s.main.picture = true
  buffered : utf8Picture [] s.plugin.picture = true
  taken : utf8Picture [] s.worker.picture = true

theorem clean_main {s : System} (a : MainAction) (input : utf8Input (.main a) = true) (clean : Clean s) :
    Clean (mainEffect s a) := by
  obtain ⟨userCallsign, signing, waiting, drained, captured, buffered, taken⟩ := clean
  cases a with
  | isController myself =>
    refine ⟨?_, signing, waiting, drained, captured, buffered, taken⟩
    simp only [mainEffect]
    split
    · exact userCallsign
    · exact input
  | functionCall call =>
    refine ⟨userCallsign, signing, fun K request stored => ?_, drained, captured, buffered, taken⟩
    have stored : (storeRequest s.plugin.pendingAssignRequests (s.plugin.onFunctionCall call).queued).lookup K =
        some request := stored
    rcases storeRequest_lookup stored with new | earlier
    · exact onFunctionCall_utf8 input new
    · exact waiting K request earlier
  | capture targets =>
    exact ⟨userCallsign, signing, waiting, drained, capturePicture_utf8 input, buffered, taken⟩
  | storePicture => exact ⟨userCallsign, signing, waiting, drained, rfl, captured, taken⟩
  | _ => exact ⟨userCallsign, signing, waiting, drained, captured, buffered, taken⟩

section
variable [Secret]

theorem clean_worker {s : System} (a : WorkerAction) (clean : Clean s) : Clean (workerEffect s a) := by
  obtain ⟨userCallsign, signing, waiting, drained, captured, buffered, taken⟩ := clean
  cases a with
  | readCallsign => exact ⟨userCallsign, userCallsign, waiting, drained, captured, buffered, taken⟩
  | drain =>
    exact ⟨userCallsign, signing, by simp [workerEffect], waiting, captured, buffered, taken⟩
  | send callsign =>
    refine ⟨userCallsign, signing, waiting, fun K request left => ?_, captured, buffered, taken⟩
    have left : (s.worker.pending.erase callsign).lookup K = some request := left
    exact drained K request (erase_lookup left)
  | takePicture =>
    refine ⟨userCallsign, signing, waiting, drained, captured, ?_, ?_⟩
    all_goals
      simp only [workerEffect]
      split
    all_goals first | rfl | exact buffered
  | push => exact ⟨userCallsign, signing, waiting, drained, captured, buffered, rfl⟩
  | loadOverride =>
    refine ⟨userCallsign, ?_, waiting, ?_, captured, buffered, ?_⟩
    all_goals
      simp only [workerEffect, WorkerThread.begin_eq]
      split <;> assumption
  | loadConnection =>
    refine ⟨userCallsign, ?_, waiting, ?_, captured, buffered, ?_⟩
    all_goals
      simp only [workerEffect, WorkerThread.begin_eq]
      assumption
  | _ => exact ⟨userCallsign, signing, waiting, drained, captured, buffered, taken⟩

/-- What is clean is dumped without an exception. -/
theorem clean_encodable {s : System} {a : Action} (on : plugin.enabled s a = true) (clean : Clean s) :
    Encodable s a := by
  cases a with
  | worker a =>
    have enabled := (enabled_worker on).2.2.1
    cases a with
    | send callsign =>
      simp only [WorkerThread.enabled, Bool.and_eq_true, decide_eq_true_eq] at enabled
      obtain ⟨request, stored⟩ := Option.isSome_iff_exists.mp (AList.lookup_isSome.mpr enabled.2)
      have writable := clean.drained callsign request stored
      refine Or.inr ?_
      simp only [AssignRequest.utf8, Bool.and_eq_true] at writable ⊢
      rw [stored, Option.getD_some]
      exact ⟨⟨⟨writable.1.1.1, clean.signing⟩, writable.1.2⟩, writable.2⟩
    | push =>
      have writable := clean.taken
      show utf8Picture s.worker.userCallsign s.worker.picture = true
      unfold utf8Picture at writable ⊢
      rw [Bool.and_eq_true] at writable ⊢
      exact ⟨clean.signing, writable.2⟩
    | _ => trivial
  | _ => trivial

/-- As long as the own callsign and the fields of the flights and targets that EuroScope returns are
UTF-8, the process outlives every run: no request and no picture makes `dump()` throw. -/
theorem utf8_inputs_survive (actions : List Action) (inputs : plugin.Along (fun _ a => utf8Input a = true) actions) :
    (plugin.run actions).running = true := by
  have invariant : ∀ actions, plugin.Along (fun _ a => utf8Input a = true) actions →
      (plugin.run actions).running = true ∧ Clean (plugin.run actions) := by
    refine Machine.Invariant.along (J := fun _ => True) (P := fun s => s.running = true ∧ Clean s)
      (fun _ => trivial) ?_ ?_
    · refine ⟨rfl, ?_⟩
      constructor <;> simp [plugin] <;> rfl
    · rintro s a on input - ⟨running, clean⟩
      refine ⟨(effect_running s a).mpr ⟨running, clean_encodable on clean⟩, ?_⟩
      cases a with
      | main a => exact clean_main a input clean
      | worker a => exact clean_worker a clean
      | elapse duration =>
        exact ⟨clean.userCallsign, clean.signing, clean.waiting, clean.drained, clean.captured, clean.buffered,
          clean.taken⟩
  exact (invariant actions inputs).1

end

/-! ### A run -/

/-- A click on a flight whose route names a place in UTF-8. -/
def accentedClick : FunctionCall where
  functionId := AssignAuto
  asel := some {
    callsign := some (text "afr1234")
    data := some { route := some (text "orl" ++ [0xC3, 0xA9] ++ text "ans") }
    track := some {} }

def accentedRequest : List Action :=
  onTimer CONNECTION_TYPE_DIRECT tower ++ [.main (.functionCall accentedClick)] ++ iteration ++
    [.worker (.probed unreachable), .worker .checkController, .worker .drain,
      .worker (.send (text "AFR1234"))]

set_option maxRecDepth 100000 in
theorem utf8_inputs_survive_accented :
    ((@plugin parisSecret).run accentedRequest).worker.pc = .awaitingAssign ∧
      ((@plugin parisSecret).run accentedRequest).running = true :=
  ⟨by decide +kernel, @utf8_inputs_survive parisSecret accentedRequest (by decide +kernel)⟩

end CentralSquawk
