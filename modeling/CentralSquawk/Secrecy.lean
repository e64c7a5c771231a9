import CentralSquawk.Bodies
import CentralSquawk.Survival
import CentralSquawk.Library.Simulation

/-!
# Where the secret shows

The shared secret is compiled into every build of the plugin. Two builds that differ
in nothing else are compared here over the same run: everything the one does the other
does, except for the token in the bodies it posts.
-/

namespace CentralSquawk
open Library

/-- A body signed anew, under the controller it names. -/
def resigned [Secret] : Json → Json
  | .object members =>
    let controller := (Json.getString ((Json.object members).find (text "controller"))).getD []
    .object (members.map (fun m =>
      if m.1 = text "token" then (m.1, .string (generateToken controller)) else m))
  | body => body

section
variable (one other : Secret)

/-! ### The bodies -/

theorem resigned_assignBody (userCallsign callsign : Text) (request : AssignRequest) :
    @resigned other (@assignBody one userCallsign callsign request) =
      @assignBody other userCallsign callsign request := by
  have kind : (kindMember request).1 ≠ text "token" := by
    have words : text "mode" ≠ text "token" ∧ text "code" ≠ text "token" := by decide
    unfold kindMember
    cases request.kind <;> simp [words]
  have names : text "callsign" ≠ text "token" ∧ text "controller" ≠ text "token" ∧
      text "flight" ≠ text "token" ∧ text "callsign" ≠ text "controller" := by decide
  obtain ⟨callsignName, controllerName, flightName, second⟩ := names
  unfold resigned assignBody
  cases request.seed.valid <;>
    simp [Json.find, Json.getString, kind, callsignName, controllerName, flightName, second]

theorem resigned_feedBody (userCallsign : Text) (picture : List FlightObservation) :
    @resigned other (@feedBody one userCallsign picture) = @feedBody other userCallsign picture := by
  have names : text "controller" ≠ text "token" ∧ text "observations" ≠ text "token" := by decide
  obtain ⟨controllerName, observationsName⟩ := names
  simp [resigned, feedBody, Json.find, Json.getString, controllerName, observationsName]

theorem requestBody_utf8_same (w : WorkerThread) (callsign : Text) :
    (@WorkerThread.requestBody one w callsign).utf8 = (@WorkerThread.requestBody other w callsign).utf8 := by
  simp only [WorkerThread.requestBody, assignBody_utf8]

theorem pictureBody_utf8_same (w : WorkerThread) :
    (@WorkerThread.pictureBody one w).utf8 = (@WorkerThread.pictureBody other w).utf8 := by
  simp only [WorkerThread.pictureBody, feedBody_utf8]

theorem isPosted_same (s : System) (callsign : Text) :
    @Requests.isPosted one s callsign = @Requests.isPosted other s callsign := by
  simp only [Requests.isPosted, requestBody_utf8_same one other]

/-! ### The steps -/

theorem workerEffect_same (s : System) (a : WorkerAction) : @workerEffect one s a = @workerEffect other s a := by
  cases a with
  | send callsign => simp only [workerEffect, requestBody_utf8_same one other]
  | push => simp only [workerEffect, pictureBody_utf8_same one other]
  | _ => rfl

theorem plugin_same : @plugin one = @plugin other := by
  have effects : @System.effect one = @System.effect other := by
    funext s a
    cases a with
    | worker a => exact workerEffect_same one other s a
    | _ => rfl
  unfold plugin
  rw [effects]

theorem pictures_same (h : Feed.Pictures) (s : System) (a : Action) :
    @Feed.Pictures.next one h s a = @Feed.Pictures.next other h s a := by
  cases a with
  | elapse duration => rfl
  | main a => cases a <;> rfl
  | worker a =>
    cases a with
    | push =>
      have body : Feed.postedObservations (@WorkerThread.pictureBody one s.worker) =
        Feed.postedObservations (@WorkerThread.pictureBody other s.worker) := rfl
      simp only [Feed.Pictures.next, pictureBody_utf8_same one other, body]
    | _ => rfl

theorem fed_same : @Feed.fed one = @Feed.fed other := by
  have pictures : @Feed.Pictures.next one = @Feed.Pictures.next other := by
    funext h s a
    exact pictures_same one other h s a
  unfold Feed.fed
  rw [plugin_same one other, pictures]

theorem made_same (s : System) (a : WorkerAction) : @Wire.made one s a = @Wire.made other s a := by
  cases a with
  | send callsign => simp only [Wire.made, isPosted_same one other]
  | push => simp only [Wire.made, pictureBody_utf8_same one other]
  | _ => rfl

theorem wired_same : @Wire.wired one = @Wire.wired other := by
  have logs : @Wire.Log.next one = @Wire.Log.next other := by
    funext h s a
    cases a with
    | worker a => simp only [Wire.Log.next, made_same one other]
    | _ => rfl
  unfold Wire.wired
  rw [plugin_same one other, logs]

/-- The same mail, signed with the other secret. -/
def Mail.resigned [Secret] (m : Mail) : Mail :=
  { m with requests := m.requests.map CentralSquawk.resigned, feeds := m.feeds.map CentralSquawk.resigned }

theorem next_resigned (m : Mail) (s : System) (a : Action) :
    @Mail.next other (@Mail.resigned other m) s a = @Mail.resigned other (@Mail.next one m s a) := by
  cases a with
  | elapse duration => rfl
  | main a =>
    cases a with
    | isController myself =>
      simp only [Mail.next]
      split <;> rfl
    | _ => rfl
  | worker a =>
    cases a with
    | send callsign =>
      simp only [Mail.next, isPosted_same other one]
      split
      · simp [Mail.resigned, WorkerThread.requestBody, resigned_assignBody]
      · rfl
    | push =>
      simp only [Mail.next, pictureBody_utf8_same other one]
      split
      · simp [Mail.resigned, WorkerThread.pictureBody, resigned_feedBody]
      · rfl
    | _ => rfl

/-- Two builds that share all but the secret go through the same states in the same runs, whatever the
servers reply: they make the same calls, and the bodies they post are the same but for the token,
which is each build's own for the controller the body names. -/
theorem secret_shows_in_tokens (actions : List Action) :
    (@plugin one).run actions = (@plugin other).run actions ∧
      ((@Wire.wired one).run actions).2 = ((@Wire.wired other).run actions).2 ∧
      ((@mailing other).run actions).2 = @Mail.resigned other ((@mailing one).run actions).2 := by
  have lockstep : Lockstep (@mailing one) (@mailing other)
      (fun x y => x.1 = y.1 ∧ y.2 = @Mail.resigned other x.2) := by
    constructor
    · exact ⟨rfl, rfl⟩
    · rintro ⟨s, m⟩ ⟨t, n⟩ a ⟨rfl, -⟩
      rfl
    · rintro ⟨⟨s, h⟩, m⟩ ⟨t, n⟩ a - ⟨rfl, rfl⟩
      refine ⟨?_, next_resigned one other m s a⟩
      show (@Feed.fed one).effect (s, h) a = (@Feed.fed other).effect (s, h) a
      rw [fed_same one other]
  refine ⟨?_, ?_, (lockstep.run actions).2⟩
  · rw [plugin_same one other]
  · rw [wired_same one other]

end

end CentralSquawk
