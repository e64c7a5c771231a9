import CentralSquawk.Snapshot.Applied
import CentralSquawk.Threads.System

/-!
# The codes that cross a boundary

A code comes from a snapshot, a response, a typed text or an observed
transponder, and leaves in a posted body or through `SetSquawk`. Not every way in
checks it, but each way out is behind a check. Keys are upper-cased by whoever
chooses them.
-/

namespace CentralSquawk
open Library

structure Crossed where
  /-- The bodies posted to `/api/assign`. -/
  posted : List Json := []
  /-- The strings passed to `SetSquawk`. -/
  set : List Text := []

def UpperKeys {ν : Type} (m : AList (fun _ : Text => ν)) : Prop := ∀ K ∈ m, toUpper K = K

/-- A flight's turn in a sweep goes by the entry under the flight's callsign, whatever the case of the
callsign: its flag is published, and its code set if it is a code, wanted and new. -/
def Findable (cache : Cache) : Prop :=
  ∀ K info, cache.lookup K = some info → ∀ (fp : FlightPlan) (callsign : Text),
    nonEmpty fp.callsign = some callsign → toUpper callsign = toUpper K →
      ∀ (publisher : BridgePublisher) (answer : BridgePublisher.Answer),
        (applyFlight cache publisher fp answer).dupe = some (K, info.dupe) ∧
        (applyFlight cache publisher fp answer).squawk =
          if fp.mayWrite = true ∧ isWellFormedSquawk info.ssr = true ∧ fp.squawk ≠ some info.ssr then
            some (K, info.ssr)
          else none

structure Guarded (s : System) (h : Crossed) : Prop where
  posted : ∀ body ∈ h.posted, ∀ value, body.find (text "code") = some value →
    ∃ code, value = .string code ∧ FourOctalDigits code
  set : ∀ code ∈ h.set, FourOctalDigits code
  cached : UpperKeys s.plugin.ssrCache
  pending : UpperKeys s.plugin.pendingAssignRequests
  found : Findable s.plugin.ssrCache ∧ Findable s.main.snapshot

section
variable [Secret]

def Crossed.next (h : Crossed) (s : System) : Action → Crossed
  | .worker (.send callsign) =>
    if s.worker.userCallsign ≠ [] ∧ (s.worker.requestBody callsign).utf8 then
      { h with posted := h.posted ++ [s.worker.requestBody callsign] }
    else h
  | .main (.flight fp answer) =>
    let applied := applyFlight s.main.snapshot s.plugin.bridge fp answer
    { h with set := h.set ++ applied.squawk.toList.map Prod.snd }
  | _ => h

def crossing : Machine (System × Crossed) Action := plugin.observe {} Crossed.next

end

/-! ### The ways out -/

theorem squawkFor_formed {snapshot : Cache} {fp : FlightPlan} {callsign code : Text}
    (wanted : squawkFor snapshot fp callsign = some code) : FourOctalDigits code := by
  obtain ⟨-, info, -, formed, -, rfl⟩ := squawkFor_eq_some.mp wanted
  exact isWellFormedSquawk_iff.mp formed

theorem applyFlight_formed {snapshot : Cache} {publisher : BridgePublisher} {fp : FlightPlan}
    {answer : BridgePublisher.Answer} :
    ∀ code ∈ (applyFlight snapshot publisher fp answer).squawk.toList.map Prod.snd, FourOctalDigits code := by
  intro code passed
  obtain ⟨⟨callsign, set⟩, member, rfl⟩ := List.mem_map.mp passed
  obtain ⟨-, wanted⟩ := applyFlight_squawk_eq_some.mp (Option.mem_toList.mp member)
  exact squawkFor_formed wanted

/-- Only a `SetCode` request has a `code`. -/
theorem assignBody_code [Secret] {userCallsign callsign : Text} {request : AssignRequest} {value : Json}
    (member : (assignBody userCallsign callsign request).find (text "code") = some value) :
    request.kind = .setCode ∧ value = .string request.code := by
  have others : text "callsign" ≠ text "code" ∧ text "controller" ≠ text "code" ∧
      text "token" ≠ text "code" ∧ text "mode" ≠ text "code" ∧ text "flight" ≠ text "code" := by decide
  cases kind : request.kind with
  | setCode =>
    simp [assignBody, Json.find, kindMember, kind, others] at member
    exact ⟨rfl, member.symm⟩
  | discrete => cases valid : request.seed.valid <;>
      simp [assignBody, Json.find, kindMember, kind, others, valid] at member
  | auto => cases valid : request.seed.valid <;>
      simp [assignBody, Json.find, kindMember, kind, others, valid] at member

/-! ### The ways in -/

theorem UpperKeys.insert {ν : Type} {m : AList (fun _ : Text => ν)} {K : Text} (upper : UpperKeys m)
    (key : toUpper K = K) (v : ν) : UpperKeys (m.insert K v) := by
  intro other member
  rcases (AList.mem_insert _).mp member with rfl | earlier
  · exact key
  · exact upper other earlier

theorem squawkFor_of_lookup {snapshot : Cache} {callsign : Text} {info : SsrInfo}
    (found : snapshot.lookup callsign = some info) (fp : FlightPlan) :
    squawkFor snapshot fp callsign =
      if fp.mayWrite = true ∧ isWellFormedSquawk info.ssr = true ∧ fp.squawk ≠ some info.ssr then some info.ssr
      else none := by
  unfold squawkFor
  rw [found]
  cases may : fp.mayWrite with
  | false => simp
  | true =>
    cases formed : isWellFormedSquawk info.ssr with
    | false => simp [formed]
    | true => by_cases same : fp.squawk = some info.ssr <;> simp [formed, same]

theorem UpperKeys.findable {cache : Cache} (upper : UpperKeys cache) : Findable cache := by
  intro K info stored fp callsign named same publisher answer
  have key : toUpper K = K := upper K (AList.lookup_isSome.mp (Option.isSome_iff_exists.mpr ⟨info, stored⟩))
  have found : fp.key = some K := by rw [FlightPlan.key, named, Option.map_some, same, key]
  constructor
  · exact applyFlight_dupe_eq_some.mpr ⟨found, by simp [dupeOf, stored]⟩
  · rw [applyFlight_squawk, found, Option.bind_some, squawkFor_of_lookup stored]
    split <;> rfl

theorem parseSnapshot_upper (snapshot : List (Text × Json)) : UpperKeys (parseSnapshot snapshot) := by
  intro K member
  obtain ⟨m, -, rfl, -⟩ := ((Snapshot.parseSnapshot_exact snapshot).keys K).mp member
  exact toUpper_toUpper m.1

/-- Requests under upper-case keys, whose codes have been checked. -/
def Checked (requests : Requests) : Prop :=
  ∀ K request, requests.lookup K = some request →
    toUpper K = K ∧ (request.kind = .setCode → FourOctalDigits request.code)

theorem Checked.upper {requests : Requests} (checked : Checked requests) : UpperKeys requests := by
  intro K member
  obtain ⟨request, stored⟩ := Option.isSome_iff_exists.mp (AList.lookup_isSome.mpr member)
  exact (checked K request stored).1

theorem Checked.erase {requests : Requests} (checked : Checked requests) (callsign : Text) :
    Checked (requests.erase callsign) := by
  intro K request stored
  by_cases same : K = callsign
  · subst same
    rw [AList.lookup_erase] at stored
    contradiction
  · rw [AList.lookup_erase_ne same] at stored
    exact checked K request stored

theorem Checked.store {p : Plugin} (checked : Checked p.pendingAssignRequests) (call : FunctionCall) :
    Checked (storeRequest p.pendingAssignRequests (p.onFunctionCall call).queued) := by
  cases queued : (p.onFunctionCall call).queued with
  | none => exact checked
  | some entry =>
    obtain ⟨callsign, new⟩ := entry
    obtain ⟨fp, -, named, -, code⟩ := onFunctionCall_queued queued
    intro K request stored
    by_cases same : K = callsign
    · subst same
      obtain rfl : new = request := by simpa [storeRequest, AList.lookup_insert] using stored
      obtain ⟨raw, -, rfl⟩ := Option.map_eq_some_iff.mp named
      exact ⟨toUpper_toUpper raw, fun set => isWellFormedSquawk_iff.mp (code set).2⟩
    · rw [storeRequest, AList.lookup_insert_ne same] at stored
      exact checked K request stored

/-! ### Every step -/

structure Sound (s : System) : Prop where
  cached : UpperKeys s.plugin.ssrCache
  copied : UpperKeys s.main.snapshot
  pending : Checked s.plugin.pendingAssignRequests
  drained : Checked s.worker.pending
  sending : toUpper s.worker.sending = s.worker.sending

section
variable [Secret]

omit [Secret] in
theorem sound_main {s : System} (a : MainAction) (sound : Sound s) : Sound (mainEffect s a) := by
  obtain ⟨cached, copied, pending, drained, sending⟩ := sound
  cases a with
  | applyAssignments => exact ⟨cached, cached, pending, drained, sending⟩
  | functionCall call => exact ⟨cached, copied, pending.store call, drained, sending⟩
  | _ => exact ⟨cached, copied, pending, drained, sending⟩

theorem sound_worker {s : System} {a : WorkerAction} (enabled : s.worker.enabled a = true)
    (sound : Sound s) : Sound (workerEffect s a) := by
  obtain ⟨cached, copied, pending, drained, sending⟩ := sound
  cases a with
  | drain => exact ⟨cached, copied, by simp [Checked, workerEffect], pending, sending⟩
  | send callsign =>
    have member : callsign ∈ s.worker.pending := by
      simp only [WorkerThread.enabled, Bool.and_eq_true, decide_eq_true_eq] at enabled
      exact enabled.2
    exact ⟨cached, copied, pending, drained.erase callsign, drained.upper callsign member⟩
  | assignReplied reply =>
    refine ⟨?_, copied, pending, drained, sending⟩
    simp only [workerEffect, applyAssignReply]
    split
    · exact cached
    · exact cached.insert sending _
  | fetched reply =>
    refine ⟨?_, copied, pending, drained, sending⟩
    simp only [workerEffect, Snapshot.fetchAssignedSSR_parsed]
    cases Snapshot.members reply with
    | none => exact cached
    | some snapshot => exact parseSnapshot_upper snapshot
  | loadOverride =>
    refine ⟨cached, copied, pending, ?_, ?_⟩
    all_goals
      simp only [workerEffect, WorkerThread.begin_eq]
      split <;> assumption
  | loadConnection =>
    refine ⟨cached, copied, pending, ?_, ?_⟩
    all_goals
      simp only [workerEffect, WorkerThread.begin_eq]
      assumption
  | _ => exact ⟨cached, copied, pending, drained, sending⟩

theorem sound_step {s : System} {a : Action} (on : plugin.enabled s a = true) (sound : Sound s) :
    Sound (plugin.effect s a) := by
  cases a with
  | main a => exact sound_main a sound
  | worker a => exact sound_worker (enabled_worker on).2.2.1 sound
  | elapse duration => exact ⟨sound.cached, sound.copied, sound.pending, sound.drained, sound.sending⟩

theorem sound : plugin.Invariant Sound := by
  refine Machine.invariant_of_step ⟨?_, ?_, ?_, ?_, rfl⟩ (fun s a on before => sound_step on before)
  all_goals simp [plugin, UpperKeys, Checked]

theorem requestBody_code {s : System} (sound : Sound s) {callsign : Text} {value : Json}
    (member : (s.worker.requestBody callsign).find (text "code") = some value) :
    ∃ code, value = .string code ∧ FourOctalDigits code := by
  obtain ⟨set, rfl⟩ := assignBody_code member
  refine ⟨_, rfl, ?_⟩
  cases stored : s.worker.pending.lookup callsign with
  | none =>
    rw [stored] at set
    contradiction
  | some request =>
    rw [stored] at set
    exact (sound.drained callsign request stored).2 set

/-- What crosses a boundary is well formed, and no lookup misses for the case of a callsign. -/
theorem codes_guarded (actions : List Action) :
    Guarded (crossing.run actions).1 (crossing.run actions).2 := by
  have observed : crossing.Invariant (fun x => Sound x.1) := sound.observed
  have crossed : crossing.Invariant (fun x =>
      (∀ body ∈ x.2.posted, ∀ value, body.find (text "code") = some value →
        ∃ code, value = .string code ∧ FourOctalDigits code) ∧ ∀ code ∈ x.2.set, FourOctalDigits code) := by
    refine observed.strengthen ⟨by simp [crossing, Machine.observe], by simp [crossing, Machine.observe]⟩ ?_
    rintro ⟨s, h⟩ a - known ⟨posted, set⟩
    show _ ∧ _
    dsimp only [crossing, Machine.observe]
    unfold Crossed.next
    split
    · split
      · refine ⟨fun body member => ?_, set⟩
        rcases List.mem_append.mp member with earlier | this
        · exact posted body earlier
        · obtain rfl := List.mem_singleton.mp this
          exact fun value => requestBody_code known
      · exact ⟨posted, set⟩
    · refine ⟨posted, fun code member => ?_⟩
      rcases List.mem_append.mp member with earlier | this
      · exact set code earlier
      · exact applyFlight_formed code this
    · exact ⟨posted, set⟩
  obtain ⟨posted, set⟩ := crossed actions
  have last := observed actions
  exact ⟨posted, set, last.cached, last.pending.upper, last.cached.findable, last.copied.findable⟩

end

end CentralSquawk
