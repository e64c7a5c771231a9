import CentralSquawk.Snapshot.Applied
import CentralSquawk.Threads.System

/-!
# How a manual request ends

`SendAssignRequest` leaves by seven exits. Six of them report and touch nothing,
the last one stores and stays silent.
-/

namespace CentralSquawk.Requests
open Snapshot

/-- A 2xx response whose body is an object with a string `ssr`, and what it says. -/
def Grants (reply : Reply) (info : SsrInfo) : Prop :=
  ∃ status response, reply = .answered status (.json response) ∧ refusedStatus status = false ∧
    Reads response info

/-- One error message, and the cache as it was. -/
structure Reported (said : List Message) (before after : Cache) : Prop where
  error : ∃ m, said = [m] ∧ m.isError = true
  unchanged : after = before

structure Stored (reply : Reply) (callsign : Text) (said : List Message) (before after : Cache) : Prop where
  silent : said = []
  entry : ∃ info, Grants reply info ∧ after.lookup callsign = some info
  others : ∀ other, other ≠ callsign → after.lookup other = before.lookup other

theorem assignReply_eq_ok {callsign : Text} {reply : Reply} {info : SsrInfo} :
    assignReply callsign reply = .ok info ↔ Grants reply info := by
  constructor
  · intro granted
    unfold assignReply at granted
    split at granted
    · contradiction
    rename_i status body
    split at granted
    · contradiction
    rename_i response parsed
    split at granted
    · contradiction
    rename_i accepted
    split at granted
    · contradiction
    rename_i ssr string
    obtain rfl := Except.ok.inj granted
    have reads : Reads response ⟨ssr, _⟩ := reads_iff.mpr ⟨string, rfl⟩
    have sent : body = .json response := by
      cases body with
      | empty =>
        obtain rfl := Option.some.inj parsed
        obtain ⟨fields, object⟩ := reads.object
        contradiction
      | malformed what => contradiction
      | json value => rw [Option.some.inj parsed]
    exact ⟨status, response, by rw [sent], by simpa using accepted, reads⟩
  · rintro ⟨status, response, rfl, accepted, reads⟩
    obtain ⟨string, dupe⟩ := reads_iff.mp reads
    simp [assignReply, Body.response, accepted, string, ← dupe]

theorem applyAssignReply_outcome (cache : Cache) (callsign : Text) (reply : Reply) :
    (Reported (applyAssignReply cache callsign reply).1 cache (applyAssignReply cache callsign reply).2 ∧
      ¬ ∃ info, Grants reply info) ∨
    Stored reply callsign (applyAssignReply cache callsign reply).1 cache
      (applyAssignReply cache callsign reply).2 := by
  unfold applyAssignReply
  cases outcome : assignReply callsign reply with
  | error message =>
    refine Or.inl ⟨⟨⟨message, rfl, assignReply_error outcome⟩, rfl⟩, ?_⟩
    rintro ⟨info, granted⟩
    rw [assignReply_eq_ok.mpr granted] at outcome
    contradiction
  | ok info =>
    have granted := assignReply_eq_ok.mp outcome
    exact Or.inr ⟨rfl, ⟨info, granted, AList.lookup_insert _⟩, fun other different =>
      AList.lookup_insert_ne different⟩

theorem Stored.not_reported {reply : Reply} {callsign : Text} {said : List Message} {before after : Cache}
    (stored : Stored reply callsign said before after) : ¬ Reported said before after := by
  rintro ⟨⟨m, one, -⟩, -⟩
  rw [stored.silent] at one
  contradiction

section
variable [Secret]

/-- A request whose body serialises ends in exactly one of two ways, and stores exactly when it was
posted and granted. -/
theorem request_outcome (post : Json → Reply) (cache : Cache) (userCallsign callsign : Text)
    (request : AssignRequest) {body : Json}
    (serialises : (assignBody userCallsign callsign request).dump = .ok body) :
    ∃ said after, sendAssignRequest post cache userCallsign callsign request = .ok (said, after) ∧
      Xor (Reported said cache after) (Stored (post body) callsign said cache after) ∧
      (Stored (post body) callsign said cache after ↔
        userCallsign ≠ [] ∧ ∃ info, Grants (post body) info) := by
  unfold sendAssignRequest
  by_cases anonymous : userCallsign = []
  · rw [if_pos anonymous]
    have reported : Reported [notConnected] cache cache := ⟨⟨_, rfl, rfl⟩, rfl⟩
    have unstored : ¬ Stored (post body) callsign [notConnected] cache cache :=
      fun stored => stored.not_reported reported
    exact ⟨_, _, rfl, Or.inl ⟨reported, unstored⟩, fun stored => absurd stored unstored,
      fun posted => absurd anonymous posted.1⟩
  · rw [if_neg anonymous, serialises]
    refine ⟨_, _, rfl, ?_⟩
    rcases applyAssignReply_outcome cache callsign (post body) with ⟨reported, refused⟩ | stored
    · have unstored := fun stored : Stored (post body) callsign _ cache _ => stored.not_reported reported
      exact ⟨Or.inl ⟨reported, unstored⟩, fun stored => absurd stored unstored,
        fun posted => absurd posted.2 refused⟩
    · obtain ⟨info, granted, -⟩ := stored.entry
      exact ⟨Or.inr ⟨stored, stored.not_reported⟩, fun _ => ⟨anonymous, info, granted⟩, fun _ => stored⟩

end

/-! ### A request of a controller of Paris -/

def grantedCode : Reply :=
  .answered 200 (.json (.object [(text "ssr", .string (text "7201")), (text "dupe", .boolean true)]))

theorem request_outcome_granted :
    ∃ said after, @sendAssignRequest parisSecret (fun _ => grantedCode) ∅ tower.callsign (text "AFR1234") {} =
        .ok (said, after) ∧
      Xor (Reported said ∅ after) (Stored grantedCode (text "AFR1234") said ∅ after) ∧
      (Stored grantedCode (text "AFR1234") said ∅ after ↔
        tower.callsign ≠ [] ∧ ∃ info, Grants grantedCode info) :=
  @request_outcome parisSecret (fun _ => grantedCode) ∅ tower.callsign (text "AFR1234") {} _
    (if_pos (by decide +kernel))

end CentralSquawk.Requests
