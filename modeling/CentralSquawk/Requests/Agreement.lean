import CentralSquawk.Requests.Outcome

/-!
# Two ways into the cache

The same entry arrives in a snapshot or as the response to a request, and each
has a reader of its own. Only the snapshot's asks for four octal digits.
-/

namespace CentralSquawk.Requests
open Library Snapshot

/-- An object that arrives for a callsign, as the only member of a snapshot and as a response. -/
structure Arrival where
  callsign : Text
  fields : List (Text × Json)
  printError : Bool := true
  snapshotStatus : Int := 200
  responseStatus : Int := 200
  userCallsign : Text
  request : AssignRequest := {}

namespace Arrival

def entry (a : Arrival) : Json := .object a.fields

def snapshot (a : Arrival) : Reply := .answered a.snapshotStatus (.json (.object [(a.callsign, a.entry)]))

def response (a : Arrival) : Reply := .answered a.responseStatus (.json a.entry)

def fetched (a : Arrival) : Option SsrInfo :=
  (fetchAssignedSSR a.printError a.snapshot).parsed.bind (fun cache => cache.lookup (toUpper a.callsign))

section
variable [Secret]

def send (a : Arrival) (cache : Cache) : Except Json.Error (List Message × Cache) :=
  sendAssignRequest (fun _ => a.response) cache a.userCallsign a.callsign a.request

def assigned (a : Arrival) : Option SsrInfo :=
  match a.send ∅ with
  | .ok (_, cache) => cache.lookup a.callsign
  | .error _ => none

/-- Both answers are 2xx, and the request is one that is posted. -/
structure Answered (a : Arrival) : Prop where
  snapshot : refusedStatus a.snapshotStatus = false
  response : refusedStatus a.responseStatus = false
  connected : a.userCallsign ≠ []
  serialises : (assignBody a.userCallsign a.callsign a.request).utf8 = true

def WellFormed (a : Arrival) : Prop :=
  ∀ ssr, a.entry.find (text "ssr") = some (.string ssr) → isWellFormedSquawk ssr = true

/-- Both readers store the same, and nothing for an `ssr` that is not four octal digits. -/
structure Agrees (a : Arrival) : Prop where
  same : a.fetched = a.assigned
  malformed : ¬ a.WellFormed → a.fetched = none ∧ a.assigned = none
  undisplaced : ¬ a.WellFormed → ∀ cache said after, a.send cache = .ok (said, after) →
    after.lookup a.callsign = cache.lookup a.callsign

omit [Secret] in
theorem fetched_eq_some {a : Arrival} (answered : refusedStatus a.snapshotStatus = false) {info : SsrInfo} :
    a.fetched = some info ↔ Says a.entry info := by
  have parsed : (fetchAssignedSSR a.printError a.snapshot).parsed =
      some (parseSnapshot [(a.callsign, a.entry)]) := by
    rw [fetchAssignedSSR_parsed]
    simp [snapshot, members, answered]
  rw [fetched, parsed, Option.bind_some, parseSnapshot_eq_build, FirstWins.lookup_build,
    List.findSome?_singleton, FirstWins.under_eq_some, readMember_eq_some]
  exact and_iff_right rfl

theorem send_eq {a : Arrival} (answered : a.Answered) (cache : Cache) :
    a.send cache = .ok (applyAssignReply cache a.callsign a.response) := by
  unfold send sendAssignRequest
  rw [if_neg answered.connected, Json.dump, if_pos answered.serialises]
  rfl

omit [Secret] in
theorem grants_response_iff {a : Arrival} (answered : refusedStatus a.responseStatus = false)
    {info : SsrInfo} : Grants a.response info ↔ Reads a.entry info := by
  constructor
  · rintro ⟨status, response, same, -, reads⟩
    cases same
    exact reads
  · exact fun reads => ⟨_, _, rfl, answered, reads⟩

theorem assigned_eq_some {a : Arrival} (answered : a.Answered) {info : SsrInfo} :
    a.assigned = some info ↔ Reads a.entry info := by
  rw [← grants_response_iff answered.response, ← @assignReply_eq_ok a.callsign]
  unfold assigned
  rw [send_eq answered]
  dsimp only [applyAssignReply]
  cases assignReply a.callsign a.response with
  | error message => simp
  | ok stored =>
    dsimp only
    rw [AList.lookup_insert]
    simp

/-- The two readers agree on an object exactly when its `ssr`, if a string, is well formed. -/
theorem agrees_iff {a : Arrival} (answered : a.Answered) : a.Agrees ↔ a.WellFormed := by
  constructor
  · rintro ⟨same, -, -⟩ ssr string
    have reads : Reads a.entry ⟨ssr, _⟩ := reads_iff.mpr ⟨Json.getString_eq_some.mpr string, rfl⟩
    have stored := (assigned_eq_some answered).mpr reads
    rw [← same, fetched_eq_some answered.snapshot] at stored
    exact isWellFormedSquawk_iff.mpr stored.formed
  · intro formed
    refine ⟨?_, fun malformed => absurd formed malformed, fun malformed => absurd formed malformed⟩
    apply Option.ext
    intro info
    rw [fetched_eq_some answered.snapshot, assigned_eq_some answered]
    exact ⟨fun entry => entry.toReads, fun reads => ⟨reads, isWellFormedSquawk_iff.mp (formed _ reads.ssr)⟩⟩

end

/-! ### A response that is not a code -/

def notACode : Arrival where
  callsign := text "AFR1234"
  fields := [(text "ssr", .string (text "9999"))]
  userCallsign := tower.callsign

theorem agrees_iff_of_a_code :
    @Agrees parisSecret { notACode with fields := [(text "ssr", .string (text "7201"))] } ↔
      WellFormed { notACode with fields := [(text "ssr", .string (text "7201"))] } := by
  apply @agrees_iff parisSecret
  refine @Answered.mk parisSecret _ ?_ ?_ ?_ ?_
  all_goals decide +kernel

theorem readers_disagree : ¬ ∀ (secret : Secret) (a : Arrival), @Answered secret a → @Agrees secret a := by
  intro all
  have answered : @Answered parisSecret notACode := by
    refine @Answered.mk parisSecret notACode ?_ ?_ ?_ ?_
    all_goals decide +kernel
  have malformed : ¬ notACode.WellFormed :=
    fun formed => absurd (formed (text "9999") rfl) (by decide)
  exact malformed ((@agrees_iff parisSecret notACode answered).mp (all parisSecret notACode answered))

end Arrival

end CentralSquawk.Requests
