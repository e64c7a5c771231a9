import CentralSquawk.Interleaving
import CentralSquawk.Library.Overwrite

/-!
# The order of the drained requests

`pending` is an `unordered_map`, so nothing says in which order its requests are sent.
Each of them has a callsign of its own, what is said of it depends on its own reply,
and a body that does not serialise ends the process wherever it stands in the order.
-/

namespace CentralSquawk.Requests
open Library

/-! ### One turn of the loop -/

/-- A drained request and the reply it is given. -/
abbrev Turn := Text × AssignRequest × Reply

def Turn.said (userCallsign : Text) (t : Turn) : List Message :=
  if userCallsign = [] then [notConnected] else (applyAssignReply ∅ t.1 t.2.2).1

def Turn.granted (userCallsign : Text) (t : Turn) : Option SsrInfo :=
  if userCallsign = [] then none else (assignReply t.1 t.2.2).toOption

def Turn.store (userCallsign : Text) (cache : Cache) (t : Turn) : Cache :=
  match t.granted userCallsign with
  | some info => cache.insert t.1 info
  | none => cache

theorem lookup_store (userCallsign : Text) (cache : Cache) (t : Turn) :
    (fun callsign => (Turn.store userCallsign cache t).lookup callsign) =
      OwnCells.put Prod.fst (Turn.granted userCallsign) cache.lookup t := by
  funext callsign
  unfold Turn.store OwnCells.put
  cases t.granted userCallsign with
  | none => rfl
  | some info =>
    by_cases same : callsign = t.1
    · subst same
      simp
    · simp [same]

theorem lookup_storeAll (userCallsign : Text) (turns : List Turn) (cache : Cache) (callsign : Text) :
    (turns.foldl (Turn.store userCallsign) cache).lookup callsign =
      turns.foldl (OwnCells.put Prod.fst (Turn.granted userCallsign)) cache.lookup callsign := by
  induction turns generalizing cache with
  | nil => rfl
  | cons t rest ih =>
    have first : (fun callsign => (Turn.store userCallsign cache t).lookup callsign) = _ :=
      lookup_store userCallsign cache t
    rw [List.foldl_cons, List.foldl_cons, ih, ← first]

section
variable [Secret]

def Turn.serialises (userCallsign : Text) (t : Turn) : Bool :=
  userCallsign = [] || (assignBody userCallsign t.1 t.2.1).utf8

theorem sendAssignRequest_turn (cache : Cache) (userCallsign : Text) (t : Turn) :
    sendAssignRequest (fun _ => t.2.2) cache userCallsign t.1 t.2.1 =
      if t.serialises userCallsign then .ok (t.said userCallsign, t.store userCallsign cache)
      else .error .invalidUtf8 := by
  obtain ⟨callsign, request, reply⟩ := t
  unfold sendAssignRequest Turn.serialises Turn.said Turn.store Turn.granted
  by_cases anonymous : userCallsign = []
  · simp [anonymous]
  · cases utf8 : (assignBody userCallsign callsign request).utf8 with
    | false => simp [anonymous, utf8, Json.dump, bind, Except.bind]
    | true =>
      simp only [anonymous, utf8, Json.dump, bind, Except.bind, pure, Except.pure, applyAssignReply, if_true,
        if_false, decide_false, Bool.or_true]
      cases assignReply callsign reply <;> rfl

theorem sendRequests_turns (cache : Cache) (userCallsign : Text) (turns : List Turn) :
    sendRequests cache userCallsign turns =
      if turns.all (Turn.serialises userCallsign) then
        .ok (turns.flatMap (Turn.said userCallsign), turns.foldl (Turn.store userCallsign) cache)
      else .error .invalidUtf8 := by
  induction turns generalizing cache with
  | nil => rfl
  | cons t rest ih =>
    obtain ⟨callsign, request, reply⟩ := t
    have first := sendAssignRequest_turn cache userCallsign (callsign, request, reply)
    unfold sendRequests
    simp only at first
    rw [first]
    cases here : Turn.serialises userCallsign (callsign, request, reply) with
    | false => simp [here, bind, Except.bind]
    | true =>
      simp only [if_true, bind, Except.bind, ih, List.all_cons, here, Bool.true_and]
      cases rest.all (Turn.serialises userCallsign) <;> rfl

/-! ### Two orders -/

/-- Two runs that say the same in some order and leave the same cache, or both end the process. -/
structure Alike (x y : System × List Message) : Prop where
  running : x.1.running = y.1.running
  said : x.1.running = true → x.2.Perm y.2
  cache : x.1.running = true → ∀ callsign,
    x.1.plugin.ssrCache.lookup callsign = y.1.plugin.ssrCache.lookup callsign

theorem alike_of_perm {cache : Cache} {userCallsign : Text} {turns turns' : List Turn}
    {x y : System × List Message} (perm : turns.Perm turns') (once : (turns.map Prod.fst).Nodup)
    (ended : Ended (sendRequests cache userCallsign turns) [] x)
    (ended' : Ended (sendRequests cache userCallsign turns') [] y) : Alike x y := by
  rw [sendRequests_turns] at ended ended'
  have serialise : turns'.all (Turn.serialises userCallsign) = turns.all (Turn.serialises userCallsign) :=
    perm.symm.all_eq
  rw [serialise] at ended'
  cases all : turns.all (Turn.serialises userCallsign) with
  | false =>
    rw [all] at ended ended'
    have ended : x.1.running = false := ended
    have ended' : y.1.running = false := ended'
    constructor <;> simp [ended, ended']
  | true =>
    rw [all] at ended ended'
    obtain ⟨running, stored, said⟩ := ended
    obtain ⟨running', stored', said'⟩ := ended'
    refine ⟨running.trans running'.symm, fun _ => ?_, fun _ callsign => ?_⟩
    · rw [said, said']
      exact perm.flatMap_right _
    · rw [stored, stored', lookup_storeAll, lookup_storeAll,
        OwnCells.putAll_perm Prod.fst (Turn.granted userCallsign) perm once]

/-- Drained requests may be sent in any order and interleaved with the main thread in any way: given the
same replies the process lives or ends alike, says the same, and is left with the same cache. -/
theorem order_immaterial {past rest rest' : List Action} {order order' : List (Text × Reply)}
    (drains : plugin.enabled (plugin.run past) (.worker .drain) = true)
    (each : (order.map Prod.fst).Perm (plugin.run past).plugin.pendingAssignRequests.keys)
    (reordered : order.Perm order') (turns : rest.filter Action.isWorker = sendTurns order)
    (turns' : rest'.filter Action.isWorker = sendTurns order') :
    Alike (answering.run (past ++ .worker .drain :: rest)) (answering.run (past ++ .worker .drain :: rest')) := by
  have running := (enabled_worker drains).1
  have each' : (order'.map Prod.fst).Perm (plugin.run past).plugin.pendingAssignRequests.keys :=
    (reordered.map Prod.fst).symm.trans each
  have once : ((requestsOf (plugin.run past).plugin.pendingAssignRequests order).map Prod.fst).Nodup := by
    have keys : (requestsOf (plugin.run past).plugin.pendingAssignRequests order).map Prod.fst =
        order.map Prod.fst := by simp [requestsOf]
    rw [keys]
    exact each.nodup_iff.mpr (plugin.run past).plugin.pendingAssignRequests.nodupKeys
  rw [answering_drained drains, answering_drained drains]
  exact alike_of_perm (reordered.map _) once (drained_ends running each turns) (drained_ends running each' turns')

end

/-! ### A run -/

def twoClicks : List Action :=
  onTimer CONNECTION_TYPE_SWEATBOX tower ++ [.main .servePicture] ++
    [text "AFR1234", text "BAW22"].map (fun callsign =>
      .main (.functionCall { functionId := AssignAuto, asel := some { callsign := some callsign } })) ++
    iteration.take 8

set_option maxRecDepth 100000 in
/-- One of the two is granted a code, the other one is refused. -/
theorem order_immaterial_two :
    let order := [(text "AFR1234", transferred), (text "BAW22", reassigned)]
    let run := fun order => (@answering parisSecret).run (twoClicks ++ .worker .drain :: sendTurns order)
    (run order).1.running = true ∧ Alike (run order) (run order.reverse) := by
  intro order run
  refine ⟨by decide +kernel, ?_⟩
  exact @order_immaterial parisSecret twoClicks (sendTurns order) (sendTurns order.reverse) order order.reverse
    (by decide +kernel) (by decide +kernel) order.reverse_perm.symm rfl rfl

end CentralSquawk.Requests
