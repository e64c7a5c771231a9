import CentralSquawk.Dupe.Network

/-!
# What the publisher knows of the bridge

`published_` is the plugin's own picture of the values the bridge holds. One
inclusion always holds: a flag that is up is remembered, so a sweep retracts it.
The other one, that what is remembered is still up, fails when an aircraft comes
back under a callsign that was never forgotten.
-/

namespace CentralSquawk.Dupe
open Library

section
variable [Secret]

/-! ### No flag without a record of it -/

/-- A callsign absent from the flight plan list is not on the network. -/
def Listed (w : World) : Event → Prop
  | .plugin (.main .forgetAbsent) => w.bridge.network ⊆ w.system.main.seen
  | _ => True

instance (w : World) (e : Event) : Decidable (Listed w e) := by
  unfold Listed
  split <;> infer_instance

structure Covered (w : World) : Prop where
  registered : w.system.plugin.bridge.Registered
  covered : w.bridge.flagged ⊆ w.system.plugin.bridge.published

omit [Secret] in
theorem Covered.of_same {w w' : World} (before : Covered w) (bridge : w'.bridge = w.bridge)
    (publisher : w'.system.plugin.bridge = w.system.plugin.bridge) : Covered w' := by
  constructor
  · rw [publisher]
    exact before.registered
  · rw [bridge, publisher]
    exact before.covered

theorem unflagged_of_unknown {w : World} {fp : FlightPlan} {answer : BridgePublisher.Answer} {callsign : Text}
    (on : published.enabled w (.plugin (.main (.flight fp answer))) = true) (named : fp.key = some callsign)
    (failed : answer.aircraft ≠ ESB_OK) : callsign ∉ w.bridge.flagged :=
  fun flagged => failed (aircraft_found on named (w.bridge.connected flagged))

theorem covered_flight {w : World} {fp : FlightPlan} {answer : BridgePublisher.Answer}
    (on : published.enabled w (.plugin (.main (.flight fp answer))) = true) (before : Covered w) :
    Covered (published.effect w (.plugin (.main (.flight fp answer)))) := by
  cases named : fp.key with
  | none =>
    obtain ⟨bridge, publisher, -⟩ := effect_flight_skipped w {} answer named
    exact before.of_same bridge publisher
  | some callsign =>
    obtain ⟨bridge, publisher, -⟩ := effect_flight_named w {} answer named
    constructor
    · rw [publisher]
      exact before.registered.publishDupe _ _ _
    · rw [bridge, publisher]
      exact publishDupe_covered before.covered (unflagged_of_unknown on named)

theorem covered_timer {w : World} (registration : BridgePublisher.Registration) (before : Covered w) :
    Covered (published.effect w (.plugin (.main (.bridgeTimer registration)))) := by
  have bridge := effect_timer_bridge w registration
  rcases effect_timer_publisher w registration with ticked | same
  · constructor
    · rw [ticked]
      exact before.registered.onTimer registration
    · rw [bridge, ticked, BridgePublisher.onTimer_published]
      exact before.covered
  · exact before.of_same bridge same

/-- `ForgetAbsent` forgets no flag that is up, provided the sweep met every flight that has one. -/
theorem covered_step {w : World} {e : Event} (on : published.enabled w e = true)
    (met : e = .plugin (.main .forgetAbsent) → w.bridge.flagged ⊆ w.system.main.seen)
    (before : Covered w) : Covered (published.effect w e) := by
  cases e with
  | join callsign => exact ⟨before.registered, before.covered⟩
  | leave callsign => exact ⟨before.registered, (Finset.erase_subset _ _).trans before.covered⟩
  | plugin a =>
    cases a with
    | elapse duration => exact before.of_same rfl rfl
    | worker a => exact before.of_same rfl (workerEffect_bridge _ a)
    | main a =>
      cases a with
      | flight fp answer => exact covered_flight on before
      | bridgeTimer registration => exact covered_timer registration before
      | forgetAbsent =>
        refine ⟨before.registered.forgetAbsent _, fun callsign flagged => ?_⟩
        exact BridgePublisher.mem_forgetAbsent (before.covered flagged) (met rfl flagged)
      | _ => exact before.of_same rfl rfl

structure Tracked (w : World) (l : Log) : Prop where
  registered : w.system.plugin.bridge.Registered
  covered : w.bridge.flagged ⊆ w.system.plugin.bridge.published
  swept : l.cleared = true → ∀ callsign ∈ w.system.main.seen,
    dupeOf w.system.main.snapshot callsign = false → callsign ∉ w.bridge.flagged
  ended : ∀ e ∈ l.ended, e.retracted

omit [Secret] in
theorem Tracked.of_same {w w' : World} {l : Log} (before : Tracked w l) (bridge : w'.bridge = w.bridge)
    (publisher : w'.system.plugin.bridge = w.system.plugin.bridge)
    (seen : w'.system.main.seen = w.system.main.seen)
    (snapshot : w'.system.main.snapshot = w.system.main.snapshot) : Tracked w' l := by
  obtain ⟨registered, covered, swept, ended⟩ := before
  refine ⟨publisher ▸ registered, ?_, ?_, ended⟩
  · rw [bridge, publisher]
    exact covered
  · rw [bridge, seen, snapshot]
    exact swept

omit [Secret] in
theorem Tracked.mirror {w : World} {l : Log} (before : Tracked w l) : Covered w :=
  ⟨before.registered, before.covered⟩

/-- After its turn a flight that is not to be flagged is not, unless a `clear_ac` failed. -/
theorem tracked_flight {w : World} {l : Log} {fp : FlightPlan} {answer : BridgePublisher.Answer}
    (on : published.enabled w (.plugin (.main (.flight fp answer))) = true) (before : Tracked w l) :
    Tracked (published.effect w (.plugin (.main (.flight fp answer))))
      (l.next w (.plugin (.main (.flight fp answer)))) := by
  have after := covered_flight on before.mirror
  cases named : fp.key with
  | none =>
    obtain ⟨bridge, publisher, seen, log⟩ := effect_flight_skipped w l answer named
    rw [log]
    exact before.of_same bridge publisher seen rfl
  | some callsign =>
    obtain ⟨registered, covered, swept, ended⟩ := before
    obtain ⟨bridge, -, seen, log⟩ := effect_flight_named w l answer named
    refine ⟨after.registered, after.covered, ?_, by rw [log]; exact ended⟩
    rw [bridge, seen, log]
    intro cleared other member unmarked flagged
    obtain ⟨clearedBefore, clearedNow⟩ := Bool.and_eq_true_iff.mp cleared
    by_cases this : other = callsign
    · subst this
      rw [show dupeOf w.system.main.snapshot other = false from unmarked] at clearedNow flagged
      have failed := publishDupe_retracted registered covered (unflagged_of_unknown on named)
        (fp.key_ne_nil named) flagged
      rw [failed] at clearedNow
      contradiction
    · rw [publishDupe_other_flag this] at flagged
      have earlier : other ∈ w.system.main.seen := by simpa [this] using member
      exact swept clearedBefore other earlier unmarked flagged

theorem tracked_step {w : World} {l : Log} {e : Event} (on : published.enabled w e = true)
    (listed : Listed w e) (before : Tracked w l) : Tracked (published.effect w e) (l.next w e) := by
  have after : Covered (published.effect w e) :=
    covered_step on (by rintro rfl; exact w.bridge.connected.trans listed) before.mirror
  cases e with
  | join callsign => exact ⟨after.registered, after.covered, before.swept, before.ended⟩
  | leave callsign =>
    refine ⟨after.registered, after.covered, ?_, before.ended⟩
    intro cleared other seen unmarked flagged
    exact before.swept cleared other seen unmarked (Finset.mem_of_mem_erase flagged)
  | plugin a =>
    cases a with
    | elapse duration => exact before.of_same rfl rfl rfl rfl
    | worker a =>
      have main : (published.effect w (.plugin (.worker a))).system.main = w.system.main :=
        workerEffect_main w.system a
      exact before.of_same rfl (workerEffect_bridge _ a) (by rw [main]) (by rw [main])
    | main a =>
      cases a with
      | flight fp answer => exact tracked_flight on before
      | bridgeTimer registration =>
        refine ⟨after.registered, after.covered, ?_, before.ended⟩
        rw [effect_timer_bridge]
        exact before.swept
      | applyAssignments =>
        refine ⟨after.registered, after.covered, fun _ callsign member => ?_, before.ended⟩
        exact absurd member (Finset.notMem_empty callsign)
      | forgetAbsent =>
        refine ⟨after.registered, after.covered, before.swept, fun e member => ?_⟩
        rcases List.mem_cons.mp member with rfl | earlier
        · exact before.swept
        · exact before.ended e earlier
      | _ => exact before.of_same rfl rfl rfl rfl

/-- Every flag that is up is remembered, and a sweep whose `clear_ac`s succeed leaves no stale one. -/
theorem no_orphaned_dupe (events : List Event) (listed : published.Along Listed events) :
    (logged.run events).1.bridge.flagged ⊆ (logged.run events).1.system.plugin.bridge.published ∧
      ∀ e ∈ (logged.run events).2.ended, e.retracted := by
  have start : Tracked published.init {} := by
    refine ⟨⟨fun _ => rfl, fun _ => rfl⟩, ?_, ?_, ?_⟩
    all_goals simp [published, Bridge.empty]
  have all := Machine.Invariant.alongObserved (J := fun _ => True) (P := fun x => Tracked x.1 x.2)
    (fun _ => trivial) start (fun w l e on here _ before => tracked_step on here before) events listed
  exact ⟨all.covered, all.ended⟩

/-! ### A record without its flag -/

/-- An aircraft that joins has been forgotten, and no sweep is under way. -/
def Forgotten (w : World) : Event → Prop
  | .join callsign => callsign ∉ w.bridge.network →
      callsign ∉ w.system.plugin.bridge.published ∧ w.system.main.pc ≠ .sweeping
  | _ => True

instance (w : World) (e : Event) : Decidable (Forgotten w e) := by
  unfold Forgotten
  split <;> infer_instance

structure Trusted (w : World) (l : Log) : Prop where
  trusted : ∀ callsign ∈ w.system.plugin.bridge.published, callsign ∈ w.bridge.network →
    callsign ∈ w.bridge.flagged
  swept : w.system.main.pc = .sweeping → w.system.plugin.bridge.dupeField ≠ ESB_FIELD_NONE →
    l.landed = true → ∀ callsign ∈ w.system.main.seen, callsign ∈ w.bridge.network →
      dupeOf w.system.main.snapshot callsign = true → callsign ∈ w.bridge.flagged
  ended : ∀ e ∈ l.ended, e.complete

omit [Secret] in
theorem Trusted.of_same {w w' : World} {l : Log} (before : Trusted w l) (bridge : w'.bridge = w.bridge)
    (publisher : w'.system.plugin.bridge = w.system.plugin.bridge)
    (seen : w'.system.main.seen = w.system.main.seen)
    (snapshot : w'.system.main.snapshot = w.system.main.snapshot)
    (sweeping : w'.system.main.pc = .sweeping → w.system.main.pc = .sweeping) : Trusted w' l := by
  obtain ⟨trusted, swept, ended⟩ := before
  refine ⟨?_, ?_, ended⟩
  · rw [bridge, publisher]
    exact trusted
  · rw [bridge, publisher, seen, snapshot]
    exact fun now => swept (sweeping now)

/-- After its turn a flight that is to be flagged is, unless a call for it failed. -/
theorem trusted_flight {w : World} {l : Log} {fp : FlightPlan} {answer : BridgePublisher.Answer}
    (on : published.enabled w (.plugin (.main (.flight fp answer))) = true) (before : Trusted w l) :
    Trusted (published.effect w (.plugin (.main (.flight fp answer))))
      (l.next w (.plugin (.main (.flight fp answer)))) := by
  cases named : fp.key with
  | none =>
    obtain ⟨bridge, publisher, seen, log⟩ := effect_flight_skipped w l answer named
    rw [log]
    exact before.of_same bridge publisher seen rfl id
  | some callsign =>
    obtain ⟨trusted, swept, ended⟩ := before
    obtain ⟨bridge, publisher, seen, log⟩ := effect_flight_named w l answer named
    refine ⟨?_, ?_, by rw [log]; exact ended⟩
    · rw [bridge, publisher, publishDupe_network]
      exact publishDupe_trusted trusted
    · rw [bridge, publisher, seen, log, publishDupe_network, publishDupe_dupeField]
      intro sweeping field all other member connected marked
      obtain ⟨landedBefore, landedNow⟩ := Bool.and_eq_true_iff.mp all
      by_cases this : other = callsign
      · subst this
        rw [show dupeOf w.system.main.snapshot other = true from marked] at landedNow ⊢
        have found := aircraft_found on named connected
        exact publishDupe_flagged trusted field (fp.key_ne_nil named) connected found landedNow
      · rw [publishDupe_other_flag this]
        have earlier : other ∈ w.system.main.seen := by simpa [this] using member
        exact swept sweeping field landedBefore other earlier connected marked

theorem trusted_step {w : World} {l : Log} {e : Event} (on : published.enabled w e = true)
    (forgotten : Forgotten w e) (before : Trusted w l) :
    Trusted (published.effect w e) (l.next w e) := by
  cases e with
  | join callsign =>
    obtain ⟨trusted, swept, ended⟩ := before
    by_cases connected : callsign ∈ w.bridge.network
    · have same : w.bridge.join callsign = w.bridge := by
        simp [Bridge.join, Finset.insert_eq_of_mem connected]
      exact Trusted.of_same ⟨trusted, swept, ended⟩ same rfl rfl rfl id
    · obtain ⟨absent, idle⟩ := forgotten connected
      refine ⟨?_, fun sweeping => absurd sweeping idle, ended⟩
      intro other member joined
      rcases Finset.mem_insert.mp joined with rfl | earlier
      · exact absurd member absent
      · exact trusted other member earlier
  | leave callsign =>
    obtain ⟨trusted, swept, ended⟩ := before
    refine ⟨?_, ?_, ended⟩
    · intro other member stays
      obtain ⟨different, connected⟩ := Finset.mem_erase.mp stays
      exact Finset.mem_erase.mpr ⟨different, trusted other member connected⟩
    · intro sweeping field all other member stays marked
      obtain ⟨different, connected⟩ := Finset.mem_erase.mp stays
      exact Finset.mem_erase.mpr ⟨different, swept sweeping field all other member connected marked⟩
  | plugin a =>
    cases a with
    | elapse duration => exact before.of_same rfl rfl rfl rfl id
    | worker a =>
      have main : (published.effect w (.plugin (.worker a))).system.main = w.system.main :=
        workerEffect_main w.system a
      exact before.of_same rfl (workerEffect_bridge _ a) (by rw [main]) (by rw [main])
        (by rw [main]; exact id)
    | main a =>
      cases a with
      | flight fp answer => exact trusted_flight on before
      | bridgeTimer registration =>
        obtain ⟨trusted, swept, ended⟩ := before
        have elsewhere :
            (published.effect w (.plugin (.main (.bridgeTimer registration)))).system.main.pc ≠ .sweeping := by
          simp [published, World.effect, System.effect, mainEffect]
        refine ⟨?_, fun sweeping => absurd sweeping elsewhere, ended⟩
        rw [effect_timer_bridge]
        rcases effect_timer_publisher w registration with ticked | same
        · rw [ticked, BridgePublisher.onTimer_published]
          exact trusted
        · rw [same]
          exact trusted
      | applyAssignments =>
        refine ⟨before.trusted, fun _ _ _ callsign member => ?_, before.ended⟩
        exact absurd member (Finset.notMem_empty callsign)
      | forgetAbsent =>
        obtain ⟨trusted, swept, ended⟩ := before
        refine ⟨?_, ?_, ?_⟩
        · exact fun callsign member =>
            trusted callsign (BridgePublisher.forgetAbsent_published_subset _ _ member)
        · exact fun sweeping => absurd sweeping w.system.main.afterSweep_ne_sweeping
        · intro e member
          rcases List.mem_cons.mp member with rfl | earlier
          · have both : w.system.enabled (.main .forgetAbsent) = true ∧
                answersFor w.bridge (.main .forgetAbsent) = true := by
              simpa [published, World.enabled] using on
            exact swept (enabled_main both.1).2
          · exact ended e earlier
      | _ => exact before.of_same rfl rfl rfl rfl (fun later => sweeping_before later (by simp))

/-- A sweep misses no DUPE while every aircraft that joins has been forgotten. -/
theorem no_missed_dupe (events : List Event) (forgotten : published.Along Forgotten events) :
    ∀ e ∈ (logged.run events).2.ended, e.complete := by
  have start : Trusted published.init {} := by
    refine ⟨?_, ?_, ?_⟩
    all_goals simp [published, Bridge.empty]
  have all := Machine.Invariant.alongObserved (J := fun _ => True) (P := fun x => Trusted x.1 x.2)
    (fun _ => trivial) start (fun w l e on here _ before => trusted_step on here before) events forgotten
  exact all.ended

end

/-! ### Runs -/

def registered : BridgePublisher.Registration := { attach := true, handle := 1, field := 7 }

def aircraft : Text := text "AFR1234"

def snapshotOf (dupe : Bool) : Reply :=
  .answered 200 (.json (.object [
    (aircraft, .object [(text "ssr", .string (text "7201")), (text "dupe", .boolean dupe)])]))

def steps (actions : List Action) : List Event := actions.map Event.plugin

def sweep : List Event :=
  steps (onTimer CONNECTION_TYPE_DIRECT tower registered ++
    [.main (.flight { callsign := aircraft } {}), .main .forgetAbsent])

def marked : List Event :=
  steps (onTimer CONNECTION_TYPE_DIRECT tower registered ++ iteration ++
    [.worker (.probed unreachable), .worker .checkController, .worker .drain, .worker .allSent,
      .worker (.fetched (snapshotOf true))])

def unmarked : List Event := steps (iterations 50 (snapshotOf false))

/-- The lookup answers for exactly the callsigns on the network. -/
def AnswersExactly (w : World) : Event → Prop
  | .plugin (.main (.flight fp answer)) =>
    match fp.key with
    | some callsign => answer.aircraft = ESB_OK ↔ callsign ∈ w.bridge.network
    | none => True
  | _ => True

instance (w : World) (e : Event) : Decidable (AnswersExactly w e) := by
  unfold AnswersExactly
  repeat' split
  all_goals infer_instance

def reconnecting : List Event :=
  marked ++ [.join aircraft] ++ sweep ++ [.leave aircraft, .join aircraft] ++ sweep

set_option maxRecDepth 100000 in
/-- The flag went with the connection, and the sweep does not put it back. -/
theorem dupe_missed_on_reconnection :
    ¬ ∀ (secret : Secret) (events : List Event), (@published secret).Along AnswersExactly events →
      ∀ e ∈ ((@logged secret).run events).2.ended, e.complete := by
  intro all
  have exactly : (@published parisSecret).Along AnswersExactly reconnecting := by decide +kernel
  have missed : ¬ ∀ e ∈ ((@logged parisSecret).run reconnecting).2.ended, e.complete := by
    decide +kernel
  exact missed (all parisSecret reconnecting exactly)

set_option maxRecDepth 100000 in
theorem no_missed_dupe_staying :
    ((@logged parisSecret).run (marked ++ [.join aircraft] ++ sweep)).1.bridge.flagged = {aircraft} ∧
      ∀ e ∈ ((@logged parisSecret).run (marked ++ [.join aircraft] ++ sweep)).2.ended, e.complete :=
  ⟨by decide +kernel, @no_missed_dupe parisSecret _ (by decide +kernel)⟩

def flaggedThenNot : List Event := marked ++ [.join aircraft] ++ sweep ++ unmarked ++ sweep

set_option maxRecDepth 100000 in
theorem no_orphaned_dupe_retracting :
    ((@logged parisSecret).run flaggedThenNot).2.ended.length = 2 ∧
      ((@logged parisSecret).run flaggedThenNot).1.bridge.flagged ⊆
        ((@logged parisSecret).run flaggedThenNot).1.system.plugin.bridge.published ∧
      ∀ e ∈ ((@logged parisSecret).run flaggedThenNot).2.ended, e.retracted :=
  ⟨by decide +kernel, @no_orphaned_dupe parisSecret flaggedThenNot (by decide +kernel)⟩

end CentralSquawk.Dupe
