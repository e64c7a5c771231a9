import CentralSquawk.Dupe.Network

/-!
# What the bridge is told of a flight

A write wakes every subscriber, so `PublishDupe` writes only what the bridge does not
already hold. The record keeps, for every callsign, what came of each write that
succeeded and when the callsign was dropped without one, newest first.
-/

namespace CentralSquawk.Dupe
open Library

inductive Mark where
  | set
  | cleared
  /-- Forgotten without a write: the aircraft is not on the network, or its flight plan is gone. -/
  | dropped
  deriving DecidableEq

def markOf (dupe : Bool) (call : BridgeCall) : Option Mark :=
  match call.function with
  | .aircraft _ => if call.status ≠ ESB_OK && !dupe then some .dropped else none
  | .setAc _ _ _ => if call.status = ESB_OK then some .set else none
  | .clearAc _ _ _ => if call.status = ESB_OK then some .cleared else none
  | _ => none

def marksOf (dupe : Bool) (calls : List BridgeCall) : List Mark := calls.filterMap (markOf dupe)

abbrev Marks := Text → List Mark

def Marks.next (marks : Marks) (s : System) : Action → Marks
  | .main (.flight fp answer) =>
    match fp.key with
    | some callsign =>
      let dupe := dupeOf s.main.snapshot callsign
      Function.update marks callsign
        (marksOf dupe (s.plugin.bridge.publishDupe callsign dupe answer).calls ++ marks callsign)
    | none => marks
  | .main .forgetAbsent => fun callsign =>
    if callsign ∈ s.plugin.bridge.published \ (s.plugin.bridge.forgetAbsent s.main.seen).published then
      .dropped :: marks callsign
    else marks callsign
  | _ => marks

def marking [Secret] : Machine (System × Marks) Action := plugin.observe (fun _ => []) Marks.next

/-- A flag is set where none stands, and only a standing flag is cleared or dropped. -/
def Alternates : List Mark → Prop
  | [] => True
  | .set :: past => past.head? ≠ some .set ∧ Alternates past
  | _ :: past => past.head? = some .set ∧ Alternates past

/-- `published_` holds the callsigns that were last set. -/
structure Told (published : Finset Text) (marks : Marks) : Prop where
  alternates : ∀ callsign, Alternates (marks callsign)
  standing : ∀ callsign, callsign ∈ published ↔ (marks callsign).head? = some .set

/-- `PublishDupe` leaves the set alone and achieves nothing, or it sets a flag that did not stand, or
it takes one down that did. -/
theorem publishDupe_marks (p : BridgePublisher) (callsign : Text) (dupe : Bool)
    (answer : BridgePublisher.Answer) :
    ((p.publishDupe callsign dupe answer).publisher.published = p.published ∧
      marksOf dupe (p.publishDupe callsign dupe answer).calls = []) ∨
    (callsign ∉ p.published ∧ (p.publishDupe callsign dupe answer).publisher.published = insert callsign p.published ∧
      marksOf dupe (p.publishDupe callsign dupe answer).calls = [.set]) ∨
    (callsign ∈ p.published ∧ (p.publishDupe callsign dupe answer).publisher.published = p.published.erase callsign ∧
      ∃ m, m ≠ .set ∧ marksOf dupe (p.publishDupe callsign dupe answer).calls = [m]) := by
  unfold BridgePublisher.publishDupe
  split
  · exact Or.inl ⟨rfl, rfl⟩
  split
  · exact Or.inl ⟨rfl, rfl⟩
  rename_i differs
  dsimp only
  split
  · rename_i unknown
    cases dupe with
    | true => exact Or.inl ⟨rfl, by simp [marksOf, markOf]⟩
    | false =>
      have stands : callsign ∈ p.published := by simpa using differs
      exact Or.inr (Or.inr ⟨stands, rfl, .dropped, by simp, by simp [marksOf, markOf, unknown]⟩)
  · rename_i found
    have found : answer.aircraft = ESB_OK := by simpa using found
    by_cases written : answer.write = ESB_OK
    · cases dupe with
      | true =>
        have unset : callsign ∉ p.published := by simpa using differs
        exact Or.inr (Or.inl ⟨unset, by simp [written], by
          simp [marksOf, markOf, BridgePublisher.writeDupe, found, written]⟩)
      | false =>
        have stands : callsign ∈ p.published := by simpa using differs
        exact Or.inr (Or.inr ⟨stands, by simp [written], .cleared, by simp, by
          simp [marksOf, markOf, BridgePublisher.writeDupe, found, written]⟩)
    · refine Or.inl ⟨by simp [written], ?_⟩
      cases dupe <;> simp [marksOf, markOf, BridgePublisher.writeDupe, found, written]

/-! ### Every flight of a run -/

theorem Told.nothing {published : Finset Text} {marks : Marks} (told : Told published marks) (callsign : Text) :
    Told published (Function.update marks callsign ([] ++ marks callsign)) := by
  simpa using told

theorem Told.set {published : Finset Text} {marks : Marks} {callsign : Text} (told : Told published marks)
    (unset : callsign ∉ published) :
    Told (insert callsign published) (Function.update marks callsign (.set :: marks callsign)) := by
  constructor
  · intro other
    by_cases this : other = callsign
    · subst this
      rw [Function.update_self]
      exact ⟨fun standing => unset ((told.standing other).mpr standing), told.alternates other⟩
    · rw [Function.update_of_ne this]
      exact told.alternates other
  · intro other
    by_cases this : other = callsign
    · subst this
      simp
    · rw [Function.update_of_ne this, Finset.mem_insert, or_iff_right this]
      exact told.standing other

theorem alternates_down {m : Mark} {past : List Mark} (down : m ≠ .set) (standing : past.head? = some .set)
    (alternates : Alternates past) : Alternates (m :: past) := by
  cases m with
  | set => exact absurd rfl down
  | cleared => exact ⟨standing, alternates⟩
  | dropped => exact ⟨standing, alternates⟩

theorem Told.down {published : Finset Text} {marks : Marks} {callsign : Text} {m : Mark}
    (told : Told published marks) (stands : callsign ∈ published) (down : m ≠ .set) :
    Told (published.erase callsign) (Function.update marks callsign (m :: marks callsign)) := by
  constructor
  · intro other
    by_cases this : other = callsign
    · subst this
      rw [Function.update_self]
      exact alternates_down down ((told.standing other).mp stands) (told.alternates other)
    · rw [Function.update_of_ne this]
      exact told.alternates other
  · intro other
    by_cases this : other = callsign
    · subst this
      simp [down]
    · rw [Function.update_of_ne this, Finset.mem_erase, and_iff_right this]
      exact told.standing other

theorem told_flight {s : System} {marks : Marks} (fp : FlightPlan) (answer : BridgePublisher.Answer)
    (told : Told s.plugin.bridge.published marks) :
    Told (mainEffect s (.flight fp answer)).plugin.bridge.published
      (marks.next s (.main (.flight fp answer))) := by
  cases named : fp.key with
  | none => simpa [mainEffect, applyFlight, Marks.next, named] using told
  | some callsign =>
    have publisher : (mainEffect s (.flight fp answer)).plugin.bridge =
        (s.plugin.bridge.publishDupe callsign (dupeOf s.main.snapshot callsign) answer).publisher := by
      simp [mainEffect, applyFlight, named]
    have next : marks.next s (.main (.flight fp answer)) = Function.update marks callsign
        (marksOf (dupeOf s.main.snapshot callsign)
          (s.plugin.bridge.publishDupe callsign (dupeOf s.main.snapshot callsign) answer).calls ++
          marks callsign) := by
      simp [Marks.next, named]
    rw [publisher, next]
    rcases publishDupe_marks s.plugin.bridge callsign (dupeOf s.main.snapshot callsign) answer with
      ⟨same, nothing⟩ | ⟨unset, inserted, set⟩ | ⟨stands, erased, m, down, one⟩
    · rw [same, nothing]
      exact told.nothing callsign
    · rw [inserted, set]
      exact told.set unset
    · rw [erased, one]
      exact told.down stands down

theorem told_forgetAbsent {s : System} {marks : Marks} (told : Told s.plugin.bridge.published marks) :
    Told (s.plugin.bridge.forgetAbsent s.main.seen).published (marks.next s (.main .forgetAbsent)) := by
  have fewer := BridgePublisher.forgetAbsent_published_subset s.plugin.bridge s.main.seen
  constructor
  · intro callsign
    simp only [Marks.next, Finset.mem_sdiff]
    split
    · rename_i lost
      exact alternates_down (by simp) ((told.standing callsign).mp lost.1) (told.alternates callsign)
    · exact told.alternates callsign
  · intro callsign
    simp only [Marks.next, Finset.mem_sdiff]
    split
    · rename_i lost
      simp [lost.2]
    · rename_i kept
      rw [← told.standing callsign]
      refine ⟨fun member => fewer member, fun member => ?_⟩
      by_contra gone
      exact kept ⟨member, gone⟩

section
variable [Secret]

theorem told_step {s : System} {marks : Marks} (a : Action) (told : Told s.plugin.bridge.published marks) :
    Told (plugin.effect s a).plugin.bridge.published (marks.next s a) := by
  cases a with
  | elapse duration => exact told
  | worker a =>
    rw [effect_worker, workerEffect_bridge]
    exact told
  | main a =>
    cases a with
    | flight fp answer => exact told_flight fp answer told
    | forgetAbsent => exact told_forgetAbsent told
    | bridgeTimer registration =>
      have same : (mainEffect s (.bridgeTimer registration)).plugin.bridge.published =
          s.plugin.bridge.published := s.onBridgeTimer_published registration
      rw [effect_main, same]
      exact told
    | _ => exact told

theorem told : marking.Invariant (fun x => Told x.1.plugin.bridge.published x.2) := by
  apply Machine.invariant_of_step
  · exact ⟨fun _ => trivial, by simp [marking, Machine.observe, plugin]⟩
  · rintro ⟨s, marks⟩ a - before
    exact told_step a before

/-- In every run, of every callsign: a flag is set only when it was never set or was taken down since,
and cleared or dropped only while it stands. -/
theorem writes_alternate (actions : List Action) (callsign : Text) :
    Alternates ((marking.run actions).2 callsign) := (told actions).alternates callsign

end

/-! ### A sweep that has nothing to say -/

variable {snapshot : Cache} {p : BridgePublisher}

/-- The publisher agrees with the snapshot on a callsign, or has no field to write through. -/
def Agrees (snapshot : Cache) (p : BridgePublisher) (callsign : Text) : Prop :=
  p.dupeField = ESB_FIELD_NONE ∨ (callsign ∈ p.published ↔ dupeOf snapshot callsign = true)

theorem Agrees.quiet {callsign : Text} (agrees : Agrees snapshot p callsign) (answer : BridgePublisher.Answer) :
    p.publishDupe callsign (dupeOf snapshot callsign) answer = { publisher := p } := by
  unfold BridgePublisher.publishDupe
  rcases agrees with unresolved | same
  · rw [if_pos (Or.inl unresolved)]
  · split
    · rfl
    · have held : dupeOf snapshot callsign = decide (callsign ∈ p.published) := by
        cases dupe : dupeOf snapshot callsign <;> simp [same, dupe]
      rw [if_pos held]

theorem agrees_published {callsign : Text} {answer : BridgePublisher.Answer} (named : callsign ≠ [])
    (found : answer.aircraft = ESB_OK) (written : answer.write = ESB_OK) :
    Agrees snapshot (p.publishDupe callsign (dupeOf snapshot callsign) answer).publisher callsign := by
  by_cases agrees : Agrees snapshot p callsign
  · rw [agrees.quiet]
    exact agrees
  have resolved : p.dupeField ≠ ESB_FIELD_NONE := fun unresolved => agrees (Or.inl unresolved)
  have differs : ¬ (callsign ∈ p.published ↔ dupeOf snapshot callsign = true) :=
    fun same => agrees (Or.inr same)
  refine Or.inr ?_
  unfold BridgePublisher.publishDupe
  cases dupe : dupeOf snapshot callsign with
  | true =>
    have unset : callsign ∉ p.published := by simpa [dupe] using differs
    simp [resolved, named, unset, found, written]
  | false =>
    have stands : callsign ∈ p.published := by simpa [dupe] using differs
    simp [resolved, named, stands, found, written]

theorem Agrees.turn {callsign : Text} (agrees : Agrees snapshot p callsign) (fp : FlightPlan)
    (answer : BridgePublisher.Answer) : Agrees snapshot (applyFlight snapshot p fp answer).publisher callsign := by
  unfold applyFlight
  cases fp.key with
  | none => exact agrees
  | some other =>
    dsimp only
    by_cases this : callsign = other
    · subst this
      rw [agrees.quiet]
      exact agrees
    · obtain ⟨published, same⟩ := p.publishDupe_registration other (dupeOf snapshot other) answer
      have field : (p.publishDupe other (dupeOf snapshot other) answer).publisher.dupeField = p.dupeField := by
        rw [same]
      refine agrees.imp (fun unresolved => field.trans unresolved) (fun held => ?_)
      exact (publishDupe_other_record this).trans held

theorem Agrees.flights {callsign : Text} (sweep : Sweep) (agrees : Agrees snapshot sweep.publisher callsign)
    (plans : List (FlightPlan × BridgePublisher.Answer)) :
    Agrees snapshot (sweep.flights snapshot plans).publisher callsign := by
  induction plans generalizing sweep with
  | nil => exact agrees
  | cons fp rest ih => exact ih (sweep.flight snapshot fp) (agrees.turn fp.1 fp.2)

def Answered (plans : List (FlightPlan × BridgePublisher.Answer)) : Prop :=
  ∀ fp ∈ plans, fp.2.aircraft = ESB_OK ∧ fp.2.write = ESB_OK

theorem agrees_flights (sweep : Sweep) {plans : List (FlightPlan × BridgePublisher.Answer)}
    (answered : Answered plans) : ∀ fp ∈ plans, ∀ callsign, fp.1.key = some callsign →
      Agrees snapshot (sweep.flights snapshot plans).publisher callsign := by
  induction plans generalizing sweep with
  | nil => simp
  | cons first rest ih =>
    intro fp member callsign named
    rcases List.mem_cons.mp member with rfl | later
    · obtain ⟨found, written⟩ := answered fp List.mem_cons_self
      have agrees : Agrees snapshot (sweep.flight snapshot fp).publisher callsign := by
        have published : Agrees snapshot
            (sweep.publisher.publishDupe callsign (dupeOf snapshot callsign) fp.2).publisher callsign :=
          agrees_published (FlightPlan.key_ne_nil named) found written
        simpa [Sweep.flight, applyFlight, named] using published
      exact agrees.flights _ rest
    · have others : Answered rest := fun fp member => answered fp (List.mem_cons_of_mem _ member)
      exact ih (sweep.flight snapshot first) others fp later callsign named

theorem mem_seen (sweep : Sweep) {plans : List (FlightPlan × BridgePublisher.Answer)} {callsign : Text}
    (met : callsign ∈ sweep.seen ∨ ∃ fp ∈ plans, fp.1.key = some callsign) :
    callsign ∈ (sweep.flights snapshot plans).seen := by
  induction plans generalizing sweep with
  | nil => simpa [Sweep.flights] using met
  | cons first rest ih =>
    apply ih (sweep.flight snapshot first)
    rcases met with already | ⟨fp, member, named⟩
    · exact Or.inl (Finset.mem_union_left _ already)
    rcases List.mem_cons.mp member with rfl | later
    · exact Or.inl (Finset.mem_union_right _ (by simp [applyFlight, named]))
    · exact Or.inr ⟨fp, later, named⟩

theorem Agrees.forgetAbsent {callsign : Text} (agrees : Agrees snapshot p callsign) {present : Finset Text}
    (listed : callsign ∈ present) : Agrees snapshot (p.forgetAbsent present) callsign := by
  refine agrees.imp (fun unresolved => (p.forgetAbsent_dupeField present).trans unresolved) (fun held => ?_)
  have same : callsign ∈ (p.forgetAbsent present).published ↔ callsign ∈ p.published :=
    ⟨fun member => p.forgetAbsent_published_subset present member,
      fun member => BridgePublisher.mem_forgetAbsent member listed⟩
  exact same.trans held

theorem flights_quiet (sweep : Sweep) {plans : List (FlightPlan × BridgePublisher.Answer)}
    (agrees : ∀ fp ∈ plans, ∀ callsign, fp.1.key = some callsign → Agrees snapshot sweep.publisher callsign) :
    (sweep.flights snapshot plans).calls = sweep.calls ∧
      (sweep.flights snapshot plans).publisher = sweep.publisher := by
  induction plans generalizing sweep with
  | nil => exact ⟨rfl, rfl⟩
  | cons first rest ih =>
    have quiet : (applyFlight snapshot sweep.publisher first.1 first.2).publisher = sweep.publisher ∧
        (applyFlight snapshot sweep.publisher first.1 first.2).calls = [] := by
      unfold applyFlight
      cases named : first.1.key with
      | none => exact ⟨rfl, rfl⟩
      | some callsign =>
        have held := agrees first List.mem_cons_self callsign named
        dsimp only
        rw [held.quiet]
        exact ⟨rfl, rfl⟩
    obtain ⟨publisher, calls⟩ := quiet
    have others : ∀ fp ∈ rest, ∀ callsign, fp.1.key = some callsign →
        Agrees snapshot (sweep.flight snapshot first).publisher callsign := by
      intro fp member callsign named
      show Agrees snapshot (applyFlight snapshot sweep.publisher first.1 first.2).publisher callsign
      rw [publisher]
      exact agrees fp (List.mem_cons_of_mem _ member) callsign named
    obtain ⟨later, same⟩ := ih (sweep.flight snapshot first) others
    refine ⟨later.trans ?_, same.trans publisher⟩
    simp [Sweep.flight, calls]

/-- Once a sweep has been answered throughout, a sweep of the same snapshot over flights it has met
makes no call of the bridge, whatever the publisher held before. -/
theorem second_sweep_silent {plans again : List (FlightPlan × BridgePublisher.Answer)} (answered : Answered plans)
    (met : ∀ fp ∈ again, ∀ callsign, fp.1.key = some callsign → ∃ earlier ∈ plans, earlier.1.key = some callsign) :
    (fullSweep snapshot (fullSweep snapshot p plans).publisher again).calls = [] := by
  have agrees : ∀ fp ∈ again, ∀ callsign, fp.1.key = some callsign →
      Agrees snapshot (fullSweep snapshot p plans).publisher callsign := by
    intro fp member callsign named
    obtain ⟨earlier, first, same⟩ := met fp member callsign named
    have swept : Agrees snapshot (Sweep.flights snapshot { publisher := p } plans).publisher callsign :=
      agrees_flights { publisher := p } answered earlier first callsign same
    exact swept.forgetAbsent (mem_seen { publisher := p } (Or.inr ⟨earlier, first, same⟩))
  exact (flights_quiet { publisher := (fullSweep snapshot p plans).publisher } agrees).1

/-- The first sweep sets a flag; the second, of the same flight, is silent even though the bridge would
refuse to be called. -/
theorem second_sweep_silent_flagged :
    let snapshot : Cache := (∅ : Cache).insert (text "AFR1234") ⟨text "7201", true⟩
    let p : BridgePublisher := { api := true, provider := some 1, dupeField := 7 }
    let flight : FlightPlan := { callsign := some (text "AFR1234") }
    (fullSweep snapshot p [(flight, {})]).calls.length = 2 ∧
      (fullSweep snapshot (fullSweep snapshot p [(flight, {})]).publisher
        [(flight, { aircraft := ESB_E_PROVIDER_TAKEN })]).calls = [] := by
  intro snapshot p flight
  refine ⟨by decide +kernel, second_sweep_silent ?_ ?_⟩
  · intro fp member
    obtain rfl := List.mem_singleton.mp member
    exact ⟨rfl, rfl⟩
  · intro fp member callsign named
    obtain rfl := List.mem_singleton.mp member
    exact ⟨(flight, {}), List.mem_singleton_self _, named⟩

end CentralSquawk.Dupe
