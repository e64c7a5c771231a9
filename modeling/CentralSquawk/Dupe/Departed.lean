import CentralSquawk.Dupe.Mirror

/-!
# What is remembered of the departed

`ForgetAbsent` is called at the end of every sweep with the callsigns the sweep
met. It counts before it looks, so what it forgets depends on how many flights
are listed, and what it leaves is still there when a departed flight comes back.
-/

namespace CentralSquawk.Dupe
open Library

/-- A sweep that ran to its end: the callsigns in the flight plan list, and `published_` after it. -/
structure Ending where
  listed : Finset Text
  published : Finset Text

/-- A flight that the sweep before did not meet, and `published_` when it is met. -/
structure Return where
  callsign : Text
  published : Finset Text

structure Roll where
  last : Finset Text := ∅
  endings : List Ending := []
  returns : List Return := []

def Roll.next (r : Roll) (s : System) : Action → Roll
  | .main .forgetAbsent =>
    { r with
      last := s.main.seen
      endings := ⟨s.main.seen, (s.plugin.bridge.forgetAbsent s.main.seen).published⟩ :: r.endings }
  | .main (.flight fp _) =>
    match fp.key with
    | some callsign =>
      if callsign ∈ r.last ∪ s.main.seen then r
      else { r with returns := ⟨callsign, s.plugin.bridge.published⟩ :: r.returns }
    | none => r
  | _ => r

def enrolled [Secret] : Machine (System × Roll) Action := plugin.observe {} Roll.next

/-- Nothing is remembered of a flight after a sweep that did not meet it. -/
structure Forgets (r : Roll) : Prop where
  endings : ∀ e ∈ r.endings, e.published ⊆ e.listed
  returns : ∀ back ∈ r.returns, back.callsign ∉ back.published

/-- `ForgetAbsent` finds nobody absent, or more callsigns remembered than listed. -/
def Pruned (s : System) : Action → Prop
  | .main .forgetAbsent => s.plugin.bridge.published ⊆ s.main.seen ∨
      s.main.seen.card < s.plugin.bridge.published.card
  | _ => True

instance (s : System) (a : Action) : Decidable (Pruned s a) := by
  unfold Pruned
  split <;> infer_instance

/-! ### One sweep -/

theorem forgetAbsent_subset_iff {p : BridgePublisher} {present : Finset Text} :
    (p.forgetAbsent present).published ⊆ present ↔
      p.published ⊆ present ∨ present.card < p.published.card := by
  unfold BridgePublisher.forgetAbsent
  split
  · rename_i few
    exact ⟨Or.inl, fun either => either.resolve_right (Nat.not_lt_of_le few)⟩
  · rename_i many
    refine ⟨fun _ => Or.inr (Nat.lt_of_not_le many), fun _ callsign member => ?_⟩
    exact (Finset.mem_filter.mp member).2

theorem forgetAbsent_card (p : BridgePublisher) (present : Finset Text) :
    (p.forgetAbsent present).published.card ≤ present.card := by
  by_cases few : p.published.card ≤ present.card
  · rw [BridgePublisher.forgetAbsent, if_pos few]
    exact few
  · exact Finset.card_le_card (forgetAbsent_subset_iff.mpr (Or.inr (Nat.lt_of_not_le few)))

theorem publishDupe_published {p : BridgePublisher} {callsign : Text} {dupe : Bool}
    {answer : BridgePublisher.Answer} :
    (p.publishDupe callsign dupe answer).publisher.published ⊆ insert callsign p.published := by
  intro other member
  by_cases this : other = callsign
  · exact Finset.mem_insert.mpr (Or.inl this)
  · rw [publishDupe_other_record this] at member
    exact Finset.mem_insert_of_mem member

/-! ### Every sweep of a run -/

theorem endings_other {s : System} {r : Roll} {a : Action} (other : a ≠ .main .forgetAbsent) :
    (r.next s a).endings = r.endings ∧ Pruned s a := by
  cases a with
  | main a =>
    cases a with
    | forgetAbsent => exact absurd rfl other
    | flight fp answer =>
      refine ⟨?_, trivial⟩
      unfold Roll.next
      dsimp only
      repeat' split
      all_goals rfl
    | _ => exact ⟨rfl, trivial⟩
  | _ => exact ⟨rfl, trivial⟩

theorem endings_next (s : System) (r : Roll) (a : Action) :
    (∀ e ∈ (r.next s a).endings, e.published ⊆ e.listed) ↔
      (∀ e ∈ r.endings, e.published ⊆ e.listed) ∧ Pruned s a := by
  by_cases ends : a = .main .forgetAbsent
  · subst ends
    simp only [Roll.next, List.forall_mem_cons, forgetAbsent_subset_iff, Pruned]
    exact and_comm
  · obtain ⟨same, pruned⟩ := endings_other (s := s) (r := r) ends
    rw [same]
    exact (and_iff_left pruned).symm

structure Known (s : System) (r : Roll) : Prop where
  met : s.plugin.bridge.published ⊆ r.last ∪ s.main.seen
  settled : s.main.pc ≠ .sweeping → s.plugin.bridge.published ⊆ r.last
  returns : ∀ back ∈ r.returns, back.callsign ∉ back.published

theorem Known.of_same {s t : System} {r : Roll} (before : Known s r)
    (published : t.plugin.bridge.published = s.plugin.bridge.published)
    (seen : t.main.seen = s.main.seen) (outside : t.main.pc ≠ .sweeping → s.main.pc ≠ .sweeping) :
    Known t r := by
  obtain ⟨met, settled, returns⟩ := before
  refine ⟨?_, fun elsewhere => ?_, returns⟩
  · rw [published, seen]
    exact met
  · rw [published]
    exact settled (outside elsewhere)

theorem known_flight {s : System} {r : Roll} {fp : FlightPlan} {answer : BridgePublisher.Answer}
    (pc : s.main.pc = .sweeping) (before : Known s r) :
    Known (mainEffect s (.flight fp answer)) (r.next s (.main (.flight fp answer))) := by
  cases named : fp.key with
  | none =>
    have applied : applyFlight s.main.snapshot s.plugin.bridge fp answer =
        { publisher := s.plugin.bridge } := by simp [applyFlight, named]
    have next : r.next s (.main (.flight fp answer)) = r := by simp [Roll.next, named]
    rw [next]
    exact before.of_same (by simp [mainEffect, applied]) (by simp [mainEffect, applied]) id
  | some callsign =>
    obtain ⟨met, settled, returns⟩ := before
    have published : (mainEffect s (.flight fp answer)).plugin.bridge.published ⊆
        insert callsign s.plugin.bridge.published := by
      simp only [mainEffect, applyFlight, named]
      exact publishDupe_published
    have seen : (mainEffect s (.flight fp answer)).main.seen = s.main.seen ∪ {callsign} := by
      simp [mainEffect, applyFlight, named]
    have last : (r.next s (.main (.flight fp answer))).last = r.last := by
      simp only [Roll.next, named]
      split <;> rfl
    refine ⟨?_, fun elsewhere => absurd pc elsewhere, ?_⟩
    · rw [seen, last]
      intro other member
      rcases Finset.mem_insert.mp (published member) with rfl | earlier
      · simp
      · have known := met earlier
        simp only [Finset.mem_union] at known ⊢
        exact known.imp_right Or.inl
    · simp only [Roll.next, named]
      split
      · exact returns
      · rename_i absent
        intro back member
        rcases List.mem_cons.mp member with rfl | earlier
        · exact fun remembered => absent (met remembered)
        · exact returns back earlier

section
variable [Secret]

theorem known_step {s : System} {r : Roll} {a : Action} (on : plugin.enabled s a = true)
    (pruned : Pruned s a) (before : Known s r) : Known (plugin.effect s a) (r.next s a) := by
  cases a with
  | elapse duration => exact before.of_same rfl rfl id
  | worker a =>
    have main : (plugin.effect s (.worker a)).main = s.main := workerEffect_main s a
    have bridge : (plugin.effect s (.worker a)).plugin.bridge = s.plugin.bridge := workerEffect_bridge s a
    exact before.of_same (by rw [bridge]) (by rw [main]) (by rw [main]; exact id)
  | main a =>
    obtain ⟨-, pc⟩ := enabled_main on
    cases a with
    | flight fp answer => exact known_flight pc before
    | forgetAbsent =>
      have forgotten := forgetAbsent_subset_iff.mpr pruned
      refine ⟨?_, fun _ => forgotten, before.returns⟩
      exact forgotten.trans Finset.subset_union_left
    | applyAssignments =>
      have settled := before.settled (by simp [pc, MainAction.pc])
      refine ⟨?_, fun _ => settled, before.returns⟩
      exact settled.trans Finset.subset_union_left
    | bridgeTimer registration =>
      exact before.of_same (s.onBridgeTimer_published registration) rfl (fun _ => by simp [pc, MainAction.pc])
    | _ => exact before.of_same rfl rfl (fun _ => by simp [pc, MainAction.pc])

/-- The record does not grow: after any sweep it is no longer than the flight plan list. -/
theorem endings_bounded :
    enrolled.Invariant (fun x => ∀ e ∈ x.2.endings, e.published.card ≤ e.listed.card) := by
  refine Machine.invariant_of_step (by simp [enrolled, Machine.observe]) ?_
  rintro ⟨s, r⟩ a - before
  show ∀ e ∈ (r.next s a).endings, e.published.card ≤ e.listed.card
  by_cases ends : a = .main .forgetAbsent
  · subst ends
    intro e member
    rcases List.mem_cons.mp member with rfl | earlier
    · exact forgetAbsent_card _ _
    · exact before e earlier
  · obtain ⟨same, -⟩ := endings_other (s := s) (r := r) ends
    rw [same]
    exact before

/-- Departed flights are forgotten exactly in the runs whose sweeps all end with nobody absent
remembered, or with more callsigns remembered than listed. -/
theorem departed_forgotten_iff (actions : List Action) :
    Forgets (enrolled.run actions).2 ↔ plugin.Along Pruned actions := by
  have endings := Machine.run_iff_along (m := enrolled) (C := fun x a => Pruned x.1 a)
    (P := fun x => ∀ e ∈ x.2.endings, e.published ⊆ e.listed) (by simp [enrolled, Machine.observe])
    (fun x a _ => endings_next x.1 x.2 a) actions
  have same : enrolled.Along (fun x a => Pruned x.1 a) actions ↔ plugin.Along Pruned actions :=
    Machine.alongFrom_observe
  rw [← same, ← endings]
  constructor
  · exact fun forgets => forgets.endings
  · intro pruned
    have start : Known plugin.init {} := by
      refine ⟨?_, ?_, ?_⟩
      all_goals simp [plugin]
    have known := Machine.Invariant.alongObserved (J := fun _ => True) (P := fun x => Known x.1 x.2)
      (fun _ => trivial) start (fun s r a on here _ before => known_step on here before) actions
      (same.mp (endings.mp pruned))
    exact ⟨pruned, known.returns⟩

end

/-! ### One flight for another -/

def sweepOf (callsigns : List Text) : List Action :=
  onTimer CONNECTION_TYPE_DIRECT tower registered ++
    (callsigns.map (fun callsign => .main (.flight { callsign := some callsign } {})) ++ [.main .forgetAbsent])

def replaced : List Action :=
  onTimer CONNECTION_TYPE_DIRECT tower registered ++ iteration ++
    [.worker (.probed unreachable), .worker .checkController, .worker .drain, .worker .allSent,
      .worker (.fetched (snapshotOf true))] ++
    (sweepOf [aircraft] ++ sweepOf [text "BAW82C"])

set_option maxRecDepth 100000 in
/-- One flight listed and one remembered: `ForgetAbsent` returns at once. -/
theorem departed_remembered :
    ¬ ∀ (secret : Secret) (actions : List Action), Forgets ((@enrolled secret).run actions).2 := by
  intro all
  have kept : ¬ ∀ e ∈ ((@enrolled parisSecret).run replaced).2.endings, e.published ⊆ e.listed := by
    decide +kernel
  exact kept (all parisSecret replaced).endings

end CentralSquawk.Dupe
