import CentralSquawk.Feed.Freshness

/-!
# What the plugin says of the feeder lease

`feeding_` is written at the end of a push and cleared on the way from the
simulator to the live network, and on no other way out of the simulator. The
records below keep how every push of the session has ended, the latest one first,
and how the last push of all did and whether `OnTimer` has turned back since.
-/

namespace CentralSquawk.Feed
open Library

/-- What is left of the last push that has ended. -/
structure Lease where
  outcome : Option FeedOutcome := none
  /-- Since then, `OnTimer` has resolved Live right after Sweatbox. -/
  returned : Bool := false
  ticked : NetworkMode := .offline

def Lease.next (h : Lease) (s : System) : Action → Lease
  | .worker (.pushReplied reply) =>
    { h with outcome := some (feedReply s.plugin.feeding reply).outcome, returned := false }
  | .main .announce =>
    { h with
      returned := h.returned || h.ticked = .sweatbox && s.main.mode = .live
      ticked := s.main.mode }
  | _ => h

section
variable [Secret]

def leased : Machine (System × Lease) Action := plugin.observe {} Lease.next

/-- The pushes that have ended since the mode last became Sweatbox. -/
def outcomes (past : List FeedOutcome) (s : System) (a : Action) : List FeedOutcome :=
  if becomesSweatbox s a then []
  else
    match a with
    | .worker (.pushReplied reply) => (feedReply s.plugin.feeding reply).outcome :: past
    | _ => past

def followed : Machine ((System × Lease) × List FeedOutcome) Action :=
  leased.observe [] (fun past x a => outcomes past x.1 a)

/-- By the time the mode becomes Sweatbox, an accepted push is no longer the last word. -/
def Cleared (x : System × Lease) (a : Action) : Prop :=
  becomesSweatbox x.1 a = true → x.2.outcome = some .fed → x.2.returned = true

instance (x : System × Lease) (a : Action) : Decidable (Cleared x a) := inferInstanceAs (Decidable (_ → _))

end

/-- In the simulator the lease is held on the strength of a push of this session that none has
contradicted since. -/
def Truthful (s : System) (past : List FeedOutcome) : Prop :=
  s.plugin.resolveMode = .sweatbox → s.plugin.feeding = true →
    ∃ later earlier, past = later ++ .fed :: earlier ∧ .displaced ∉ later ∧ .failed ∉ later

theorem feedReply_feeding (feeding : Bool) (reply : Reply) :
    (feedReply feeding reply).feeding = true ↔ (feedReply feeding reply).outcome = .fed := by
  unfold feedReply
  repeat' split
  all_goals simp

section
variable [Secret]

theorem feeding_step (s : System) (a : Action) :
    (∃ reply, a = .worker (.pushReplied reply) ∧
      (plugin.effect s a).plugin.feeding = (feedReply s.plugin.feeding reply).feeding) ∨
    ((∀ reply, a ≠ .worker (.pushReplied reply)) ∧
      ((plugin.effect s a).plugin.feeding = s.plugin.feeding ∨
        a = .main .announce ∧ (plugin.effect s a).plugin.feeding = false)) := by
  cases a with
  | elapse duration => exact Or.inr ⟨by simp, Or.inl rfl⟩
  | main a =>
    refine Or.inr ⟨by simp, ?_⟩
    cases a with
    | announce =>
      cases back : s.backOnLive with
      | true => exact Or.inr ⟨rfl, by simp [mainEffect, back]⟩
      | false => exact Or.inl (by simp [mainEffect, back])
    | _ => exact Or.inl rfl
  | worker a =>
    cases a with
    | pushReplied reply => exact Or.inl ⟨reply, rfl, rfl⟩
    | _ => exact Or.inr ⟨by simp, Or.inl rfl⟩

theorem becomesSweatbox_feeding {s : System} {a : Action} (turn : becomesSweatbox s a = true) :
    (plugin.effect s a).plugin.resolveMode = .sweatbox ∧
      (plugin.effect s a).plugin.feeding = s.plugin.feeding := by
  simp only [becomesSweatbox, Bool.and_eq_true, decide_eq_true_eq] at turn
  obtain ⟨outside, inside⟩ := turn
  have outside : s.plugin.resolveMode ≠ .sweatbox := by simpa using outside
  refine ⟨inside, ?_⟩
  rcases feeding_step s a with ⟨reply, rfl, -⟩ | ⟨-, same | ⟨rfl, -⟩⟩
  · exact absurd inside outside
  · exact same
  · exact absurd inside outside

theorem outcomes_other {past : List FeedOutcome} {s : System} {a : Action}
    (other : ∀ reply, a ≠ .worker (.pushReplied reply)) (stays : becomesSweatbox s a = false) :
    outcomes past s a = past := by
  unfold outcomes
  rw [stays]
  cases a with
  | worker a =>
    cases a with
    | pushReplied reply => exact absurd rfl (other reply)
    | _ => rfl
  | _ => rfl

/-- `feeding_` stands for an accepted push from which no `OnTimer` has turned back. -/
structure Standing (s : System) (h : Lease) : Prop where
  ticked : s.plugin.announcedMode = h.ticked
  feeding : s.plugin.feeding = true ↔ h.outcome = some .fed ∧ h.returned = false

omit [Secret] in
theorem standing_announce {s : System} {h : Lease} (before : Standing s h) :
    Standing (mainEffect s .announce) (h.next s (.main .announce)) := by
  refine ⟨rfl, ?_⟩
  have back : s.backOnLive = (h.ticked = .sweatbox && s.main.mode = .live : Bool) := by
    rw [System.backOnLive, before.ticked]
  simp only [mainEffect, Lease.next, ← back]
  cases s.backOnLive with
  | true => simp
  | false => simpa using before.feeding

theorem standing : leased.Invariant (fun x => Standing x.1 x.2) := by
  apply Machine.invariant_of_step
  · exact ⟨rfl, by simp [leased, Machine.observe, plugin]⟩
  · rintro ⟨s, h⟩ a - before
    show Standing (plugin.effect s a) (h.next s a)
    cases a with
    | elapse duration => exact ⟨before.ticked, before.feeding⟩
    | main a =>
      cases a with
      | announce => exact standing_announce before
      | _ => exact ⟨before.ticked, before.feeding⟩
    | worker a =>
      cases a with
      | pushReplied reply =>
        refine ⟨before.ticked, ?_⟩
        have ended := feedReply_feeding s.plugin.feeding reply
        simpa [Lease.next, workerEffect] using ended
      | _ => exact ⟨before.ticked, before.feeding⟩

theorem truthful_step {s : System} {h : Lease} {past : List FeedOutcome} {a : Action} (standing : Standing s h)
    (before : Truthful s past) : Cleared (s, h) a ↔ Truthful (plugin.effect s a) (outcomes past s a) := by
  cases turn : becomesSweatbox s a with
  | true =>
    obtain ⟨inside, same⟩ := becomesSweatbox_feeding turn
    have nothing : outcomes past s a = [] := if_pos turn
    constructor
    · intro cleared _ feeding
      rw [same, standing.feeding] at feeding
      have returned := cleared turn feeding.1
      rw [feeding.2] at returned
      contradiction
    · intro truthful _ fed
      by_contra unreturned
      have held : s.plugin.feeding = true := standing.feeding.mpr ⟨fed, by simpa using unreturned⟩
      obtain ⟨later, earlier, split, -⟩ := truthful inside (same.trans held)
      rw [nothing] at split
      exact absurd split (by simp)
  | false =>
    refine ⟨fun _ inside feeding => ?_, fun _ now => absurd now (by simp [turn])⟩
    have already : s.plugin.resolveMode = .sweatbox := by
      by_contra outside
      have now : becomesSweatbox s a = true := by simp [becomesSweatbox, outside, inside]
      rw [turn] at now
      contradiction
    rcases feeding_step s a with ⟨reply, rfl, pushed⟩ | ⟨other, same | ⟨-, off⟩⟩
    · rw [pushed, feedReply_feeding] at feeding
      refine ⟨[], past, ?_, by simp, by simp⟩
      simp [outcomes, turn, feeding]
    · rw [outcomes_other other turn]
      exact before already (same ▸ feeding)
    · rw [off] at feeding
      contradiction

/-- The status is true throughout a run exactly when the mode never becomes Sweatbox while the last push
was accepted and no `OnTimer` has turned from Sweatbox to Live since. -/
theorem feeder_status_true_iff (actions : List Action) :
    (∀ past, past <+: actions → Truthful (followed.run past).1.1 (followed.run past).2) ↔
      leased.Along Cleared actions := by
  have start : Truthful followed.init.1.1 followed.init.2 := by
    intro inside
    contradiction
  have exact := Machine.along_iff (m := followed) (C := fun x a => Cleared x.1 a)
    (P := fun x => Truthful x.1.1 x.2) standing.observed start
    (fun x a _ standing before => truthful_step standing before) actions
  exact exact.symm.trans Machine.alongFrom_observe

end

/-! ### A session after a disconnection -/

def fedOnce : List Action :=
  firstPicture ++ push ++ [.worker (.pushReplied (.answered 200 .empty))]

def nextSession : List Action :=
  fedOnce ++ onTimer CONNECTION_TYPE_NO tower ++ onTimer CONNECTION_TYPE_SWEATBOX tower

set_option maxRecDepth 100000 in
/-- The lease of the last session is reported in the next one, before anything was pushed. -/
theorem feeder_status_stale :
    ¬ ∀ (secret : Secret) (actions : List Action),
      Truthful ((@followed secret).run actions).1.1 ((@followed secret).run actions).2 := by
  intro all
  have inside : ((@followed parisSecret).run nextSession).1.1.plugin.resolveMode = .sweatbox := by
    decide +kernel
  have feeding : ((@followed parisSecret).run nextSession).1.1.plugin.feeding = true := by decide +kernel
  have nothing : ((@followed parisSecret).run nextSession).2 = [] := by decide +kernel
  obtain ⟨later, earlier, split, -⟩ := all parisSecret nextSession inside feeding
  rw [nothing] at split
  exact absurd split (by simp)

end CentralSquawk.Feed
