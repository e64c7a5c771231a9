import CentralSquawk.Feed.Status

/-!
# What the controller is told

Both threads queue messages, and `OnTimer` displays the queue and clears it while it
holds `messageQueueMutex_`. The record keeps what was queued, what was displayed, what
`PushSimFeed` alone has queued, and the mode of every tick.
-/

namespace CentralSquawk
open Library

section
variable [Secret]

structure Spoken where
  queued : List Message := []
  shown : List Message := []
  feeder : List Message := []
  ticks : List NetworkMode := []

def Spoken.next (h : Spoken) (s : System) (a : Action) : Spoken where
  queued := h.queued ++ said s a
  shown := h.shown ++ displayed s a
  feeder :=
    match a with
    | .worker (.pushReplied reply) => h.feeder ++ (feedReply s.plugin.feeding reply).said
    | _ => h.feeder
  ticks :=
    match a with
    | .main .announce => s.main.mode :: h.ticks
    | _ => h.ticks

def heard : Machine (System × Spoken) Action := plugin.observe {} Spoken.next

/-! ### The queue -/

theorem shown_or_waiting : heard.Invariant (fun x => x.2.shown ++ x.1.plugin.messageQueue = x.2.queued) := by
  apply Machine.invariant_of_step
  · rfl
  · rintro ⟨s, h⟩ a - before
    show (h.shown ++ displayed s a) ++ (plugin.effect s a).plugin.messageQueue = h.queued ++ said s a
    have before : h.shown ++ s.plugin.messageQueue = h.queued := before
    rcases messageQueue_step s a with ⟨quiet, batch, cleared⟩ | ⟨nothing, grown⟩
    · rw [quiet, batch, cleared, before]
    · rw [nothing, grown, ← before]
      simp

theorem shown_prefix (past rest : List Action) :
    (heard.run past).2.shown <+: (heard.run (past ++ rest)).2.shown := by
  induction rest using List.reverseRecOn with
  | nil => simp
  | append_singleton rest a ih =>
    refine ih.trans ?_
    rw [← List.append_assoc, Machine.run_snoc, Machine.step]
    split
    · exact List.prefix_append _ _
    · exact List.prefix_rfl

/-- In every run the messages displayed are those queued, by either thread, in that order and each of
them once, up to those still waiting; and a display leaves none of the messages before it waiting. -/
theorem messages_shown_in_order (actions : List Action) :
    (heard.run actions).2.shown ++ (plugin.run actions).plugin.messageQueue = (heard.run actions).2.queued ∧
    ∀ past rest, actions = past ++ .main .display :: rest →
      plugin.enabled (plugin.run past) (.main .display) = true →
      (heard.run past).2.queued <+: (heard.run actions).2.shown := by
  have same : ∀ past, (heard.run past).1 = plugin.run past := Machine.observe_run_fst
  refine ⟨by rw [← same]; exact shown_or_waiting actions, ?_⟩
  rintro past rest rfl on
  have turn : heard.run (past ++ [.main .display]) = heard.effect (heard.run past) (.main .display) := by
    rw [Machine.run_snoc]
    apply Machine.step_on
    show plugin.enabled (heard.run past).1 (.main .display) = true
    rw [same]
    exact on
  have shown : (heard.run (past ++ [.main .display])).2.shown = (heard.run past).2.queued := by
    rw [turn]
    exact shown_or_waiting past
  have later := shown_prefix (past ++ [.main .display]) rest
  rw [shown, List.append_assoc] at later
  exact later

end

/-! ### The feeder's notices -/

/-- A notice that the lease is lost directly follows the notice that it was held. -/
def Paired (notices : List Message) : Prop :=
  ∀ before m after, notices = before ++ m :: after → m ≠ feedingMessage →
    before.getLast? = some feedingMessage

theorem Paired.snoc {notices : List Message} {m : Message} (paired : Paired notices)
    (next : m ≠ feedingMessage → notices.getLast? = some feedingMessage) : Paired (notices ++ [m]) := by
  intro before n after split other
  rcases List.eq_nil_or_concat after with rfl | ⟨init, last, rfl⟩
  · obtain ⟨rfl, same⟩ := List.append_inj' split rfl
    obtain rfl : m = n := by simpa using same
    exact next other
  · rw [List.concat_eq_append, ← List.cons_append, ← List.append_assoc] at split
    exact paired before n init (List.append_inj' split rfl).1 other

theorem feedReply_notice (feeding : Bool) (reply : Reply) :
    ((feedReply feeding reply).feeding = true ∧
      (feedReply feeding reply).said = if feeding then [] else [feedingMessage]) ∨
    ((feedReply feeding reply).feeding = false ∧
      (((feedReply feeding reply).said = [] ∧ feeding = false) ∨
        ∃ m, (feedReply feeding reply).said = [m] ∧ m ≠ feedingMessage ∧ feeding = true)) := by
  have lost : ∀ m : Message, m ≠ feedingMessage →
      (announce feeding false m = [] ∧ feeding = false) ∨
        ∃ n, announce feeding false m = [n] ∧ n ≠ feedingMessage ∧ feeding = true := by
    intro m other
    cases feeding with
    | false => exact Or.inl ⟨rfl, rfl⟩
    | true => exact Or.inr ⟨m, rfl, other, rfl⟩
  have error : ∀ m, queueError m ≠ feedingMessage := by simp [queueError, feedingMessage, queueMessage]
  unfold feedReply
  split
  · exact Or.inr ⟨rfl, lost _ (error _)⟩
  split
  · exact Or.inr ⟨rfl, lost _ (by decide)⟩
  split
  · exact Or.inr ⟨rfl, lost _ (error _)⟩
  · refine Or.inl ⟨rfl, ?_⟩
    cases feeding <;> rfl

/-- Where `feeding_` stands, the last notice was that the lease is held. -/
structure Announced (s : System) (notices : List Message) : Prop where
  paired : Paired notices
  held : s.plugin.feeding = true → notices.getLast? = some feedingMessage

section
variable [Secret]

theorem announced_replied {s : System} {notices : List Message} (reply : Reply) (before : Announced s notices) :
    Announced (workerEffect s (.pushReplied reply)) (notices ++ (feedReply s.plugin.feeding reply).said) := by
  obtain ⟨paired, held⟩ := before
  have unheld : (feedReply s.plugin.feeding reply).feeding = false →
      (workerEffect s (.pushReplied reply)).plugin.feeding ≠ true := by
    intro now
    show (feedReply s.plugin.feeding reply).feeding ≠ true
    simp [now]
  rcases feedReply_notice s.plugin.feeding reply with ⟨now, said⟩ | ⟨now, ⟨said, -⟩ | ⟨m, said, other, was⟩⟩
  · rw [said]
    cases was : s.plugin.feeding with
    | true => exact ⟨by simpa using paired, fun _ => by simpa using held was⟩
    | false =>
      refine ⟨paired.snoc (fun other => absurd rfl other), fun _ => ?_⟩
      simp
  · rw [said, List.append_nil]
    exact ⟨paired, fun feeding => absurd feeding (unheld now)⟩
  · rw [said]
    exact ⟨paired.snoc (fun _ => held was), fun feeding => absurd feeding (unheld now)⟩

theorem announced : heard.Invariant (fun x => Announced x.1 x.2.feeder) := by
  apply Machine.invariant_of_step
  · refine ⟨?_, by simp [heard, Machine.observe, plugin]⟩
    intro before m after split
    exact absurd split (by simp [heard, Machine.observe])
  · rintro ⟨s, h⟩ a - before
    show Announced (plugin.effect s a) (h.next s a).feeder
    rcases Feed.feeding_step s a with ⟨reply, rfl, -⟩ | ⟨other, same⟩
    · exact announced_replied reply before
    have unsaid : (h.next s a).feeder = h.feeder := by
      unfold Spoken.next
      split
      · rename_i reply
        exact absurd rfl (other reply)
      · rfl
    rw [unsaid]
    refine ⟨before.paired, fun feeding => ?_⟩
    rcases same with unchanged | ⟨-, cleared⟩
    · exact before.held (unchanged ▸ feeding)
    · rw [cleared] at feeding
      contradiction

/-- In every run the controller is told that the feeder lease is lost only right after having been told
that it is held, whatever the pushes and the changes of mode in between. -/
theorem losses_follow_feeding (actions : List Action) : Paired (heard.run actions).2.feeder :=
  (announced actions).paired

end

/-! ### Back on the live server -/

/-- How often a tick on the live network follows one in the simulator. -/
def returns : List NetworkMode → Nat
  | [] => 0
  | mode :: past => returns past + if mode = .live ∧ past.head? = some .sweatbox then 1 else 0

theorem not_back {said : List Message}
    (others : ∀ m ∈ said, m.isError = true ∨
      m ∈ [switchingMessage, reconnectedMessage, displacedMessage, feedingMessage]) :
    said.count backOnLiveMessage = 0 := by
  rw [List.count_eq_zero]
  intro member
  rcases others _ member with error | other
  · contradiction
  · exact absurd other (by decide)

theorem said_elsewhere (s : System) {a : Action} (other : a ≠ .main .announce) :
    (said s a).count backOnLiveMessage = 0 := by
  apply not_back
  cases a with
  | elapse duration => simp [said]
  | main a =>
    cases a with
    | announce => exact absurd rfl other
    | functionCall call => exact fun m member => Or.inl (onFunctionCall_said m member)
    | _ => simp [said]
  | worker a =>
    cases a with
    | probed reply =>
      intro m member
      have member : m ∈ (s.judge reply).said := member
      rcases judge_cases _ _ _ _ _ (s.judge reply) rfl with ⟨-, j⟩ | ⟨-, -, j⟩ | ⟨-, -, -, -, j⟩ | ⟨-, -, j⟩
      all_goals
        rw [j] at member
        simp at member
      exact Or.inr (by simp [member])
    | send callsign =>
      intro m member
      have member : m ∈ (if s.worker.userCallsign = [] then [notConnected] else []) := member
      split at member
      · obtain rfl := List.mem_singleton.mp member
        exact Or.inl rfl
      · contradiction
    | assignReplied reply => exact fun m member => Or.inl (applyAssignReply_said m member)
    | pushReplied reply =>
      intro m member
      exact (feedReply_said m member).imp_right (fun notice => by rcases notice with rfl | rfl <;> simp)
    | fetched reply =>
      intro m member
      exact (fetchAssignedSSR_said m member).imp_right (fun same => by simp [same])
    | _ => simp [said]

structure Counted (s : System) (h : Spoken) : Prop where
  announced : s.plugin.announcedMode = h.ticks.head?.getD .offline
  said : h.queued.count backOnLiveMessage = returns h.ticks

theorem counted_announce {s : System} {h : Spoken} (before : Counted s h) :
    Counted (mainEffect s .announce) (h.next s (.main .announce)) := by
  obtain ⟨announced, said⟩ := before
  refine ⟨rfl, ?_⟩
  have back : s.backOnLive = true ↔ s.main.mode = .live ∧ h.ticks.head? = some .sweatbox := by
    have last : s.plugin.announcedMode = .sweatbox ↔ h.ticks.head? = some .sweatbox := by
      rw [announced]
      cases h.ticks.head? <;> simp
    simp only [System.backOnLive, Bool.and_eq_true, decide_eq_true_eq, last]
    exact and_comm
  show (h.queued ++ if s.backOnLive then [backOnLiveMessage] else []).count backOnLiveMessage =
    returns (s.main.mode :: h.ticks)
  rw [List.count_append, said, returns]
  by_cases returned : s.backOnLive = true
  · rw [if_pos returned, if_pos (back.mp returned)]
    simp
  · rw [if_neg returned, if_neg (fun both => returned (back.mpr both))]
    simp

section
variable [Secret]

theorem counted : heard.Invariant (fun x => Counted x.1 x.2) := by
  apply Machine.invariant_of_step
  · exact ⟨rfl, rfl⟩
  · rintro ⟨s, h⟩ a - before
    by_cases tick : a = .main .announce
    · subst tick
      exact counted_announce before
    show Counted (plugin.effect s a) (h.next s a)
    have ticks : (h.next s a).ticks = h.ticks := by
      unfold Spoken.next
      dsimp only
      split
      · exact absurd rfl tick
      · rfl
    have mode : (plugin.effect s a).plugin.announcedMode = s.plugin.announcedMode := by
      cases a with
      | elapse duration => rfl
      | worker a => cases a <;> rfl
      | main a =>
        cases a with
        | announce => exact absurd rfl tick
        | _ => rfl
    refine ⟨by rw [ticks, mode]; exact before.announced, ?_⟩
    show (h.queued ++ said s a).count backOnLiveMessage = _
    rw [List.count_append, said_elsewhere s tick, ticks]
    exact before.said

/-- In every run the controller is told of being back on the live server exactly once for each tick that
finds the live network after one that found the simulator. -/
theorem returns_said (actions : List Action) :
    (heard.run actions).2.queued.count backOnLiveMessage = returns (heard.run actions).2.ticks :=
  (counted actions).said

end

end CentralSquawk
