import CentralSquawk.Inference.Evidence

/-!
# One session's evidence

A confirmation window lives in the worker's locals, while the connection and the
callsign it is about belong to the main thread. The window record below keeps
whom every counted denial was asked for, and whether the connection was lost
since the window opened. Nothing tells the worker of a disconnect: it has to come
upon the mode offline at the top of an iteration.
-/

namespace CentralSquawk.Inference
open Library

/-- A false-to-true change of `inferredSim_`, with what is known when it is made. -/
structure Switch where
  disconnected : Bool
  asked : List Text
  userCallsign : Text

structure Window where
  disconnected : Bool := false
  asked : List Text := []
  made : List Switch := []

/-- The switch rests on one session: no disconnect, and no denial of another callsign. -/
def Switch.sameSession (w : Switch) : Prop :=
  w.disconnected = false ∧ ∀ callsign ∈ w.asked, callsign = w.userCallsign

def Window.sound (w : Window) : Prop := ∀ switch ∈ w.made, switch.sameSession

instance (w : Window) : Decidable w.sound :=
  inferInstanceAs (Decidable (∀ switch ∈ w.made,
    switch.disconnected = false ∧ ∀ callsign ∈ switch.asked, callsign = switch.userCallsign))

def Window.count (w : Window) (s : System) : Action → Window
  | .main (.timer connectionType) =>
    { w with disconnected := w.disconnected || detectConnectionMode connectionType = .offline }
  | .worker (.probed reply) =>
    if probeNetwork reply ≠ .offline then w
    else if s.worker.offNetwork then { w with asked := s.worker.userCallsign :: w.asked }
    else { w with disconnected := false, asked := [s.worker.userCallsign] }
  | _ => w

section
variable [Secret]

def Window.next (w : Window) (s : System) (a : Action) : Window :=
  let counted := w.count s a
  { counted with
    made :=
      if switches s (plugin.effect s a) then
        ⟨counted.disconnected, counted.asked, s.plugin.userCallsign⟩ :: counted.made
      else counted.made }

/-- Whether the last probe to find out was a denial, since the worker last saw the mode offline. -/
def denied (before : Bool) (_ : System) : Action → Bool
  | .worker .goOffline => false
  | .worker (.probed reply) =>
    match probeNetwork reply with
    | .offline => true
    | .online => false
    | .unknown => before
  | _ => before

def sessions : Machine (System × Bool) Action := plugin.observe false denied

def windowed : Machine ((System × Bool) × Window) Action :=
  sessions.observe {} (fun w x a => w.next x.1 a)

/-- No session takes a denial over from the one before: with one standing the connection is not lost
while a probe is under way and does not come back, nor does the callsign change. -/
def SettledSession (x : System × Bool) : Action → Prop
  | .main (.timer connectionType) =>
    if x.1.plugin.connectionMode = .offline then
      detectConnectionMode connectionType ≠ .offline → x.2 = false
    else detectConnectionMode connectionType = .offline → x.2 = true → x.1.worker.pc ≠ .probing
  | .main (.isController myself) =>
    ¬ myself.callsign.length < 3 → myself.callsign ≠ x.1.plugin.userCallsign →
      x.2 = false ∧ probeStage x.1.worker.pc = false
  | _ => True

instance (x : System × Bool) (a : Action) : Decidable (SettledSession x a) := by
  unfold SettledSession
  split <;> infer_instance

/-! ### Settled sessions keep their windows sound -/

structure Settled (s : System) (standing : Bool) (w : Window) : Prop where
  sound : w.sound
  closed : standing = false → s.worker.offNetwork = false
  asked : s.worker.offNetwork = true → ∀ callsign ∈ w.asked, callsign = s.plugin.userCallsign
  /-- A disconnect the worker has not seen yet still lasts. -/
  lost : s.worker.offNetwork = true → w.disconnected = true → s.plugin.connectionMode = .offline
  own : probeStage s.worker.pc = true → s.worker.userCallsign = s.plugin.userCallsign
  connected : s.worker.pc = .probing → standing = true → s.plugin.connectionMode ≠ .offline

theorem next_quiet (w : Window) (s : System) {a : Action} (quiet : ∀ reply, a ≠ .worker (.probed reply)) :
    w.next s a = w.count s a := by
  have still : switches s (plugin.effect s a) = false := by
    by_cases offline : a = .worker .goOffline
    · subst offline
      simp [switches, workerEffect]
    · simp [switches, (unrelated_window s a ⟨offline, quiet⟩).1]
  simp [Window.next, still]

theorem settled_timer {s : System} {standing : Bool} {w : Window} {type : Int}
    (settled : SettledSession (s, standing) (.main (.timer type))) (before : Settled s standing w) :
    Settled (plugin.effect s (.main (.timer type))) standing (w.count s (.main (.timer type))) := by
  obtain ⟨sound, closed, asked, lost, own, connected⟩ := before
  refine ⟨sound, closed, asked, fun open' disconnected => ?_, own, fun under held offline => ?_⟩
  · show detectConnectionMode type = .offline
    by_contra reconnects
    have earlier : w.disconnected = true := by simpa [Window.count, reconnects] using disconnected
    have offline := lost open' earlier
    have none : standing = false := by simpa [SettledSession, offline, reconnects] using settled
    exact absurd open' (by simp [closed none])
  · have online := connected under held
    have offline : detectConnectionMode type = .offline := offline
    have free : s.worker.pc ≠ .probing := by simpa [SettledSession, online, offline, held] using settled
    exact free under

theorem settled_isController {s : System} {standing : Bool} {w : Window} {myself : Myself}
    (settled : SettledSession (s, standing) (.main (.isController myself))) (before : Settled s standing w) :
    Settled (plugin.effect s (.main (.isController myself))) standing w := by
  obtain ⟨sound, closed, asked, lost, own, connected⟩ := before
  by_cases stays : myself.callsign.length < 3 ∨ myself.callsign = s.plugin.userCallsign
  · have same : (mainEffect s (.isController myself)).plugin.userCallsign = s.plugin.userCallsign := by
      rcases stays with short | same
      · simp [mainEffect, short]
      · simp [mainEffect, same]
    refine ⟨sound, closed, ?_, lost, ?_, connected⟩
    · rw [effect_main, same]
      exact asked
    · rw [effect_main, same]
      exact own
  · rw [not_or] at stays
    obtain ⟨none, unread⟩ := settled stays.1 stays.2
    refine ⟨sound, closed, fun open' => ?_, lost, fun stage => ?_, connected⟩
    · exact absurd open' (by simp [closed none])
    · exact absurd stage (by simp [unread])

theorem settled_main {s : System} {standing : Bool} {w : Window} {a : MainAction}
    (settled : SettledSession (s, standing) (.main a)) (before : Settled s standing w) :
    Settled (plugin.effect s (.main a)) (denied standing s (.main a)) (w.next s (.main a)) := by
  rw [next_quiet w s (by simp)]
  by_cases timer : ∃ type, a = .timer type
  · obtain ⟨type, rfl⟩ := timer
    exact settled_timer settled before
  by_cases isController : ∃ myself, a = .isController myself
  · obtain ⟨myself, rfl⟩ := isController
    exact settled_isController settled before
  obtain ⟨sound, closed, asked, lost, own, connected⟩ := before
  have connection := mainEffect_connectionMode s (a := a) (fun type same => timer ⟨type, same⟩)
  have userCallsign := mainEffect_userCallsign s (a := a) (fun m same => isController ⟨m, same⟩)
  have unchanged : w.count s (.main a) = w := by
    cases a with
    | timer type => exact absurd ⟨type, rfl⟩ timer
    | _ => rfl
  rw [unchanged]
  refine ⟨sound, ?_, ?_, ?_, ?_, ?_⟩
  · simpa [denied] using closed
  · simpa [userCallsign] using asked
  · simpa [connection] using lost
  · simpa [userCallsign] using own
  · simpa [denied, connection] using connected

omit [Secret] in
theorem judge_not_denied (s : System) {reply : Reply} (other : probeNetwork reply ≠ .offline) :
    ((s.judge reply).inferredSim = true → s.plugin.inferredSim = true) ∧
      ((s.judge reply).offNetwork = true → s.worker.offNetwork = true) := by
  unfold System.judge
  cases v : probeNetwork reply with
  | offline => exact absurd v other
  | online => simp [judge]
  | unknown => simp [judge]

omit [Secret] in
theorem judge_closed (s : System) {standing : Bool} {reply : Reply}
    (closed : standing = false → s.worker.offNetwork = false)
    (none : denied standing s (.worker (.probed reply)) = false) : (s.judge reply).offNetwork = false := by
  unfold System.judge
  cases v : probeNetwork reply with
  | offline => simp [denied, v] at none
  | online => simp [judge]
  | unknown =>
    have none : standing = false := by simpa [denied, v] using none
    simpa [judge] using closed none

omit [Secret] in
/-- A denial that opens the window starts it anew; one that is counted finds it intact. -/
theorem Settled.counted {s : System} {standing : Bool} {w : Window} {reply : Reply} (before : Settled s standing w)
    (pc : s.worker.pc = .probing) (offline : probeNetwork reply = .offline) :
    (∀ callsign ∈ (w.count s (.worker (.probed reply))).asked, callsign = s.plugin.userCallsign) ∧
      (w.count s (.worker (.probed reply))).disconnected = false ∧
      (w.count s (.worker (.probed reply))).made = w.made := by
  have own : s.worker.userCallsign = s.plugin.userCallsign := before.own (by rw [pc]; rfl)
  cases open' : s.worker.offNetwork with
  | false => simp [Window.count, offline, open', own]
  | true =>
    have held : standing = true := by
      by_contra none
      exact absurd open' (by simp [before.closed (by simpa using none)])
    have intact : w.disconnected = false := by
      by_contra gone
      exact before.connected pc held (before.lost open' (by simpa using gone))
    simpa [Window.count, offline, open', own, intact] using before.asked open'

theorem switches_not_denied (s : System) {reply : Reply} (other : probeNetwork reply ≠ .offline) :
    switches s (plugin.effect s (.worker (.probed reply))) = false := by
  cases already : s.plugin.inferredSim with
  | true => simp [switches, already]
  | false =>
    have off : (s.judge reply).inferredSim = false := by
      by_contra on
      exact absurd ((judge_not_denied s other).1 (by simpa using on)) (by simp [already])
    simp [switches, workerEffect, off]

theorem settled_probed {s : System} {standing : Bool} {w : Window} {reply : Reply} (pc : s.worker.pc = .probing)
    (before : Settled s standing w) :
    Settled (plugin.effect s (.worker (.probed reply))) (denied standing s (.worker (.probed reply)))
      (w.next s (.worker (.probed reply))) := by
  have answered : (plugin.effect s (.worker (.probed reply))).worker.pc = .checkController := rfl
  have later : ∀ {w' : Window}, w'.sound →
      ((s.judge reply).offNetwork = true → ∀ callsign ∈ w'.asked, callsign = s.plugin.userCallsign) →
      ((s.judge reply).offNetwork = true → w'.disconnected = true → s.plugin.connectionMode = .offline) →
      Settled (plugin.effect s (.worker (.probed reply))) (denied standing s (.worker (.probed reply))) w' := by
    intro w' sound asked lost
    refine ⟨sound, judge_closed s before.closed, asked, lost, fun stage => ?_, fun under => ?_⟩
    · rw [answered] at stage
      contradiction
    · rw [answered] at under
      contradiction
  by_cases offline : probeNetwork reply = .offline
  · obtain ⟨all, intact, made⟩ := before.counted pc offline
    refine later ?_ (fun _ => all) (fun _ gone => absurd (intact.symm.trans gone) (by simp))
    intro switch member
    simp only [Window.next] at member
    split at member
    · rcases List.mem_cons.mp member with rfl | earlier
      · exact ⟨intact, all⟩
      · exact before.sound switch (made ▸ earlier)
    · exact before.sound switch (made ▸ member)
  · have unchanged : w.count s (.worker (.probed reply)) = w := by simp [Window.count, offline]
    obtain ⟨-, narrows⟩ := judge_not_denied s offline
    simp only [Window.next, switches_not_denied s offline, unchanged]
    exact later before.sound (fun open' => before.asked (narrows open')) (fun open' => before.lost (narrows open'))

theorem settled_own {s : System} {standing : Bool} {w : Window} {a : WorkerAction} (pc : s.worker.pc = a.pc)
    (before : Settled s standing w) (stage : probeStage (workerEffect s a).worker.pc = true) :
    (workerEffect s a).worker.userCallsign = s.plugin.userCallsign := by
  cases a with
  | readCallsign => rfl
  | guardOverride | guardConnection => exact before.own (by rw [pc]; rfl)
  | probed reply => contradiction
  | _ =>
    rw [probeStage_elsewhere (by simp) rfl] at stage
    contradiction

theorem settled_worker {s : System} {standing : Bool} {w : Window} {a : WorkerAction} (pc : s.worker.pc = a.pc)
    (before : Settled s standing w) :
    Settled (plugin.effect s (.worker a)) (denied standing s (.worker a)) (w.next s (.worker a)) := by
  by_cases probes : ∃ reply, a = .probed reply
  · obtain ⟨reply, rfl⟩ := probes
    exact settled_probed pc before
  have other : ∀ reply, a ≠ .probed reply := fun reply same => probes ⟨reply, same⟩
  have quiet : ∀ reply, Action.worker a ≠ .worker (.probed reply) := by simpa using other
  have unchanged : w.count s (.worker a) = w := by
    cases a with
    | probed reply => exact absurd rfl (other reply)
    | _ => rfl
  rw [next_quiet w s quiet, unchanged]
  have own := settled_own pc before
  have connected : (workerEffect s a).worker.pc = .probing → denied standing s (.worker a) = true →
      s.plugin.connectionMode ≠ .offline := by
    intro under _
    simp [(probing_after under).2.1]
  obtain ⟨sound, closed, asked, lost, -, -⟩ := before
  have connection : (workerEffect s a).plugin.connectionMode = s.plugin.connectionMode := by simp
  have userCallsign : (workerEffect s a).plugin.userCallsign = s.plugin.userCallsign := by simp
  rw [effect_worker]
  by_cases offline : a = .goOffline
  · subst offline
    exact ⟨sound, fun _ => rfl, by simp [workerEffect, WorkerThread.goTo], by simp [workerEffect, WorkerThread.goTo],
      own, connected⟩
  · have window := (unrelated_window s (.worker a) ⟨by simpa using offline, quiet⟩).2.1
    have same : denied standing s (.worker a) = standing := by
      cases a with
      | probed reply => exact absurd rfl (other reply)
      | goOffline => exact absurd rfl offline
      | _ => rfl
    rw [effect_worker] at window
    rw [same] at connected ⊢
    refine ⟨sound, ?_, ?_, ?_, ?_, ?_⟩
    · rw [window]
      exact closed
    · rw [window, userCallsign]
      exact asked
    · rw [window, connection]
      exact lost
    · rw [userCallsign]
      exact own
    · rw [connection]
      exact connected

theorem settled_step {s : System} {standing : Bool} {w : Window} {a : Action} (on : plugin.enabled s a = true)
    (settled : SettledSession (s, standing) a) (before : Settled s standing w) :
    Settled (plugin.effect s a) (denied standing s a) (w.next s a) := by
  cases a with
  | main a => exact settled_main settled before
  | worker a => exact settled_worker (enabled_worker on).2.1 before
  | elapse duration =>
    rw [next_quiet w s (by simp)]
    exact ⟨before.sound, before.closed, before.asked, before.lost, before.own, before.connected⟩

/-- In settled sessions every switch rests on the session it is made in. -/
theorem switch_rests_on_one_session (actions : List Action)
    (settled : sessions.Along SettledSession actions) : (windowed.run actions).2.sound := by
  have start : Settled plugin.init false {} := by
    refine ⟨?_, ?_, ?_, ?_, ?_, ?_⟩
    · simp [Window.sound]
    all_goals simp [plugin, probeStage]
  have all := Machine.Invariant.alongObserved (m := sessions) (J := fun _ => True)
    (P := fun x => Settled x.1.1 x.1.2 x.2) (fun _ => trivial) start
    (fun x w a on here _ before => settled_step on here before) actions settled
  exact all.sound

end

/-! ### Two runs

Both ask the live server twice, sixty-one seconds apart, and are denied twice. -/

def denial : Reply := .answered 200 (.json (.object [(text "onNetwork", .boolean false)]))

def firstDenial : List Action :=
  onTimer CONNECTION_TYPE_DIRECT tower ++ iteration ++
    [.worker (.probed denial), .worker .checkController, .worker .drain, .worker .allSent]

def secondDenial : List Action :=
  [.worker (.fetched unreachable)] ++ iterations 149 unreachable ++ [.elapse 61000000000] ++ iteration ++
    [.worker (.probed denial)]

/-- While the fetch is under way the user disconnects and comes back under another callsign. -/
def reconnected : List Action :=
  firstDenial ++ onTimer CONNECTION_TYPE_NO ⟨[], 0⟩ ++
    onTimer CONNECTION_TYPE_DIRECT centre ++ secondDenial

set_option maxRecDepth 100000 in
/-- The new session is judged on the old one's denial. -/
theorem switch_across_sessions :
    ¬ ∀ (secret : Secret) (actions : List Action), ((@windowed secret).run actions).2.sound := by
  intro all
  have unsound : ¬ ((@windowed parisSecret).run reconnected).2.sound := by decide +kernel
  exact unsound (all parisSecret reconnected)

/-- The first denial ends with its session, and two of another callsign follow. -/
def judgedAfresh : List Action :=
  firstDenial ++ [.worker (.fetched unreachable)] ++ onTimer CONNECTION_TYPE_NO ⟨[], 0⟩ ++
    (List.replicate 149 [.worker .loopTop, .worker .goOffline]).flatten ++
    onTimer CONNECTION_TYPE_DIRECT centre ++ iteration ++ [.worker (.probed denial)] ++
    iteration.drop 7 ++ secondDenial

set_option maxRecDepth 100000 in
theorem switch_rests_on_one_session_afresh :
    ((@windowed parisSecret).run judgedAfresh).2.made.map Switch.asked =
        [[centre.callsign, centre.callsign]] ∧
      ((@windowed parisSecret).run judgedAfresh).2.sound :=
  ⟨by decide +kernel, @switch_rests_on_one_session parisSecret judgedAfresh (by decide +kernel)⟩

end CentralSquawk.Inference
