import CentralSquawk.Requests.Queue

/-!
# Where a manual request goes

A queued request carries neither mode nor controller: both are what the iteration
that drains it has sampled. The record below dates the samples by the versions
counted in the queue's record, and keeps every request posted.
-/

namespace CentralSquawk.Requests
open Library

/-- A request that was posted, with what its iteration had sampled. -/
structure Post where
  click : Click
  endpoint : Option Text
  controller : Option Text
  mode : NetworkMode
  /-- `modeVersion` when `ResolveMode` made its first load, and its last. -/
  first : Nat
  last : Nat
  resolved : NetworkMode
  /-- What `userCallsign_` held when it was read, and `callsignVersion` then. -/
  held : Text
  read : Nat

structure Routing where
  first : Nat := 0
  last : Nat := 0
  resolved : NetworkMode := .offline
  held : Text := []
  read : Nat := 0
  posts : List Post := []

/-- The server and the controller are those of the draining iteration, which are those of the click
unless they changed between the two. -/
structure Post.routed (p : Post) : Prop where
  endpoint : p.endpoint = some (endpointFor p.mode)
  online : p.mode ≠ .offline
  sampled : p.first = p.last → p.mode = p.resolved
  controller : p.controller = some p.held
  named : p.held ≠ []
  sameMode : p.click.modeVersion = p.first → p.click.modeVersion = p.last → p.mode = p.click.mode
  sameCallsign : p.click.callsignVersion = p.read → p.held = p.click.userCallsign

section
variable [Secret]

/-- The request is posted: the caller is a controller, and `dump()` does not throw. -/
def isPosted (s : System) (callsign : Text) : Bool :=
  s.worker.userCallsign ≠ [] && (s.worker.requestBody callsign).utf8

def Routing.post (h : Routing) (s : System) (callsign : Text) (t : Ticket Text Click) : Post :=
  { click := t.item
    endpoint := s.worker.builtFor
    controller := Json.getString ((s.worker.requestBody callsign).find (text "controller"))
    mode := s.worker.mode
    first := h.first
    last := h.last
    resolved := h.resolved
    held := h.held
    read := h.read }

def Routing.next (h : Routing) (x : System × Record) : Action → Routing
  | .worker .loopTop => { h with first := x.2.modeVersion, resolved := x.1.plugin.resolveMode }
  | .worker .loadOverride | .worker .loadConnection => { h with last := x.2.modeVersion }
  | .worker .readCallsign =>
    { h with held := x.1.plugin.userCallsign, read := x.2.callsignVersion }
  | .worker (.send callsign) =>
    { h with
      posts := h.posts ++
        if isPosted x.1 callsign then
          (x.2.ledger.drained.find? (fun t => t.key = callsign)).toList.map (h.post x.1 callsign)
        else [] }
  | _ => h

def routed : Machine ((System × Record) × Routing) Action := recorded.observe {} Routing.next

theorem requestBody_controller (w : WorkerThread) (callsign : Text) :
    Json.getString ((w.requestBody callsign).find (text "controller")) = some w.userCallsign := by
  rfl

end

/-! ### Versions -/

/-- A click whose version is still current was made under what is current. -/
structure Dated (s : System) (r : Record) : Prop where
  mode : ∀ t ∈ r.ledger.queued, t.item.modeVersion ≤ r.modeVersion ∧
    (t.item.modeVersion = r.modeVersion → t.item.mode = s.plugin.resolveMode)
  callsign : ∀ t ∈ r.ledger.queued, t.item.callsignVersion ≤ r.callsignVersion ∧
    (t.item.callsignVersion = r.callsignVersion → t.item.userCallsign = s.plugin.userCallsign)

theorem resolveMode_of_inputs {p q : Plugin} (same : modeInputs p = modeInputs q) :
    p.resolveMode = q.resolveMode := by
  simp only [modeInputs, Prod.mk.injEq] at same
  obtain ⟨connection, override, inferred⟩ := same
  simp [Plugin.resolveMode, connection, override, inferred]

section
variable [Secret]

theorem modeVersion_le (r : Record) (s : System) (a : Action) :
    r.modeVersion ≤ (r.next s a).modeVersion := by
  simp only [Record.next]
  split <;> omega

theorem callsignVersion_le (r : Record) (s : System) (a : Action) :
    r.callsignVersion ≤ (r.next s a).callsignVersion := by
  simp only [Record.next]
  split <;> omega

theorem same_inputs (r : Record) (s : System) (a : Action)
    (same : (r.next s a).modeVersion = r.modeVersion) :
    modeInputs (plugin.effect s a).plugin = modeInputs s.plugin := by
  by_contra changed
  simp [Record.next, changed] at same

theorem same_versions (r : Record) {s : System} {a : Action}
    (alone : (plugin.effect s a).plugin = s.plugin) :
    (r.next s a).modeVersion = r.modeVersion ∧ (r.next s a).callsignVersion = r.callsignVersion := by
  simp [Record.next, alone]

theorem mem_queued_next {r : Record} {s : System} {a : Action} {t : Ticket Text Click}
    (member : t ∈ (r.next s a).ledger.queued) :
    t ∈ r.ledger.queued ∨
      (t.item.mode = s.plugin.resolveMode ∧ t.item.modeVersion = r.modeVersion ∧
        t.item.userCallsign = s.plugin.userCallsign ∧ t.item.callsignVersion = r.callsignVersion) := by
  rw [next_ledger] at member
  unfold Record.move at member
  split at member
  · split at member
    · rcases List.mem_append.mp member with earlier | this
      · exact Or.inl earlier
      · obtain rfl := List.mem_singleton.mp this
        exact Or.inr ⟨rfl, rfl, rfl, rfl⟩
    · exact Or.inl member
  · exact Or.inl member
  · exact Or.inl member
  · exact Or.inl member

theorem same_callsign (r : Record) (s : System) (a : Action)
    (same : (r.next s a).callsignVersion = r.callsignVersion) :
    (plugin.effect s a).plugin.userCallsign = s.plugin.userCallsign := by
  by_contra changed
  simp [Record.next, changed] at same

theorem dated_step {s : System} {r : Record} (a : Action) (dated : Dated s r) :
    Dated (plugin.effect s a) (r.next s a) := by
  have modeGrows := modeVersion_le r s a
  have callsignGrows := callsignVersion_le r s a
  constructor
  · intro t member
    rcases mem_queued_next member with earlier | ⟨mode, version, -, -⟩
    · obtain ⟨older, current⟩ := dated.mode t earlier
      refine ⟨by omega, fun now => ?_⟩
      rw [resolveMode_of_inputs (same_inputs r s a (by omega))]
      exact current (by omega)
    · refine ⟨by omega, fun now => ?_⟩
      rw [resolveMode_of_inputs (same_inputs r s a (by omega))]
      exact mode
  · intro t member
    rcases mem_queued_next member with earlier | ⟨-, -, userCallsign, version⟩
    · obtain ⟨older, current⟩ := dated.callsign t earlier
      refine ⟨by omega, fun now => ?_⟩
      rw [same_callsign r s a (by omega)]
      exact current (by omega)
    · refine ⟨by omega, fun now => ?_⟩
      rw [same_callsign r s a (by omega)]
      exact userCallsign

theorem dated : recorded.Invariant (fun x => Dated x.1 x.2) := by
  refine Machine.invariant_of_step ?_ ?_
  · constructor <;> simp [recorded, Machine.observe]
  · exact fun x a _ before => dated_step a before

end

/-! ### What an iteration has sampled -/

def hasMode : WorkerPc → Bool
  | .loopTop | .goOffline | .loadOverride | .loadConnection | .exited => false
  | _ => true

def hasCallsign : WorkerPc → Bool
  | .readCallsign => false
  | pc => hasMode pc

def resolving (pc : WorkerPc) : Prop := pc = .loadOverride ∨ pc = .loadConnection

structure Sampled (s : System) (r : Record) (h : Routing) : Prop where
  first_le : h.first ≤ r.modeVersion
  last_le : h.last ≤ r.modeVersion
  read_le : h.read ≤ r.callsignVersion
  resolving : resolving s.worker.pc → h.first = r.modeVersion →
    s.plugin.connectionMode ≠ .offline ∧ h.resolved = s.plugin.resolveMode ∧
      (s.worker.pc = .loadConnection → s.plugin.modeOverride = .auto)
  endpoint : hasMode s.worker.pc = true →
    s.worker.builtFor = some (endpointFor s.worker.mode) ∧ s.worker.mode ≠ .offline
  mode : hasMode s.worker.pc = true → h.first = h.last → s.worker.mode = h.resolved ∧
    (h.last = r.modeVersion → s.worker.mode = s.plugin.resolveMode)
  sameMode : hasMode s.worker.pc = true → ∀ t ∈ r.ledger.queued, t.item.modeVersion = h.first →
    t.item.modeVersion = h.last → s.worker.mode = t.item.mode
  callsign : hasCallsign s.worker.pc = true → s.worker.userCallsign = h.held ∧
    (h.read = r.callsignVersion → s.worker.userCallsign = s.plugin.userCallsign)
  sameCallsign : hasCallsign s.worker.pc = true → ∀ t ∈ r.ledger.queued,
    t.item.callsignVersion = h.read → s.worker.userCallsign = t.item.userCallsign
  posts : ∀ p ∈ h.posts, p.routed

theorem Sampled.early {s : System} {r : Record} {h : Routing} (early : hasMode s.worker.pc = false)
    (first_le : h.first ≤ r.modeVersion) (last_le : h.last ≤ r.modeVersion)
    (read_le : h.read ≤ r.callsignVersion)
    (resolving : Requests.resolving s.worker.pc → h.first = r.modeVersion →
      s.plugin.connectionMode ≠ .offline ∧ h.resolved = s.plugin.resolveMode ∧
        (s.worker.pc = .loadConnection → s.plugin.modeOverride = .auto))
    (posts : ∀ p ∈ h.posts, p.routed) : Sampled s r h := by
  have noMode : hasMode s.worker.pc ≠ true := by simp [early]
  have noCallsign : hasCallsign s.worker.pc ≠ true := by
    unfold hasCallsign
    split
    · simp
    · exact noMode
  exact {
    first_le
    last_le
    read_le
    resolving
    endpoint := fun has => absurd has noMode
    mode := fun has => absurd has noMode
    sameMode := fun has => absurd has noMode
    callsign := fun has => absurd has noCallsign
    sameCallsign := fun has => absurd has noCallsign
    posts }

structure Carries (s t : System) : Prop where
  endpoint : t.worker.builtFor = s.worker.builtFor
  mode : t.worker.mode = s.worker.mode
  callsign : t.worker.userCallsign = s.worker.userCallsign
  resolving : resolving t.worker.pc → t.worker.pc = s.worker.pc
  hasMode : hasMode t.worker.pc = true → hasMode s.worker.pc = true
  hasCallsign : hasCallsign t.worker.pc = true → hasCallsign s.worker.pc = true

section
variable [Secret]

theorem Sampled.carry {s : System} {r : Record} {h : Routing} {a : Action} (sampled : Sampled s r h)
    (carries : Carries s (plugin.effect s a)) {posts : List Post} (routed : ∀ p ∈ posts, p.routed) :
    Sampled (plugin.effect s a) (r.next s a) { h with posts } := by
  have modeGrows := modeVersion_le r s a
  have callsignGrows := callsignVersion_le r s a
  have first_le := sampled.first_le
  have last_le := sampled.last_le
  have read_le := sampled.read_le
  exact {
    first_le := first_le.trans modeGrows
    last_le := last_le.trans modeGrows
    read_le := read_le.trans callsignGrows
    resolving := by
      intro between now
      have inputs := same_inputs r s a (by dsimp only at now; omega)
      have pc := carries.resolving between
      obtain ⟨connected, resolved, auto⟩ := sampled.resolving (pc ▸ between) (by dsimp only at now; omega)
      rw [resolveMode_of_inputs inputs, pc]
      simp only [modeInputs, Prod.mk.injEq] at inputs
      obtain ⟨connection, override, -⟩ := inputs
      rw [connection, override]
      exact ⟨connected, resolved, auto⟩
    endpoint := by
      rw [carries.endpoint, carries.mode]
      exact fun has => sampled.endpoint (carries.hasMode has)
    mode := by
      intro has steady
      obtain ⟨resolved, current⟩ := sampled.mode (carries.hasMode has) steady
      rw [carries.mode]
      refine ⟨resolved, fun now => ?_⟩
      dsimp only at now
      rw [resolveMode_of_inputs (same_inputs r s a (by omega))]
      exact current (by omega)
    sameMode := by
      intro has t member first last
      rw [carries.mode]
      rcases mem_queued_next member with earlier | ⟨mode, version, -, -⟩
      · exact sampled.sameMode (carries.hasMode has) t earlier first last
      · rw [mode]
        exact (sampled.mode (carries.hasMode has) (first.symm.trans last)).2 (last.symm.trans version)
    callsign := by
      intro has
      obtain ⟨held, current⟩ := sampled.callsign (carries.hasCallsign has)
      rw [carries.callsign]
      refine ⟨held, fun now => ?_⟩
      dsimp only at now
      rw [same_callsign r s a (by omega)]
      exact current (by omega)
    sameCallsign := by
      intro has t member read
      rw [carries.callsign]
      rcases mem_queued_next member with earlier | ⟨-, -, userCallsign, version⟩
      · exact sampled.sameCallsign (carries.hasCallsign has) t earlier read
      · rw [userCallsign]
        exact (sampled.callsign (carries.hasCallsign has)).2 (read.symm.trans version)
    posts := routed }

omit [Secret] in
theorem carries_worker {s t : System} (same : t.worker = s.worker) : Carries s t := by
  constructor <;> simp [same]

theorem carries_rest {s : System} {a : WorkerAction} (pc : s.worker.pc = a.pc)
    (rest : hasCallsign a.pc = true) : Carries s (plugin.effect s (.worker a)) := by
  rw [effect_worker]
  have has : hasMode s.worker.pc = true ∧ hasCallsign s.worker.pc = true := by
    rw [pc]
    refine ⟨?_, rest⟩
    cases a <;> first | rfl | contradiction
  have locals : (workerEffect s a).worker.builtFor = s.worker.builtFor ∧
      (workerEffect s a).worker.mode = s.worker.mode ∧
      (workerEffect s a).worker.userCallsign = s.worker.userCallsign := by
    cases a <;> first | exact ⟨rfl, rfl, rfl⟩ | contradiction
  obtain ⟨endpoint, mode, callsign⟩ := locals
  refine ⟨endpoint, mode, callsign, ?_, fun _ => has.1, fun _ => has.2⟩
  intro between
  exfalso
  have after : (workerEffect s a).worker.pc ≠ .loadOverride ∧
      (workerEffect s a).worker.pc ≠ .loadConnection := by
    cases a with
    | loopTop | loadOverride | loadConnection | goOffline | readCallsign => contradiction
    | guardOverride | guardConnection | send | takePicture =>
      simp only [workerEffect]
      split <;> simp
    | checkController | allSent | pushReplied | requestPicture =>
      simp only [workerEffect, WorkerThread.goTo, WorkerThread.afterRequests, WorkerThread.afterFeed]
      repeat' split
      all_goals simp
    | _ => simp [workerEffect, WorkerThread.goTo]
  exact between.elim after.1 after.2

theorem Sampled.begin {s : System} {r : Record} {h : Routing} {a : Action}
    (sampled : Sampled s r h) (dated : Dated s r) (mode : NetworkMode)
    (worker : (plugin.effect s a).worker = s.worker.begin mode)
    (alone : (plugin.effect s a).plugin = s.plugin) (online : mode ≠ .offline)
    (current : h.first = r.modeVersion → mode = s.plugin.resolveMode ∧ h.resolved = s.plugin.resolveMode) :
    Sampled (plugin.effect s a) (r.next s a) { h with last := r.modeVersion } := by
  obtain ⟨modeVersion, callsignVersion⟩ := same_versions r alone
  rw [WorkerThread.begin_eq] at worker
  exact {
    first_le := by rw [modeVersion]; exact sampled.first_le
    last_le := by rw [modeVersion]
    read_le := by rw [callsignVersion]; exact sampled.read_le
    resolving := by
      rw [worker]
      exact fun between => absurd between (by simp [Requests.resolving])
    endpoint := by
      rw [worker]
      exact fun _ => ⟨rfl, online⟩
    mode := by
      rw [worker, modeVersion, alone]
      intro _ steady
      obtain ⟨now, resolved⟩ := current steady
      exact ⟨now.trans resolved.symm, fun _ => now⟩
    sameMode := by
      rw [worker]
      intro _ t member first last
      rcases mem_queued_next member with earlier | ⟨clicked, -, -, -⟩
      · rw [(dated.mode t earlier).2 last]
        exact (current (first.symm.trans last)).1
      · rw [clicked]
        exact (current (first.symm.trans last)).1
    callsign := by
      rw [worker]
      exact fun none => absurd none (by simp [hasCallsign])
    sameCallsign := by
      rw [worker]
      exact fun none => absurd none (by simp [hasCallsign])
    posts := sampled.posts }

theorem sampled_loadOverride {s : System} {r : Record} {h : Routing} (pc : s.worker.pc = .loadOverride)
    (sampled : Sampled s r h) (dated : Dated s r) :
    Sampled (plugin.effect s (.worker .loadOverride)) (r.next s (.worker .loadOverride))
      { h with last := r.modeVersion } := by
  have loaded := sampled.resolving (Or.inl pc)
  cases override : s.plugin.modeOverride with
  | forceSim =>
    refine sampled.begin dated .sweatbox (by simp [workerEffect, override]) rfl (by simp) ?_
    intro now
    obtain ⟨connected, resolved, -⟩ := loaded now
    exact ⟨by simp [Plugin.resolveMode, resolveMode, connected, override], resolved⟩
  | forceLive =>
    refine sampled.begin dated .live (by simp [workerEffect, override]) rfl (by simp) ?_
    intro now
    obtain ⟨connected, resolved, -⟩ := loaded now
    exact ⟨by simp [Plugin.resolveMode, resolveMode, connected, override], resolved⟩
  | auto =>
    have after : (plugin.effect s (.worker .loadOverride)).worker.pc = .loadConnection := by
      simp [workerEffect, override]
    obtain ⟨modeVersion, callsignVersion⟩ := same_versions r (a := .worker .loadOverride) (s := s) rfl
    apply Sampled.early
    · rw [after]
      rfl
    · rw [modeVersion]
      exact sampled.first_le
    · rw [modeVersion]
    · rw [callsignVersion]
      exact sampled.read_le
    · intro _ now
      rw [modeVersion] at now
      obtain ⟨connected, resolved, -⟩ := loaded now
      exact ⟨connected, resolved, fun _ => override⟩
    · exact sampled.posts

theorem sampled_loadConnection {s : System} {r : Record} {h : Routing}
    (pc : s.worker.pc = .loadConnection) (sampled : Sampled s r h) (dated : Dated s r) :
    Sampled (plugin.effect s (.worker .loadConnection)) (r.next s (.worker .loadConnection))
      { h with last := r.modeVersion } := by
  refine sampled.begin dated s.plugin.autoMode rfl rfl ?_ ?_
  · unfold Plugin.autoMode
    repeat' split
    all_goals simp
  · intro now
    obtain ⟨connected, resolved, auto⟩ := sampled.resolving (Or.inr pc) now
    exact ⟨by simp [Plugin.autoMode, Plugin.resolveMode, resolveMode, connected, auto pc], resolved⟩

theorem sampled_loopTop {s : System} {r : Record} {h : Routing} (sampled : Sampled s r h) :
    Sampled (plugin.effect s (.worker .loopTop)) (r.next s (.worker .loopTop))
      { h with first := r.modeVersion, resolved := s.plugin.resolveMode } := by
  have after : (plugin.effect s (.worker .loopTop)).worker.pc = .exited ∨
      (plugin.effect s (.worker .loopTop)).worker.pc = .goOffline ∨
      (plugin.effect s (.worker .loopTop)).worker.pc = .loadOverride ∧
        s.plugin.connectionMode ≠ .offline := by
    simp only [effect_worker, workerEffect]
    split
    · exact Or.inl rfl
    · split
      · exact Or.inr (Or.inl rfl)
      · rename_i connected
        exact Or.inr (Or.inr ⟨rfl, connected⟩)
  obtain ⟨modeVersion, callsignVersion⟩ := same_versions r (a := .worker .loopTop) (s := s) rfl
  apply Sampled.early
  · rcases after with pc | pc | ⟨pc, -⟩ <;> rw [pc] <;> rfl
  · rw [modeVersion]
  · rw [modeVersion]
    exact sampled.last_le
  · rw [callsignVersion]
    exact sampled.read_le
  · intro between _
    rcases after with pc | pc | ⟨pc, connected⟩
    · rw [pc] at between
      exact absurd between (by simp [resolving])
    · rw [pc] at between
      exact absurd between (by simp [resolving])
    · exact ⟨connected, rfl, fun later => absurd (pc.symm.trans later) (by simp)⟩
  · exact sampled.posts

theorem sampled_readCallsign {s : System} {r : Record} {h : Routing} (pc : s.worker.pc = .readCallsign)
    (sampled : Sampled s r h) (dated : Dated s r) :
    Sampled (plugin.effect s (.worker .readCallsign)) (r.next s (.worker .readCallsign))
      { h with held := s.plugin.userCallsign, read := r.callsignVersion } := by
  have has : hasMode s.worker.pc = true := by rw [pc]; rfl
  have after : ¬ resolving (plugin.effect s (.worker .readCallsign)).worker.pc := by
    simp only [effect_worker, workerEffect]
    split <;> simp [Requests.resolving]
  obtain ⟨modeVersion, callsignVersion⟩ := same_versions r (a := .worker .readCallsign) (s := s) rfl
  exact {
    first_le := by rw [modeVersion]; exact sampled.first_le
    last_le := by rw [modeVersion]; exact sampled.last_le
    read_le := by rw [callsignVersion]
    resolving := fun between => absurd between after
    endpoint := fun _ => sampled.endpoint has
    mode := by
      rw [modeVersion]
      exact fun _ => sampled.mode has
    sameMode := fun _ => sampled.sameMode has
    callsign := fun _ => ⟨rfl, fun _ => rfl⟩
    sameCallsign := fun _ t member read => ((dated.callsign t member).2 read).symm
    posts := sampled.posts }

theorem routed_post {s : System} {r : Record} {h : Routing} {callsign : Text} {t : Ticket Text Click}
    (pc : s.worker.pc = .sending) (sampled : Sampled s r h) (isPosted : isPosted s callsign = true)
    (queued : t ∈ r.ledger.queued) : (h.post s callsign t).routed := by
  have has : hasMode s.worker.pc = true ∧ hasCallsign s.worker.pc = true := by
    rw [pc]
    exact ⟨rfl, rfl⟩
  obtain ⟨endpoint, online⟩ := sampled.endpoint has.1
  obtain ⟨held, -⟩ := sampled.callsign has.2
  have named : s.worker.userCallsign ≠ [] := by
    simp only [Requests.isPosted, Bool.and_eq_true, decide_eq_true_eq] at isPosted
    exact isPosted.1
  exact {
    endpoint
    online
    sampled := fun steady => (sampled.mode has.1 steady).1
    controller := (requestBody_controller s.worker callsign).trans (congrArg some held)
    named := fun none => named (held.trans none)
    sameMode := sampled.sameMode has.1 t queued
    sameCallsign := fun read => held.symm.trans (sampled.sameCallsign has.2 t queued read) }

theorem sampled_worker {s : System} {r : Record} {h : Routing} {a : WorkerAction}
    (on : plugin.enabled s (.worker a) = true) (balanced : r.ledger.Balanced) (sampled : Sampled s r h)
    (dated : Dated s r) :
    Sampled (plugin.effect s (.worker a)) (r.next s (.worker a)) (h.next (s, r) (.worker a)) := by
  obtain ⟨-, pc, -, -⟩ := enabled_worker on
  cases a with
  | loopTop => exact sampled_loopTop sampled
  | loadOverride => exact sampled_loadOverride pc sampled dated
  | loadConnection => exact sampled_loadConnection pc sampled dated
  | readCallsign => exact sampled_readCallsign pc sampled dated
  | goOffline =>
    refine sampled.carry ⟨rfl, rfl, rfl, ?_, ?_, ?_⟩ sampled.posts
    all_goals
      intro other
      exact absurd other (by simp [workerEffect, WorkerThread.goTo, Requests.resolving, hasMode, hasCallsign])
  | send callsign =>
    refine sampled.carry (carries_rest pc rfl) ?_
    intro p member
    rcases List.mem_append.mp member with earlier | this
    · exact sampled.posts p earlier
    · split at this
      · rename_i posted
        obtain ⟨t, found, rfl⟩ := List.mem_map.mp this
        have drained : t ∈ r.ledger.drained :=
          List.mem_of_find?_eq_some (Option.mem_toList.mp found)
        have queued : t ∈ r.ledger.queued := by
          rw [← Multiset.mem_coe, ← balanced.accounted]
          simp [drained]
        exact routed_post pc sampled posted queued
      · contradiction
  | _ => exact sampled.carry (carries_rest pc rfl) sampled.posts

theorem sampled : routed.Invariant (fun x => Sampled x.1.1 x.1.2 x.2) := by
  have known : routed.Invariant (fun x => Kept x.1.1 x.1.2 ∧ Dated x.1.1 x.1.2) :=
    (kept.and dated).observed
  refine Machine.Invariant.strengthen known ?_ ?_
  · constructor <;> simp [routed, recorded, Machine.observe, plugin, hasMode, hasCallsign, Requests.resolving]
  · rintro ⟨⟨s, r⟩, h⟩ a on ⟨kept, dated⟩ before
    cases a with
    | main a =>
      have carries : Carries s (plugin.effect s (.main a)) := carries_worker (mainEffect_worker s a)
      exact before.carry carries before.posts
    | worker a => exact sampled_worker on kept.balanced before dated
    | elapse duration =>
      have carries : Carries s (plugin.effect s (.elapse duration)) := carries_worker rfl
      exact before.carry carries before.posts

/-- Past `ResolveMode` the client is the one of the mode. -/
theorem client : plugin.Invariant (fun s => hasMode s.worker.pc = true →
    s.worker.builtFor = some (endpointFor s.worker.mode) ∧ s.worker.mode ≠ .offline) := by
  intro actions
  have known := (sampled actions).endpoint
  rw [routed, Machine.observe_run_fst, recorded, Machine.observe_run_fst] at known
  exact known

/-- Every request posted goes to the server and under the callsign its iteration had sampled. -/
theorem requests_routed (actions : List Action) : ∀ p ∈ (routed.run actions).2.posts, p.routed :=
  (sampled actions).posts

end

/-! ### Two runs -/

def click : FunctionCall := { functionId := AssignAuto, asel := some { callsign := some (text "AFR1234") } }

def clickedInPlace : List Action :=
  onTimer CONNECTION_TYPE_SWEATBOX centre ++ [.main .servePicture, .main (.functionCall click)] ++
    iteration ++ [.worker (.send (text "AFR1234"))]

set_option maxRecDepth 100000 in
theorem requests_routed_in_place :
    ∃ p ∈ ((@routed parisSecret).run clickedInPlace).2.posts,
      p.routed ∧ p.click.modeVersion = p.first ∧ p.click.modeVersion = p.last ∧
        p.click.callsignVersion = p.read := by
  have posted : ∃ p ∈ ((@routed parisSecret).run clickedInPlace).2.posts,
      p.click.modeVersion = p.first ∧ p.click.modeVersion = p.last ∧
        p.click.callsignVersion = p.read := by decide +kernel
  obtain ⟨p, member, steady⟩ := posted
  exact ⟨p, member, @requests_routed parisSecret clickedInPlace p member, steady⟩

/-- A click as the tower on the live network, drained as the centre of a simulator session. -/
def clickedElsewhere : List Action :=
  onTimer CONNECTION_TYPE_DIRECT tower ++ [.main (.functionCall click)] ++
    onTimer CONNECTION_TYPE_SWEATBOX centre ++ [.main .servePicture] ++ iteration ++
    [.worker (.send (text "AFR1234"))]

set_option maxRecDepth 100000 in
/-- A request can reach another server, and name another controller, than those of its click. -/
theorem request_routed_elsewhere :
    (¬ ∀ (secret : Secret) (actions : List Action), ∀ p ∈ ((@routed secret).run actions).2.posts,
      p.endpoint = some (endpointFor p.click.mode)) ∧
    ¬ ∀ (secret : Secret) (actions : List Action), ∀ p ∈ ((@routed secret).run actions).2.posts,
      p.controller = some p.click.userCallsign := by
  constructor
  · intro all
    have elsewhere : ¬ ∀ p ∈ ((@routed parisSecret).run clickedElsewhere).2.posts,
        p.endpoint = some (endpointFor p.click.mode) := by decide +kernel
    exact elsewhere (all parisSecret clickedElsewhere)
  · intro all
    have elsewhere : ¬ ∀ p ∈ ((@routed parisSecret).run clickedElsewhere).2.posts,
        p.controller = some p.click.userCallsign := by decide +kernel
    exact elsewhere (all parisSecret clickedElsewhere)

end CentralSquawk.Requests
